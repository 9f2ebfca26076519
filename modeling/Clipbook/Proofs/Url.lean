import Clipbook.Proofs.Outcome
import Clipbook.Url

/-!
# Clipbook — links that can be resolved

Nothing but the host that a link names decides whether the link can be resolved: its brackets, and
characters in it that are ambiguous.  What the page's own address gives to the link, its scheme
above all, has no part in that.

Main results:

* `exists_read_iff` — the texts that are read as addresses.
* `exists_join_iff` — the links that can be resolved on a page with a domain.
-/

namespace Clipbook.Url

variable {t u base link scheme : Text}

/-! ## Named hosts -/

/-- A text without what is passed over in addresses. -/
def cleaned (t : Text) : Text :=
  (t.dropWhile fun c => c.toNat ≤ 0x20).filter (· ∉ ['\t', '\r', '\n'])

/-- The host a text names behind two slashes, with or without a scheme before them. -/
def namedHost (t : Text) : Text :=
  (hostOf (((scheme? (cleaned t)).map Prod.snd).getD (cleaned t))).1

/-- The host does not depend on the scheme that is taken where a text has none. -/
theorem namedHost_eq (scheme t : Text) :
    namedHost t = (hostOf ((scheme? (cleaned t)).getD (scheme, cleaned t)).2).1 := by
  rw [namedHost]
  cases scheme? (cleaned t) <;> rfl

/-- A host that may be named: an address in its brackets, if it has any, and no ambiguous
characters. -/
structure Hostable (host : Text) : Prop where
  brackets : checkBrackets host = .ok ()
  characters : checkCharacters host = .ok ()

/-- **A text is read as an address** if it names a host that may be named, whatever scheme is
taken where it has none. -/
theorem exists_read_iff (scheme t : Text) :
    (∃ u, read scheme t = .ok u) ↔ Hostable (namedHost t) := by
  rw [namedHost_eq scheme t, read]
  constructor
  · rintro ⟨u, hu⟩
    obtain ⟨⟨⟩, hbrackets, hu⟩ := Except.bind_eq_ok_iff.mp hu
    obtain ⟨⟨⟩, hcharacters, -⟩ := Except.bind_eq_ok_iff.mp hu
    exact ⟨hbrackets, hcharacters⟩
  · rintro ⟨hbrackets, hcharacters⟩
    exact ⟨_, Except.bind_eq_ok_iff.mpr ⟨(), hbrackets,
      Except.bind_eq_ok_iff.mpr ⟨(), hcharacters, rfl⟩⟩⟩

theorem hostable_nil : Hostable [] := ⟨rfl, rfl⟩

/-! ## Links -/

/-- The address of a page, which has a domain, is not empty and can be read. -/
theorem read_of_domain {d : Text} (h : domain base = .ok d) :
    base ≠ [] ∧ ∃ u, read [] base = .ok u := by
  obtain ⟨u, hu, h⟩ := Except.bind_eq_ok_iff.mp h
  refine ⟨?_, u, hu⟩
  rintro rfl
  -- the empty address has no scheme
  obtain rfl := Except.ok.inj hu
  cases h

/-- **A link can be resolved** if it names a host that may be named. -/
theorem exists_join_iff {d : Text} (h : domain base = .ok d) (link : Text) :
    (∃ t, join base link = .ok t) ↔ Hostable (namedHost link) := by
  -- a base with a domain is not empty and can be read, so only the link can fail
  obtain ⟨hne, b, hb⟩ := read_of_domain h
  rw [join, if_neg hne]
  by_cases hlink : link = []
  · rw [if_pos hlink, hlink]
    exact iff_of_true ⟨base, rfl⟩ hostable_nil
  · rw [if_neg hlink, hb, Except.ok_bind, ← exists_read_iff b.scheme link]
    constructor
    · rintro ⟨t, ht⟩
      obtain ⟨l, hl, -⟩ := Except.bind_eq_ok_iff.mp ht
      exact ⟨l, hl⟩
    · rintro ⟨l, hl⟩
      rw [hl, Except.ok_bind]
      split
      · exact ⟨link, rfl⟩
      · exact ⟨_, rfl⟩

end Clipbook.Url
