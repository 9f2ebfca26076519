import Clipbook.Proofs.Text.Occurrences
import Clipbook.Proofs.Text.Runs
import Clipbook.Url

/-!
# Clipbook — quotes in addresses

A link to a quote has a mark behind the address of the page, and behind the mark the texts that are
quoted, with an ampersand between two of them.  Taking the quote out of the address takes the mark,
the first text and the ampersand behind that.  A second text would then stand where the mark was,
as a part of the address.  So the address of the page is what remains where one text is quoted, and
only there.

Main results:

* `afterQuote?_quotable`, `afterQuote?_of_atAmpersand` — what is taken out at a mark.
* `withoutQuote_append`, `withoutQuote_eq_self` — all else stays.
* `withoutQuote_quoteMark` — what remains of an address with a mark.
* `withoutQuote_two` — a second text remains.
-/

namespace Clipbook.Url

variable {base quoted rest t url : Text}

/-- The mark that points to a quote. -/
def quoteMark : Text := "#:~:text=".toList

theorem quoteMark_eq : quoteMark = '#' :: ":~:text=".toList := by decide

/-- A text that can be quoted. -/
structure Quotable (quoted : Text) : Prop where
  ne_nil : quoted ≠ []
  whole : '&' ∉ quoted

/-- Nothing comes, or an ampersand does. -/
def AtAmpersand (rest : Text) : Prop :=
  ∀ c, rest.head? = some c → c = '&'

/-! ## At a mark -/

/-- A quote ends at the ampersand behind it, or with the address. -/
theorem takeWhile_quotable (hquoted : Quotable quoted) (hrest : AtAmpersand rest) :
    (quoted ++ rest).takeWhile (· ≠ '&') = quoted ∧
      (quoted ++ rest).dropWhile (· ≠ '&') = rest := by
  refine Text.span_run (fun c hc => ?_) fun c hc => ?_
  · exact decide_eq_true fun heq => hquoted.whole (heq ▸ hc)
  · exact decide_eq_false (Decidable.not_not.mpr (hrest c hc))

/-- Every text begins with one that can be quoted, or with an ampersand if with anything. -/
theorem exists_quotable_or (t : Text) :
    (∃ quoted rest, Quotable quoted ∧ AtAmpersand rest ∧ t = quoted ++ rest) ∨ AtAmpersand t := by
  have hstop : AtAmpersand (t.dropWhile (· ≠ '&')) := fun c hc => by
    have hhead := List.head?_dropWhile_not (· ≠ '&') t
    rw [hc] at hhead
    exact Decidable.not_not.mp (of_decide_eq_false hhead)
  by_cases hnil : t.takeWhile (· ≠ '&') = []
  · refine .inr ?_
    rwa [← List.takeWhile_append_dropWhile (p := (· ≠ '&')) (l := t), hnil, List.nil_append]
  · refine .inl ⟨_, _, ⟨hnil, fun hmem => ?_⟩, hstop, List.takeWhile_append_dropWhile.symm⟩
    exact absurd (List.all_eq_true.mp List.all_takeWhile '&' hmem) (by decide)

/-- There is no quote where its mark does not stand. -/
theorem afterQuote?_eq_none (h : ¬quoteMark <+: t) : afterQuote? t = none := by
  unfold afterQuote?
  split
  · rfl
  · next rest hafter => exact absurd ⟨rest, (Text.after?_eq_some_iff.mp hafter).symm⟩ h

/-- What follows a quote starts behind its ampersand. -/
theorem afterQuote?_quoteMark (t : Text) : afterQuote? (quoteMark ++ t) =
    if t.takeWhile (· ≠ '&') = [] then none
    else some ((t.dropWhile (· ≠ '&')).drop 1) := by
  have hafter : Text.after? "#:~:text=".toList (quoteMark ++ t) = some t := Text.after?_append _ t
  unfold afterQuote?
  rw [hafter]
  dsimp only
  split
  · next heq => rw [if_pos heq]
  · next hne => rw [if_neg hne]

/-- **The first text goes with the mark**, and so does the ampersand behind it. -/
theorem afterQuote?_quotable (hquoted : Quotable quoted) (hrest : AtAmpersand rest) :
    afterQuote? (quoteMark ++ (quoted ++ rest)) = some (rest.drop 1) := by
  obtain ⟨htake, hdrop⟩ := takeWhile_quotable hquoted hrest
  rw [afterQuote?_quoteMark, htake, hdrop, if_neg hquoted.ne_nil]

/-- A mark with nothing quoted behind it is no quote. -/
theorem afterQuote?_of_atAmpersand (h : AtAmpersand t) : afterQuote? (quoteMark ++ t) = none := by
  have hnil : t.takeWhile (· ≠ '&') = [] := by
    cases t with
    | nil => rfl
    | cons c t => exact List.takeWhile_cons_of_neg (by rw [h c rfl]; decide)
  rw [afterQuote?_quoteMark, if_pos hnil]

/-! ## In an address -/

theorem withoutQuote_of_some (h : afterQuote? t = some rest) : withoutQuote t = rest := by
  cases t with
  | nil => cases h
  | cons c t => rw [withoutQuote, h]

theorem withoutQuote_of_none {c : Char} (h : afterQuote? (c :: t) = none) :
    withoutQuote (c :: t) = c :: withoutQuote t := by
  rw [withoutQuote, h]

/-- What stands before a mark stays. -/
theorem withoutQuote_append (h : '#' ∉ base) (t : Text) :
    withoutQuote (base ++ t) = base ++ withoutQuote t := by
  induction base with
  | nil => rfl
  | cons c base ih =>
    -- a mark begins with a character that does not stand here
    rw [List.mem_cons, not_or] at h
    have hnone : afterQuote? (c :: (base ++ t)) = none :=
      afterQuote?_eq_none fun hprefix => h.1 (List.cons_prefix_cons.mp hprefix).1
    rw [List.cons_append, withoutQuote_of_none hnone, ih h.2, List.cons_append]

/-- **An address without a mark stays as it is.** -/
theorem withoutQuote_eq_self (h : ¬quoteMark <:+: url) : withoutQuote url = url := by
  induction url with
  | nil => rfl
  | cons c url ih =>
    rw [List.infix_cons_iff, not_or] at h
    rw [withoutQuote_of_none (afterQuote?_eq_none h.1), ih h.2]

/-- **What is left where the mark was** is what stands behind the first ampersand. -/
theorem withoutQuote_quotable (h : '#' ∉ base) (hquoted : Quotable quoted)
    (hrest : AtAmpersand rest) :
    withoutQuote (base ++ quoteMark ++ (quoted ++ rest)) = base ++ rest.drop 1 := by
  rw [List.append_assoc, withoutQuote_append h,
    withoutQuote_of_some (afterQuote?_quotable hquoted hrest)]

theorem withoutQuote_of_atAmpersand (h : '#' ∉ base) (ht : AtAmpersand t) :
    withoutQuote (base ++ quoteMark ++ t) ≠ base := by
  have hnone := afterQuote?_of_atAmpersand ht
  rw [quoteMark_eq, List.cons_append] at hnone
  rw [List.append_assoc, withoutQuote_append h, quoteMark_eq, List.cons_append,
    withoutQuote_of_none hnone]
  intro heq
  exact absurd (List.append_right_eq_self.mp heq) (List.cons_ne_nil _ _)

/-! ## Main result -/

/-- **What remains of an address with a mark.**  Without a second text it is the address of the
page.  With one, the second text and all that follows it stand behind the address.  An address
without a mark stays as it is. -/
theorem withoutQuote_quoteMark (base : Text) (h : '#' ∉ base) :
    (∀ t, withoutQuote (base ++ quoteMark ++ t) = base ↔
      ∃ quoted, Quotable quoted ∧ (t = quoted ∨ t = quoted ++ ['&'])) ∧
    (∀ quoted rest, Quotable quoted →
      withoutQuote (base ++ quoteMark ++ (quoted ++ '&' :: rest)) = base ++ rest) ∧
    ∀ url, ¬quoteMark <:+: url → withoutQuote url = url := by
  -- what follows the quoted text is an ampersand or nothing
  have hampersand (rest : Text) : AtAmpersand ('&' :: rest) := fun c hc => (Option.some.inj hc).symm
  refine ⟨fun t => ⟨fun heq => ?_, ?_⟩, fun quoted rest hquoted => ?_,
    fun url => withoutQuote_eq_self⟩
  · rcases exists_quotable_or t with ⟨quoted, rest, hquoted, hrest, rfl⟩ | ht
    · -- nothing may stand behind the first text but an ampersand
      rw [withoutQuote_quotable h hquoted hrest, List.append_right_eq_self] at heq
      refine ⟨quoted, hquoted, ?_⟩
      cases rest with
      | nil => exact .inl (List.append_nil quoted)
      | cons c rest => exact .inr (by rw [hrest c rfl, show rest = [] from heq])
    · exact absurd heq (withoutQuote_of_atAmpersand h ht)
  · rintro ⟨quoted, hquoted, rfl | rfl⟩
    · have hend : AtAmpersand [] := nofun
      have hwhole := withoutQuote_quotable h hquoted hend
      rwa [List.append_nil, List.drop_nil, List.append_nil] at hwhole
    · rw [withoutQuote_quotable h hquoted (hampersand [])]
      exact List.append_nil base
  · exact withoutQuote_quotable h hquoted (hampersand rest)

/-- A text with marks of its own, behind which an address has others. -/
theorem withoutQuote_quoteMark_marks :
    let base := "https://example.com/a?b=1&c=2".toList
    let quoted := "#:~:text=,-?".toList
    '#' ∉ base ∧ Quotable quoted ∧ withoutQuote (base ++ quoteMark ++ quoted) = base ∧
      withoutQuote (base ++ quoteMark ++ (quoted ++ "&text=d".toList)) = base ++ "text=d".toList ∧
        withoutQuote (base ++ "#:~:text".toList) = base ++ "#:~:text".toList := by
  intro base quoted
  have hbase : '#' ∉ base := by decide +kernel
  have hquoted : Quotable quoted := ⟨by decide +kernel, by decide +kernel⟩
  obtain ⟨hone, hmore, hnone⟩ := withoutQuote_quoteMark base hbase
  exact ⟨hbase, hquoted, (hone quoted).mpr ⟨quoted, hquoted, .inl rfl⟩,
    hmore quoted "text=d".toList hquoted, hnone (base ++ "#:~:text".toList) (by decide +kernel)⟩

/-- **A second text remains** of an address with two quotes, at the end of the path. -/
theorem withoutQuote_two :
    ¬∀ (base : Text) (quotes : List Text), '#' ∉ base → quotes ≠ [] → (∀ q ∈ quotes, Quotable q) →
      withoutQuote (base ++ quoteMark ++ Text.join "&text=".toList quotes) = base := by
  intro h
  have hquotes : ∀ q ∈ ["foo".toList, "bar".toList], Quotable q :=
    List.forall_mem_cons.mpr ⟨⟨by decide +kernel, by decide +kernel⟩,
      List.forall_mem_singleton.mpr ⟨by decide +kernel, by decide +kernel⟩⟩
  have hpage := h "https://x.com/a".toList ["foo".toList, "bar".toList] (by decide +kernel)
    (List.cons_ne_nil _ _) hquotes
  exact absurd hpage (by decide +kernel)

end Clipbook.Url
