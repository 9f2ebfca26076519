import Clipbook.Proofs.Text.Pieces
import Clipbook.Proofs.Text.Runs
import Clipbook.Text.Blank
import Clipbook.Text.Word

/-!
# Clipbook — trimmed texts

Trimming drops blanks at the ends and leaves a text alone that has none there.  No blank is a
character of a word, so a word is trimmed.

Main results:

* `strip_sublist` — trimming only leaves characters out.
* `strip_eq_self` — a trimmed text is left as it is.
* `trimmed_join` — trimmed texts stay trimmed when they are joined.
* `head?_strip_eq_some_iff`, `getLast?_strip_eq_some_iff` — the ends of what trimming leaves.
* `isBlank_eq_false_of_isWord` — no character of a word is a blank.
-/

namespace Clipbook.Text

/-! ## Classes without a common character -/

theorem Ranges.contains_eq_true_iff {ranges : Ranges} {c : Char} :
    ranges.contains c = true ↔ ∃ range ∈ ranges, range.1 ≤ c.toNat ∧ c.toNat ≤ range.2 := by
  simp [Ranges.contains]

/-- Whether ranges have no common number; the comparisons are those the kernel computes with. -/
def Ranges.apart (r s : Ranges) : Bool :=
  r.all fun a => s.all fun b => Nat.blt a.2 b.1 || Nat.blt b.2 a.1

theorem Ranges.contains_eq_false_of_apart {r s : Ranges} {c : Char} (h : r.apart s = true)
    (hc : r.contains c = true) : s.contains c = false := by
  obtain ⟨a, ha, halo, hahi⟩ := contains_eq_true_iff.mp hc
  rw [← Bool.not_eq_true, contains_eq_true_iff]
  rintro ⟨b, hb, hblo, hbhi⟩
  have hapart := List.all_eq_true.mp (List.all_eq_true.mp h a ha) b hb
  rw [Bool.or_eq_true, Nat.blt_eq, Nat.blt_eq] at hapart
  omega

theorem blankRanges_apart_alphanumericRanges : blankRanges.apart alphanumericRanges = true := by
  decide +kernel

/-- A blank is one of the first characters or lies beyond ASCII. -/
theorem toNat_of_isBlank {c : Char} (h : isBlank c = true) : c.toNat ≤ 32 ∨ 0x80 ≤ c.toNat := by
  obtain ⟨range, hrange, hlo, hhi⟩ := Ranges.contains_eq_true_iff.mp h
  simp only [blankRanges, List.mem_cons, List.not_mem_nil, or_false] at hrange
  rcases hrange with rfl | rfl | rfl | rfl | rfl | rfl | rfl | rfl | rfl | rfl <;>
    simp only at hlo hhi <;> omega

theorem isAlphanumeric_eq_false_of_isBlank {c : Char} (h : isBlank c = true) :
    isAlphanumeric c = false := by
  rw [isAlphanumeric]
  split
  · next hascii =>
    have hsmall : c.toNat ≤ 32 := by
      have := toNat_of_isBlank h
      omega
    rw [← Bool.not_eq_true]
    change ¬((decide (65 ≤ c.val ∧ c.val ≤ 90) || (decide (97 ≤ c.val) && decide (c.val ≤ 122))) ||
      (decide (48 ≤ c.val) && decide (c.val ≤ 57))) = true
    -- the three ranges of ASCII, all above the blanks
    simp only [Bool.or_eq_true, Bool.and_eq_true, decide_eq_true_eq, UInt32.le_iff_toNat_le]
    change ¬(((65 ≤ c.toNat ∧ c.toNat ≤ 90) ∨ (97 ≤ c.toNat ∧ c.toNat ≤ 122)) ∨
      (48 ≤ c.toNat ∧ c.toNat ≤ 57))
    omega
  · exact Ranges.contains_eq_false_of_apart blankRanges_apart_alphanumericRanges h

theorem isBlank_eq_false_of_isWord {c : Char} (h : isWord c = true) : isBlank c = false := by
  cases hb : isBlank c with
  | false => rfl
  | true =>
    rw [isWord, isAlphanumeric_eq_false_of_isBlank hb, Bool.or_false] at h
    rw [of_decide_eq_true h] at hb
    exact absurd hb (by decide)

/-! ## Ends -/

theorem trimStart_sublist (drop : Char → Bool) (t : Text) : (trimStart drop t).Sublist t :=
  List.dropWhile_sublist drop

theorem trimEnd_sublist (drop : Char → Bool) (t : Text) : (trimEnd drop t).Sublist t := by
  have hreverse := (List.dropWhile_sublist drop (l := t.reverse)).reverse
  rwa [List.reverse_reverse] at hreverse

theorem strip_sublist (t : Text) : (strip t).Sublist t :=
  (trimEnd_sublist isBlank _).trans (trimStart_sublist isBlank t)

theorem length_strip_le (t : Text) : (strip t).length ≤ t.length :=
  (strip_sublist t).length_le

/-- No blank stands at an end of the text. -/
structure Trimmed (t : Text) : Prop where
  head : ∀ c, t.head? = some c → isBlank c = false
  last : ∀ c, t.getLast? = some c → isBlank c = false

/-- A text is trimmed if neither its first nor its last character is a blank. -/
theorem trimmed_iff {t : Text} :
    Trimmed t ↔ t.head?.all (!isBlank ·) = true ∧ t.getLast?.all (!isBlank ·) = true := by
  simp only [Option.all_eq_true, Bool.not_eq_true']
  exact ⟨fun h => ⟨h.head, h.last⟩, fun h => ⟨h.1, h.2⟩⟩

instance (t : Text) : Decidable (Trimmed t) :=
  decidable_of_iff _ trimmed_iff.symm

/-- Nothing is trimmed where the first character is to be kept. -/
theorem trimStart_eq_self {drop : Char → Bool} {t : Text}
    (h : ∀ c, t.head? = some c → drop c = false) : trimStart drop t = t := by
  cases t with
  | nil => rfl
  | cons c t => rw [trimStart, List.dropWhile_cons_of_neg (by simp [h c rfl])]

/-- Nothing is trimmed where the last character is to be kept. -/
theorem trimEnd_eq_self {drop : Char → Bool} {t : Text}
    (h : ∀ c, t.getLast? = some c → drop c = false) : trimEnd drop t = t := by
  have hrev : trimStart drop t.reverse = t.reverse :=
    trimStart_eq_self fun c hc => h c (by rwa [List.head?_reverse] at hc)
  rw [trimStart] at hrev
  rw [trimEnd, hrev, List.reverse_reverse]

theorem strip_eq_self {t : Text} (h : Trimmed t) : strip t = t := by
  rw [strip, trim, trimStart_eq_self h.head, trimEnd_eq_self h.last]

theorem trimmed_nil : Trimmed [] :=
  ⟨fun _ hc => absurd hc (Option.not_mem_none _), fun _ hc => absurd hc (Option.not_mem_none _)⟩

theorem trimmed_of_not_blank {t : Text} (h : ∀ c ∈ t, isBlank c = false) : Trimmed t :=
  ⟨fun c hc => h c (List.mem_of_head? hc), fun c hc => h c (List.mem_of_getLast? hc)⟩

/-- A trimmed text stays so behind one without blanks. -/
theorem trimmed_append {t u : Text} (ht : ∀ c ∈ t, isBlank c = false) (hne : t ≠ [])
    (hu : Trimmed u) : Trimmed (t ++ u) := by
  refine ⟨fun c hc => ?_, fun c hc => ?_⟩
  · obtain ⟨d, t, rfl⟩ := List.exists_cons_of_ne_nil hne
    rw [← Option.some.inj hc]
    exact ht d (List.mem_cons_self ..)
  · rw [List.getLast?_append, Option.or_eq_some_iff] at hc
    rcases hc with hc | ⟨-, hc⟩
    · exact hu.last c hc
    · exact ht c (List.mem_of_getLast? hc)

/-- A text that starts with no blank and ends in a text without blanks is trimmed. -/
theorem trimmed_cons_append {c : Char} {u : Text} (hc : isBlank c = false) (t : Text) (hne : u ≠ [])
    (hu : ∀ d ∈ u, isBlank d = false) : Trimmed (c :: t ++ u) := by
  refine ⟨fun x hx => ?_, fun x hx => ?_⟩
  · rw [← Option.some.inj hx]
    exact hc
  · rw [List.getLast?_append, Option.or_of_isSome (List.getLast?_isSome.mpr hne)] at hx
    exact hu x (List.mem_of_getLast? hx)

/-- A text between two characters that are no blanks is trimmed. -/
theorem trimmed_cons_append_singleton {c d : Char} (hc : isBlank c = false) (t : Text)
    (hd : isBlank d = false) : Trimmed (c :: t ++ [d]) :=
  trimmed_cons_append hc t (List.cons_ne_nil d []) (List.forall_mem_singleton.mpr hd)

/-- Trimmed texts that are not empty stay trimmed when they are joined. -/
theorem trimmed_join {ts : List Text} (sep : Text) (hne : ∀ t ∈ ts, t ≠ [])
    (h : ∀ t ∈ ts, Trimmed t) : Trimmed (join sep ts) := by
  induction ts with
  | nil => exact trimmed_nil
  | cons t ts ih =>
    obtain ⟨htne, htsne⟩ := List.forall_mem_cons.mp hne
    obtain ⟨ht, hts⟩ := List.forall_mem_cons.mp h
    cases ts with
    | nil => exact ht
    | cons u us =>
      have hrest : join sep (u :: us) ≠ [] := by
        rw [Ne, join_eq_nil_iff sep htsne]
        exact List.cons_ne_nil u us
      -- the first text begins it, and the others end it
      rw [join_cons_of_ne_nil (List.cons_ne_nil u us)]
      refine ⟨fun c hc => ?_, fun c hc => ?_⟩
      · obtain ⟨d, t, rfl⟩ := List.exists_cons_of_ne_nil htne
        exact ht.head c hc
      · rw [List.getLast?_append, Option.or_of_isSome (List.getLast?_isSome.mpr hrest)] at hc
        exact (ih htsne hts).last c hc

/-! ## What is left -/

section Left

variable {drop : Char → Bool} {t front rest : Text} {c : Char}

/-- What is left begins with the first character that is not dropped. -/
theorem trimStart_eq_cons_iff : trimStart drop t = c :: rest ↔
    ∃ front, t = front ++ c :: rest ∧ (∀ b ∈ front, drop b = true) ∧ drop c = false := by
  constructor
  · intro h
    refine ⟨t.takeWhile drop, ?_, List.all_eq_true.mp List.all_takeWhile, ?_⟩
    · rw [← h]
      exact List.takeWhile_append_dropWhile.symm
    · have hhead := List.head?_dropWhile_not drop t
      rw [trimStart] at h
      rw [h] at hhead
      exact hhead
  · rintro ⟨front, rfl, hfront, hc⟩
    exact (span_run_cons hfront hc rest).2

/-- What is left ends with the last character that is not dropped. -/
theorem trimEnd_eq_concat_iff : trimEnd drop t = front ++ [c] ↔
    ∃ back, t = front ++ c :: back ∧ (∀ b ∈ back, drop b = true) ∧ drop c = false := by
  -- the end of a text is the start of the reversed one
  have hreverse : trimEnd drop t = front ++ [c] ↔ trimStart drop t.reverse = c :: front.reverse := by
    rw [trimEnd, ← trimStart, List.reverse_eq_iff, List.reverse_append]
    rfl
  rw [hreverse, trimStart_eq_cons_iff]
  constructor
  · rintro ⟨back, ht, hback, hc⟩
    refine ⟨back.reverse, ?_, fun b hb => hback b (List.mem_reverse.mp hb), hc⟩
    rw [List.reverse_eq_iff] at ht
    rw [ht]
    simp
  · rintro ⟨back, rfl, hback, hc⟩
    exact ⟨back.reverse, by simp, fun b hb => hback b (List.mem_reverse.mp hb), hc⟩

/-- A first character that is not dropped stays where it is. -/
theorem trimEnd_cons (h : drop c = false) (t : Text) :
    trimEnd drop (c :: t) = c :: trimEnd drop t := by
  have hc : [c].dropWhile drop = [c] :=
    List.dropWhile_cons_of_neg (by rw [h]; exact Bool.false_ne_true)
  rw [trimEnd, trimEnd, List.reverse_cons, List.dropWhile_append, hc]
  split
  · next hempty =>
    rw [List.isEmpty_iff.mp hempty]
    rfl
  · rw [List.reverse_append]
    rfl

/-- The first character of a stripped text is the first one that is no blank. -/
theorem head?_strip_eq_some_iff : (strip t).head? = some c ↔
    ∃ front rest, t = front ++ c :: rest ∧ (∀ b ∈ front, isBlank b = true) ∧ isBlank c = false := by
  constructor
  · intro h
    rw [strip, trim] at h
    cases hstart : trimStart isBlank t with
    | nil =>
      rw [hstart] at h
      cases h
    | cons d rest =>
      obtain ⟨front, ht, hfront, hd⟩ := trimStart_eq_cons_iff.mp hstart
      rw [hstart, trimEnd_cons hd] at h
      obtain rfl := Option.some.inj h
      exact ⟨front, rest, ht, hfront, hd⟩
  · rintro ⟨front, rest, ht, hfront, hc⟩
    rw [strip, trim, trimStart_eq_cons_iff.mpr ⟨front, ht, hfront, hc⟩, trimEnd_cons hc]
    rfl

/-- The last character of a stripped text is the last one that is no blank. -/
theorem getLast?_strip_eq_some_iff : (strip t).getLast? = some c ↔
    ∃ front back, t = front ++ c :: back ∧ (∀ b ∈ back, isBlank b = true) ∧ isBlank c = false := by
  constructor
  · intro h
    obtain ⟨inner, hinner⟩ := List.getLast?_eq_some_iff.mp h
    obtain ⟨back, hstart, hback, hc⟩ := trimEnd_eq_concat_iff.mp hinner
    refine ⟨t.takeWhile isBlank ++ inner, back, ?_, hback, hc⟩
    rw [List.append_assoc, ← hstart]
    exact List.takeWhile_append_dropWhile.symm
  · rintro ⟨front, back, rfl, hback, hc⟩
    -- trimming the start does not reach beyond the character
    have hinner : trimStart isBlank (front ++ c :: back) = trimStart isBlank front ++ c :: back :=
      dropWhile_append_cons hc front back
    rw [strip, trim, trimEnd_eq_concat_iff.mpr ⟨back, hinner, hback, hc⟩, List.getLast?_concat]

/-- Trimming leaves no blank at an end. -/
theorem trimmed_strip (t : Text) : Trimmed (strip t) := by
  refine ⟨fun c hc => ?_, fun c hc => ?_⟩
  · obtain ⟨front, rest, -, -, hblank⟩ := head?_strip_eq_some_iff.mp hc
    exact hblank
  · obtain ⟨front, back, -, -, hblank⟩ := getLast?_strip_eq_some_iff.mp hc
    exact hblank

end Left

end Clipbook.Text
