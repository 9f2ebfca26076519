import Clipbook.FileName
import Clipbook.Proofs.Text.Trimmed

/-!
# Clipbook — how names are made

A title is freed of what no name may hold, marked if it is the name of a device, cut at its ends and
then to length.  Whatever the title, every character of the name may stand in one.  So a name is one
part of a path: no slash divides it.

Main results:

* `sanitize_cases` — what the cuts leave, or a name of its own where they leave nothing.
* `isUnsafe_of_mem_sanitize` — every character of a name may stand in one.
-/

namespace Clipbook.FileName

variable {title : Text} {c : Char}

/-! ## Steps -/

/-- What is left of a title without the characters no name may hold. -/
def kept (title : Text) : Text :=
  title.filter fun c => !isUnsafe c

/-- The same with a mark before it, where it is the name of a device. -/
def marked (title : Text) : Text :=
  if isReserved (kept title) then '_' :: kept title else kept title

/-- A text without the points and blanks at its ends, cut off in turn. -/
def cut (t : Text) : Text :=
  Text.strip (Text.trimStart (· = '.') (Text.trimEnd isTail t))

/-- A name is the start of what the cuts leave, if they leave anything. -/
theorem sanitize_cases (title : Text) :
    (cut (marked title) = [] ∧ sanitize title = untitled) ∨
      (cut (marked title) ≠ [] ∧ sanitize title = (cut (marked title)).take maxLength) := by
  rw [sanitize]
  split
  · next hnil =>
    change (cut (marked title)).take maxLength = [] at hnil
    exact .inl ⟨(List.take_eq_nil_iff.mp hnil).resolve_left (by decide), rfl⟩
  · next hsome =>
    refine .inr ⟨fun hnil => hsome ?_, rfl⟩
    show (cut (marked title)).take maxLength = []
    rw [hnil, List.take_nil]

/-! ## Characters -/

/-- The name for want of a better one is safe. -/
theorem isUnsafe_of_mem_untitled (h : c ∈ untitled) : isUnsafe c = false := by
  have hall : untitled.all (fun c => !isUnsafe c) = true := by decide
  simpa using List.all_eq_true.mp hall c h

/-- Marking a name as that of no device adds nothing unsafe. -/
theorem isUnsafe_of_mem_marked (h : c ∈ marked title) : isUnsafe c = false := by
  have hkept : ∀ d ∈ kept title, isUnsafe d = false := fun d hd => by
    simpa using (List.mem_filter.mp hd).2
  rw [marked] at h
  split at h
  · rcases List.mem_cons.mp h with rfl | h
    · decide
    · exact hkept c h
  · exact hkept c h

theorem cut_sublist (t : Text) : (cut t).Sublist t :=
  (Text.strip_sublist _).trans ((Text.trimStart_sublist _ _).trans (Text.trimEnd_sublist _ _))

/-- **Every character of a name may stand in one.** -/
theorem isUnsafe_of_mem_sanitize (h : c ∈ sanitize title) : isUnsafe c = false := by
  rcases sanitize_cases title with ⟨-, hname⟩ | ⟨-, hname⟩
  · rw [hname] at h
    exact isUnsafe_of_mem_untitled h
  · -- the cuts only leave characters out
    rw [hname] at h
    exact isUnsafe_of_mem_marked ((cut_sublist _).subset (List.mem_of_mem_take h))

/-- A name holds neither slashes nor backslashes nor control characters. -/
theorem plain_of_isUnsafe (h : isUnsafe c = false) : c ≠ '/' ∧ c ≠ '\\' ∧ 0x20 ≤ c.toNat := by
  rw [isUnsafe, Bool.or_eq_false_iff, decide_eq_false_iff_not, decide_eq_false_iff_not,
    Nat.not_lt] at h
  refine ⟨?_, ?_, h.2⟩
  · rintro rfl
    exact h.1 (by decide)
  · rintro rfl
    exact h.1 (by decide)

end Clipbook.FileName
