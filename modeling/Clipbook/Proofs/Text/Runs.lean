import Clipbook.Text.Basic

/-!
# Clipbook — runs of characters

A reader takes the characters of a class from the start of a text and goes on behind them.  A
character that is not of the class stops it, wherever that stands; so a run of the class is taken
whole, and what stands behind it is left as it is.

Main results:

* `takeWhile_append_cons`, `dropWhile_append_cons` — nothing is read across a character that stops.
* `span_run` — a run is taken whole.
-/

namespace Clipbook.Text

variable {p : Char → Bool} {c : Char} {run rest : Text}

/-- A run ends before a character that is not of it. -/
theorem takeWhile_append_cons (hc : p c = false) (t rest : Text) :
    (t ++ c :: rest).takeWhile p = t.takeWhile p := by
  induction t with
  | nil => exact List.takeWhile_cons_of_neg (by rw [hc]; exact Bool.false_ne_true)
  | cons d t ih => rw [List.cons_append, List.takeWhile_cons, List.takeWhile_cons, ih]

/-- What follows a run starts at the latest with a character that is not of it. -/
theorem dropWhile_append_cons (hc : p c = false) (t rest : Text) :
    (t ++ c :: rest).dropWhile p = t.dropWhile p ++ c :: rest := by
  induction t with
  | nil => exact List.dropWhile_cons_of_neg (by rw [hc]; exact Bool.false_ne_true)
  | cons d t ih =>
    rw [List.cons_append, List.dropWhile_cons, List.dropWhile_cons, ih]
    split
    · rfl
    · rfl

/-- No run of a class goes on in a text. -/
def Stops (p : Char → Bool) (rest : Text) : Prop :=
  ∀ d, rest.head? = some d → p d = false

theorem stops_nil (p : Char → Bool) : Stops p [] := nofun

theorem stops_cons (hc : p c = false) (rest : Text) : Stops p (c :: rest) := by
  intro d hd
  rwa [← Option.some.inj hd]

/-- **A run is taken whole** where what stands behind it, if anything does, is not of the class. -/
theorem span_run (hrun : ∀ d ∈ run, p d = true) (hrest : Stops p rest) :
    (run ++ rest).takeWhile p = run ∧ (run ++ rest).dropWhile p = rest := by
  have hstop : rest.takeWhile p = [] ∧ rest.dropWhile p = rest := by
    cases rest with
    | nil => exact ⟨rfl, rfl⟩
    | cons d rest =>
      have hd : ¬p d = true := by rw [hrest d rfl]; exact Bool.false_ne_true
      exact ⟨List.takeWhile_cons_of_neg hd, List.dropWhile_cons_of_neg hd⟩
  rw [List.takeWhile_append_of_pos hrun, List.dropWhile_append_of_pos hrun, hstop.1, hstop.2,
    List.append_nil]
  exact ⟨rfl, rfl⟩

/-- A run up to a character that stops. -/
theorem span_run_cons (hrun : ∀ d ∈ run, p d = true) (hc : p c = false) (rest : Text) :
    (run ++ c :: rest).takeWhile p = run ∧ (run ++ c :: rest).dropWhile p = c :: rest :=
  span_run hrun (stops_cons hc rest)

end Clipbook.Text
