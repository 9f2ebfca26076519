import Clipbook.Pattern.Matcher
import Mathlib.Data.Option.Basic

/-!
# Clipbook — matching goes forward

A matcher hands the places it reaches on to what follows it.  Each of them lies further on in the
same text, or where the matcher started: a look behind goes back, but it gives only its groups on
and not its place.  So a match never stops before it starts, and it stops within the text.

Main results:

* `Advances.steps`, `possess_ahead` — a repetition goes forward if its body does.
* `advances_run` — every node goes forward.
-/

namespace Clipbook.Pattern

variable {s s' s'' : Cursor} {c : Char} {after : Text} {k : Continuation} {r : Cursor}

/-! ## Places further on -/

/-- A place of the same text, further on or the same. -/
structure Cursor.Ahead (s s' : Cursor) : Prop where
  index_le : s.index ≤ s'.index
  length_eq : s'.index + s'.after.length = s.index + s.after.length

theorem Cursor.Ahead.refl (s : Cursor) : s.Ahead s :=
  ⟨Nat.le_refl _, rfl⟩

theorem Cursor.Ahead.trans (h : s.Ahead s') (h' : s'.Ahead s'') : s.Ahead s'' :=
  ⟨Nat.le_trans h.index_le h'.index_le, h'.length_eq.trans h.length_eq⟩

/-- What the groups have taken does not move the place. -/
theorem Cursor.Ahead.regroup (h : s.Ahead s') (groups : List (Option Span)) :
    s.Ahead { s' with groups } :=
  ⟨h.index_le, h.length_eq⟩

/-- The place behind the next character. -/
theorem Cursor.ahead_next (h : s.after = c :: after) :
    s.Ahead { s with before := c :: s.before, after, index := s.index + 1 } := by
  refine ⟨Nat.le_succ _, ?_⟩
  rw [h, List.length_cons]
  dsimp only
  omega

/-! ## Matchers -/

/-- What a matcher hands on to its continuation lies ahead. -/
def Advances (body : Cursor → Continuation → Option Cursor) : Prop :=
  ∀ s k r, body s k = some r → ∃ s', s.Ahead s' ∧ k s' = some r

/-- What advances ends ahead of where it started. -/
theorem Advances.ahead {body : Cursor → Continuation → Option Cursor} (h : Advances body)
    (hs : body s some = some r) : s.Ahead r := by
  obtain ⟨s', hahead, hk⟩ := h s some r hs
  exact Option.some.inj hk ▸ hahead

theorem takeText_ahead {same : Char → Char → Bool} {wanted : Text}
    (h : takeText same wanted s = some r) : s.Ahead r := by
  induction wanted generalizing s with
  | nil => exact Option.some.inj h ▸ .refl s
  | cons w wanted ih =>
    rw [takeText] at h
    split at h
    · cases h
    · next c after hafter =>
      split at h
      · exact (Cursor.ahead_next hafter).trans (ih h)
      · cases h

section Repetition

variable {body : Cursor → Continuation → Option Cursor} {greedy : Bool} {least : Nat}
  {most : Option Nat} {fuel count : Nat} {last : Option Nat}

/-- A step of the body and the steps behind it go forward one after the other. -/
theorem Advances.step (h : Advances body) {next : Continuation}
    (hnext : ∀ s, next s = some r → ∃ s', s.Ahead s' ∧ k s' = some r)
    (hs : body s next = some r) : ∃ s', s.Ahead s' ∧ k s' = some r := by
  obtain ⟨s', hahead, hs'⟩ := h s next r hs
  obtain ⟨s'', hahead', hk⟩ := hnext s' hs'
  exact ⟨s'', hahead.trans hahead', hk⟩

/-- **A repetition goes forward if its body does**, whether it takes much first or little. -/
theorem Advances.steps (h : Advances body)
    (hs : Pattern.steps body greedy least most k fuel count last s = some r) :
    ∃ s', s.Ahead s' ∧ k s' = some r := by
  induction fuel generalizing count last s with
  | zero => cases hs
  | succ fuel ih =>
    rw [Pattern.steps] at hs
    split at hs
    · exact h.step (fun _ => ih) hs
    · have hmore : (if most.all (count < ·) ∧ last ≠ some s.index then
          body s (Pattern.steps body greedy least most k fuel (count + 1) (some s.index))
          else none) = some r → ∃ s', s.Ahead s' ∧ k s' = some r := by
        intro hmore
        split at hmore
        · exact h.step (fun _ => ih) hmore
        · cases hmore
      -- the repetition goes on or ends here, and which is tried first does not matter
      have hhere : k s = some r → ∃ s', s.Ahead s' ∧ k s' = some r :=
        fun hk => ⟨s, .refl s, hk⟩
      dsimp only at hs
      split at hs
      · rcases (Option.orElse_eq_some _ _ _).mp hs with hs | ⟨-, hs⟩
        · exact hmore hs
        · exact hhere hs
      · rcases (Option.orElse_eq_some _ _ _).mp hs with hs | ⟨-, hs⟩
        · exact hhere hs
        · exact hmore hs

/-- A repetition that gives nothing back goes forward too. -/
theorem possess_ahead (h : Advances body)
    (hs : possess body least most fuel count last s = some r) : s.Ahead r := by
  induction fuel generalizing count last s with
  | zero => exact Option.some.inj hs ▸ .refl s
  | succ fuel ih =>
    rw [possess] at hs
    split at hs
    · split at hs
      · next hbody => exact (h.ahead hbody).trans (ih hs)
      · cases hs
    · split at hs
      · split at hs
        · next hbody => exact (h.ahead hbody).trans (ih hs)
        · exact Option.some.inj hs ▸ .refl s
      · exact Option.some.inj hs ▸ .refl s

end Repetition

/-! ## Nodes -/

/-- **Every node goes forward.** -/
theorem advances_run (p : Node) : Advances p.run := by
  induction p with
  | empty => exact fun s k r h => ⟨s, .refl s, h⟩
  | set cs =>
    intro s k r h
    rw [Node.run] at h
    split at h
    · cases h
    · next c after hafter =>
      split at h
      · exact ⟨_, Cursor.ahead_next hafter, h⟩
      · cases h
  | any lineEnds =>
    intro s k r h
    rw [Node.run] at h
    split at h
    · cases h
    · next c after hafter =>
      split at h
      · exact ⟨_, Cursor.ahead_next hafter, h⟩
      · cases h
  | anchor a =>
    intro s k r h
    rw [Node.run] at h
    split at h
    · exact ⟨s, .refl s, h⟩
    · cases h
  | seq p q ihp ihq =>
    intro s k r h
    rw [Node.run] at h
    exact ihp.step (fun s' => ihq s' k r) h
  | alt p q ihp ihq =>
    intro s k r h
    rw [Node.run] at h
    rcases (Option.orElse_eq_some _ _ _).mp h with h | ⟨-, h⟩
    · exact ihp s k r h
    · exact ihq s k r h
  | group index p ih =>
    intro s k r h
    rw [Node.run] at h
    obtain ⟨s', hahead, hk⟩ := ih _ _ r h
    exact ⟨_, hahead.regroup _, hk⟩
  | repeated least most greed p ih =>
    intro s k r h
    unfold Node.run at h
    cases greed with
    | greedy => exact ih.steps h
    | lazy => exact ih.steps h
    | possessive =>
      obtain ⟨s', hs', hk⟩ := Option.bind_eq_some_iff.mp h
      exact ⟨s', possess_ahead ih hs', hk⟩
  | atomic p ih =>
    intro s k r h
    rw [Node.run] at h
    obtain ⟨s', hs', hk⟩ := Option.bind_eq_some_iff.mp h
    exact ⟨s', ih.ahead hs', hk⟩
  | ahead positive p ih =>
    intro s k r h
    unfold Node.run at h
    split at h
    · exact ⟨_, (Cursor.Ahead.refl s).regroup _, h⟩
    · exact ⟨s, .refl s, h⟩
    · cases h
  | behind positive width p ih =>
    intro s k r h
    unfold Node.run at h
    -- the place that was gone back to is left behind
    split at h
    · exact ⟨_, (Cursor.Ahead.refl s).regroup _, h⟩
    · exact ⟨s, .refl s, h⟩
    · cases h
  | again index casing =>
    intro s k r h
    rw [Node.run] at h
    split at h
    · cases h
    · obtain ⟨s', hs', hk⟩ := Option.bind_eq_some_iff.mp h
      exact ⟨s', takeText_ahead hs', hk⟩
  | ifGroup index yes no ihyes ihno =>
    intro s k r h
    unfold Node.run at h
    split at h
    · exact ihyes s k r h
    · exact ihno s k r h

end Clipbook.Pattern
