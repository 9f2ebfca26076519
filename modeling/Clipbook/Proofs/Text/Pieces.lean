import Clipbook.Text.Basic

/-!
# Clipbook — pieces of texts

Main results:

* `splitOn_append` — a text is split piece by piece.
* `pieces_iff` — what a text is split into are the texts without the separator that it joins.
* `cut?_eq_some_iff` — a text is cut at the first of some characters.
-/

namespace Clipbook.Text

variable {sep c : Char} {t u piece : Text} {ps : List Text}

/-! ## Splitting -/

theorem splitOn_of_not_mem (h : sep ∉ t) : splitOn sep t = [t] := by
  induction t with
  | nil => rfl
  | cons c t ih =>
    rw [List.mem_cons, not_or] at h
    rw [splitOn, if_neg (Ne.symm h.1), ih h.2]

/-- A separator divides the pieces before it from those behind it. -/
theorem splitOn_append (sep : Char) (t u : Text) :
    splitOn sep (t ++ sep :: u) = splitOn sep t ++ splitOn sep u := by
  induction t with
  | nil =>
    rw [List.nil_append, splitOn, splitOn, if_pos rfl]
    rfl
  | cons c t ih =>
    rw [List.cons_append, splitOn, splitOn, ih]
    split
    · rfl
    · obtain ⟨piece, pieces, hpieces⟩ := List.exists_cons_of_ne_nil (splitOn_ne_nil sep t)
      rw [hpieces]
      rfl

/-- The characters of a piece are of the text. -/
theorem mem_of_mem_splitOn (hpiece : piece ∈ splitOn sep t) (hc : c ∈ piece) : c ∈ t := by
  induction t generalizing piece with
  | nil =>
    rw [splitOn, List.mem_singleton] at hpiece
    subst hpiece
    exact hc
  | cons d t ih =>
    rw [splitOn] at hpiece
    split at hpiece
    · rcases List.mem_cons.mp hpiece with rfl | hpiece
      · cases hc
      · exact List.mem_cons_of_mem _ (ih hpiece hc)
    -- the character goes to the first piece of the rest
    · obtain ⟨first, rest, hsplit⟩ := List.exists_cons_of_ne_nil (splitOn_ne_nil sep t)
      rw [hsplit] at hpiece ih
      rcases List.mem_cons.mp hpiece with rfl | hpiece
      · rcases List.mem_cons.mp hc with rfl | hc
        · exact List.mem_cons_self ..
        · exact List.mem_cons_of_mem _ (ih (List.mem_cons_self ..) hc)
      · exact List.mem_cons_of_mem _ (ih (List.mem_cons_of_mem _ hpiece) hc)

theorem not_mem_of_mem_splitOn (hpiece : piece ∈ splitOn sep t) : sep ∉ piece := by
  induction t generalizing piece with
  | nil =>
    rw [splitOn, List.mem_singleton] at hpiece
    exact hpiece ▸ List.not_mem_nil
  | cons d t ih =>
    rw [splitOn] at hpiece
    split at hpiece
    · rcases List.mem_cons.mp hpiece with rfl | hpiece
      · exact List.not_mem_nil
      · exact ih hpiece
    · next hd =>
      obtain ⟨first, rest, hsplit⟩ := List.exists_cons_of_ne_nil (splitOn_ne_nil sep t)
      rw [hsplit] at hpiece ih
      rcases List.mem_cons.mp hpiece with rfl | hpiece
      · exact List.not_mem_cons_of_ne_of_not_mem (Ne.symm hd) (ih (List.mem_cons_self ..))
      · exact ih (List.mem_cons_of_mem _ hpiece)

/-! ## Joining -/

theorem join_cons_of_ne_nil (hps : ps ≠ []) (sep piece : Text) :
    join sep (piece :: ps) = piece ++ sep ++ join sep ps := by
  obtain ⟨p, ps, rfl⟩ := List.exists_cons_of_ne_nil hps
  rfl

theorem join_cons_cons (sep : Text) (c : Char) (piece : Text) (ps : List Text) :
    join sep ((c :: piece) :: ps) = c :: join sep (piece :: ps) := by
  cases ps <;> rfl

/-- Pieces are put together to the text they were split from. -/
theorem join_splitOn (sep : Char) (t : Text) : join [sep] (splitOn sep t) = t := by
  induction t with
  | nil => rfl
  | cons c t ih =>
    rw [splitOn]
    split
    · next hc => rw [join_cons_of_ne_nil (splitOn_ne_nil sep t), ih, hc]; rfl
    · obtain ⟨piece, pieces, hsplit⟩ := List.exists_cons_of_ne_nil (splitOn_ne_nil sep t)
      rw [hsplit] at ih ⊢
      rw [join_cons_cons, ih]

/-- Pieces without separators are split as they were put together. -/
theorem splitOn_join (hne : ps ≠ []) (h : ∀ p ∈ ps, sep ∉ p) :
    splitOn sep (join [sep] ps) = ps := by
  induction ps with
  | nil => exact absurd rfl hne
  | cons p ps ih =>
    have hp := splitOn_of_not_mem (h p (List.mem_cons_self ..))
    cases ps with
    | nil => exact hp
    | cons q ps =>
      have hrest := ih (List.cons_ne_nil q ps) fun r hr => h r (List.mem_cons_of_mem _ hr)
      rw [join_cons_of_ne_nil (List.cons_ne_nil q ps), List.append_assoc, List.singleton_append,
        splitOn_append, hp, hrest, List.singleton_append]

/-- How long a joined text is depends on the pieces together and on their number. -/
theorem length_join (sep : Text) (ps : List Text) :
    (join sep ps).length = ps.flatten.length + (ps.length - 1) * sep.length := by
  induction ps with
  | nil => simp [join]
  | cons p ps ih =>
    cases ps with
    | nil => simp [join]
    | cons q ps =>
      have hflat : (p :: q :: ps).flatten.length = p.length + (q :: ps).flatten.length := by
        rw [List.flatten_cons, List.length_append]
      have hcount : (p :: q :: ps).length - 1 = ((q :: ps).length - 1) + 1 := rfl
      rw [join_cons_of_ne_nil (List.cons_ne_nil q ps), List.length_append, List.length_append, ih,
        hflat, hcount, Nat.succ_mul]
      omega

/-- Texts without the separator that are a text when they are joined.  There is one of them at
least, since no texts at all would be the empty text as well. -/
structure Pieces (sep : Char) (t : Text) (ps : List Text) : Prop where
  ne_nil : ps ≠ []
  solid : ∀ p ∈ ps, sep ∉ p
  joined : join [sep] ps = t

/-- **A text has one list of pieces**, the one it is split into. -/
theorem pieces_iff : Pieces sep t ps ↔ ps = splitOn sep t := by
  constructor
  · rintro ⟨hne, hsolid, rfl⟩
    exact (splitOn_join hne hsolid).symm
  · rintro rfl
    exact ⟨splitOn_ne_nil sep t, fun _ => not_mem_of_mem_splitOn, join_splitOn sep t⟩

/-! ## Cutting -/

/-- A text is cut at a character where that stands for the first time. -/
theorem cut?_append (h : sep ∉ t) (u : Text) : cut? sep (t ++ sep :: u) = some (t, u) := by
  induction t with
  | nil => rw [List.nil_append, cut?, if_pos rfl]
  | cons c t ih =>
    rw [List.mem_cons, not_or] at h
    rw [List.cons_append, cut?, if_neg (Ne.symm h.1), ih h.2]
    rfl

/-- A text is not cut if there is no separator in it. -/
theorem cut?_eq_none_iff : cut? sep t = none ↔ sep ∉ t := by
  induction t with
  | nil => exact iff_of_true rfl List.not_mem_nil
  | cons c t ih =>
    rw [cut?, List.mem_cons, not_or]
    split
    · next hc => exact iff_of_false nofun fun h => h.1 hc.symm
    · next hc => rw [Option.map_eq_none_iff, ih, and_iff_right (Ne.symm hc)]

/-- **A text is cut at the first of some characters.** -/
theorem cut?_eq_some_iff : cut? sep t = some (piece, u) ↔ sep ∉ piece ∧ t = piece ++ sep :: u := by
  refine ⟨fun h => ?_, fun ⟨hnot, ht⟩ => ht ▸ cut?_append hnot u⟩
  induction t generalizing piece with
  | nil => cases h
  | cons c t ih =>
    rw [cut?] at h
    split at h
    · next hc =>
      obtain ⟨rfl, rfl⟩ := Prod.mk.inj (Option.some.inj h)
      exact ⟨List.not_mem_nil, hc ▸ rfl⟩
    · next hc =>
      obtain ⟨⟨front, back⟩, hcut, heq⟩ := Option.map_eq_some_iff.mp h
      obtain ⟨rfl, rfl⟩ := Prod.mk.inj heq
      obtain ⟨hfront, rfl⟩ := ih hcut
      exact ⟨List.not_mem_cons_of_ne_of_not_mem (Ne.symm hc) hfront, rfl⟩

end Clipbook.Text
