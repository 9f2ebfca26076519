import Clipbook.Proofs.Scan.Split
import Clipbook.Proofs.Text.Pieces
import Clipbook.Proofs.Text.Runs
import Clipbook.Template.Render

/-!
# Clipbook — written expressions

An expression is written as `${path}` or `${path|filters}`.  Reading it gives the path and the
filters back where a scan of the filters ends at the top level and no brace closes before.

Main results:

* `body?_printed` — a written expression is read back, whatever comes behind it.
* `eq_append_of_body?` — whatever is read is written so.
* `findFrom_printed` — and found with its place.
* `substitute_printed` — a template that is one expression is replaced by its text.
-/

namespace Clipbook.Expression

variable {t path f : Text} {filters : Option Text}

/-! ## Writing -/

/-- Filters as they are written behind a path. -/
def printedFilters : Option Text → Text
  | none => []
  | some f => '|' :: f

/-- An expression as it is written. -/
def printed (path : Text) (filters : Option Text) : Text :=
  '$' :: '\x7b' :: (path ++ printedFilters filters ++ ['\x7d'])

/-- Paths and filters that can be written. -/
structure Printable (path : Text) (filters : Option Text) : Prop where
  path_ne : path ≠ []
  path : ∀ c ∈ path, isPathChar c = true
  filters : ∀ f, filters = some f → Scan.Part '\x7d' true f

theorem length_printed (path : Text) (filters : Option Text) :
    (printed path filters).length = length path filters := by
  cases filters with
  | none => simp [printed, printedFilters, length]
  | some f =>
    simp only [printed, printedFilters, length, List.length_cons, List.length_append,
      List.length_nil]
    omega

/-! ## Reading back -/

/-- The filters of an expression end at the first brace that splits. -/
theorem filters?_part {f : Text} (h : Scan.Part '\x7d' true f) (rest : Text) :
    filters? (f ++ '\x7d' :: rest) = some f := by
  rw [filters?, Scan.untilBrace?_append h.solid h.splits]

/-- **A written expression is read back**, whatever comes behind it. -/
theorem body?_printed (h : Printable path filters) (rest : Text) :
    body? (path ++ printedFilters filters ++ '\x7d' :: rest) = some (path, filters) := by
  -- a bar or a brace stands behind the path, and neither is a character of it
  obtain ⟨c, u, hc, hu⟩ : ∃ c u, printedFilters filters ++ '\x7d' :: rest = c :: u ∧
      isPathChar c = false := by
    cases filters with
    | none => exact ⟨_, _, rfl, by decide⟩
    | some f => exact ⟨_, _, rfl, by decide⟩
  obtain ⟨htake, hdrop⟩ := Text.span_run_cons h.path hu u
  rw [List.append_assoc, hc, body?, htake, hdrop]
  obtain ⟨d, p, hp⟩ := List.exists_cons_of_ne_nil h.path_ne
  cases filters with
  | none =>
    obtain ⟨rfl, rfl⟩ := List.cons.inj hc
    rw [hp]
    rfl
  | some f =>
    obtain ⟨rfl, rfl⟩ := List.cons.inj hc
    rw [hp]
    dsimp only
    rw [if_neg (by decide), if_pos rfl]
    show (filters? (f ++ '\x7d' :: rest)).map _ = _
    rw [filters?_part (h.filters f rfl)]
    rfl

/-! ## What is read -/

/-- What stands before a brace stands at the front of the text. -/
theorem exists_of_untilBrace? {s : Scan} (h : untilBrace? s t = some f) :
    ∃ rest, t = f ++ '\x7d' :: rest := by
  induction t generalizing s f with
  | nil => cases h
  | cons c t ih =>
    rw [untilBrace?] at h
    split at h
    · next hc =>
      obtain rfl := Option.some.inj h
      exact ⟨t, by rw [hc.1, List.nil_append]⟩
    · obtain ⟨g, hg, rfl⟩ := Option.map_eq_some_iff.mp h
      obtain ⟨rest, rfl⟩ := ih hg
      exact ⟨rest, rfl⟩

/-- Filters end at a brace, be it the first one that closes or the first one at all. -/
theorem exists_of_filters? (h : filters? t = some f) : ∃ rest, t = f ++ '\x7d' :: rest := by
  rw [filters?] at h
  split at h
  · next huntil =>
    obtain rfl := Option.some.inj h
    exact exists_of_untilBrace? huntil
  · obtain ⟨⟨front, rest⟩, hcut, rfl⟩ := Option.map_eq_some_iff.mp h
    exact ⟨rest, (Text.cut?_eq_some_iff.mp hcut).2⟩

/-- Filters are read unless there is no brace at all. -/
theorem filters?_eq_none_iff : filters? t = none ↔ '\x7d' ∉ t := by
  constructor
  · intro h
    rw [filters?] at h
    split at h
    · cases h
    · exact Text.cut?_eq_none_iff.mp (Option.map_eq_none_iff.mp h)
  · intro h
    cases hf : filters? t with
    | none => rfl
    | some f =>
      obtain ⟨rest, rfl⟩ := exists_of_filters? hf
      exact absurd (List.mem_append_right f (List.mem_cons_self ..)) h

/-- **Whatever is read is written so**, with the longest path there is. -/
theorem eq_append_of_body? (h : body? t = some (path, filters)) :
    path ≠ [] ∧ path = t.takeWhile isPathChar ∧
      ∃ rest, t = path ++ printedFilters filters ++ '\x7d' :: rest := by
  have hwhole := List.takeWhile_append_dropWhile (p := isPathChar) (l := t)
  unfold body? at h
  split at h
  · cases h
  · next hdrop hne =>
    rw [hdrop] at hwhole
    split at h
    · -- a brace behind the path
      next hc =>
      obtain ⟨rfl, rfl⟩ := Prod.mk.inj (Option.some.inj h)
      exact ⟨hne, rfl, _, hwhole.symm.trans (by rw [hc, printedFilters, List.append_nil])⟩
    · split at h
      · -- a bar, and the filters behind it
        next hc =>
        obtain ⟨f, hf, heq⟩ := Option.map_eq_some_iff.mp h
        obtain ⟨rfl, rfl⟩ := Prod.mk.inj heq
        obtain ⟨rest, hrest⟩ := exists_of_filters? hf
        refine ⟨hne, rfl, rest, hwhole.symm.trans ?_⟩
        rw [hc, hrest, printedFilters, List.append_assoc, List.cons_append]
      · cases h
  · cases h

/-! ## Finding -/

/-- The characters passed over hold no expression. -/
theorem findFrom_skip (skip place : Nat) (t : Text) :
    findFrom skip place t = findFrom 0 (place + skip) (t.drop skip) := by
  induction t generalizing skip place with
  | nil => rw [List.drop_nil]; rfl
  | cons c t ih =>
    cases skip with
    | zero => rfl
    | succ n => rw [findFrom, ih, List.drop_succ_cons, show place + 1 + n = place + (n + 1) by omega]

/-- An expression that can be read is found, and the finding goes on behind it. -/
theorem findFrom_of_body? {rest : Text} (h : body? rest = some (path, filters)) (place : Nat) :
    findFrom 0 place ('$' :: '\x7b' :: rest) =
      ⟨place, place + length path filters, path, filters⟩
        :: findFrom 0 (place + length path filters)
          (('$' :: '\x7b' :: rest).drop (length path filters)) := by
  obtain ⟨n, hn⟩ : ∃ n, length path filters = n + 1 := by
    have hpos : 0 < length path filters := by
      rw [← length_printed]
      exact Nat.succ_pos _
    exact ⟨length path filters - 1, by omega⟩
  rw [findFrom, h]
  dsimp only
  -- the scan passes over all but the first character, one by one
  rw [hn, Nat.add_sub_cancel, findFrom_skip, List.drop_succ_cons,
    show place + 1 + n = place + (n + 1) by omega]

/-- Where nothing can be read the finding goes on behind the brace. -/
theorem findFrom_of_body?_eq_none {rest : Text} (h : body? rest = none) (place : Nat) :
    findFrom 0 place ('$' :: '\x7b' :: rest) = findFrom 0 (place + 2) rest := by
  rw [findFrom, h]
  dsimp only
  rw [findFrom_skip, List.drop_succ_cons, List.drop_zero]

/-- **A written expression is found with its place.** -/
theorem findFrom_printed (h : Printable path filters) (place : Nat) (rest : Text) :
    findFrom 0 place (printed path filters ++ rest) =
      ⟨place, place + length path filters, path, filters⟩
        :: findFrom 0 (place + length path filters) rest := by
  have hdrop : (printed path filters ++ rest).drop (length path filters) = rest := by
    rw [← length_printed, List.drop_left]
  have hcons : printed path filters ++ rest =
      '$' :: '\x7b' :: (path ++ printedFilters filters ++ '\x7d' :: rest) := by
    simp [printed]
  rw [hcons] at hdrop ⊢
  rw [findFrom_of_body? (body?_printed h rest), hdrop]

/-- An expression is found in its own text, and nothing else is. -/
theorem findAll_printed (h : Printable path filters) :
    findAll (printed path filters) = [⟨0, length path filters, path, filters⟩] := by
  have := findFrom_printed h 0 []
  rw [List.append_nil, Nat.zero_add] at this
  exact this

/-- **A template that is one expression is replaced by its text.** -/
theorem substitute_printed (h : Printable path filters) (render : Renderer) (item : Value) :
    substitute render (printed path filters) item =
      evaluate render item ⟨0, length path filters, path, filters⟩ := by
  have hend : (printed path filters).drop (length path filters) = [] :=
    List.drop_of_length_le (Nat.le_of_eq (length_printed path filters))
  rw [substitute, findAll_printed h, replaceFrom, replaceFrom]
  simp [Text.slice, hend]

end Clipbook.Expression
