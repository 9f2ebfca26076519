import Clipbook.Proofs.Template.Expression
import Mathlib.Data.List.Chain

/-!
# Clipbook — written templates

A template is written as literal texts and expressions in turn.  Reading it finds exactly the
expressions it was written with, each at its place, and filling it in leaves the literal texts as
they are between the texts of the expressions.

A literal text holds no `${`, and no two of them stand side by side: a dollar sign at the end of
one and a brace at the start of the next would open an expression that neither holds.

Main results:

* `findFrom_literal` — literal text is passed over.
* `findFrom_printAll` — the expressions of a written template are found.
* `replaceFrom_placed` — expressions at their places are replaced between the literal texts.
* `findAll_printAll_and_substitute` — both together, for a whole template.
-/

namespace Clipbook.Template

open Expression

/-! ## Writing -/

/-- What a template is written of. -/
inductive Piece where
  | literal (t : Text)
  | expression (path : Text) (filters : Option Text)
  deriving DecidableEq, Repr

/-- What opens an expression. -/
def opening : Text := ['$', '\x7b']

namespace Piece

def printed : Piece → Text
  | literal t => t
  | expression path filters => Expression.printed path filters

def isLiteral : Piece → Bool
  | literal _ => true
  | expression .. => false

/-- Pieces that can be written: literal text opens no expression, and an expression is read back
by itself. -/
def Printable : Piece → Prop
  | literal t => ¬opening <:+: t
  | expression path filters => Expression.Printable path filters

end Piece

/-- Pieces written one after the other. -/
def printAll (ps : List Piece) : Text :=
  ps.flatMap Piece.printed

/-- Pieces of which a template can be written. -/
structure WellFormed (ps : List Piece) : Prop where
  printable : ∀ p ∈ ps, p.Printable
  apart : ps.IsChain fun p q => ¬(p.isLiteral = true ∧ q.isLiteral = true)

/-- An expression written at a place, which it ends behind its last character. -/
def expressionAt (place : Nat) (path : Text) (filters : Option Text) : Expression :=
  ⟨place, place + (Expression.printed path filters).length, path, filters⟩

/-- The expressions among pieces that are written from a place on. -/
def placed (place : Nat) : List Piece → List Expression
  | [] => []
  | .literal t :: ps => placed (place + t.length) ps
  | .expression path filters :: ps =>
    let e := expressionAt place path filters
    e :: placed e.stop ps

/-- Pieces from a place on with the text that `f` gives for each expression, and literal texts as
they are. -/
def interleaved (f : Expression → Outcome Text) (place : Nat) : List Piece → Outcome Text
  | [] => pure []
  | .literal t :: ps => do
    let rest ← interleaved f (place + t.length) ps
    return t ++ rest
  | .expression path filters :: ps => do
    let e := expressionAt place path filters
    let image ← f e
    let rest ← interleaved f e.stop ps
    return image ++ rest

/-! ## Finding -/

variable {ps : List Piece} {t rest : Text}

/-- What stands behind a piece is well-formed. -/
theorem WellFormed.tail {p : Piece} (h : WellFormed (p :: ps)) : WellFormed ps :=
  ⟨fun q hq => h.printable q (List.mem_cons_of_mem _ hq), h.apart.tail⟩

/-- No expression starts where the opening mark does not stand. -/
theorem findFrom_cons_of_ne {c : Char} (h : ¬opening <+: c :: t) (place : Nat) :
    findFrom 0 place (c :: t) = findFrom 0 (place + 1) t := by
  rw [findFrom]
  rintro rest rfl rfl
  exact h ⟨rest, rfl⟩

/-- **Literal text is passed over** where no brace comes behind a dollar sign at its end. -/
theorem findFrom_literal (h : ¬opening <:+: t) (hrest : rest.head? ≠ some '\x7b') (place : Nat) :
    findFrom 0 place (t ++ rest) = findFrom 0 (place + t.length) rest := by
  induction t generalizing place with
  | nil => rfl
  | cons c t ih =>
    have htail : ¬opening <:+: t := fun hin => h (hin.trans (List.suffix_cons c t).isInfix)
    -- an expression that opens here opens within the text, or with the first character behind it
    have hhere : ¬opening <+: c :: (t ++ rest) := by
      intro hopen
      obtain ⟨rfl, hbrace⟩ := List.cons_prefix_cons.mp hopen
      cases t with
      | nil =>
        cases rest with
        | nil => exact absurd hbrace (by simp)
        | cons d rest => exact hrest (by rw [← (List.cons_prefix_cons.mp hbrace).1]; rfl)
      | cons d t =>
        rw [← (List.cons_prefix_cons.mp hbrace).1] at h
        exact h (List.prefix_append opening t).isInfix
    rw [List.cons_append, findFrom_cons_of_ne hhere, ih htail, List.length_cons]
    congr 1
    omega

/-- Behind literal text comes nothing, or a dollar sign. -/
theorem WellFormed.head?_printAll {u : Text} (h : WellFormed (.literal u :: ps)) :
    (printAll ps).head? ≠ some '\x7b' := by
  cases ps with
  | nil => exact nofun
  | cons p ps =>
    have hapart := (List.isChain_cons_cons.mp h.apart).1
    cases p with
    | literal v => exact absurd ⟨rfl, rfl⟩ hapart
    | expression path filters =>
      intro hbrace
      exact absurd (Option.some.inj hbrace) (by decide)

/-- **The expressions of a written template are found**, each at its place. -/
theorem findFrom_printAll (h : WellFormed ps) (place : Nat) :
    findFrom 0 place (printAll ps) = placed place ps := by
  induction ps generalizing place with
  | nil => rfl
  | cons p ps ih =>
    have hp := h.printable p (List.mem_cons_self ..)
    rw [printAll, List.flatMap_cons, ← printAll]
    cases p with
    | literal t =>
      rw [placed, ← ih h.tail]
      exact findFrom_literal hp h.head?_printAll place
    | expression path filters =>
      rw [placed, ← ih h.tail]
      -- an expression is found where it is printed, and the search goes on behind it
      have hfound := findFrom_printed hp place (printAll ps)
      rw [← length_printed path filters] at hfound
      exact hfound

/-! ## Filling in -/

variable {template : Text}

/-- What stands between two texts is the slice between their ends. -/
theorem slice_append (before kept after : Text) :
    Text.slice before.length (before.length + kept.length) (before ++ kept ++ after) = kept := by
  rw [Text.slice]
  simp

/-- **Expressions at their places are replaced** between the literal texts.  Of the template,
`before` has been written and `kept` is still to be copied. -/
theorem replaceFrom_placed (f : Expression → Outcome Text) (before kept : Text)
    (h : template = before ++ kept ++ printAll ps) :
    replaceFrom f template before.length (placed (before.length + kept.length) ps) =
      (kept ++ ·) <$> interleaved f (before.length + kept.length) ps := by
  induction ps generalizing before kept with
  | nil =>
    rw [h, printAll, List.flatMap_nil, List.append_nil]
    simp [placed, replaceFrom, interleaved]
  | cons p ps ih =>
    cases p with
    | literal t =>
      have hwhole : template = before ++ (kept ++ t) ++ printAll ps := by
        rw [h, printAll, List.flatMap_cons]
        simp [Piece.printed, printAll]
      have hplace : before.length + kept.length + t.length =
          before.length + (kept ++ t).length := by
        rw [List.length_append]
        omega
      rw [placed, interleaved, hplace, ih before (kept ++ t) hwhole]
      simp
    | expression path filters =>
      have hwhole : template =
          (before ++ kept ++ Expression.printed path filters) ++ [] ++ printAll ps := by
        rw [h, printAll, List.flatMap_cons]
        simp [Piece.printed, printAll]
      have hslice : Text.slice before.length (before.length + kept.length) template = kept := by
        rw [h]
        exact slice_append before kept _
      have hstart : (expressionAt (before.length + kept.length) path filters).start =
          before.length + kept.length := rfl
      have hstop : (expressionAt (before.length + kept.length) path filters).stop =
          (before ++ kept ++ Expression.printed path filters).length := by
        simp only [expressionAt, List.length_append]
      -- behind the expression nothing is left to be copied
      have hrest := ih (before ++ kept ++ Expression.printed path filters) [] hwhole
      rw [List.length_nil, Nat.add_zero] at hrest
      rw [placed, interleaved, replaceFrom, hstart, hslice, hstop, hrest]
      simp

/-! ## Whole templates -/

/-- **Reading a written template finds its expressions**, in order and each at its place, and
filling it in leaves the literal texts between the texts of the expressions. -/
theorem findAll_printAll_and_substitute (h : WellFormed ps) :
    findAll (printAll ps) = placed 0 ps ∧
      ∀ item, substitute (printAll ps) item = interleaved (evaluate render item) 0 ps := by
  have hfound : findAll (printAll ps) = placed 0 ps := findFrom_printAll h 0
  refine ⟨hfound, fun item => ?_⟩
  rw [substitute, Expression.substitute, hfound]
  have hreplaced : replaceFrom (evaluate render item) (printAll ps) 0 (placed 0 ps) =
      ([] ++ ·) <$> interleaved (evaluate render item) 0 ps := replaceFrom_placed _ [] [] rfl
  simpa using hreplaced

/-- A dollar sign in front of an expression, braces in its quotes and a template in its arguments
do not confuse the reading. -/
theorem findAll_printAll_and_substitute_nested :
    let ps : List Piece :=
      [.literal "a $".toList, .expression "x".toList (some "template(\"- $\x7bn\x7d\")".toList),
        .expression "y.z[0]".toList none, .literal "\x7b b".toList]
    WellFormed ps ∧ findAll (printAll ps) = placed 0 ps ∧
      ∀ item, substitute (printAll ps) item = interleaved (evaluate render item) 0 ps := by
  intro ps
  have hprintable : ∀ p ∈ ps, p.Printable := by
    intro p hp
    simp only [ps, List.mem_cons, List.not_mem_nil, or_false] at hp
    rcases hp with rfl | rfl | rfl | rfl
    · show ¬opening <:+: _
      decide
    · refine ⟨by decide, List.all_eq_true.mp (by decide), fun f hf => ?_⟩
      rw [← Option.some.inj hf]
      exact ⟨by decide, by decide⟩
    · exact ⟨by decide, List.all_eq_true.mp (by decide), nofun⟩
    · show ¬opening <:+: _
      decide
  have h : WellFormed ps := ⟨hprintable, by decide⟩
  exact ⟨h, findAll_printAll_and_substitute h⟩

end Clipbook.Template
