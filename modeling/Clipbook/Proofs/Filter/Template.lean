import Clipbook.Proofs.Chain
import Clipbook.Proofs.Outcome
import Clipbook.Proofs.Scan.Quoted
import Clipbook.Proofs.Template.Expression

/-!
# Clipbook — templates in arguments

A template is handed to the filter that fills it in as an argument between double quotes.  The
quotes are taken off and nothing else: backslashes that keep a quote from ending the argument stay
in the template, where they are text like any other.  So what is filled in is the argument as it is
written, and a template is written as it is wherever the scan of it in quotes and parentheses comes
back to the top level at its end only.

Main results:

* `separatorOf_templateCall` — the argument is read as it is written.
* `fillsIn_of_bracketed` — and filled in, where it can be written.
* `bracketed_nested` — an expression with a quoted argument can be written inside of the quotes.
* `fillsIn_escaped_bracketed_nested` — all together.
-/

namespace Clipbook.Filter

variable {t arg path name : Text} {v : Value}

/-! ## Writing -/

/-- The call that fills in what stands between the quotes. -/
def templateCall (t : Text) : Call :=
  ⟨"template".toList, '(' :: ('"' :: t ++ ['"']) ++ [')']⟩

/-- The chain of the one call fills in the text itself: where that can be done at all, it gives the
same text with the same warnings. -/
def FillsIn (t : Text) : Prop :=
  ∀ v u, (Template.render t v).result = .ok u →
    applyFilters (templateCall t).printed v = Value.str <$> Template.render t v

/-! ## Reading -/

/-- **The argument is read as it is written.** -/
theorem separatorOf_templateCall (t : Text) : separatorOf (templateCall t).args = t :=
  Text.stripQuotes_stripParens t

/-- A call to template is read back from its text where its brackets close. -/
theorem printable_templateCall (h : Call.Bracketed (templateCall t).args) :
    (templateCall t).Printable := by
  have hname : "template".toList.all Call.isNameChar = true := by decide
  exact ⟨List.cons_ne_nil _ _, List.all_eq_true.mp hname, .inr h⟩

/-- The filter fills the template in its brackets. -/
theorem fill_templateCall (render : Renderer) (t : Text) (v : Value) :
    fill render (templateCall t).args v = Value.str <$> render t v := by
  -- the arguments are not empty, so there is something to fill in
  have hfill : fill render (templateCall t).args v =
      render (separatorOf (templateCall t).args) v >>= fun u => pure (Value.str u) := rfl
  rw [hfill, separatorOf_templateCall, bind_pure_comp]

/-- **An argument that can be written is filled in.** -/
theorem fillsIn_of_bracketed (h : Call.Bracketed (templateCall t).args) : FillsIn t := by
  intro v u hu
  -- one call written alone is a chain without a colon
  have hchain : Call.chain (templateCall t).printed = [templateCall t] :=
    Call.chain_printAll fun c hc => List.mem_singleton.mp hc ▸ printable_templateCall h
  have hname : ofName? (templateCall t).name = some template := rfl
  have hfilled : (fill Template.render (templateCall t).args v).result = .ok (.str u) := by
    rw [fill_templateCall, ← bind_pure_comp, Outcome.result_bind_of_ok hu]
    rfl
  have happly : (templateCall t).apply Template.render v = Value.str <$> Template.render t v := by
    rw [Call.apply, hname]
    show (fill Template.render (templateCall t).args v).recover _ = _
    rw [Outcome.recover_of_ok hfilled, fill_templateCall]
  rw [applyFilters, Call.applyChain, hchain, Call.applyAll, happly]
  exact bind_pure _

/-! ## Arguments that can be written -/

/-- What is neutral between quotes can be written. -/
theorem bracketed_of_neutral (h : Scan.Neutral ('"' :: t ++ ['"'])) :
    Call.Bracketed (templateCall t).args :=
  .of_closes (Scan.closes_parens h (Scan.plain_start true) rfl)

/-- With its quotes escaped, every template stands in brackets that close. -/
theorem bracketed_escapeQuotes (t : Text) :
    Call.Bracketed (templateCall (Text.escapeQuotes t)).args :=
  bracketed_of_neutral (Scan.neutral_inQuotes t)

/-- Text without quotes and backslashes needs no escapes. -/
theorem escapeQuotes_eq_self (h : ∀ c ∈ t, c ≠ '"' ∧ c ≠ '\\') : Text.escapeQuotes t = t := by
  induction t with
  | nil => rfl
  | cons c t ih =>
    have hc := h c (List.mem_cons_self ..)
    rw [Text.escapeQuotes, if_neg (not_or.mpr hc), ih fun d hd => h d (List.mem_cons_of_mem _ hd)]

/-- A text without quotes and backslashes leaves the scanner where it was when it is quoted. -/
theorem neutral_of_no_escapes (h : ∀ c ∈ t, c ≠ '"' ∧ c ≠ '\\') :
    Scan.Neutral ('"' :: t ++ ['"']) := by
  have hneutral := Scan.neutral_inQuotes t
  rwa [Text.inQuotes, escapeQuotes_eq_self h] at hneutral

/-- An expression with one filter and a quoted argument. -/
def nested (path name arg : Text) : Text :=
  Expression.printed path (some (name ++ '(' :: '"' :: arg ++ ['"', ')']))

/-- **An expression with a quoted argument can be written inside of the quotes**, as it is.  The
quotes of the argument end and begin the outer ones, so that between them nothing may be opened or
closed. -/
theorem bracketed_nested (hpath : ∀ c ∈ path, Expression.isPathChar c = true)
    (hname : ∀ c ∈ name, Call.isNameChar c = true) (harg : ∀ c ∈ arg, Scan.isInert c = true) :
    Call.Bracketed (templateCall (nested path name arg)).args := by
  have hparts : '"' :: nested path name arg ++ ['"'] =
      ('"' :: ('$' :: '\x7b' :: (path ++ '|' :: name ++ ['('])) ++ ['"']) ++ arg ++
        ('"' :: [')', '\x7d'] ++ ['"']) := by
    simp [nested, Expression.printed, Expression.printedFilters]
  apply bracketed_of_neutral
  rw [hparts]
  have hend : ∀ c ∈ [')', '\x7d'], c ≠ '"' ∧ c ≠ '\\' :=
    List.forall_mem_cons.mpr ⟨by decide, List.forall_mem_singleton.mpr (by decide)⟩
  -- outside of quotes stands the argument only
  refine ((neutral_of_no_escapes fun c hc => ?_).append (Scan.neutral_of_isInert harg)).append
    (neutral_of_no_escapes hend)
  simp only [List.mem_cons, List.mem_append, List.not_mem_nil, or_false] at hc
  rcases hc with rfl | rfl | (hc | rfl | hc) | rfl
  · decide
  · decide
  · constructor <;> rintro rfl <;> exact absurd (hpath _ hc) (by decide)
  · decide
  · constructor <;> rintro rfl <;> exact absurd (hname _ hc) (by decide)
  · decide

/-! ## Main result -/

/-- **A template in quotes is filled in as it is written**: with its escapes, where there are any,
and as it is where it needs none or where the scan comes back to the top level behind it only, as
for an expression with a quoted argument. -/
theorem fillsIn_escaped_bracketed_nested :
    (∀ t, FillsIn (Text.escapeQuotes t)) ∧
      (∀ t, (∀ c ∈ t, c ≠ '"' ∧ c ≠ '\\') → Text.escapeQuotes t = t ∧ FillsIn t) ∧
      (∀ t, Call.Bracketed (templateCall t).args → FillsIn t) ∧
      ∀ path name arg, (∀ c ∈ path, Expression.isPathChar c = true) →
        (∀ c ∈ name, Call.isNameChar c = true) → (∀ c ∈ arg, Scan.isInert c = true) →
          FillsIn (nested path name arg) := by
  refine ⟨fun t => fillsIn_of_bracketed (bracketed_escapeQuotes t), fun t h => ?_,
    fun t h => fillsIn_of_bracketed h, fun path name arg hpath hname harg =>
      fillsIn_of_bracketed (bracketed_nested hpath hname harg)⟩
  exact ⟨escapeQuotes_eq_self h,
    fillsIn_of_bracketed (bracketed_of_neutral (neutral_of_no_escapes h))⟩

/-- An expression that splits at a quoted comma, inside of a quoted template. -/
theorem fillsIn_escaped_bracketed_nested_split :
    let t := nested "a".toList "split".toList [',']
    let v := Value.obj [("a".toList, .str "x,y".toList)]
    (Template.render t v).result = .ok "[\"x\",\"y\"]".toList ∧
      applyFilters (templateCall t).printed v = Value.str <$> Template.render t v := by
  intro t v
  have hrender : (Template.render t v).result = .ok "[\"x\",\"y\"]".toList :=
    Except.toOption_eq_some_iff.mp (by decide +kernel)
  obtain ⟨-, -, -, hnested⟩ := fillsIn_escaped_bracketed_nested
  exact ⟨hrender, hnested "a".toList "split".toList [','] (List.all_eq_true.mp (by decide))
    (List.all_eq_true.mp (by decide)) (List.all_eq_true.mp (by decide)) v _ hrender⟩

/-- Escapes are not undone: an escaped expression with a quoted argument looks for the quotes, and
not for what stands between them. -/
theorem template_escaped :
    let t := nested "a".toList "replace".toList "x\":\"y".toList
    let v := Value.obj [("a".toList, .str "x".toList)]
    (Template.render t v).result = .ok "y".toList ∧
      (applyFilters (templateCall (Text.escapeQuotes t)).printed v).result =
        .ok (.str "x".toList) := by
  intro t v
  have hplain : (Template.render t v).result = .ok "y".toList :=
    Except.toOption_eq_some_iff.mp (by decide +kernel)
  have hescaped : (Template.render (Text.escapeQuotes t) v).result = .ok "x".toList :=
    Except.toOption_eq_some_iff.mp (by decide +kernel)
  refine ⟨hplain, ?_⟩
  rw [fillsIn_of_bracketed (bracketed_escapeQuotes t) v _ hescaped, ← bind_pure_comp,
    Outcome.result_bind_of_ok hescaped]
  rfl

end Clipbook.Filter
