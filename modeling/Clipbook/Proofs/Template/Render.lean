import Clipbook.Clipper
import Clipbook.Proofs.Chain
import Clipbook.Proofs.Markup.Entity
import Clipbook.Proofs.Template.Nested
import Clipbook.Proofs.Template.Path
import Clipbook.Proofs.Value.Reader

/-!
# Clipbook — templates that can be filled in

A filter that faults is passed over, so filling a template in can fail in four places only, all of
them outside of the filters: the data may be JSON beyond a limit, a path may ask a list for digits
that are no number, what the filters of an expression make may be nested too deeply to be written,
and the text may hold a character reference with too many digits.

Main results:

* `Expression.exists_evaluate_iff` — the expressions that have a text.
* `Template.exists_itemText_iff` — the items that a template can be filled in for.
* `Clipper.render_succeeds_iff` — the data that a template can be filled in for.
-/

namespace Clipbook

/-- Only nesting keeps a value from being written. -/
theorem Value.exists_text_iff (v : Value) : (∃ t, v.text = .ok t) ↔ v.tooDeep = false := by
  rw [text]
  cases v.tooDeep with
  | true => exact iff_of_false nofun nofun
  | false => exact iff_of_true ⟨_, rfl⟩ rfl

/-! ## Expressions -/

namespace Expression

variable {render : Renderer} {template : Text} {item : Value} {e : Expression}

/-- An expression that has a text for an item: its path can be followed, and what its filters make
of the value there, if there is one, is not nested too deeply to be written. -/
structure Shows (render : Renderer) (item : Value) (e : Expression) : Prop where
  path : ¬item.Stuck (Path.keys e.path)
  value : ∀ v, item.at_ e.path = .ok v → v ≠ .null →
    ((Call.chain (e.filters.getD [])).foldl (Call.effect render) v).tooDeep = false

/-- The result of an expression whose path leads somewhere: filters never fail, so that only
writing what they have made does. -/
theorem evaluate_result_of_at {v : Value} (hat : item.at_ e.path = .ok v) (hne : v ≠ .null) :
    (evaluate render item e).result =
      (((Call.chain (e.filters.getD [])).foldl (Call.effect render) v).text).map shown := by
  have hchain := Call.applyAll_result render (Call.chain (e.filters.getD [])) v
  unfold evaluate
  rw [Outcome.result_bind_of_ok (a := v) hat]
  cases v with
  | null => exact absurd rfl hne
  | _ =>
    -- every other value is handed to the chain, whose result is known
    dsimp only
    rw [Call.applyChain, Outcome.result_bind_of_ok hchain, Outcome.result_bind]
    rfl

/-- **An expression has a text** if it can be followed and written. -/
theorem exists_evaluate_iff : (∃ t, (evaluate render item e).result = .ok t) ↔
    e.Shows render item := by
  cases hat : item.at_ e.path with
  | error f =>
    -- the path is stuck
    refine iff_of_false ?_ fun h => ?_
    · rintro ⟨t, ht⟩
      rw [evaluate, Outcome.result_bind_of_error (e := f) hat] at ht
      cases ht
    · obtain ⟨w, hw⟩ := (Value.exists_follow_iff _ _).mpr h.path
      rw [Value.at_, hw] at hat
      cases hat
  | ok v =>
    have hpath : ¬item.Stuck (Path.keys e.path) := (Value.exists_follow_iff _ _).mp ⟨v, hat⟩
    by_cases hnull : v = .null
    · -- nothing is there, and nothing is shown
      subst hnull
      refine iff_of_true ⟨[], ?_⟩ ⟨hpath, fun w hw hne => ?_⟩
      · unfold evaluate
        rw [Outcome.result_bind_of_ok (a := Value.null) hat]
        rfl
      · exact absurd (Except.ok.inj (hw.symm.trans hat)) hne
    · -- what is there goes through the filters, of which none fails
      rw [evaluate_result_of_at hat hnull, Except.exists_map_eq_ok_iff, Value.exists_text_iff]
      constructor
      · intro h
        refine ⟨hpath, fun w hw _ => ?_⟩
        obtain rfl := Except.ok.inj (hat.symm.trans hw)
        exact h
      · exact fun h => h.value v hat hnull

/-- A text is filled in if each of its expressions is. -/
theorem exists_replaceFrom_iff {f : Expression → Outcome Text} {es : List Expression}
    (place : Nat) :
    (∃ t, (replaceFrom f template place es).result = .ok t) ↔
      ∀ e ∈ es, ∃ t, (f e).result = .ok t := by
  induction es generalizing place with
  | nil => exact iff_of_true ⟨_, rfl⟩ nofun
  | cons e es ih =>
    rw [List.forall_mem_cons, ← ih e.stop]
    exact Outcome.exists_map₂_iff

/-- A template is filled in if each of its expressions can be shown. -/
theorem exists_substitute_iff :
    (∃ t, (substitute render template item).result = .ok t) ↔
      ∀ e ∈ findAll template, e.Shows render item := by
  rw [substitute, exists_replaceFrom_iff]
  exact forall₂_congr fun e _ => exists_evaluate_iff

end Expression

/-! ## Templates -/

namespace Template

variable {template : Text} {item : Value}

/-- A template that can be filled in for an item: each expression has a text, and the text they
make has no reference that is too long. -/
structure Fillable (template : Text) (item : Value) : Prop where
  expressions : ∀ e ∈ Expression.findAll template, e.Shows render (objectOf item)
  references : ∀ t, (substitute template (objectOf item)).result = .ok t →
    ¬Markup.LongReference (Text.replaceAll ['\\', 'n'] ['\n'] t)

/-- **A template is filled in for an item** if it can be. -/
theorem exists_itemText_iff :
    (∃ t, (itemText render template item).result = .ok t) ↔ Fillable template item := by
  constructor
  · intro h
    -- the expressions come first, then the references of the text they made
    obtain ⟨u, hu, h⟩ := Outcome.exists_bind_iff.mp h
    refine ⟨Expression.exists_substitute_iff.mp ⟨u, hu⟩, fun u' hu' => ?_⟩
    obtain rfl : u = u' := Except.ok.inj (hu.symm.trans hu')
    exact (Markup.exists_unescape_iff _).mp (Outcome.exists_map_iff.mp h)
  · intro h
    obtain ⟨u, hu⟩ := Expression.exists_substitute_iff.mpr h.expressions
    have hunescape : ∃ w, (Outcome.ofExcept (Markup.unescape
        (Text.replaceAll ['\\', 'n'] ['\n'] u))).result = .ok w :=
      (Markup.exists_unescape_iff _).mpr (h.references u hu)
    exact Outcome.exists_bind_iff.mpr ⟨u, hu, Outcome.exists_map_iff.mpr hunescape⟩

/-- A template is filled in for a value if its items can be told and it can be filled in for
each. -/
theorem exists_render_iff {context : Value} :
    (∃ t, (render template context).result = .ok t) ↔
      ∃ items, context.items = .ok items ∧ ∀ item ∈ items, Fillable template item := by
  have hitems (items : List Value) :
      (∃ texts, (Outcome.mapList (itemText render template) items).result = .ok texts) ↔
        ∀ item ∈ items, Fillable template item :=
    Outcome.exists_mapList_iff.trans (forall₂_congr fun _ _ => exists_itemText_iff)
  -- templates inside of this one are filled in by filters, and nothing is asked of them here
  rw [render_eq]
  constructor
  · intro h
    obtain ⟨items, hread, h⟩ := Outcome.exists_bind_iff.mp h
    exact ⟨items, hread, (hitems items).mp (Outcome.exists_map_iff.mp h)⟩
  · rintro ⟨items, hread, hall⟩
    exact Outcome.exists_bind_iff.mpr
      ⟨items, hread, Outcome.exists_map_iff.mpr ((hitems items).mpr hall)⟩

end Template

/-! ## Data -/

namespace Clipper

/-- **A template is filled in for a data text** unless reading the text reaches a limit, or one of
its items makes the template fail: a text that is no JSON is an item, and no filter fails. -/
theorem render_succeeds_iff (template data : Text) :
    (∃ t, (render template data).result = .ok t) ↔
      (¬∃ f, Value.ofJson data = .error f ∧ Value.IsLimit f) ∧
        ∀ items, (Value.str data).items = .ok items →
          ∀ item ∈ items, Template.Fillable template item := by
  rw [render, Template.exists_render_iff, ← Value.exists_items_iff]
  constructor
  · rintro ⟨items, hread, hall⟩
    refine ⟨⟨items, hread⟩, fun items' hread' => ?_⟩
    obtain rfl := Except.ok.inj (hread.symm.trans hread')
    exact hall
  · rintro ⟨⟨items, hread⟩, hall⟩
    exact ⟨items, hread, hall items hread⟩

/-- A superscript is a digit and no number: an index of one is asked for, and there is no text. -/
theorem render_superscript :
    ¬∃ t, (render "$\x7ba[²]\x7d".toList "\x7b\"a\":[1]\x7d".toList).result = .ok t := by
  have hfails : (render "$\x7ba[²]\x7d".toList "\x7b\"a\":[1]\x7d".toList).result.isOk = false := by
    decide +kernel
  rintro ⟨t, ht⟩
  rw [ht] at hfails
  cases hfails

end Clipper

end Clipbook
