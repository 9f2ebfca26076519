import Clipbook.Proofs.Outcome
import Clipbook.Proofs.Scan.Factors
import Clipbook.Proofs.Template.Spans
import Clipbook.Proofs.Text.Occurrences

/-!
# Clipbook — templates in templates

A filter may fill in the template in its arguments.  That template is shorter than the one the
filter stands in, so filling in comes to an end, and how many levels a renderer is given does not
matter once there are more of them than characters.

Main results:

* `Call.length_args_le` — the arguments of a call are no longer than the chain it stands in.
* `Expression.length_filters_lt` — the filters of an expression are shorter than the template.
* `Template.itemsText_congr` — a template asks its renderer for shorter ones only.
* `Template.render_eq` — the templates inside of a template are filled in as it is itself.
-/

namespace Clipbook

/-! ## Lengths -/

namespace Text

variable {t inner : Text}

/-- What stands before something is no longer than all of it. -/
theorem length_of_before? {stop : Text} (h : before? stop t = some inner) :
    inner.length ≤ t.length := by
  rw [before?_eq_some_iff.mp h, List.length_append]
  omega

/-- What stands between marks is no longer than all of it. -/
theorem length_of_between? {opening closing : Char} (h : between? opening closing t = some inner) :
    inner.length ≤ t.length := by
  cases t with
  | nil => cases h
  | cons c body =>
    suffices inner.length ≤ body.length from Nat.le_succ_of_le this
    rw [between?] at h
    split at h
    · split at h
      · next hbefore =>
        obtain rfl := Option.some.inj h
        exact length_of_before? hbefore
      · -- before a line end at the end
        obtain ⟨front, hfront, hinner⟩ := Option.bind_eq_some_iff.mp h
        exact Nat.le_trans (length_of_before? hinner) (length_of_before? hfront)
    · cases h

theorem length_getD_between?_le (opening closing : Char) (t : Text) :
    ((between? opening closing t).getD t).length ≤ t.length := by
  cases h : between? opening closing t with
  | none => exact Nat.le_refl _
  | some inner => exact length_of_between? h

theorem length_stripQuotes_le (t : Text) : (stripQuotes t).length ≤ t.length := by
  unfold stripQuotes
  split
  · exact length_getD_between?_le ..
  · exact length_getD_between?_le ..
  · exact Nat.le_refl _

end Text

namespace Call

variable {call : Call} {chain : Text}

/-- **The arguments of a call** are no longer than the chain it stands in. -/
theorem length_args_le (h : call ∈ Call.chain chain) : call.args.length ≤ chain.length := by
  obtain ⟨part, hpart, hcall⟩ := List.mem_filterMap.mp h
  refine Nat.le_trans ?_ (Scan.length_of_mem_splitTop hpart)
  rw [ofPart?] at hcall
  split at hcall
  · cases hcall
  · rw [← Option.some.inj hcall]
    exact Nat.le_trans (Text.length_strip_le _) (List.dropWhile_sublist _).length_le

end Call

namespace Expression

variable {t f : Text} {e : Expression}

/-- **The filters of an expression** are shorter than the template it stands in. -/
theorem length_filters_lt (h : e ∈ findAll t) (hf : e.filters = some f) : f.length < t.length := by
  have hspans : Spans t e := (found_findFrom t 0).spans e h
  have hstop := hspans.stop_le
  -- the expression is as long as its path, its filters and four marks
  have hwritten := congrArg List.length hspans.written
  rw [length_printed, hf, Text.slice, List.length_take, List.length_drop] at hwritten
  simp only [length] at hwritten
  omega

end Expression

/-! ## Renderers that agree -/

/-- Two renderers do the same with templates of a length at most. -/
def Renderer.AgreeUpTo (n : Nat) (r s : Renderer) : Prop :=
  ∀ template, template.length ≤ n → r template = s template

variable {r s : Renderer}

/-- Renderers that agree up to a length agree up to a shorter one. -/
theorem Renderer.AgreeUpTo.mono {m n : Nat} (h : Renderer.AgreeUpTo n r s) (hle : m ≤ n) :
    Renderer.AgreeUpTo m r s :=
  fun template hlen => h template (Nat.le_trans hlen hle)

/-- A filter asks its renderer for what stands in its arguments, if for anything. -/
theorem Filter.apply_congr {param : Text} (h : Renderer.AgreeUpTo param.length r s) (f : Filter)
    (v : Value) : f.apply r param v = f.apply s param v := by
  cases f with
  | template =>
    -- the one filter that fills in: its template is what the parentheses and quotes hold
    have hparens : (Text.stripParens param).length ≤ param.length :=
      Text.length_getD_between?_le ..
    have hlen : (separatorOf param).length ≤ param.length :=
      Nat.le_trans (Text.length_stripQuotes_le _) hparens
    show fill r param v = fill s param v
    unfold fill
    split
    · rfl
    · rfl
    · rw [h _ hlen]
  | _ => rfl

namespace Call

/-- A call asks a renderer for templates that are no longer than its arguments. -/
theorem apply_congr {call : Call} (h : Renderer.AgreeUpTo call.args.length r s) (v : Value) :
    call.apply r v = call.apply s v := by
  rw [apply, apply]
  cases Filter.ofName? call.name with
  | none => rfl
  | some f =>
    dsimp only
    rw [Filter.apply_congr h f v]

/-- The calls of a chain ask a renderer for templates that are no longer than their arguments. -/
theorem applyAll_congr {calls : List Call}
    (h : ∀ call ∈ calls, Renderer.AgreeUpTo call.args.length r s) (v : Value) :
    applyAll r calls v = applyAll s calls v := by
  induction calls generalizing v with
  | nil => rfl
  | cons call calls ih =>
    rw [applyAll, applyAll, apply_congr (h call (List.mem_cons_self ..))]
    -- the calls behind it get the same value
    congr 1
    funext w
    exact ih (fun c hc => h c (List.mem_cons_of_mem _ hc)) w

/-- A chain asks a renderer for templates that are no longer than it is. -/
theorem applyChain_congr {chain : Text} (h : Renderer.AgreeUpTo chain.length r s) (v : Value) :
    applyChain r chain v = applyChain s chain v :=
  applyAll_congr (fun _ hcall => h.mono (length_args_le hcall)) v

end Call

namespace Expression

variable {template : Text} {e : Expression}

/-- An expression asks a renderer for templates that are no longer than its filters. -/
theorem evaluate_congr (h : Renderer.AgreeUpTo (e.filters.getD []).length r s) (item : Value) :
    evaluate r item e = evaluate s item e := by
  unfold evaluate
  congr 1
  funext v
  cases v with
  | null => rfl
  | _ => exact congrArg (· >>= _) (Call.applyChain_congr h _)

/-- What is filled in depends on the expressions that are found, and on nothing else. -/
theorem replaceFrom_congr {f g : Expression → Outcome Text} {es : List Expression}
    (h : ∀ e ∈ es, f e = g e) (place : Nat) :
    replaceFrom f template place es = replaceFrom g template place es := by
  induction es generalizing place with
  | nil => rfl
  | cons e es ih =>
    rw [replaceFrom, replaceFrom, h e (List.mem_cons_self ..),
      ih (fun d hd => h d (List.mem_cons_of_mem _ hd))]

end Expression

namespace Template

variable {template : Text}

/-- **A template asks its renderer for shorter ones only.** -/
theorem itemsText_congr (h : ∀ t, t.length < template.length → r t = s t) (context : Value) :
    itemsText r template context = itemsText s template context := by
  have hexpressions : ∀ item, ∀ e ∈ Expression.findAll template,
      Expression.evaluate r item e = Expression.evaluate s item e := by
    intro item e he
    refine Expression.evaluate_congr (fun t ht => h t ?_) item
    cases hf : e.filters with
    | none =>
      -- no filters hold the empty template only, and there is an expression in this one
      rw [hf] at ht
      have hne : template ≠ [] := by
        rintro rfl
        cases he
      exact Nat.lt_of_le_of_lt ht (List.length_pos_of_ne_nil hne)
    | some f =>
      rw [hf] at ht
      exact Nat.lt_of_le_of_lt ht (Expression.length_filters_lt he hf)
  -- what is done to the text of the expressions does not depend on the renderer
  have hitem : itemText r template = itemText s template := by
    funext item
    rw [itemText, itemText, Expression.substitute, Expression.substitute,
      Expression.replaceFrom_congr (hexpressions _)]
  rw [itemsText, itemsText, hitem]

/-- Levels beyond the length of a template do not change what it is filled in with. -/
theorem renderWithin_eq {levels : Nat} (h : template.length < levels) :
    renderWithin levels template = render template := by
  -- on the length of the template: what stands in its arguments is shorter
  induction hn : template.length using Nat.strongRecOn generalizing template levels with
  | _ n ih =>
    obtain ⟨levels, rfl⟩ := Nat.exists_eq_add_of_lt (Nat.zero_lt_of_lt h)
    rw [Nat.zero_add] at h ⊢
    funext context
    rw [render, renderWithin, renderWithin]
    -- both are asked for shorter templates, where they have levels enough
    refine itemsText_congr (fun t ht => ?_) context
    rw [ih t.length (hn ▸ ht) (by omega) rfl, ih t.length (hn ▸ ht) ht rfl]

/-- **The templates inside of a template** are filled in as it is itself. -/
theorem render_eq (template : Text) (context : Value) :
    render template context = itemsText render template context :=
  itemsText_congr (fun _ ht => renderWithin_eq ht) context

end Template

end Clipbook
