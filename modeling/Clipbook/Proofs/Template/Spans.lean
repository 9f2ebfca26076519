import Clipbook.Pattern.Search
import Clipbook.Proofs.Template.Pieces

/-!
# Clipbook — the expressions of any template

Reading a template finds expressions that stand in it, one behind the other, and passes over no
dollar sign with a brace behind it but for a reason: there is no path behind the brace, or the path
is not closed.  Nothing is assumed of the template.  Its quotes may be left open, and braces, bars
and dollar signs may stand anywhere.

Main results:

* `body?_eq_none_iff` — the reasons for which nothing can be read.
* `Found.pass`, `Found.cons` — what one step of the finding adds to what is found behind it.
* `found_findAll` — what reading a template finds.
-/

namespace Clipbook.Expression

variable {t rest path : Text} {filters : Option Text} {e : Expression} {es : List Expression}
  {place : Nat}

/-! ## Reasons -/

/-- Why no expression can be read behind a dollar sign and a brace. -/
inductive Unread (t : Text) : Prop
  | noPath (h : t.takeWhile isPathChar = [])
  | noEnd (h : ∀ c, (t.dropWhile isPathChar).head? = some c → c ≠ '\x7d' ∧ c ≠ '|')
  | unclosed (rest : Text) (h : t.dropWhile isPathChar = '|' :: rest) (hbrace : '\x7d' ∉ rest)

/-- **Nothing is read for one of these reasons**, and for no other. -/
theorem body?_eq_none_iff : body? t = none ↔ Unread t := by
  constructor
  · intro h
    unfold body? at h
    split at h
    · next hpath => exact .noPath hpath
    · next c rest hdrop _ =>
      split at h
      · cases h
      · next hbrace =>
        split at h
        · next hbar =>
          subst hbar
          exact .unclosed rest hdrop (filters?_eq_none_iff.mp (Option.map_eq_none_iff.mp h))
        · next hbar =>
          refine .noEnd fun d hd => ?_
          rw [hdrop] at hd
          obtain rfl := Option.some.inj hd
          exact ⟨hbrace, hbar⟩
    · next hdrop _ =>
      refine .noEnd fun d hd => ?_
      rw [hdrop] at hd
      cases hd
  · intro h
    cases hbody : body? t with
    | none => rfl
    | some r =>
      obtain ⟨path, filters⟩ := r
      obtain ⟨hne, hpath, rest, ht⟩ := eq_append_of_body? hbody
      -- behind the path stands what was read there
      have hdrop : t.dropWhile isPathChar = printedFilters filters ++ '\x7d' :: rest := by
        have hwhole := List.takeWhile_append_dropWhile (p := isPathChar) (l := t)
        rw [← hpath] at hwhole
        rw [List.append_assoc] at ht
        exact List.append_cancel_left (hwhole.trans ht)
      cases h with
      | noPath h => exact absurd (hpath.trans h) hne
      | noEnd h =>
        rw [hdrop] at h
        cases filters with
        | none => exact absurd rfl (h '\x7d' rfl).1
        | some f => exact absurd rfl (h '|' rfl).2
      | unclosed u h hbrace =>
        rw [hdrop] at h
        cases filters with
        | none => cases h
        | some f =>
          obtain ⟨-, rfl⟩ := List.cons.inj h
          exact absurd (List.mem_append_right f (List.mem_cons_self ..)) hbrace

/-! ## Expressions at their places -/

/-- An expression that stands in a text at its place, with the longest path there is. -/
structure Spans (t : Text) (e : Expression) : Prop where
  start_lt : e.start < e.stop
  stop_le : e.stop ≤ t.length
  written : Text.slice e.start e.stop t = printed e.path e.filters
  path_ne : e.path ≠ []
  path : e.path = (t.drop (e.start + 2)).takeWhile isPathChar

/-- What is found in a text from a place on: expressions that stand there, one behind the other,
and every dollar sign with a brace behind it that is not in one of them cannot be read. -/
structure Found (t : Text) (place : Nat) (es : List Expression) : Prop where
  spans : ∀ e ∈ es, Spans t e
  le_start : ∀ e ∈ es, place ≤ e.start
  apart : es.Pairwise fun d e => d.stop ≤ e.start
  complete : ∀ i rest, place ≤ i → t.drop i = '$' :: '\x7b' :: rest →
    (∃ e ∈ es, e.start ≤ i ∧ i < e.stop) ∨ Unread rest

/-- What is read at a place stands there. -/
theorem spans_of_body? (hopen : t.drop place = '$' :: '\x7b' :: rest)
    (h : body? rest = some (path, filters)) :
    Spans t ⟨place, place + length path filters, path, filters⟩ := by
  obtain ⟨hne, hpath, u, rfl⟩ := eq_append_of_body? h
  have hwritten : t.drop place = printed path filters ++ u := by
    rw [hopen]
    simp [printed]
  -- the text behind the place is as long as what is written there, at least
  have hlength : (printed path filters).length + u.length = t.length - place := by
    rw [← List.length_append, ← hwritten, List.length_drop]
  have hpos : 0 < length path filters := by
    rw [← length_printed]
    exact Nat.succ_pos _
  rw [length_printed] at hlength
  refine ⟨by dsimp only; omega, by dsimp only; omega, ?_, hne, ?_⟩
  · show Text.slice place (place + length path filters) t = printed path filters
    rw [Text.slice, hwritten, Nat.add_sub_cancel_left, ← length_printed, List.take_left]
  · show path = (t.drop (place + 2)).takeWhile isPathChar
    rw [← List.drop_drop, hopen]
    exact hpath

/-! ## Steps -/

namespace Found

/-- Behind the end nothing is found. -/
theorem nil (h : t.drop place = []) : Found t place [] := by
  refine ⟨nofun, nofun, .nil, fun i rest hi hopen => ?_⟩
  have hnone : t.drop i = [] := by
    rw [show i = place + (i - place) by omega, ← List.drop_drop, h, List.drop_nil]
  rw [hnone] at hopen
  cases hopen

/-- **A character is passed over** where no expression that can be read begins. -/
theorem pass (h : ∀ rest, t.drop place = '$' :: '\x7b' :: rest → Unread rest)
    (hes : Found t (place + 1) es) : Found t place es := by
  refine ⟨hes.spans, fun e he => ?_, hes.apart, fun i rest hi hopen => ?_⟩
  · have := hes.le_start e he
    omega
  · rcases Nat.eq_or_lt_of_le hi with rfl | hlt
    · exact .inr (h rest hopen)
    · exact hes.complete i rest hlt hopen

/-- **An expression that stands at the place** comes before those behind it. -/
theorem cons (he : Spans t e) (hstart : e.start = place) (hes : Found t e.stop es) :
    Found t place (e :: es) := by
  have hlt := he.start_lt
  refine ⟨?_, ?_, ?_, fun i rest hi hopen => ?_⟩
  · exact List.forall_mem_cons.mpr ⟨he, hes.spans⟩
  · refine List.forall_mem_cons.mpr ⟨Nat.le_of_eq hstart.symm, fun d hd => ?_⟩
    have := hes.le_start d hd
    omega
  · exact List.pairwise_cons.mpr ⟨fun d hd => hes.le_start d hd, hes.apart⟩
  · -- a dollar sign stands in the expression or behind it
    by_cases hin : i < e.stop
    · exact .inl ⟨e, List.mem_cons_self .., hstart ▸ hi, hin⟩
    · rcases hes.complete i rest (Nat.le_of_not_lt hin) hopen with ⟨d, hd, hdi⟩ | hunread
      · exact .inl ⟨d, List.mem_cons_of_mem e hd, hdi⟩
      · exact .inr hunread

end Found

/-! ## The whole reading -/

/-- What is found from a place on, whatever stands before it. -/
theorem found_findFrom (t : Text) (place : Nat) :
    Found t place (findFrom 0 place (t.drop place)) := by
  -- on what is left of the text: each of the steps leaves less of it
  induction hn : t.length - place using Nat.strongRecOn generalizing place with
  | _ n ih =>
    cases hdrop : t.drop place with
    | nil => exact .nil hdrop
    | cons c u =>
      have hlt : place < t.length := by
        have := congrArg List.length hdrop
        rw [List.length_drop, List.length_cons] at this
        omega
      have hbehind : ∀ k, 0 < k → Found t (place + k) (findFrom 0 (place + k) ((c :: u).drop k)) := by
        intro k hk
        rw [← hdrop, List.drop_drop]
        exact ih _ (by omega) (place + k) rfl
      by_cases hopen : Template.opening <+: c :: u
      · obtain ⟨rest, hrest⟩ := hopen
        rw [← hrest] at hdrop hbehind ⊢
        change t.drop place = '$' :: '\x7b' :: rest at hdrop
        cases hbody : body? rest with
        | none =>
          have hunread := body?_eq_none_iff.mp hbody
          rw [show Template.opening ++ rest = '$' :: '\x7b' :: rest from rfl,
            findFrom_of_body?_eq_none hbody]
          -- the dollar sign begins nothing, and no more does the brace behind it
          refine .pass (fun r hr => ?_) (.pass (fun r hr => ?_) (hbehind 2 Nat.two_pos))
          · obtain rfl : rest = r := by
              rw [hdrop] at hr
              exact List.cons.inj (List.cons.inj hr).2 |>.2
            exact hunread
          · rw [← List.drop_drop, hdrop] at hr
            exact absurd (List.cons.inj hr).1 (by decide)
        | some r =>
          obtain ⟨path, filters⟩ := r
          have he := spans_of_body? hdrop hbody
          have hstart := he.start_lt
          rw [show Template.opening ++ rest = '$' :: '\x7b' :: rest from rfl,
            findFrom_of_body? hbody]
          exact .cons he rfl (hbehind _ (by dsimp only at hstart; omega))
      · rw [Template.findFrom_cons_of_ne hopen]
        refine .pass (fun rest hrest => ?_) (hbehind 1 Nat.one_pos)
        rw [hdrop] at hrest
        exact absurd ⟨rest, hrest.symm⟩ hopen

/-- **What reading a template finds**: expressions that stand in it one behind the other, and all
that can be read. -/
theorem found_findAll (t : Text) : Found t 0 (findAll t) :=
  found_findFrom t 0

end Clipbook.Expression
