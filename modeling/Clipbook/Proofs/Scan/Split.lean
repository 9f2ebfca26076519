import Clipbook.Proofs.Scan.Run
import Clipbook.Scan.Split
import Clipbook.Template.Expression

/-!
# Clipbook — splitting joined parts

A part is a text without a separator that splits, after which the scan splits.  Splitting parts
that were joined gives the parts back, and the scan of each is a scan from the start: what is open
does not carry over from one part to the next.

Main results:

* `pass_join` — one pass over joined parts finds the parts.
* `splitTop_join` — splitting trimmed parts that were joined gives them back.
* `splitPair_part` — a pair is split behind its first part.
* `untilBrace?_append` — filters go on to the brace behind them.
-/

namespace Clipbook.Scan

variable {sep : Char} {regexes : Bool} {s : Scan} {t u : Text}

/-- A text that a separator behind it ends, and none inside of it. -/
structure Part (sep : Char) (regexes : Bool) (t : Text) : Prop where
  solid : solid sep (start regexes) t = true
  splits : ((start regexes).run t).splits = true

/-- Where a scan splits nothing is open, so without what it has read it is at its start. -/
theorem eq_start_of_splits (h : s.splits = true) :
    { s with read := [] } = start s.regexes := by
  have htop := (splits_iff.mp h).1
  simp only [atTop, Bool.and_eq_true, Bool.not_eq_true', Option.isNone_iff_eq_none,
    decide_eq_true_eq] at htop
  obtain ⟨⟨⟨hquote, hregex⟩, hcurly⟩, hparen⟩ := htop
  cases s
  simp only at hquote hregex hcurly hparen
  subst hquote hregex hcurly hparen
  rfl

/-! ## Lists -/

/-- A solid text at the front is passed in one piece. -/
theorem passFrom_append (h : solid sep s t = true) (u : Text) :
    passFrom sep s (t ++ u) = passFrom sep (s.run t) u := by
  induction t generalizing s with
  | nil => rfl
  | cons c t ih =>
    obtain ⟨hgo, ht⟩ := solid_cons_iff.mp h
    rw [List.cons_append, passFrom, if_neg hgo, ih ht]
    rfl

theorem passFrom_solid (h : solid sep s t = true) : passFrom sep s t = ([], s.run t) := by
  have := passFrom_append h []
  rwa [List.append_nil] at this

/-- A separator at the top ends a piece, and the next one starts anew. -/
theorem passFrom_sep (h : s.splits = true) (u : Text) :
    passFrom sep s (sep :: u) =
      (s.text :: (pass sep s.regexes u).1, (pass sep s.regexes u).2) := by
  rw [passFrom, if_pos ⟨rfl, h⟩, eq_start_of_splits h]
  rfl

theorem text_run_start (regexes : Bool) (t : Text) : ((start regexes).run t).text = t := by
  rw [text, read_run, List.reverse_append, List.reverse_reverse]
  rfl

/-- A piece and its separator are taken off the front. -/
theorem pass_part_cons (h : Part sep regexes t) (u : Text) :
    pass sep regexes (t ++ sep :: u) =
      (t :: (pass sep regexes u).1, (pass sep regexes u).2) := by
  rw [pass, passFrom_append h.solid, passFrom_sep h.splits, text_run_start, regexes_run]
  rfl

/-- **One pass over joined parts finds the parts.**  The last one need not come to an end. -/
theorem pass_join {ps : List Text} (h : ∀ p ∈ ps, Part sep regexes p) {last : Text}
    (hlast : solid sep (start regexes) last = true) :
    pass sep regexes (Text.join [sep] (ps ++ [last])) = (ps, (start regexes).run last) := by
  induction ps with
  | nil =>
    -- only the last part is left, whose scan is kept
    exact passFrom_solid hlast
  | cons p ps ih =>
    have hrest := ih fun q hq => h q (List.mem_cons_of_mem _ hq)
    rw [List.cons_append, Text.join_cons_concat, List.append_assoc, List.singleton_append,
      pass_part_cons (h p (List.mem_cons_self ..)), hrest]

/-- Where texts are split, no pattern is open. -/
theorem inRegex_of_splits (h : s.splits = true) : s.inRegex = false := by
  have htop := (splits_iff.mp h).1
  simp only [atTop, Bool.and_eq_true, Bool.not_eq_true'] at htop
  exact htop.1.1.2

/-- **Splitting joined parts gives the parts back**, where they are trimmed and not empty. -/
theorem splitTop_join {ps : List Text} (h : ∀ p ∈ ps, Part sep regexes p)
    (hne : ∀ p ∈ ps, p ≠ []) (htrim : ∀ p ∈ ps, Text.Trimmed p) :
    splitTop sep regexes (Text.join [sep] ps) = ps := by
  rcases List.eq_nil_or_concat ps with rfl | ⟨init, last, rfl⟩
  · rfl
  · rw [List.concat_eq_append] at *
    have hlast : last ∈ init ++ [last] := by simp
    have hpass := pass_join (fun p hp => h p (List.mem_append_left _ hp)) (h last hlast).solid
    -- the last part is not dropped: something of it was read
    have hread : ((start regexes).run last).read ≠ [] := by
      rw [read_run]
      simpa [start] using hne last hlast
    -- no pattern is left open, so the pass is not made again without patterns
    rw [splitTop, hpass, inRegex_of_splits (h last hlast).splits, if_neg Bool.false_ne_true,
      parts, if_neg hread, text_run_start]
    calc (init ++ [last]).map Text.strip
      _ = (init ++ [last]).map id := List.map_congr_left fun p hp => Text.strip_eq_self (htrim p hp)
      _ = init ++ [last] := List.map_id _

/-! ## Pairs -/

/-- A solid text at the front is passed in looking for the cut. -/
theorem cutFrom_append (h : solid sep s t = true) (before u : Text) :
    cutFrom sep s before (t ++ u) = cutFrom sep (s.run t) (t.reverse ++ before) u := by
  induction t generalizing s before with
  | nil => rfl
  | cons c t ih =>
    obtain ⟨hgo, ht⟩ := solid_cons_iff.mp h
    rw [List.cons_append, cutFrom, if_neg hgo, ih ht, List.reverse_cons, List.append_assoc]
    rfl

theorem splitPair_part (h : Part sep regexes t) (u : Text) :
    splitPair sep regexes (t ++ sep :: u) = (Text.strip t, some (Text.strip u)) := by
  rw [splitPair, cutFrom_append h.solid, cutFrom, if_pos ⟨rfl, h.splits⟩]
  simp

/-! ## Braces -/

/-- Filters go on to the first brace behind them that closes. -/
theorem untilBrace?_append (h : solid '\x7d' s t = true) (hend : (s.run t).splits = true)
    (u : Text) : Expression.untilBrace? s (t ++ '\x7d' :: u) = some t := by
  induction t generalizing s with
  | nil => exact if_pos ⟨rfl, hend⟩
  | cons c t ih =>
    obtain ⟨hgo, ht⟩ := solid_cons_iff.mp h
    rw [List.cons_append, Expression.untilBrace?, if_neg hgo, ih ht hend]
    rfl

end Clipbook.Scan
