import Clipbook.Proofs.Template.Path
import Mathlib.Data.List.Chain
import Mathlib.Data.List.Forall2

/-!
# Clipbook — paths step by step

A path is written step by step: a key as `key` or `.key`, an index as `.0` or `[0]`.  A key without
a point of its own stands at the start, or behind a bracket or another separator, for behind a name
it would go on with that name.  More separators may stand anywhere between the steps, in front of
them and behind them.

A written path is read back into the names of its steps, so that following it means to take the
steps one after the other.  An index is the place of an item where there is a list, and the name of
a member where there is an object.

Main results:

* `keys_print` — a written path is read back.
* `WellFormed.widened` — more separators leave a path well-formed.
* `follow_names` — the names of steps lead where the steps lead.
* `at_print_and_widened` — a written path leads where its steps lead, with more separators too.
-/

namespace Clipbook

namespace Path

/-! ## Steps -/

/-- One step into a value. -/
inductive Step where
  | key (name : Text)
  | index (i : Nat)
  deriving DecidableEq

namespace Step

/-- What stands for a step in a path. -/
def name : Step → Text
  | key name => name
  | index i => Text.ofNat i

/-- A key is plain and no row of digits, and an index is not too long to be read. -/
def Writable : Step → Prop
  | key name => isPlain name = true ∧ isIndex name = false
  | index i => i < Nat.pow 10 Number.maxDigits

instance (s : Step) : Decidable s.Writable :=
  match s with
  | key _ => inferInstanceAs (Decidable (_ ∧ _))
  | index _ => inferInstanceAs (Decidable (_ < _))

/-- The name of a step that may be written is a plain key. -/
theorem Writable.isPlain_name {s : Step} (h : s.Writable) : isPlain s.name = true := by
  cases s with
  | key name => exact h.1
  | index i => exact isPlain_ofNat i

end Step

/-! ## Writing -/

/-- A step as it is written. -/
inductive Written where
  | bare (name : Text)
  | dotted (step : Step)
  | bracketed (i : Nat)

namespace Written

def step : Written → Step
  | bare name => .key name
  | dotted step => step
  | bracketed i => .index i

def text : Written → Text
  | bare name => name
  | dotted step => '.' :: step.name
  | bracketed i => '[' :: Text.ofNat i ++ [']']

def isBracketed : Written → Bool
  | bracketed _ => true
  | _ => false

end Written

/-- A written step with the separators that come before it. -/
structure Mark where
  gap : Text
  form : Written

namespace Mark

def step (m : Mark) : Step :=
  m.form.step

/-- A key with nothing in front of it. -/
def isBare : Mark → Bool
  | ⟨[], .bare _⟩ => true
  | _ => false

end Mark

/-- A text of separators. -/
def isGap (t : Text) : Bool :=
  t.all isSeparator

/-- A path of written steps, with separators at its end. -/
def print (ms : List Mark) (tail : Text) : Text :=
  ms.flatMap (fun m => m.gap ++ m.form.text) ++ tail

/-- What a path can be written of: no key goes on with the name in front of it. -/
structure WellFormed (ms : List Mark) (tail : Text) : Prop where
  writable : ∀ m ∈ ms, m.step.Writable
  gaps : ∀ m ∈ ms, isGap m.gap = true
  tail : isGap tail = true
  apart : ms.IsChain fun m n => n.isBare = true → m.form.isBracketed = true

/-! ## Reading -/

variable {ms ms' : List Mark} {m n : Mark} {w : Written} {tail t key rest : Text} {c : Char}

theorem isSeparator_of_isGap (h : isGap t = true) (hc : c ∈ t) : isSeparator c = true :=
  List.all_eq_true.mp h c hc

/-- Separators between names lead nowhere. -/
theorem keys_gap (h : isGap t = true) (rest : Text) : keys (t ++ rest) = keys rest := by
  induction t with
  | nil => rfl
  | cons c t ih =>
    have hc := isSeparator_of_isGap h (List.mem_cons_self ..)
    have ht : isGap t = true :=
      List.all_eq_true.mpr fun d hd => isSeparator_of_isGap h (List.mem_cons_of_mem _ hd)
    have hfirst : keys ([] ++ c :: (t ++ rest)) = keys [] ++ keys (t ++ rest) :=
      keys_append hc [] (t ++ rest)
    rw [← ih ht]
    exact hfirst

theorem keys_separator (hc : isSeparator c = true) (rest : Text) : keys (c :: rest) = keys rest :=
  keys_gap (List.all_eq_true.mpr (List.forall_mem_singleton.mpr hc)) rest

/-- No name goes on behind a separator. -/
theorem stops_separator (hc : isSeparator c = true) (rest : Text) :
    Text.Stops (!isSeparator ·) (c :: rest) :=
  Text.stops_cons (by rw [hc]; rfl) rest

/-- A name is read up to the separator behind it. -/
theorem keys_plain_append (hkey : isPlain key = true) (hrest : Text.Stops (!isSeparator ·) rest) :
    keys (key ++ rest) = key :: keys rest := by
  cases rest with
  | nil => rw [List.append_nil, keys_of_isPlain hkey]; rfl
  | cons c rest =>
    have hc : isSeparator c = true := by simpa using hrest c rfl
    rw [keys_append hc, keys_of_isPlain hkey, keys_separator hc]
    rfl

/-- **A written step is read back**; one in brackets brings the separator behind it along. -/
theorem keys_text (hw : w.step.Writable)
    (hrest : w.isBracketed = true ∨ Text.Stops (!isSeparator ·) rest) :
    keys (w.text ++ rest) = w.step.name :: keys rest := by
  have hplain := hw.isPlain_name
  cases w with
  | bare name =>
    have hstops := hrest.resolve_left Bool.false_ne_true
    exact keys_plain_append hplain hstops
  | dotted step =>
    have hstops := hrest.resolve_left Bool.false_ne_true
    have hname := keys_plain_append hplain hstops
    exact (keys_separator rfl _).trans hname
  | bracketed i =>
    -- both brackets are separators, and the index between them is a key
    have hname : keys (Text.ofNat i ++ ']' :: rest) = Text.ofNat i :: keys (']' :: rest) :=
      keys_plain_append hplain (stops_separator rfl rest)
    have hclose : keys (']' :: rest) = keys rest := keys_separator rfl rest
    have htext : (Written.bracketed i).text ++ rest = '[' :: (Text.ofNat i ++ ']' :: rest) := by
      simp [Written.text]
    rw [htext, keys_separator rfl, hname, hclose]
    rfl

/-- A mark is written behind its gap, and the others behind it. -/
theorem print_cons (m : Mark) (ms : List Mark) (tail : Text) :
    print (m :: ms) tail = m.gap ++ (m.form.text ++ print ms tail) := by
  simp [print]

theorem WellFormed.of_cons (h : WellFormed (m :: ms) tail) : WellFormed ms tail where
  writable n hn := h.writable n (List.mem_cons_of_mem _ hn)
  gaps n hn := h.gaps n (List.mem_cons_of_mem _ hn)
  tail := h.tail
  apart := h.apart.tail

/-- A written step begins with a separator unless it is a bare key. -/
theorem stops_mark (h : isGap m.gap = true) (hbare : m.isBare = false) (rest : Text) :
    Text.Stops (!isSeparator ·) (m.gap ++ (m.form.text ++ rest)) := by
  obtain ⟨gap, form⟩ := m
  cases gap with
  | cons c gap => exact stops_separator (isSeparator_of_isGap h (List.mem_cons_self ..)) _
  | nil =>
    cases form with
    | bare name => cases hbare
    | dotted step => exact stops_separator rfl _
    | bracketed i => exact stops_separator rfl _

/-- Behind a step comes a separator, unless the bracket at its own end is one. -/
theorem WellFormed.stops (h : WellFormed (m :: ms) tail) :
    m.form.isBracketed = true ∨ Text.Stops (!isSeparator ·) (print ms tail) := by
  cases ms with
  | nil =>
    refine .inr fun c hc => ?_
    have hseparator := isSeparator_of_isGap h.tail (List.mem_of_head? hc)
    simp [hseparator]
  | cons n ms =>
    -- the next mark is bare only if this one closes with a bracket
    have hapart := (List.isChain_cons_cons.mp h.apart).1
    cases hbare : n.isBare with
    | true => exact .inl (hapart hbare)
    | false =>
      have hgap := h.of_cons.gaps n (List.mem_cons_self ..)
      rw [print_cons]
      exact .inr (stops_mark hgap hbare _)

/-- **A written path is read back** into the names of its steps. -/
theorem keys_print (h : WellFormed ms tail) :
    keys (print ms tail) = ms.map fun m => m.step.name := by
  induction ms with
  | nil =>
    have htail := keys_gap h.tail []
    rw [List.append_nil] at htail
    exact htail
  | cons m ms ih =>
    have hgap := h.gaps m (List.mem_cons_self ..)
    have hstep := h.writable m (List.mem_cons_self ..)
    rw [print_cons, keys_gap hgap, keys_text hstep h.stops, ih h.of_cons]
    rfl

/-! ## More separators -/

/-- The same written step, with more separators before it. -/
structure Mark.Widened (m n : Mark) : Prop where
  form : n.form = m.form
  gap : m.gap.Sublist n.gap
  separators : isGap n.gap = true

/-- More separators leave no key bare that was not. -/
theorem Mark.Widened.isBare (h : m.Widened n) (hbare : n.isBare = true) : m.isBare = true := by
  obtain ⟨gap, form⟩ := m
  obtain ⟨gap', form'⟩ := n
  obtain ⟨rfl, hgap, -⟩ := h
  cases gap' with
  | cons c gap' => cases hbare
  | nil =>
    obtain rfl : gap = [] := List.sublist_nil.mp hgap
    exact hbare

/-- Wider gaps keep bare marks behind brackets. -/
theorem isChain_widened (hwide : List.Forall₂ Mark.Widened ms ms')
    (h : ms.IsChain fun m n => n.isBare = true → m.form.isBracketed = true) :
    ms'.IsChain fun m n => n.isBare = true → m.form.isBracketed = true := by
  induction hwide with
  | nil => exact .nil
  | cons hfirst hrest ih =>
    have htail := ih h.tail
    cases hrest with
    | nil => exact .singleton _
    | cons hsecond hrest =>
      refine .cons_cons (fun hbare => ?_) htail
      rw [hfirst.form]
      exact (List.isChain_cons_cons.mp h).1 (hsecond.isBare hbare)

/-- **More separators leave a path well-formed**, with the same steps. -/
theorem WellFormed.widened (h : WellFormed ms tail) (hwide : List.Forall₂ Mark.Widened ms ms')
    {tail' : Text} (htail : isGap tail' = true) :
    WellFormed ms' tail' ∧ ms'.map Mark.step = ms.map Mark.step := by
  -- each of the wider marks comes from the one in its place
  have hmarks : ∀ n ∈ ms', ∃ m ∈ ms, m.Widened n := by
    intro n hn
    obtain ⟨i, hi, rfl⟩ := List.getElem_of_mem hn
    have hi' : i < ms.length := hwide.length_eq ▸ hi
    exact ⟨ms[i], List.getElem_mem hi', hwide.get hi' hi⟩
  refine ⟨⟨fun n hn => ?_, fun n hn => ?_, htail, isChain_widened hwide h.apart⟩, ?_⟩
  · obtain ⟨m, hm, hwidened⟩ := hmarks n hn
    rw [Mark.step, hwidened.form]
    exact h.writable m hm
  · obtain ⟨m, -, hwidened⟩ := hmarks n hn
    exact hwidened.separators
  · clear h hmarks
    induction hwide with
    | nil => rfl
    | cons hfirst hrest ih =>
      rw [List.map_cons, List.map_cons, ih, Mark.step, Mark.step, hfirst.form]

end Path

/-! ## Following -/

namespace Value

variable {ms : List Path.Mark} {tail : Text}

/-- Where one step leads: an index to an item of a list, or to the member of that name; a key to
the member of that name.  From all other places it leads nowhere. -/
def enter : Value → Path.Step → Value
  | arr items, .index i => (items[i]?).getD null
  | obj members, .index i => (Table.get? (Text.ofNat i) members).getD null
  | obj members, .key name => (Table.get? name members).getD null
  | _, _ => null

/-- Where steps lead, one after the other. -/
def walk (v : Value) (steps : List Path.Step) : Value :=
  steps.foldl enter v

/-- The name of a step leads where the step leads. -/
theorem step_name {s : Path.Step} (h : s.Writable) (v : Value) :
    v.step s.name = .ok (v.enter s) := by
  cases v with
  | arr items =>
    cases s with
    | key name =>
      -- a list is asked for digits only
      obtain ⟨-, hindex⟩ := h
      rw [step, Path.Step.name, hindex]
      rfl
    | index i =>
      have hread : Number.readInt (Text.ofNat i) = .ok i := by
        rw [Number.readInt_ofNat]
        exact if_pos h
      rw [step, Path.Step.name, if_pos (Path.isIndex_ofNat i), hread]
      rfl
  | obj members => cases s <;> rfl
  | _ => cases s <;> rfl

/-- **The names of steps lead where the steps lead.** -/
theorem follow_names {steps : List Path.Step} (h : ∀ s ∈ steps, s.Writable) (v : Value) :
    v.follow (steps.map Path.Step.name) = .ok (v.walk steps) := by
  induction steps generalizing v with
  | nil => rfl
  | cons s steps ih =>
    obtain ⟨hs, hsteps⟩ := List.forall_mem_cons.mp h
    rw [List.map_cons, follow_cons, step_name hs]
    exact ih hsteps (v.enter s)

/-- The path that is written leads where its steps do. -/
theorem at_print (h : Path.WellFormed ms tail) (v : Value) :
    v.at_ (Path.print ms tail) = .ok (v.walk (ms.map Path.Mark.step)) := by
  have hsteps : ∀ s ∈ ms.map Path.Mark.step, s.Writable := by
    intro s hs
    obtain ⟨m, hm, rfl⟩ := List.mem_map.mp hs
    exact h.writable m hm
  have hnames : (ms.map fun m => m.step.name) = (ms.map Path.Mark.step).map Path.Step.name := by
    rw [List.map_map]
    rfl
  rw [at_, Path.keys_print h, hnames]
  exact follow_names hsteps v

/-- **A written path leads where its steps lead**, one after the other, and more separators between
the steps, in front of them or behind them do not change that. -/
theorem at_print_and_widened (h : Path.WellFormed ms tail) (v : Value) :
    v.at_ (Path.print ms tail) = .ok (v.walk (ms.map Path.Mark.step)) ∧
      ∀ ms' tail', List.Forall₂ Path.Mark.Widened ms ms' → tail.Sublist tail' →
        Path.isGap tail' = true → v.at_ (Path.print ms' tail') = v.at_ (Path.print ms tail) := by
  refine ⟨at_print h v, fun ms' tail' hwide _ htail => ?_⟩
  obtain ⟨h', hsteps⟩ := h.widened hwide htail
  rw [at_print h' v, at_print h v, hsteps]

/-- A key behind a bracket, and a number that names a member, without and with more separators. -/
theorem at_print_and_widened_mixed :
    let v := obj [("a".toList, arr [obj [("b".toList, obj [("10".toList, bool true)])]])]
    let ms : List Path.Mark :=
      [⟨[], .bare "a".toList⟩, ⟨[], .bracketed 0⟩, ⟨[], .bare "b".toList⟩,
        ⟨[], .dotted (.index 10)⟩]
    let wide : List Path.Mark :=
      [⟨['['], .bare "a".toList⟩, ⟨['.'], .bracketed 0⟩, ⟨['.'], .bare "b".toList⟩,
        ⟨"][".toList, .dotted (.index 10)⟩]
    Path.WellFormed ms [] ∧ Path.print ms [] = "a[0]b.10".toList ∧
      Path.print wide ['.'] = "[a.[0].b][.10.".toList ∧
        v.at_ "a[0]b.10".toList = .ok (bool true) ∧
          v.at_ "[a.[0].b][.10.".toList = .ok (bool true) := by
  intro v ms wide
  have h : Path.WellFormed ms [] :=
    ⟨by decide +kernel, by decide +kernel, by decide +kernel, by decide +kernel⟩
  have hwide : List.Forall₂ Path.Mark.Widened ms wide :=
    .cons ⟨rfl, by decide, rfl⟩ (.cons ⟨rfl, by decide, rfl⟩
      (.cons ⟨rfl, by decide, rfl⟩ (.cons ⟨rfl, by decide, rfl⟩ .nil)))
  obtain ⟨hat, hall⟩ := at_print_and_widened h v
  have hmore := hall wide ['.'] hwide (by decide) (by decide)
  exact ⟨h, rfl, rfl, hat, hmore.trans hat⟩

end Value

end Clipbook
