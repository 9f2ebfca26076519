import Clipbook.Note.Filling
import Clipbook.Proofs.Text.Runs
import Mathlib.Data.List.Nodup
import Mathlib.Data.List.TakeWhile

/-!
# Clipbook — texts with slots are filled in by one pass

`Note.fill` collects the expressions and the placeholders of a text apart, sorts them by their
places and leaves out those that start inside of an earlier one.  `Note.fillOnce` walks the text
from left to right and decides at each place what starts there.  The two agree on every text.

Neither collection hides a slot from the walk, for two reasons: no slot starts inside of a
placeholder, and where a placeholder starts inside of an expression and reaches beyond its end,
no other placeholder starts in the part that reaches beyond.

Main results:

* `placeholder?_eq_some_iff` — a placeholder is a name without braces in double braces.
* `slots_eq_interleaved` — the sorted slots are those of two scans running side by side.
* `fill_eq_fillOnce` — filling in slots is one pass over the text.
-/

namespace Clipbook.Note

/-! ## One pass -/

/-- The expression at the start of a text, with its place. -/
def expressionAt? (place : Nat) : Text → Option Slot
  | '$' :: '\x7b' :: t =>
    (Expression.body? t).map fun b =>
      .expression ⟨place, place + Expression.length b.1 b.2, b.1, b.2⟩
  | _ => none

/-- The placeholder at the start of a text, with its place. -/
def placeholderAt? (place : Nat) (t : Text) : Option Slot :=
  (placeholder? t).map (.placeholder place)

/-- What starts at a place: an expression, else a placeholder. -/
def slotAt? (place : Nat) (t : Text) : Option Slot :=
  (expressionAt? place t).or (placeholderAt? place t)

/-- A text from a place on, filled in by one pass: the slot that starts at the place is replaced
and passed over, and where none starts the character is copied. -/
def fillOnce (words : Variables) (place : Nat) : Text → Outcome Text
  | [] => .ok []
  | c :: t =>
    match slotAt? place (c :: t) with
    | some s => do
      let image ← image words s
      return image ++ (← fillOnce words s.stop (t.drop (s.stop - (place + 1))))
    | none => return c :: (← fillOnce words (place + 1) t)
  termination_by t => t.length

/-! ## Placeholders -/

/-- A placeholder is a name in double braces. -/
theorem placeholder?_eq_some_iff {t token : Text} :
    placeholder? t = some token ↔
      ∃ name rest, name ≠ [] ∧ (∀ c ∈ name, isBrace c = false) ∧ token = Text.braced name ∧
        t = token ++ rest := by
  constructor
  · intro h
    unfold placeholder? at h
    split at h
    · next u =>
      have hu := List.takeWhile_append_dropWhile (p := fun c => !isBrace c) (l := u)
      have hname : ∀ c ∈ u.takeWhile fun c => !isBrace c, isBrace c = false := fun c hc => by
        simpa using List.mem_takeWhile_imp hc
      split at h
      · cases h
      · next rest hdrop hne =>
        rw [hdrop] at hu
        cases h
        refine ⟨_, rest, hne, hname, rfl, ?_⟩
        conv_lhs => rw [← hu]
        simp [Text.braced]
      · cases h
    · cases h
  · rintro ⟨name, rest, hne, hname, rfl, rfl⟩
    have hall : ∀ c ∈ name, (!isBrace c) = true := fun c hc => by simp [hname c hc]
    obtain ⟨htake, hdrop⟩ := Text.span_run_cons hall (by decide : (!isBrace '\x7d') = false)
      ('\x7d' :: rest)
    -- the name is all up to the first brace, and two closing ones follow it
    have hbraced : Text.braced name ++ rest =
        '\x7b' :: '\x7b' :: (name ++ '\x7d' :: '\x7d' :: rest) := by
      simp [Text.braced]
    rw [hbraced, placeholder?, htake, hdrop]
    cases name with
    | nil => exact absurd rfl hne
    | cons c name => rfl

/-- A placeholder has a name of at least one character between its braces. -/
theorem length_of_placeholder? {t token : Text} (h : placeholder? t = some token) :
    5 ≤ token.length := by
  obtain ⟨name, rest, hne, -, rfl, -⟩ := placeholder?_eq_some_iff.mp h
  have := List.length_pos_iff.mpr hne
  simp only [Text.braced, List.length_cons, List.length_append, List.length_nil]
  omega

/-- Behind its second character a placeholder has no opening brace. -/
theorem getElem?_of_placeholder? {t token : Text} (h : placeholder? t = some token) {i : Nat}
    (hi : 2 ≤ i) (hlt : i < token.length) :
    t[i]? ≠ some '\x7b' ∧ (t[i]? = some '$' → i + 2 < token.length) := by
  obtain ⟨name, rest, -, hname, rfl, rfl⟩ := placeholder?_eq_some_iff.mp h
  obtain ⟨j, rfl⟩ : ∃ j, i = j + 2 := ⟨i - 2, by omega⟩
  have hlen : (Text.braced name).length = name.length + 4 := by simp [Text.braced]
  -- behind the two opening braces stand the name and the closing ones
  have hget : (Text.braced name ++ rest)[j + 2]? = (name ++ ['\x7d', '\x7d'])[j]? := by
    rw [List.getElem?_append_left (by omega)]
    simp [Text.braced]
  rw [hget]
  rcases Nat.lt_or_ge j name.length with hj | hj
  · rw [List.getElem?_append_left hj, List.getElem?_eq_getElem hj]
    have hbrace := hname _ (List.getElem_mem hj)
    refine ⟨fun heq => ?_, fun _ => by omega⟩
    rw [Option.some.inj heq] at hbrace
    simp [isBrace] at hbrace
  · -- only the two closing braces are left
    have hj' : j = name.length ∨ j = name.length + 1 := by omega
    rcases hj' with rfl | rfl <;> simp

/-- No placeholder starts inside of a placeholder. -/
theorem placeholderAt?_drop_of_inside {t token : Text} (h : placeholder? t = some token)
    (place : Nat) {i : Nat} (hi : 0 < i) (hlt : i < token.length) :
    placeholderAt? place (t.drop i) = none := by
  rw [placeholderAt?, Option.map_eq_none_iff]
  by_contra hne
  obtain ⟨inner, hinner⟩ := Option.ne_none_iff_exists'.mp hne
  obtain ⟨name, rest, -, -, rfl, hdrop⟩ := placeholder?_eq_some_iff.mp hinner
  have hlen := length_of_placeholder? h
  have hget (j : Nat) : t[i + j]? = (Text.braced name ++ rest)[j]? := by
    rw [← List.getElem?_drop, hdrop]
  have hzero : t[i]? = some '\x7b' := hget 0
  have hone : t[i + 1]? = some '\x7b' := hget 1
  -- one of the two opening braces stands behind the second character
  by_cases h2 : 2 ≤ i
  · exact (getElem?_of_placeholder? h h2 hlt).1 hzero
  · exact (getElem?_of_placeholder? h (by omega) (by omega)).1 hone

/-- No expression starts inside of a placeholder. -/
theorem expressionAt?_drop_of_inside {t token : Text} (h : placeholder? t = some token)
    (place : Nat) {i : Nat} (hi : 0 < i) (hlt : i < token.length) :
    expressionAt? place (t.drop i) = none := by
  unfold expressionAt?
  split
  · next rest hdrop =>
    have hget (j : Nat) : t[i + j]? = ('$' :: '\x7b' :: rest)[j]? := by
      rw [← List.getElem?_drop, hdrop]
    have hzero : t[i]? = some '$' := hget 0
    have hone : t[i + 1]? = some '\x7b' := hget 1
    by_cases h2 : 2 ≤ i
    · have hdollar := (getElem?_of_placeholder? h h2 hlt).2 hzero
      exact absurd hone (getElem?_of_placeholder? h (by omega) (by omega)).1
    · -- the second character of a placeholder is a brace
      obtain ⟨name, rest', -, -, rfl, rfl⟩ := placeholder?_eq_some_iff.mp h
      obtain rfl : i = 1 := by omega
      simp [Text.braced] at hzero
  · rfl

/-! ## Scans

A scan for one kind of slot passes over the characters of each slot it finds. -/

/-- What a scan finds at a place where `skip` characters are still to be passed over. -/
def foundAt : (skip : Nat) → Option Slot → List Slot
  | 0, found => found.toList
  | _ + 1, _ => []

/-- The number of characters to be passed over from the next place on. -/
def skipAfter (place : Nat) (found : Option Slot) : (skip : Nat) → Nat
  | 0 => (found.map fun s => s.stop - (place + 1)).getD 0
  | n + 1 => n

/-- The slots of one kind from a place on. -/
def scanFrom (find? : Nat → Text → Option Slot) (skip place : Nat) : Text → List Slot
  | [] => []
  | c :: t =>
    foundAt skip (find? place (c :: t))
      ++ scanFrom find? (skipAfter place (find? place (c :: t)) skip) (place + 1) t

/-- The slots of both kinds from a place on, found by two scans that run side by side. -/
def interleaved (skipE skipP place : Nat) : Text → List Slot
  | [] => []
  | c :: t =>
    foundAt skipE (expressionAt? place (c :: t))
      ++ (foundAt skipP (placeholderAt? place (c :: t))
        ++ interleaved (skipAfter place (expressionAt? place (c :: t)) skipE)
          (skipAfter place (placeholderAt? place (c :: t)) skipP) (place + 1) t)

/-- A scan passes over what it is told to. -/
theorem scanFrom_skip (find? : Nat → Text → Option Slot) (n place : Nat) (t : Text) :
    scanFrom find? n place t = scanFrom find? 0 (place + n) (t.drop n) := by
  induction n generalizing place t with
  | zero => rfl
  | succ n ih =>
    cases t with
    | nil => rfl
    | cons c t =>
      rw [scanFrom, List.drop_succ_cons, show place + (n + 1) = place + 1 + n by omega, ← ih]
      rfl

/-- A scan goes on where nothing starts. -/
theorem scanFrom_of_none {find? : Nat → Text → Option Slot} {n place : Nat} {t : Text}
    (h : ∀ i < n, find? (place + i) (t.drop i) = none) :
    scanFrom find? 0 place t = scanFrom find? 0 (place + n) (t.drop n) := by
  induction n generalizing place t with
  | zero => rfl
  | succ n ih =>
    cases t with
    | nil => rfl
    | cons c t =>
      -- one character is passed, and the places behind it move by one
      have hhead : find? place (c :: t) = none := h 0 (Nat.succ_pos n)
      have htail : ∀ i < n, find? (place + 1 + i) (t.drop i) = none := by
        intro i hi
        have := h (i + 1) (Nat.succ_lt_succ hi)
        rwa [List.drop_succ_cons, show place + (i + 1) = place + 1 + i by omega] at this
      rw [scanFrom, hhead, List.drop_succ_cons, show place + (n + 1) = place + 1 + n by omega]
      exact ih htail

/-- Where no expression opens, a scan for expressions goes on to the next place. -/
theorem expressionScan_of_not_open {c : Char} {t : Text}
    (h : ∀ rest, c = '$' → t = '\x7b' :: rest → False) (place : Nat) :
    scanFrom expressionAt? 0 place (c :: t) = scanFrom expressionAt? 0 (place + 1) t := by
  have hnone : expressionAt? place (c :: t) = none := by
    rw [expressionAt?]
    intro rest heq
    injection heq with hc ht
    exact h rest hc ht
  rw [scanFrom, hnone]
  rfl

/-- The expressions of a text are found by looking for one slot after the other. -/
theorem map_findFrom (skip place : Nat) (t : Text) :
    (Expression.findFrom skip place t).map .expression = scanFrom expressionAt? skip place t := by
  induction t generalizing skip place with
  | nil => rfl
  | cons c t ih =>
    cases skip with
    | succ n =>
      rw [Expression.findFrom, ih]
      rfl
    | zero =>
      by_cases hopen : ∃ rest, c = '$' ∧ t = '\x7b' :: rest
      · obtain ⟨rest, rfl, rfl⟩ := hopen
        rw [Expression.findFrom, scanFrom, expressionAt?]
        cases hbody : Expression.body? rest with
        | some b =>
          have hskip : place + Expression.length b.1 b.2 - (place + 1) =
              Expression.length b.1 b.2 - 1 := by omega
          simp [foundAt, skipAfter, Slot.stop, hskip, ih]
        | none =>
          -- the brace that is passed over starts no expression
          simp [foundAt, skipAfter, ih, scanFrom, expressionAt?]
      · have hno : ∀ rest, c = '$' → t = '\x7b' :: rest → False := fun rest hc ht =>
          hopen ⟨rest, hc, ht⟩
        rw [expressionScan_of_not_open hno, ← ih]
        congr 1
        rw [Expression.findFrom]
        exact hno

/-- The placeholders of a text are found by looking for one slot after the other. -/
theorem placeholdersFrom_eq (skip place : Nat) (t : Text) :
    placeholdersFrom skip place t = scanFrom placeholderAt? skip place t := by
  induction t generalizing skip place with
  | nil => rfl
  | cons c t ih =>
    cases skip with
    | succ n =>
      rw [placeholdersFrom, ih]
      rfl
    | zero =>
      rw [placeholdersFrom, scanFrom, placeholderAt?]
      cases placeholder? (c :: t) with
      | some token =>
        -- the rest of the token is passed by counting down
        have hskip : place + token.length - (place + 1) = token.length - 1 := by omega
        simp [foundAt, skipAfter, Slot.stop, ih, hskip]
      | none => simp [foundAt, skipAfter, ih]

/-- Looking for both kinds at once finds the slots of both. -/
theorem interleaved_perm (skipE skipP place : Nat) (t : Text) :
    (interleaved skipE skipP place t).Perm
      (scanFrom expressionAt? skipE place t ++ scanFrom placeholderAt? skipP place t) := by
  induction t generalizing skipE skipP place with
  | nil => exact .refl _
  | cons c t ih =>
    rw [interleaved, scanFrom, scanFrom, List.append_assoc]
    refine List.Perm.append_left _ ?_
    refine (List.Perm.append_left _ (ih ..)).trans ?_
    rw [← List.append_assoc, ← List.append_assoc]
    exact List.Perm.append_right _ List.perm_append_comm

/-! ## Slots in order -/

/-- An expression is found where it starts, and takes at least one character. -/
theorem bounds_of_expressionAt? {place : Nat} {t : Text} {s : Slot}
    (h : expressionAt? place t = some s) : s.start = place ∧ place < s.stop := by
  unfold expressionAt? at h
  split at h
  · obtain ⟨b, -, rfl⟩ := Option.map_eq_some_iff.mp h
    refine ⟨rfl, ?_⟩
    simp only [Slot.stop, Expression.length]
    split <;> omega
  · cases h

/-- A placeholder is found where it starts, and takes at least one character. -/
theorem bounds_of_placeholderAt? {place : Nat} {t : Text} {s : Slot}
    (h : placeholderAt? place t = some s) : s.start = place ∧ place < s.stop := by
  obtain ⟨token, htoken, rfl⟩ := Option.map_eq_some_iff.mp h
  have hlen := length_of_placeholder? htoken
  refine ⟨rfl, ?_⟩
  simp only [Slot.stop]
  omega

/-- An expression and a placeholder do not start at one place. -/
theorem placeholderAt?_of_expressionAt? {place : Nat} {t : Text} {s : Slot}
    (h : expressionAt? place t = some s) : placeholderAt? place t = none := by
  unfold expressionAt? at h
  split at h
  · rfl
  · cases h

theorem foundAt_none (skip : Nat) : foundAt skip none = [] := by
  cases skip <;> rfl

/-- What is found at a place is the one slot there. -/
theorem mem_foundAt {skip : Nat} {found : Option Slot} {s : Slot} (h : s ∈ foundAt skip found) :
    found = some s := by
  cases skip with
  | zero => simpa [foundAt] using h
  | succ n => simp [foundAt] at h

/-- No slot is found before the place from which one looks. -/
theorem le_start_of_mem_interleaved {skipE skipP place : Nat} {t : Text} {s : Slot}
    (h : s ∈ interleaved skipE skipP place t) : place ≤ s.start := by
  induction t generalizing skipE skipP place with
  | nil => simp [interleaved] at h
  | cons c t ih =>
    rw [interleaved, List.mem_append, List.mem_append] at h
    rcases h with h | h | h
    · exact (bounds_of_expressionAt? (mem_foundAt h)).1.ge
    · exact (bounds_of_placeholderAt? (mem_foundAt h)).1.ge
    · have := ih h
      omega

/-- Slots are found in the order in which they start. -/
theorem interleaved_pairwise (skipE skipP place : Nat) (t : Text) :
    (interleaved skipE skipP place t).Pairwise fun r s => r.start < s.start := by
  induction t generalizing skipE skipP place with
  | nil => exact .nil
  | cons c t ih =>
    -- at most one slot is found at a place
    have hsingle : ∀ skip found, (foundAt skip found).Pairwise fun r s => r.start < s.start := by
      intro skip found
      cases skip <;> cases found <;> simp [foundAt]
    have hlater : ∀ r : Slot, r.start = place → ∀ s ∈ interleaved
        (skipAfter place (expressionAt? place (c :: t)) skipE)
        (skipAfter place (placeholderAt? place (c :: t)) skipP) (place + 1) t,
        r.start < s.start := by
      intro r hr s hs
      have := le_start_of_mem_interleaved hs
      omega
    rw [interleaved, List.pairwise_append, List.pairwise_append]
    refine ⟨hsingle .., ⟨hsingle .., ih .., ?_⟩, ?_⟩
    · intro r hr s hs
      exact hlater r (bounds_of_placeholderAt? (mem_foundAt hr)).1 s hs
    · intro r hr s hs
      have hfound := mem_foundAt hr
      rcases List.mem_append.mp hs with hs | hs
      · rw [placeholderAt?_of_expressionAt? hfound] at hs
        exact absurd (mem_foundAt hs) (by simp)
      · exact hlater r (bounds_of_expressionAt? hfound).1 s hs

/-- **Sorting the slots interleaves the scans.** -/
theorem slots_eq_interleaved (t : Text) : slots t = interleaved 0 0 0 t := by
  have hlt := interleaved_pairwise 0 0 0 t
  have hperm : (slots t).Perm (interleaved 0 0 0 t) := by
    rw [slots, Expression.findAll, map_findFrom, placeholdersFrom_eq]
    exact (List.mergeSort_perm ..).trans (interleaved_perm 0 0 0 t).symm
  have hsorted : (slots t).Pairwise fun r s => decide (r.start ≤ s.start) = true := by
    apply List.pairwise_mergeSort
    · intro r s u hrs hsu
      simp only [decide_eq_true_eq] at *
      omega
    · intro r s
      simp only [Bool.or_eq_true, decide_eq_true_eq]
      omega
  have hle : (interleaved 0 0 0 t).Pairwise fun r s => decide (r.start ≤ s.start) = true :=
    hlt.imp fun h => decide_eq_true (Nat.le_of_lt h)
  refine List.Perm.eq_of_pairwise (fun r s hr hs hrs hsr => ?_) hsorted hle hperm
  -- slots with one start are one slot
  have hnodup : ((interleaved 0 0 0 t).map Slot.start).Nodup := by
    rw [List.Nodup, List.pairwise_map]
    exact hlt.imp fun h => Nat.ne_of_lt h
  exact List.inj_on_of_nodup_map hnodup (hperm.subset hr) hs
    (Nat.le_antisymm (of_decide_eq_true hrs) (of_decide_eq_true hsr))

/-! ## The pass

While the pass jumps over a slot, the scans go on beside it.  `Aligned` says what they may still
find then: the scan for expressions nothing before the end of the slot, and the scan for
placeholders nothing that it would have found behind the end. -/

/-- What is known at a place where the pass has `jump` characters before it that belong to a
slot already filled in. -/
structure Aligned (skipE skipP jump place : Nat) (t : Text) : Prop where
  skipE_le : skipE ≤ jump
  expression : ∀ i, skipE ≤ i → i < jump → expressionAt? (place + i) (t.drop i) = none
  placeholder : ∀ i, jump ≤ i → i < skipP → placeholderAt? (place + i) (t.drop i) = none

/-- At the start of a text nothing has been skipped. -/
theorem aligned_start (place : Nat) (t : Text) : Aligned 0 0 0 place t :=
  ⟨Nat.le_refl 0, fun i _ hi => absurd hi (by omega), fun i _ hi => absurd hi (by omega)⟩

section Aligned

variable {skipE skipP jump place : Nat} {c : Char} {t : Text} {s : Slot}

/-- No expression starts where a slot is being skipped. -/
theorem Aligned.expression_tail (h : Aligned skipE skipP jump place (c :: t)) {i : Nat}
    (hlo : skipE ≤ i + 1) (hhi : i + 1 < jump) :
    expressionAt? (place + 1 + i) (t.drop i) = none := by
  have := h.expression (i + 1) hlo hhi
  rwa [List.drop_succ_cons, show place + (i + 1) = place + 1 + i by omega] at this

/-- No placeholder starts where a slot is being skipped. -/
theorem Aligned.placeholder_tail (h : Aligned skipE skipP jump place (c :: t)) {i : Nat}
    (hlo : jump ≤ i + 1) (hhi : i + 1 < skipP) :
    placeholderAt? (place + 1 + i) (t.drop i) = none := by
  have := h.placeholder (i + 1) hlo hhi
  rwa [List.drop_succ_cons, show place + (i + 1) = place + 1 + i by omega] at this

/-- A placeholder is passed over by its own length, and nothing starts inside of it. -/
theorem inside_of_placeholderAt? (h : placeholderAt? place (c :: t) = some s) {i : Nat}
    (hi : i < s.stop - (place + 1)) :
    expressionAt? (place + 1 + i) (t.drop i) = none ∧
      placeholderAt? (place + 1 + i) (t.drop i) = none := by
  obtain ⟨token, htoken, rfl⟩ := Option.map_eq_some_iff.mp h
  simp only [Slot.stop] at hi
  exact ⟨expressionAt?_drop_of_inside htoken _ (Nat.succ_pos i) (by omega),
    placeholderAt?_drop_of_inside htoken _ (Nat.succ_pos i) (by omega)⟩

/-- One place further on inside of a slot that the pass jumps over. -/
theorem Aligned.jumping (h : Aligned skipE skipP (jump + 1) place (c :: t)) :
    Aligned (skipAfter place (expressionAt? place (c :: t)) skipE)
      (skipAfter place (placeholderAt? place (c :: t)) skipP) jump (place + 1) t := by
  have hle := h.skipE_le
  refine ⟨?_, fun i hlo hhi => ?_, fun i hlo hhi => ?_⟩
  · cases skipE with
    | zero =>
      have hnone : expressionAt? place (c :: t) = none :=
        h.expression 0 (Nat.le_refl 0) (Nat.succ_pos jump)
      rw [hnone]
      exact Nat.zero_le jump
    | succ n => simp only [skipAfter]; omega
  · cases skipE with
    | zero => exact h.expression_tail (Nat.zero_le _) (by omega)
    | succ n => exact h.expression_tail (Nat.succ_le_succ hlo) (by omega)
  · cases skipP with
    | succ n => exact h.placeholder_tail (by omega) (Nat.succ_lt_succ hhi)
    | zero =>
      -- a placeholder that starts here hides nothing behind the end of the slot
      cases hfound : placeholderAt? place (c :: t) with
      | none => rw [hfound] at hhi; exact absurd hhi (Nat.not_lt_zero i)
      | some s =>
        rw [hfound] at hhi
        exact (inside_of_placeholderAt? hfound hhi).2

/-- The pass comes to an expression. -/
theorem Aligned.expressionFound (h : Aligned skipE skipP 0 place (c :: t))
    (hfound : expressionAt? place (c :: t) = some s) :
    Aligned (s.stop - (place + 1)) (skipAfter place (placeholderAt? place (c :: t)) skipP)
      (s.stop - (place + 1)) (place + 1) t := by
  refine ⟨Nat.le_refl _, fun i hlo hhi => absurd hhi (Nat.not_lt.mpr hlo), fun i hlo hhi => ?_⟩
  cases skipP with
  | succ n => exact h.placeholder_tail (Nat.zero_le _) (Nat.succ_lt_succ hhi)
  | zero =>
    rw [placeholderAt?_of_expressionAt? hfound] at hhi
    exact absurd hhi (Nat.not_lt_zero i)

/-- The pass comes to a placeholder. -/
theorem aligned_of_placeholderFound (hfound : placeholderAt? place (c :: t) = some s) :
    Aligned 0 (s.stop - (place + 1)) (s.stop - (place + 1)) (place + 1) t :=
  ⟨Nat.zero_le _, fun _ _ hhi => (inside_of_placeholderAt? hfound hhi).1,
    fun _ hlo hhi => absurd hhi (Nat.not_lt.mpr hlo)⟩

/-- The pass comes to a character that starts nothing. -/
theorem Aligned.nothingFound (h : Aligned skipE skipP 0 place (c :: t))
    (hfound : placeholderAt? place (c :: t) = none) :
    Aligned 0 (skipAfter place (placeholderAt? place (c :: t)) skipP) 0 (place + 1) t := by
  refine ⟨Nat.le_refl 0, fun i _ hhi => absurd hhi (Nat.not_lt_zero i), fun i hlo hhi => ?_⟩
  cases skipP with
  | succ n => exact h.placeholder_tail (Nat.zero_le _) (Nat.succ_lt_succ hhi)
  | zero => rw [hfound] at hhi; exact absurd hhi (Nat.not_lt_zero i)

/-- The scan for placeholders does not miss one that the pass comes to. -/
theorem Aligned.skipP_eq_zero (h : Aligned skipE skipP 0 place (c :: t))
    (hfound : placeholderAt? place (c :: t) = some s) : skipP = 0 := by
  by_contra hne
  have := h.placeholder 0 (Nat.le_refl 0) (Nat.pos_of_ne_zero hne)
  rw [Nat.add_zero, List.drop_zero, hfound] at this
  cases this

end Aligned

theorem slice_of_le {start stop : Nat} (h : stop ≤ start) (t : Text) :
    Text.slice start stop t = [] := by
  simp [Text.slice, Nat.sub_eq_zero_of_le h]

theorem slice_succ {start place : Nat} {full t : Text} {c : Char} (h : start ≤ place)
    (hfull : full.drop place = c :: t) :
    Text.slice start (place + 1) full = Text.slice start place full ++ [c] := by
  have hget : (full.drop start)[place - start]? = some c := by
    rw [List.getElem?_drop, show start + (place - start) = place by omega,
      ← Nat.add_zero place, ← List.getElem?_drop, hfull]
    rfl
  rw [Text.slice, Text.slice, show place + 1 - start = place - start + 1 by omega,
    List.take_add_one, hget]
  rfl

/-- Slots that start inside of what is already written are left out. -/
theorem fillFrom_append_of_lt (f : Slot → Outcome Text) (full : Text) {pos : Nat}
    {inside : List Slot} (h : ∀ s ∈ inside, s.start < pos) (rest : List Slot) :
    fillFrom f full pos (inside ++ rest) = fillFrom f full pos rest := by
  induction inside with
  | nil => rfl
  | cons s inside ih =>
    rw [List.cons_append, fillFrom, if_pos (h s (List.mem_cons_self ..))]
    exact ih fun r hr => h r (List.mem_cons_of_mem _ hr)

/-- The first slot is filled in behind the text in front of it. -/
theorem fillFrom_cons (f : Slot → Outcome Text) (full : Text) {pos : Nat} {s : Slot}
    (h : pos ≤ s.start) (slots : List Slot) :
    fillFrom f full pos (s :: slots) = do
      let image ← f s
      let rest ← fillFrom f full s.stop slots
      return Text.slice pos s.start full ++ (image ++ rest) := by
  rw [fillFrom, if_neg (Nat.not_lt.mpr h)]
  simp

/-- A slot is filled in as the pass fills it in, if what is behind it is. -/
theorem fillFrom_slot (words : Variables) (full : Text) {pos place : Nat} {s : Slot}
    {later : List Slot} {behind : Text} (hstart : s.start = place) (hpos : pos ≤ place)
    (hbehind : fillFrom (image words) full s.stop later = fillOnce words s.stop behind) :
    fillFrom (image words) full pos (s :: later) = do
      let rest ← (do
        let image ← image words s
        return image ++ (← fillOnce words s.stop behind))
      return Text.slice pos place full ++ rest := by
  rw [fillFrom_cons _ _ (by omega), hbehind, hstart]
  simp

/-- Filling in the slots of the two scans, with the text written up to a place `pos`, is the pass
from there on. -/
theorem fillFrom_interleaved (words : Variables) (full : Text) {t : Text}
    {skipE skipP place pos : Nat} (hfull : full.drop place = t)
    (h : Aligned skipE skipP (pos - place) place t) :
    fillFrom (image words) full pos (interleaved skipE skipP place t) = do
      let rest ← fillOnce words (place + (pos - place)) (t.drop (pos - place))
      return Text.slice pos place full ++ rest := by
  induction t generalizing skipE skipP place pos with
  | nil =>
    have hle : full.length ≤ place := List.drop_eq_nil_iff.mp hfull
    have hslice : Text.slice pos place full = full.drop pos :=
      List.take_of_length_le (by rw [List.length_drop]; omega)
    simp [interleaved, fillFrom, fillOnce, hslice]
  | cons c t ih =>
    have hfull' : full.drop (place + 1) = t := by
      rw [← List.drop_drop, hfull]
      rfl
    rcases Nat.lt_or_ge place pos with hpos | hpos
    · -- inside of a slot already filled in: what is found here is left out
      obtain ⟨jump, hjump⟩ : ∃ jump, pos - place = jump + 1 := ⟨pos - place - 1, by omega⟩
      have hjump' : pos - (place + 1) = jump := by omega
      rw [hjump] at h ⊢
      have hrest := ih hfull' (by rw [hjump']; exact h.jumping)
      rw [slice_of_le (by omega), hjump', show place + 1 + jump = place + (jump + 1) by omega]
        at hrest
      rw [slice_of_le (by omega), List.drop_succ_cons, ← hrest, interleaved, ← List.append_assoc]
      apply fillFrom_append_of_lt
      intro s hs
      rcases List.mem_append.mp hs with hs | hs
      · rw [(bounds_of_expressionAt? (mem_foundAt hs)).1]
        exact hpos
      · rw [(bounds_of_placeholderAt? (mem_foundAt hs)).1]
        exact hpos
    · -- the pass decides here
      rw [Nat.sub_eq_zero_of_le hpos] at h ⊢
      obtain rfl : skipE = 0 := Nat.le_zero.mp h.skipE_le
      -- behind a slot that is found nothing is written yet, so no text is copied there
      have hbehind : ∀ (s : Slot) (skipE skipP : Nat), place < s.stop →
          Aligned skipE skipP (s.stop - (place + 1)) (place + 1) t →
          fillFrom (image words) full s.stop (interleaved skipE skipP (place + 1) t) =
            fillOnce words s.stop (t.drop (s.stop - (place + 1))) := by
        intro s skipE skipP hstop haligned
        have hrest := ih hfull' haligned
        rw [slice_of_le (by omega), show place + 1 + (s.stop - (place + 1)) = s.stop by omega]
          at hrest
        rw [hrest]
        exact bind_pure _
      rw [Nat.add_zero, List.drop_zero, interleaved, fillOnce, slotAt?]
      cases hE : expressionAt? place (c :: t) with
      | some s =>
        obtain ⟨hstart, hstop⟩ := bounds_of_expressionAt? hE
        have haligned := h.expressionFound hE
        rw [placeholderAt?_of_expressionAt? hE] at haligned ⊢
        rw [foundAt_none, List.nil_append]
        exact fillFrom_slot words full hstart hpos (hbehind s _ _ hstop haligned)
      | none =>
        cases hP : placeholderAt? place (c :: t) with
        | some s =>
          obtain ⟨hstart, hstop⟩ := bounds_of_placeholderAt? hP
          obtain rfl := h.skipP_eq_zero hP
          exact fillFrom_slot words full hstart hpos
            (hbehind s _ _ hstop (aligned_of_placeholderFound hP))
        | none =>
          have hrest := @ih 0 _ _ pos hfull'
            (by rw [Nat.sub_eq_zero_of_le (by omega)]; exact h.nothingFound hP)
          rw [hP, Nat.sub_eq_zero_of_le (by omega), slice_succ hpos hfull] at hrest
          rw [foundAt_none skipP]
          show fillFrom (image words) full pos (interleaved 0 _ _ t) = _
          rw [hrest]
          simp

/-- From the start on, the sorted slots are filled in by the pass. -/
theorem fillFrom_slots (words : Variables) (t : Text) :
    fillFrom (image words) t 0 (slots t) = fillOnce words 0 t := by
  rw [slots_eq_interleaved, fillFrom_interleaved words t (List.drop_zero) (aligned_start 0 t)]
  simp [Text.slice]

/-- A text that is one slot is filled in with what is put in for the slot. -/
theorem fill_of_slot {words : Variables} {t : Text} {s : Slot} (h : slotAt? 0 t = some s)
    (hstop : s.stop = t.length) : fill words t = image words s := by
  rw [fill, fillFrom_slots]
  cases t with
  | nil => cases h
  | cons c t =>
    have hend : t.drop (s.stop - (0 + 1)) = [] := by
      rw [hstop, List.length_cons]
      exact List.drop_length
    rw [fillOnce, h]
    dsimp only
    rw [hend, fillOnce]
    simp

/-- **Filling in is one pass.** -/
theorem fill_eq_fillOnce (words : Variables) (t : Text) : fill words t = fillOnce words 0 t := by
  rw [fill, slots_eq_interleaved,
    fillFrom_interleaved words t (List.drop_zero) (aligned_start 0 t)]
  simp [Text.slice]

end Clipbook.Note
