import Clipbook.Proofs.Outcome
import Clipbook.Proofs.Table
import Clipbook.Proofs.Value.Nested
import Clipbook.Proofs.Value.Numeral
import Clipbook.Value.Reader

/-!
# Clipbook — JSON text that reads back

A value is written as JSON text, and reading that text gives the value back, as long as it has no
number with a fraction, no integer of too many digits, each key once in its tables, and is not
nested too deeply.

What is written for a text, a list or a table ends with its last quote or bracket, whatever comes
behind it.  A numeral ends where no digit, point or exponent follows, so the lemmas here are about a
text with any rest that may stand behind a value.

Main results:

* `Reader.text_escape` — a text between quotes.
* `Reader.value_writeJson` — a value before a rest.
* `ofJson_json` — whole texts.
* `parsed_json` — values that are handed on as texts.
-/

namespace Clipbook.Value

variable {v w : Value} {vs : List Value} {ms : List (Text × Value)} {rest r t : Text}
  {fuel levels start : Nat}

/-- A value is made of nulls, truths, integers of not too many digits, texts, lists, and tables that
have each key once. -/
def isExact (v : Value) : Bool :=
  v.everywhere fun
    | float _ => false
    | int n => (Text.ofNat n.natAbs).length ≤ Number.maxDigits
    | obj members => (Table.keys members).Nodup
    | _ => true

theorem isExact_arr_iff : (arr vs).isExact = true ↔ ∀ v ∈ vs, v.isExact = true :=
  everywhere_arr_iff.trans (and_iff_right rfl)

/-- An object is exact if its keys are different and its members exact. -/
theorem isExact_obj_iff :
    (obj ms).isExact = true ↔
      (Table.keys ms).Nodup ∧ ∀ k v, (k, v) ∈ ms → v.isExact = true :=
  everywhere_obj_iff.trans (and_congr_left' decide_eq_true_iff)

/-- An integer is exact if it has not too many digits. -/
theorem isExact_int_iff {n : Int} :
    (int n).isExact = true ↔ (Text.ofNat n.natAbs).length ≤ Number.maxDigits :=
  decide_eq_true_iff

namespace Reader

/-! ## Texts -/

/-- The escapes of control characters, of which there are few, read back. -/
theorem unit?_hex : ∀ n < 0x20, unit? (Text.hex 4 n ++ ['"']) = some (n, ['"']) ∧
    (Text.hex 4 n).length = 4 := by
  decide +kernel

/-- Four digits are read as a unit whatever follows. -/
theorem unit?_append {digits : Text} {n : Nat} (hlength : digits.length = 4)
    (h : unit? (digits ++ ['"']) = some (n, ['"'])) (e : Char) (r : Text) :
    unit? (digits ++ e :: r) = some (n, e :: r) := by
  match digits, hlength with
  | [a, b, c, d], _ =>
    simp only [List.cons_append, List.nil_append, unit?] at h ⊢
    split at h
    · rw [(Prod.mk.inj (Option.some.inj h)).1]
    · cases h

/-- A control character is read back from its four digits. -/
theorem unicode_hex {c : Char} (hc : c.toNat < 0x20) (e : Char) (r : Text) :
    unicode (Text.hex 4 c.toNat ++ e :: r) = .ok (c, e :: r) := by
  obtain ⟨hunit, hlength⟩ := unit?_hex c.toNat hc
  have hread := unit?_append hlength hunit e r
  -- a control character is no half of a pair, so no second escape is looked for
  have hhigh : isHigh c.toNat = false := by
    rw [isHigh, Bool.and_eq_false_iff, decide_eq_false_iff_not]
    exact .inl (by omega)
  have hself : ofUnit c.toNat = c := by
    rw [ofUnit, if_neg (by omega), Char.ofNat_toNat]
  unfold unicode
  rw [hread]
  split
  · next heq => cases heq
  · next heq =>
    obtain ⟨rfl, hr⟩ := Prod.mk.inj (Option.some.inj heq)
    rw [hhigh, if_neg (fun h => Bool.false_ne_true h.1), hself, hr]
  · next heq =>
    obtain ⟨rfl, hr⟩ := Prod.mk.inj (Option.some.inj heq)
    rw [hself, hr]

/-- One character, escaped or not, is read as itself. -/
theorem text_escape_cons (c : Char) (read : Text) (e : Char) (r : Text) :
    text start (fuel + 1) read (escape c ++ e :: r) = text start fuel (c :: read) (e :: r) := by
  have hplain (x : Char) (hu : x ≠ 'u') (hx : plainEscape? x = some c) :
      text start (fuel + 1) read ('\\' :: x :: e :: r) = text start fuel (c :: read) (e :: r) := by
    rw [text.eq_def]
    dsimp only
    rw [if_neg (by decide), if_pos rfl]
    split
    · next heq => cases heq
    · next heq => exact absurd (List.cons.inj heq).1 hu
    · next heq =>
      obtain ⟨rfl, rfl⟩ := List.cons.inj heq
      rw [hx]
  unfold escape
  split
  · next h => exact hplain '"' (by decide) (by rw [h]; rfl)
  · split
    · next h => exact hplain '\\' (by decide) (by rw [h]; rfl)
    · split
      · next h => exact hplain 'n' (by decide) (by rw [h]; rfl)
      · split
        · next h => exact hplain 'r' (by decide) (by rw [h]; rfl)
        · split
          · next h => exact hplain 't' (by decide) (by rw [h]; rfl)
          · split
            · next h =>
              have hc : c = '\x08' := Char.ext (UInt32.toNat.inj h)
              exact hplain 'b' (by decide) (by rw [hc]; rfl)
            · split
              · next h =>
                have hc : c = '\x0c' := Char.ext (UInt32.toNat.inj h)
                exact hplain 'f' (by decide) (by rw [hc]; rfl)
              · split
                · next h =>
                  -- a control character is written as its number
                  show text start (fuel + 1) read
                    ('\\' :: 'u' :: (Text.hex 4 c.toNat ++ e :: r)) = _
                  rw [text.eq_def]
                  dsimp only
                  rw [if_neg (by decide), if_pos rfl]
                  simp only [unicode_hex h]
                · next hquote hslash _ _ _ _ _ hcontrol =>
                  show text start (fuel + 1) read (c :: e :: r) = _
                  rw [text.eq_def]
                  dsimp only
                  rw [if_neg hquote, if_neg hslash, if_neg hcontrol]

/-- **A text between quotes reads back.** -/
theorem text_escape (t read r : Text) (hfuel : t.length < fuel) :
    text start fuel read (t.flatMap escape ++ '"' :: r) = .ok (read.reverse ++ t, r) := by
  induction t generalizing read fuel with
  | nil =>
    obtain ⟨fuel, rfl⟩ := Nat.exists_eq_add_one_of_ne_zero (Nat.ne_of_gt hfuel)
    rw [List.flatMap_nil, List.nil_append, List.append_nil, text.eq_def]
    rfl
  | cons c t ih =>
    obtain ⟨fuel, rfl⟩ := Nat.exists_eq_add_one_of_ne_zero (Nat.ne_of_gt (Nat.zero_lt_of_lt hfuel))
    have hrest : t.length < fuel := Nat.lt_of_succ_lt_succ hfuel
    obtain ⟨e, u, hu⟩ : ∃ e u, t.flatMap escape ++ '"' :: r = e :: u :=
      List.exists_cons_of_ne_nil (List.append_ne_nil_of_right_ne_nil _ (List.cons_ne_nil _ _))
    rw [List.flatMap_cons, List.append_assoc, hu, text_escape_cons, ← hu, ih _ hrest,
      List.reverse_cons, List.append_assoc, List.singleton_append]

theorem length_le_flatMap_escape (t : Text) : t.length ≤ (t.flatMap escape).length := by
  induction t with
  | nil => exact Nat.le_refl _
  | cons c t ih =>
    have hc : 0 < (escape c).length := by
      unfold escape
      repeat' split
      all_goals simp
    rw [List.flatMap_cons, List.length_append, List.length_cons]
    omega

/-- A text is read back from what stands between its quotes. -/
theorem textAfterQuote_escape (t r : Text) :
    textAfterQuote (t.flatMap escape ++ '"' :: r) = .ok (t, r) := by
  have hlength := length_le_flatMap_escape t
  refine text_escape t [] r ?_
  rw [List.length_append]
  omega

/-! ## Values -/

theorem skip_cons {c : Char} (hc : isSpace c = false) (t : Text) : skip (c :: t) = c :: t := by
  rw [skip, List.dropWhile_cons_of_neg (by rw [hc]; exact Bool.false_ne_true)]

/-- What a value starts with is no space, no closing bracket and no byte-order mark. -/
structure Starts (c : Char) : Prop where
  space : isSpace c = false
  bracket : c ≠ ']'
  mark : c ≠ '\ufeff'

theorem starts_of_isDigit {c : Char} (h : c.isDigit = true) : Starts c := by
  refine ⟨?_, ?_, ?_⟩
  · rw [← Bool.not_eq_true]
    intro hspace
    simp only [isSpace, Bool.or_eq_true, decide_eq_true_eq] at hspace
    rcases hspace with ((rfl | rfl) | rfl) | rfl <;> exact absurd h (by decide)
  · rintro rfl
    exact absurd h (by decide)
  · rintro rfl
    exact absurd h (by decide)

theorem starts_of_isDigit_or {c : Char} (h : c.isDigit = true ∨ c = '-') : Starts c := by
  rcases h with hdigit | rfl
  · exact starts_of_isDigit hdigit
  · exact ⟨rfl, by decide, by decide⟩

/-- A value that is written starts with what a value may start with. -/
theorem writeJson_eq_cons (h : v.isExact = true) (rest : Text) :
    ∃ c t, v.writeJson rest = c :: t ∧ Starts c := by
  cases v with
  | null => exact ⟨'n', _, by rw [writeJson]; rfl, rfl, by decide, by decide⟩
  | bool b =>
    cases b with
    | true => exact ⟨'t', _, by rw [writeJson]; rfl, rfl, by decide, by decide⟩
    | false => exact ⟨'f', _, by rw [writeJson]; rfl, rfl, by decide, by decide⟩
  | int n =>
    rw [writeJson]
    obtain ⟨c, t, heq, hc⟩ := exists_ofInt_append n rest
    exact ⟨c, t, heq, starts_of_isDigit_or hc⟩
  | float x => cases h
  | str t => exact ⟨'"', _, by rw [writeJson, jsonText]; rfl, rfl, by decide, by decide⟩
  | arr vs => exact ⟨'[', _, by rw [writeJson], rfl, by decide, by decide⟩
  | obj ms => exact ⟨'\x7b', _, by rw [writeJson], rfl, by decide, by decide⟩

/-- A value that is written starts without blanks. -/
theorem skip_writeJson (h : v.isExact = true) (rest : Text) :
    skip (v.writeJson rest) = v.writeJson rest := by
  obtain ⟨c, t, heq, hc⟩ := writeJson_eq_cons h rest
  rw [heq, skip_cons hc.space]

/-- Items that are written start with what a value may start with. -/
theorem writeItems_eq_cons (hne : vs ≠ []) (h : ∀ v ∈ vs, v.isExact = true) (rest : Text) :
    ∃ c t, writeItems vs rest = c :: t ∧ Starts c := by
  match vs, hne with
  | [v], _ =>
    rw [writeItems]
    exact writeJson_eq_cons (h v (List.mem_cons_self ..)) rest
  | v :: w :: vs, _ =>
    rw [writeItems]
    exact writeJson_eq_cons (h v (List.mem_cons_self ..)) _

/-- Members that are written start with a quote. -/
theorem writeMembers_eq_cons (hne : ms ≠ []) (rest : Text) :
    ∃ t, writeMembers ms rest = '"' :: t := by
  match ms, hne with
  | [(k, v)], _ => exact ⟨_, by rw [writeMembers, jsonText]; rfl⟩
  | (k, v) :: m :: ms, _ => exact ⟨_, by rw [writeMembers, jsonText]; rfl⟩

/-! ### Lengths -/

/-- Items take no fewer characters than are left behind them. -/
theorem length_writeItems
    (h : ∀ v ∈ vs, ∀ rest : Text, rest.length < (v.writeJson rest).length) (rest : Text) :
    rest.length ≤ (writeItems vs rest).length := by
  induction vs with
  | nil => rw [writeItems]
  | cons v vs ih =>
    have hv := h v (List.mem_cons_self ..)
    have ih := ih fun w hw => h w (List.mem_cons_of_mem _ hw)
    cases vs with
    | nil =>
      rw [writeItems]
      exact Nat.le_of_lt (hv rest)
    | cons w vs =>
      rw [writeItems]
      -- each item takes at least one character, and so does the comma
      have := hv (',' :: writeItems (w :: vs) rest)
      rw [List.length_cons] at this
      omega

/-- Members take no fewer characters than are left behind them. -/
theorem length_writeMembers
    (h : ∀ k v, (k, v) ∈ ms → ∀ rest : Text, rest.length < (v.writeJson rest).length)
    (rest : Text) : rest.length ≤ (writeMembers ms rest).length := by
  induction ms with
  | nil => rw [writeMembers]
  | cons m ms ih =>
    obtain ⟨k, v⟩ := m
    have hv := h k v (List.mem_cons_self ..)
    have ih := ih fun k w hw => h k w (List.mem_cons_of_mem _ hw)
    cases ms with
    | nil =>
      rw [writeMembers, List.length_append, List.length_cons]
      have := hv rest
      omega
    | cons m ms =>
      rw [writeMembers, List.length_append, List.length_cons]
      have := hv (',' :: writeMembers (m :: ms) rest)
      rw [List.length_cons] at this
      omega

/-- Something is written for every value. -/
theorem length_writeJson (h : v.isExact = true) (rest : Text) :
    rest.length < (v.writeJson rest).length := by
  induction v using Value.inductionOn generalizing rest with
  | null =>
    rw [writeJson, List.length_append]
    exact Nat.lt_add_of_pos_left (Nat.succ_pos _)
  | bool b =>
    rw [writeJson, List.length_append]
    cases b <;> exact Nat.lt_add_of_pos_left (Nat.succ_pos _)
  | int n =>
    obtain ⟨c, t, ht, -⟩ := exists_ofInt_append n []
    rw [writeJson, List.length_append]
    rw [List.append_nil] at ht
    rw [ht]
    exact Nat.lt_add_of_pos_left (Nat.succ_pos _)
  | float x => cases h
  | str t =>
    rw [writeJson, jsonText, List.length_append]
    exact Nat.lt_add_of_pos_left (Nat.succ_pos _)
  | arr vs ih =>
    have hvs := length_writeItems (fun v hv => ih v hv (isExact_arr_iff.mp h v hv)) (']' :: rest)
    rw [List.length_cons] at hvs
    rw [writeJson, List.length_cons]
    omega
  | obj ms ih =>
    have hms := length_writeMembers
      (fun k v hv => ih k v hv ((isExact_obj_iff.mp h).2 k v hv)) ('\x7d' :: rest)
    rw [List.length_cons] at hms
    rw [writeJson, List.length_cons]
    omega

/-- Items are within a depth if the first one and the others are. -/
theorem itemsDepth_cons_le (hle : itemsDepth (v :: vs) ≤ levels) :
    v.depth ≤ levels ∧ itemsDepth vs ≤ levels := by
  rwa [itemsDepth, Nat.max_le] at hle

/-- Members are within a depth if the first one and the others are. -/
theorem membersDepth_cons_le {k : Text} (hle : membersDepth ((k, v) :: ms) ≤ levels) :
    v.depth ≤ levels ∧ membersDepth ms ≤ levels := by
  rwa [membersDepth, Nat.max_le] at hle

/-! ### Reading -/

/-- With this fuel all three readers read back what is written, if the fuel is enough for the
characters that are written. -/
structure ReadsBack (fuel : Nat) : Prop where
  value : ∀ levels (v : Value) (rest : Text), Ends rest → v.isExact = true → v.depth ≤ levels →
    (v.writeJson rest).length ≤ fuel + rest.length →
      value fuel levels (v.writeJson rest) = .ok (v, rest)
  items : ∀ levels read (vs : List Value) (rest : Text), vs ≠ [] →
    (∀ v ∈ vs, v.isExact = true) → itemsDepth vs ≤ levels →
      (writeItems vs (']' :: rest)).length ≤ fuel + rest.length →
        items fuel levels read (writeItems vs (']' :: rest)) = .ok (read.reverse ++ vs, rest)
  members : ∀ levels (read ms : Table Value) (rest : Text), ms ≠ [] →
    (∀ k v, (k, v) ∈ ms → v.isExact = true) → (Table.keys (read ++ ms)).Nodup →
      membersDepth ms ≤ levels →
        (writeMembers ms ('\x7d' :: rest)).length ≤ fuel + rest.length →
          members fuel levels read (writeMembers ms ('\x7d' :: rest)) = .ok (read ++ ms, rest)

/-- Without fuel there is nothing to read back. -/
theorem readsBack_zero : ReadsBack 0 := by
  refine ⟨fun levels v rest _ h _ hfuel => ?_, fun levels read vs rest _ h _ hfuel => ?_,
    fun levels read ms rest _ h _ _ hfuel => ?_⟩
  · have := length_writeJson h rest
    omega
  · have := length_writeItems (fun v hv => length_writeJson (h v hv)) (']' :: rest)
    rw [List.length_cons] at this
    omega
  · have := length_writeMembers (fun k v hv => length_writeJson (h k v hv)) ('\x7d' :: rest)
    rw [List.length_cons] at this
    omega

/-! ### One step -/

/-- A value is read back with one step more than its parts. -/
theorem ReadsBack.value_succ (hback : ReadsBack fuel) (levels : Nat) (v : Value) (rest : Text)
    (hrest : Ends rest) (h : v.isExact = true) (hdepth : v.depth ≤ levels)
    (hfuel : (v.writeJson rest).length ≤ fuel + 1 + rest.length) :
    Reader.value (fuel + 1) levels (v.writeJson rest) = .ok (v, rest) := by
  cases v with
  | null =>
    rw [writeJson]
    rfl
  | bool b =>
    rw [writeJson]
    cases b <;> rfl
  | int n =>
    rw [writeJson]
    exact value_ofInt (isExact_int_iff.mp h) hrest fuel levels
  | float x => cases h
  | str t =>
    have hread := textAfterQuote_escape t rest
    rw [writeJson, jsonText, List.append_assoc, List.cons_append, Reader.value]
    show (textAfterQuote (t.flatMap escape ++ '"' :: rest)).map _ = _
    rw [hread]
    rfl
  | arr vs =>
    obtain ⟨levels, rfl⟩ : ∃ k, levels = k + 1 :=
      Nat.exists_eq_add_one_of_ne_zero fun h0 => by rw [h0, depth] at hdepth; omega
    have hitems := isExact_arr_iff.mp h
    rw [depth, Nat.add_le_add_iff_right] at hdepth
    rw [writeJson, List.length_cons] at hfuel
    rw [writeJson, Reader.value]
    by_cases hnil : vs = []
    · rw [hnil, writeItems, skip_cons rfl]
      rfl
    · have hread := hback.items levels [] vs rest hnil hitems hdepth (by omega)
      obtain ⟨c, t, heq, hc⟩ := writeItems_eq_cons hnil hitems (']' :: rest)
      rw [heq] at hread ⊢
      rw [skip_cons hc.space]
      -- no item starts with a closing bracket
      split
      · next hclosed =>
        rw [(List.cons.inj hclosed).1] at hc
        exact absurd rfl hc.bracket
      · rw [hread]
        rfl
  | obj ms =>
    obtain ⟨levels, rfl⟩ : ∃ k, levels = k + 1 :=
      Nat.exists_eq_add_one_of_ne_zero fun h0 => by rw [h0, depth] at hdepth; omega
    obtain ⟨hkeys, hmembers⟩ := isExact_obj_iff.mp h
    rw [depth, Nat.add_le_add_iff_right] at hdepth
    rw [writeJson, List.length_cons] at hfuel
    rw [writeJson, Reader.value]
    by_cases hnil : ms = []
    · rw [hnil, writeMembers, skip_cons rfl]
      rfl
    · have hread := hback.members levels [] ms rest hnil hmembers hkeys hdepth (by omega)
      obtain ⟨t, heq⟩ := writeMembers_eq_cons hnil ('\x7d' :: rest)
      rw [heq] at hread ⊢
      rw [skip_cons rfl]
      show (Reader.members fuel levels [] ('"' :: t)).map _ = _
      rw [hread]
      rfl

/-- Items are read back with one step more than the first one. -/
theorem ReadsBack.items_succ (hback : ReadsBack fuel) (levels : Nat) (read vs : List Value)
    (rest : Text) (hne : vs ≠ []) (h : ∀ v ∈ vs, v.isExact = true)
    (hdepth : itemsDepth vs ≤ levels)
    (hfuel : (writeItems vs (']' :: rest)).length ≤ fuel + 1 + rest.length) :
    Reader.items (fuel + 1) levels read (writeItems vs (']' :: rest)) =
      .ok (read.reverse ++ vs, rest) := by
  match vs, hne with
  | [v], _ =>
    obtain ⟨hv, -⟩ := itemsDepth_cons_le hdepth
    have hread := hback.value levels v (']' :: rest) (ends_cons (by decide) rest)
      (h v (List.mem_cons_self ..)) hv (by
      rw [writeItems] at hfuel
      rw [List.length_cons]
      omega)
    rw [writeItems, Reader.items, hread]
    dsimp only
    rw [skip_cons rfl, List.reverse_cons]
    rfl
  | v :: w :: vs, _ =>
    obtain ⟨hv, hvs⟩ := itemsDepth_cons_le hdepth
    have hexact := h v (List.mem_cons_self ..)
    have hlater : ∀ u ∈ w :: vs, u.isExact = true := fun u hu => h u (List.mem_cons_of_mem _ hu)
    -- the first item takes at least one character, so the fuel is enough for the others
    have hlength := length_writeJson hexact (',' :: writeItems (w :: vs) (']' :: rest))
    have hlength' := length_writeItems (fun u hu => length_writeJson (hlater u hu)) (']' :: rest)
    rw [writeItems] at hfuel
    simp only [List.length_cons] at hlength hlength'
    have hread := hback.value levels v (',' :: writeItems (w :: vs) (']' :: rest))
      (ends_cons (by decide) _) hexact hv (by
      rw [List.length_cons]
      omega)
    have hreads := hback.items levels (v :: read) (w :: vs) rest (List.cons_ne_nil w vs) hlater hvs
      (by omega)
    obtain ⟨c, t, heq, hc⟩ := writeItems_eq_cons (List.cons_ne_nil w vs) hlater (']' :: rest)
    rw [writeItems, Reader.items, hread]
    dsimp only
    rw [skip_cons rfl]
    show Reader.items fuel levels (v :: read) (skip (writeItems (w :: vs) (']' :: rest))) = _
    rw [heq] at hreads ⊢
    rw [skip_cons hc.space, hreads, List.reverse_cons, List.append_assoc, List.singleton_append]

/-- One member with the mark behind it, which decides how to go on. -/
theorem members_member {k : Text} {c : Char} (hv : v.isExact = true) (read : Table Value)
    (hread : Reader.value fuel levels (v.writeJson (c :: r)) = .ok (v, c :: r)) :
    (c = '\x7d' →
      Reader.members (fuel + 1) levels read (jsonText k ++ ':' :: v.writeJson (c :: r)) =
        .ok (read.put k v, r)) ∧
    (c = ',' → Reader.members (fuel + 1) levels read (jsonText k ++ ':' :: v.writeJson (c :: r)) =
      Reader.members fuel levels (read.put k v) (skip r)) := by
  have hkey := textAfterQuote_escape k (':' :: v.writeJson (c :: r))
  have hquoted : jsonText k ++ ':' :: v.writeJson (c :: r) =
      '"' :: (k.flatMap escape ++ '"' :: ':' :: v.writeJson (c :: r)) := by
    simp [jsonText]
  -- nothing blank stands around the colon
  have hcolon : skip (':' :: v.writeJson (c :: r)) = ':' :: v.writeJson (c :: r) := skip_cons rfl _
  rw [hquoted, Reader.members, hkey]
  simp only [hcolon, skip_writeJson hv, hread]
  constructor
  · rintro rfl
    rw [skip_cons rfl]
    rfl
  · rintro rfl
    rw [skip_cons rfl]
    rfl

/-- Members are read back with one step more than the first one. -/
theorem ReadsBack.members_succ (hback : ReadsBack fuel) (levels : Nat) (read ms : Table Value)
    (rest : Text) (hne : ms ≠ []) (h : ∀ k v, (k, v) ∈ ms → v.isExact = true)
    (hkeys : (Table.keys (read ++ ms)).Nodup) (hdepth : membersDepth ms ≤ levels)
    (hfuel : (writeMembers ms ('\x7d' :: rest)).length ≤ fuel + 1 + rest.length) :
    Reader.members (fuel + 1) levels read (writeMembers ms ('\x7d' :: rest)) =
      .ok (read ++ ms, rest) := by
  match ms, hne with
  | [(k, v)], _ =>
    obtain ⟨hv, -⟩ := membersDepth_cons_le hdepth
    have hexact := h k v (List.mem_cons_self ..)
    rw [writeMembers, List.length_append, List.length_cons] at hfuel
    have hread := hback.value levels v ('\x7d' :: rest) (ends_cons (by decide) rest) hexact hv (by
      rw [List.length_cons]
      omega)
    rw [writeMembers, (members_member hexact read hread).1 rfl, Table.put_of_nodup_keys hkeys]
  | (k, v) :: m :: ms, _ =>
    obtain ⟨hv, hms⟩ := membersDepth_cons_le hdepth
    have hexact := h k v (List.mem_cons_self ..)
    have hlater : ∀ k' v', (k', v') ∈ m :: ms → v'.isExact = true :=
      fun k' v' hmem => h k' v' (List.mem_cons_of_mem _ hmem)
    -- the first member takes at least one character, so the fuel is enough for the others
    have hlength := length_writeJson hexact (',' :: writeMembers (m :: ms) ('\x7d' :: rest))
    have hlength' := length_writeMembers
      (fun k' v' hmem => length_writeJson (hlater k' v' hmem)) ('\x7d' :: rest)
    rw [writeMembers, List.length_append, List.length_cons] at hfuel
    simp only [List.length_cons] at hlength hlength'
    have hread := hback.value levels v (',' :: writeMembers (m :: ms) ('\x7d' :: rest))
      (ends_cons (by decide) _) hexact hv (by
        rw [List.length_cons]
        omega)
    have hput := Table.put_of_nodup_keys hkeys
    -- the keys read so far and those to come are all different, so each is put at the end
    rw [List.append_cons, ← hput] at hkeys
    have hreads := hback.members levels (read.put k v) (m :: ms) rest (List.cons_ne_nil m ms)
      hlater hkeys hms (by omega)
    obtain ⟨t, heq⟩ := writeMembers_eq_cons (List.cons_ne_nil m ms) ('\x7d' :: rest)
    rw [writeMembers, (members_member hexact read hread).2 rfl]
    rw [heq] at hreads ⊢
    rw [skip_cons rfl, hreads, hput, List.append_assoc, List.singleton_append]

/-- Whatever the fuel is, what it is enough for is read back. -/
theorem readsBack (fuel : Nat) : ReadsBack fuel := by
  induction fuel with
  | zero => exact readsBack_zero
  | succ fuel ih => exact ⟨ih.value_succ, ih.items_succ, ih.members_succ⟩

/-- A list is not read where its first item is not. -/
theorem value_arr_of_error {c : Char} {stop : Stop} (hc : Starts c)
    (h : value fuel levels (c :: t) = .error stop) :
    value (fuel + 2) (levels + 1) ('[' :: c :: t) = .error stop := by
  have hitems : items (fuel + 1) levels [] (c :: t) = .error stop := by
    rw [items, h]
  rw [value, skip_cons hc.space]
  split
  · next heq => exact absurd (List.cons.inj heq).1 hc.bracket
  · rw [hitems]
    rfl

/-- **A value reads back before any rest that may stand behind it.** -/
theorem value_writeJson (hrest : Ends rest) (h : v.isExact = true) (hdepth : v.depth ≤ levels)
    (hfuel : (v.writeJson rest).length ≤ fuel + rest.length) :
    value fuel levels (v.writeJson rest) = .ok (v, rest) :=
  (readsBack fuel).value levels v rest hrest h hdepth hfuel

end Reader

/-! ## Whole texts -/

/-- **JSON text reads back** if it is that of a value without fractions. -/
theorem ofJson_json (h : v.isExact = true) (hdepth : v.tooDeep = false) :
    ofJson v.json = .ok v := by
  have hle : v.depth ≤ maxNesting := Nat.le_of_not_lt (of_decide_eq_false hdepth)
  -- the fuel is twice the length, more than there are values to read
  have hread : Reader.value (2 * v.json.length + 2) maxNesting (v.writeJson []) = .ok (v, []) :=
    Reader.value_writeJson Reader.ends_nil h hle
      (Nat.le_trans (Nat.le_mul_of_pos_left _ (Nat.zero_lt_two)) (Nat.le_add_right _ _))
  obtain ⟨c, t, heq, hc⟩ := Reader.writeJson_eq_cons h []
  have hdocument : Reader.document v.json = .ok v := by
    have hjson : v.json = v.writeJson [] := rfl
    rw [Reader.document, hjson, Reader.skip_writeJson h, ← hjson]
    rw [← hjson] at hread
    rw [hread]
    rfl
  unfold ofJson
  split
  · next hmark =>
    rw [json, heq] at hmark
    rw [(List.cons.inj hmark).1] at hc
    exact absurd rfl hc.mark
  · rw [hdocument]
    rfl

/-- The text of a list with an integer of too many digits is not read. -/
theorem ofJson_json_of_long {n : Int} (h : Number.maxDigits < (Text.ofNat n.natAbs).length) :
    ofJson (arr [int n]).json = .error (.longNumeral (Text.ofNat n.natAbs).length) := by
  obtain ⟨c, t, heq, hc⟩ := Reader.exists_ofInt_append n [']']
  have hjson : (arr [int n]).json = '[' :: c :: t := by
    rw [json, writeJson, writeItems, writeJson, heq]
  -- the fault of the item is that of the list and of the document
  have hread (fuel levels : Nat) : Reader.value (fuel + 1) levels (c :: t) =
      .error (.fault (.longNumeral (Text.ofNat n.natAbs).length)) := by
    rw [← heq, Reader.value_ofInt_eq, Reader.number_ofInt_eq n (Reader.ends_cons (by decide) []),
      if_pos h]
  -- a list stops at the first item that cannot be read
  have hlist : Reader.value (2 * ('[' :: c :: t).length + 2) maxNesting ('[' :: c :: t) =
      .error (.fault (.longNumeral (Text.ofNat n.natAbs).length)) :=
    Reader.value_arr_of_error (Reader.starts_of_isDigit_or hc) (hread _ _)
  have hdocument : Reader.document ('[' :: c :: t) =
      .error (.fault (.longNumeral (Text.ofNat n.natAbs).length)) := by
    rw [Reader.document, Reader.skip_cons rfl, hlist]
  rw [hjson]
  show (Reader.document ('[' :: c :: t)).mapError _ = _
  rw [hdocument]
  rfl

/-! ## Values handed on as texts -/

/-- The items of a text are those of the list it holds, or what it holds. -/
theorem items_of_parsed {v w : Value} (h : v.parsed = .ok w) :
    (∀ vs, w = arr vs → v.items = .ok vs) ∧ ((∀ vs, w ≠ arr vs) → v.items = .ok [w]) := by
  rw [items, h]
  constructor
  · rintro vs rfl
    rfl
  · intro hlist
    cases w with
    | arr vs => exact absurd rfl (hlist vs)
    | _ => rfl

/-- **A value that is handed on as a text is the same value again.**  Its items are those of the
list it is, or the value alone. -/
theorem parsed_json (v : Value) (h : v.isExact = true) (hdepth : v.tooDeep = false) :
    ∃ t, v.json? = .ok t ∧ (str t).parsed = .ok v ∧
      (∀ vs, v = arr vs → (str t).items = .ok vs) ∧
        ((∀ vs, v ≠ arr vs) → (str t).items = .ok [v]) := by
  have hwritten : v.json? = .ok v.json := by
    rw [json?, hdepth]
    rfl
  have hparsed : (str v.json).parsed = .ok v := by
    rw [parsed, ofJson_json h hdepth]
  exact ⟨v.json, hwritten, hparsed, items_of_parsed hparsed⟩

/-- Text that looks like a list stays text, beside a key with a quote, a backslash and a line
end. -/
theorem parsed_json_lookalike :
    let v := obj [("\"\\\n".toList, arr [int (-120), null, str "[1,\u0001]".toList]),
      ([], bool true), ("1".toList, obj [])]
    v.isExact = true ∧ v.tooDeep = false ∧
      ∃ t, v.json? = .ok t ∧ (str t).parsed = .ok v ∧ (str t).items = .ok [v] := by
  intro v
  have hexact : v.isExact = true := by decide +kernel
  have hdepth : v.tooDeep = false := by decide +kernel
  obtain ⟨t, hwritten, hparsed, -, hitems⟩ := parsed_json v hexact hdepth
  exact ⟨hexact, hdepth, t, hwritten, hparsed, hitems nofun⟩

end Clipbook.Value
