import Clipbook.Proofs.Cache
import Clipbook.Proofs.Schema.Search
import Clipbook.Proofs.Value.Frozen
import Clipbook.Schema.Search

/-!
# Clipbook — a memo changes no answer

Equal keys do not mean equal data: the two zeros are one number, and two numbers may be written
in two ways.  They mean data that a search cannot tell apart, for it reads texts, keys and the
kinds of values, and no numbers.  So whatever a memo remembers under a key is what a search of the
data at hand would find, and a memo that has only such entries keeps only such entries, whichever
of them it drops.

Main results:

* `property_eq_of_freeze` — data with equal keys have the same properties.
* `Memo.Sound.lookup` — a look-up keeps a memo sound and answers as a search does.
* `Memo.run_eq_map_alone` — in a run of look-ups every answer is that of an empty memo.
-/

namespace Clipbook.Schema

open Value (freezeItems freezeMembers)

/-! ## What a search can observe -/

theorem nameOf_cons (k : Text) (v : Value) (ms : List (Text × Value)) :
    nameOf ((k, v) :: ms) =
      if k = "name".toList then (match v with | .str t => t | _ => []) else nameOf ms := by
  rw [nameOf, Table.get?, Text.same_eq]
  by_cases hk : k = "name".toList
  · rw [if_pos (decide_eq_true hk), if_pos hk]
    cases v <;> rfl
  · rw [if_neg fun h => hk (of_decide_eq_true h), if_neg hk]
    rfl

theorem nameOf_eq_of_freeze : ∀ {ms ns : List (Text × Value)},
    Frozen.eqvParts (freezeMembers ms) (freezeMembers ns) = true → nameOf ms = nameOf ns
  | [], [], _ => rfl
  | [], _ :: _, h => by cases h
  | _ :: _, [], h => by cases h
  | (k, v) :: ms, (l, w) :: ns, h => by
    obtain ⟨rfl, hvalue, hrest⟩ := Value.freezeMembers_cons.mp h
    have hkind := Value.kind_eq_of_freeze hvalue
    rw [nameOf_cons, nameOf_cons, nameOf_eq_of_freeze hrest]
    cases v <;> cases w <;> try cases hkind
    case str.str.refl s t =>
      rw [Value.freeze_str, decide_eq_true_eq] at hvalue
      rw [hvalue]
    all_goals rfl

mutual

/-- **Values with equal keys are searched alike.** -/
theorem search_eq_of_freeze : (v w : Value) → (v.freeze == w.freeze) = true →
    ∀ keys path, search v keys path = search w keys path
  | v, w, h, keys, path => by
    have hkind := Value.kind_eq_of_freeze h
    -- keys are tagged with the kind, so both values are of one
    cases v <;> cases w <;> try cases hkind
    case str.str.refl s t =>
      rw [Value.freeze_str, decide_eq_true_eq] at h
      rw [h]
    case arr.arr.refl vs ws =>
      rw [Value.freeze_arr] at h
      rw [search, search]
      simp only [searchItems_eq_of_freeze vs ws h]
    case obj.obj.refl ms ns =>
      rw [Value.freeze_obj] at h
      cases keys with
      | nil => rw [search, search, nameOf_eq_of_freeze h]
      | cons key keys =>
        rw [search, search, searchKey_eq_of_freeze ms ns h, searchInside_eq_of_freeze ms ns h]
    -- the search does not look at the other scalars
    all_goals unfold search; rfl

/-- Lists of items with one key give the same. -/
theorem searchItems_eq_of_freeze : (vs ws : List Value) →
    Frozen.eqvParts (freezeItems vs) (freezeItems ws) = true →
    ∀ keys path, searchItems vs keys path = searchItems ws keys path
  | [], [], _, _, _ => rfl
  | [], _ :: _, h, _, _ => by cases h
  | _ :: _, [], h, _, _ => by cases h
  | v :: vs, w :: ws, h, keys, path => by
    obtain ⟨hv, hvs⟩ := Value.freezeItems_cons.mp h
    rw [searchItems, searchItems, search_eq_of_freeze v w hv, searchItems_eq_of_freeze vs ws hvs]

/-- Objects with one key give the same under a name. -/
theorem searchKey_eq_of_freeze : (ms ns : List (Text × Value)) →
    Frozen.eqvParts (freezeMembers ms) (freezeMembers ns) = true →
    ∀ key keys path, searchKey ms key keys path = searchKey ns key keys path
  | [], [], _, _, _, _ => rfl
  | [], _ :: _, h, _, _, _ => by cases h
  | _ :: _, [], h, _, _, _ => by cases h
  | (k, v) :: ms, (l, w) :: ns, h, key, keys, path => by
    obtain ⟨rfl, hv, hms⟩ := Value.freezeMembers_cons.mp h
    rw [searchKey, searchKey, search_eq_of_freeze v w hv, searchKey_eq_of_freeze ms ns hms]

/-- Objects with one key give the same inside of them. -/
theorem searchInside_eq_of_freeze : (ms ns : List (Text × Value)) →
    Frozen.eqvParts (freezeMembers ms) (freezeMembers ns) = true →
    ∀ keys path, searchInside ms keys path = searchInside ns keys path
  | [], [], _, _, _ => rfl
  | [], _ :: _, h, _, _ => by cases h
  | _ :: _, [], h, _, _ => by cases h
  | (k, v) :: ms, (l, w) :: ns, h, keys, path => by
    obtain ⟨rfl, hv, hms⟩ := Value.freezeMembers_cons.mp h
    rw [searchInside, searchInside, Value.kind_eq_of_freeze hv, search_eq_of_freeze v w hv,
      searchInside_eq_of_freeze ms ns hms]

end

/-- Values with one key have the same properties. -/
theorem property_eq_of_freeze {v w : Value} (h : (v.freeze == w.freeze) = true) (prop : Text) :
    property v prop = property w prop :=
  search_eq_of_freeze v w h _ _

namespace Memo

variable {m m' : Memo} {v : Value} {prop t : Text}

/-! ## Sound memos -/

/-- Every entry is a property of some data, under the key of the data and the property. -/
def Sound (m : Memo) : Prop :=
  ∀ e ∈ m.entries, ∃ v : Value, e.1.data = v.freeze ∧ e.2 = property v e.1.property

theorem sound_empty (capacity : Nat) : Sound (.empty capacity) :=
  fun _ he => absurd he List.not_mem_nil

/-- A memo may forget. -/
theorem Sound.of_subset (h : m.Sound) (hsub : m'.entries ⊆ m.entries) : m'.Sound :=
  fun e he => h e (hsub he)

/-- Touching an entry with its property keeps a memo sound. -/
theorem Sound.touch (h : m.Sound) (v : Value) (prop : Text) :
    Sound (m.touch ⟨v.freeze, prop⟩ (property v prop)) := by
  intro e he
  rcases List.mem_append.mp he with he | he
  · exact h e (List.mem_filter.mp he).1
  · obtain rfl := List.mem_singleton.mp he
    exact ⟨v, rfl, rfl⟩

theorem Sound.put (h : m.Sound) (v : Value) (prop : Text) :
    Sound (m.put ⟨v.freeze, prop⟩ (property v prop)) :=
  (h.touch v prop).of_subset (List.drop_subset _ _)

/-- What is remembered under the key of some data was found in other data, which a search cannot
tell from it. -/
theorem Sound.eq_property (h : m.Sound) (hfind : m.find? ⟨v.freeze, prop⟩ = some t) :
    t = property v prop := by
  obtain ⟨q, hmem, hq⟩ := Cache.exists_of_find? hfind
  have hkey : (v.freeze == q.data && decide (prop = q.property)) = true := hq
  rw [Bool.and_eq_true, decide_eq_true_eq] at hkey
  obtain ⟨hdata, rfl⟩ := hkey
  obtain ⟨w, hw, ht⟩ := h _ hmem
  rw [hw] at hdata
  exact ht.trans (property_eq_of_freeze hdata _).symm

/-- **A look-up by way of a sound memo** answers as a search does and leaves a sound memo. -/
theorem Sound.lookup (h : m.Sound) (v : Value) (prop default : Text) :
    (m.lookup v prop default).1 = Schema.lookup v prop default ∧
      (m.lookup v prop default).2.Sound := by
  rw [Memo.lookup, Schema.lookup]
  split
  · exact ⟨rfl, h⟩
  · split
    · exact ⟨rfl, h⟩
    · rw [Cache.get]
      cases hfind : m.find? ⟨v.freeze, prop⟩ with
      | some t =>
        rw [h.eq_property hfind]
        exact ⟨rfl, h.touch v prop⟩
      | none => exact ⟨rfl, h.put v prop⟩

/-! ## Runs -/

/-- What can be asked of a memo. -/
inductive Request where
  | lookup (v : Value) (prop default : Text)
  | clear

/-- The answer to a request, if it has one, and the memo after it. -/
def answer (m : Memo) : Request → Option (Outcome Text) × Memo
  | .lookup v prop default => let r := m.lookup v prop default; (some r.1, r.2)
  | .clear => (none, m.clear)

/-- The answers to requests made one after the other. -/
def run (m : Memo) : List Request → List (Option (Outcome Text))
  | [] => []
  | r :: rs => (m.answer r).1 :: run (m.answer r).2 rs

/-- A sound memo gives the answers of any other, and stays sound. -/
theorem Sound.answer (h : m.Sound) (h' : m'.Sound) (r : Request) :
    (m.answer r).1 = (m'.answer r).1 ∧ (m.answer r).2.Sound := by
  cases r with
  | lookup v prop default =>
    obtain ⟨heq, hsound⟩ := h.lookup v prop default
    exact ⟨congrArg some (heq.trans (h'.lookup v prop default).1.symm), hsound⟩
  | clear => exact ⟨rfl, h.of_subset (List.nil_subset _)⟩

theorem Sound.run (h : m.Sound) (h' : m'.Sound) (rs : List Request) :
    m.run rs = rs.map fun r => (m'.answer r).1 := by
  induction rs generalizing m with
  | nil => rfl
  | cons r rs ih =>
    obtain ⟨hanswer, hsound⟩ := h.answer h' r
    rw [Memo.run, List.map_cons, hanswer, ih hsound]

/-- **In a run of look-ups and clearings every answer is that of an empty memo**, whatever the
capacity of the memo makes it forget. -/
theorem run_eq_map_alone (capacity : Nat) (rs : List Request) :
    Memo.run (.empty capacity) rs = rs.map fun r => (Memo.answer (.empty capacity) r).1 :=
  (sound_empty capacity).run (sound_empty capacity) rs

end Memo

end Clipbook.Schema
