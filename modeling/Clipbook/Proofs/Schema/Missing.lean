import Clipbook.Proofs.Schema.Search

/-!
# Clipbook — properties that are missing

A graph may not have the first key of a property anywhere.  A look-up still goes through all of
it, and it ends at a text wherever it comes to one: the texts of the lists inside count as found,
although none of the keys was gone along, and so do the names in a list that it reaches by the
path to the names of authors.  These texts are called stray.  The default is given where the graph
holds no stray text, and only there.

Main results:

* `finds_iff_stray` — without its first key a property finds the stray texts and nothing else.
* `lookup_eq_default_iff` — the default is given where there is no stray text.
* `lookup_keywords` — the texts of a list are found under every name.
-/

namespace Clipbook.Schema

variable {v : Value} {key path : Text} {keys : List Text} {items : List Value}
  {members : List (Text × Value)}

/-- The first key of a property. -/
def firstKey (prop : Text) : Text :=
  (Text.splitOn '.' prop).headD []

theorem splitOn_eq_firstKey_cons (prop : Text) :
    ∃ keys, Text.splitOn '.' prop = firstKey prop :: keys := by
  obtain ⟨key, keys, h⟩ := List.exists_cons_of_ne_nil (Text.splitOn_ne_nil '.' prop)
  rw [firstKey, h]
  exact ⟨keys, rfl⟩

/-! ## Stray texts -/

/-- A text that a search comes to without a key, in a value it reached by a path. -/
inductive Stray : Value → Text → Prop
  | text {t path : Text} : t ≠ [] → Stray (.str t) path
  | item {items : List Value} {v : Value} {path : Text} : path ≠ authorName → v ∈ items →
      Stray v path → Stray (.arr items) path
  | author {items : List Value} {v : Value} : v ∈ items →
      Finds v ["name".toList] "name".toList → Stray (.arr items) authorName
  | member {members : List (Text × Value)} {k : Text} {v : Value} {path : Text} :
      (k, v) ∈ members → v.isNested = true → Stray v (joinKey path k) → Stray (.obj members) path

/-- **Without its first key a property finds the stray texts** and nothing else. -/
theorem finds_iff_stray (v : Value) (path : Text) (h : v.hasKey key = false) :
    Finds v (key :: keys) path ↔ Stray v path := by
  induction v using Value.inductionOn generalizing path with
  | null | bool | int | float => exact iff_of_false (fun h => by cases h) (fun h => by cases h)
  | str t =>
    constructor
    · rintro ⟨ht⟩
      exact .text ht
    · rintro ⟨ht⟩
      exact .text ht
  | arr items ih =>
    have hitem := fun v (hmem : v ∈ items) => ih v hmem path (Value.hasKey_of_mem_items h hmem)
    by_cases hpath : path = authorName
    · -- the items are asked for a name, whatever the keys are
      subst hpath
      constructor
      · rintro (_ | ⟨hmem, hv⟩)
        exact .author hmem hv
      · rintro (_ | ⟨hne, -, -⟩ | ⟨hmem, hv⟩)
        · exact absurd rfl hne
        · exact .item hmem hv
    · -- the items are searched along the same keys
      have hsame : elementSearch (key :: keys) path = (key :: keys, path) := if_neg hpath
      constructor
      · rintro (_ | ⟨hmem, hv⟩)
        rw [hsame] at hv
        exact .item hpath hmem ((hitem _ hmem).mp hv)
      · rintro (_ | ⟨-, hmem, hv⟩ | _)
        · refine .item hmem ?_
          rw [hsame]
          exact (hitem _ hmem).mpr hv
        · exact absurd rfl hpath
  | obj members ih =>
    have hnone := Value.get?_eq_none_of_hasKey h
    have hmember := fun k v (hmem : (k, v) ∈ members) =>
      ih k v hmem (joinKey path k) (Value.hasKey_of_mem_members h hmem)
    -- the key is missing, so the search goes inside
    constructor
    · rintro (_ | _ | _ | ⟨hget, -⟩ | ⟨-, hmem, hv, hstray⟩)
      · cases hnone.symm.trans hget
      · exact .member hmem hv ((hmember _ _ hmem).mp hstray)
    · rintro (_ | _ | _ | ⟨hmem, hv, hstray⟩)
      exact .inside hnone hmem hv ((hmember _ _ hmem).mpr hstray)

/-! ## Defaults -/

/-- Nothing has no stray text. -/
theorem not_stray_of_isNothing (h : v.isNothing = true) : ¬Stray v path := by
  rintro (ht | ⟨-, hmem, -⟩ | ⟨hmem, -⟩ | ⟨hmem, -, -⟩)
  · exact ht (of_decide_eq_true h)
  all_goals
    rw [List.isEmpty_iff.mp h] at hmem
    cases hmem

/-- The default stands in for the empty text only. -/
theorem orElse_eq_default_iff (t : Text) : (∀ default, orElse default t = default) ↔ t = [] := by
  constructor
  · intro h
    -- the empty default tells whether something was found
    have hnil := h []
    rw [orElse] at hnil
    split at hnil
    · assumption
    · exact hnil
  · rintro rfl default
    exact if_pos rfl

/-- What is looked up is the property, with the default in its place where it is empty. -/
theorem lookup_result (hnothing : v.isNothing = false) (hdeep : v.tooDeep = false)
    (prop default : Text) :
    (lookup v prop default).result = .ok (orElse default (property v prop)) := by
  rw [lookup, hnothing, hdeep]
  rfl

/-- A graph that is something and not too deep gives the default where nothing is found in it. -/
theorem lookup_eq_default_iff_not_finds (hnothing : v.isNothing = false)
    (hdeep : v.tooDeep = false) (prop : Text) :
    (∀ default, (lookup v prop default).result = .ok default) ↔
      ¬Finds v (Text.splitOn '.' prop) [] := by
  have hlookup := lookup_result hnothing hdeep prop
  rw [← search_ne_nil_iff, Decidable.not_not, ← orElse_eq_default_iff]
  constructor
  · intro h default
    exact Except.ok.inj ((hlookup default).symm.trans (h default))
  · intro h default
    rw [hlookup, property, h]

/-- **A graph without the first key of a property gives the default where it has no stray text**,
or is too deep to search, and only there. -/
theorem lookup_eq_default_iff (v : Value) (prop : Text)
    (h : v.hasKey (firstKey prop) = false) :
    (∀ default, (lookup v prop default).result = .ok default) ↔
      v.tooDeep = true ∨ ¬Stray v [] := by
  cases hnothing : v.isNothing with
  | true =>
    -- nothing is searched in nothing
    refine iff_of_true (fun default => ?_) (.inr (not_stray_of_isNothing hnothing))
    rw [lookup, if_pos hnothing]
    rfl
  | false =>
    cases hdeep : v.tooDeep with
    | true =>
      -- nor is it in what is too deep
      refine iff_of_true (fun default => ?_) (.inl rfl)
      rw [lookup, hnothing, hdeep]
      rfl
    | false =>
      -- the first key is nowhere, so only strays can be found
      obtain ⟨keys, hkeys⟩ := splitOn_eq_firstKey_cons prop
      rw [lookup_eq_default_iff_not_finds hnothing hdeep, hkeys, finds_iff_stray v [] h]
      simp

/-- The name of a site is not stray: it is given for the key `name` alone. -/
theorem lookup_eq_default_iff_site :
    let v := Value.obj [("@graph".toList, .arr [.obj [("name".toList, .str "Site".toList)]])]
    v.hasKey (firstKey "headline".toList) = false ∧
      ∀ default, (lookup v "headline".toList default).result = .ok default := by
  intro v
  have hkey : v.hasKey (firstKey "headline".toList) = false := rfl
  have hfinds : Finds v [firstKey "headline".toList] [] ↔ Stray v [] := finds_iff_stray v [] hkey
  have hstray : ¬Stray v [] := by
    rw [← hfinds, ← search_ne_nil_iff, Decidable.not_not]
    rfl
  have hiff := lookup_eq_default_iff v "headline".toList hkey
  exact ⟨hkey, hiff.mpr (.inr hstray)⟩

/-- **The texts of a list are found under every name**: a keyword is given for a headline, in a
graph that has no headline. -/
theorem lookup_keywords :
    ¬∀ (v : Value) (prop default : Text), v.isNested = true →
      v.hasKey (firstKey prop) = false → (lookup v prop default).result = .ok default := by
  intro h
  have hdefault := h (.obj [("keywords".toList, .arr [.str ['x']])]) "headline".toList
    "n/a".toList rfl rfl
  rw [lookup_result rfl rfl] at hdefault
  exact absurd (Except.ok.inj hdefault) (by decide +kernel)

end Clipbook.Schema
