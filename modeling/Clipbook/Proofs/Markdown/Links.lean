import Clipbook.Markdown.Links
import Clipbook.Proofs.Markup.Node
import Clipbook.Proofs.Table
import Clipbook.Proofs.Url

/-!
# Clipbook — the links of a fragment

Links and the addresses of images are resolved in two passes over a fragment, one for each of the
two attributes.  A pass ends well if it can resolve each address it comes to, and leaves all other
attributes as they are; so the second pass finds what the first one found.

Main results:

* `exists_resolveNodes_iff` — one pass.
* `exists_resolveBoth_iff` — both passes, on a page with a domain.
-/

namespace Clipbook.Markdown

open Markup

variable {base key other : Text} {as as' : Table AttributeValue} {n : Node} {ns ms : List Node}

/-! ## One attribute -/

/-- An attribute is resolved unless its address cannot be joined to that of the page. -/
theorem exists_resolveAttribute_iff (base key : Text) (as : Table AttributeValue) :
    (∃ as', resolveAttribute base key as = .ok as') ↔
      ∀ v, as.get? key = some v → ∃ t, Url.join base v.text = .ok t := by
  rw [resolveAttribute]
  cases hget : as.get? key with
  | none => exact iff_of_true ⟨as, rfl⟩ nofun
  | some v =>
    refine Except.exists_map_eq_ok_iff.trans ⟨fun h v' heq => ?_, fun h => h v rfl⟩
    rwa [← Option.some.inj heq]

/-- No attribute but the one that is resolved changes. -/
theorem get?_resolveAttribute (hne : other ≠ key) (h : resolveAttribute base key as = .ok as') :
    as'.get? other = as.get? other := by
  rw [resolveAttribute] at h
  split at h
  · rw [Except.ok.inj h]
  · obtain ⟨t, -, rfl⟩ := Except.map_eq_ok_iff.mp h
    rw [Table.get?_put, if_neg hne.symm]

/-! ## One pass -/

/-- An element is resolved where its attribute, its children and its siblings are. -/
theorem resolveNodes_element_eq_ok_iff {name : Text} {void : Bool} {cs : List Node} :
    resolveNodes base key (.element name as void cs :: ns) = .ok ms ↔
      ∃ as' cs' ns', resolveAttribute base key as = .ok as' ∧ resolveNodes base key cs = .ok cs' ∧
        resolveNodes base key ns = .ok ns' ∧ ms = .element name as' void cs' :: ns' := by
  rw [resolveNodes, resolveNode]
  constructor
  · intro h
    obtain ⟨m, hm, h⟩ := Except.bind_eq_ok_iff.mp h
    obtain ⟨as', has, hm⟩ := Except.bind_eq_ok_iff.mp hm
    obtain ⟨cs', hcs, hm⟩ := Except.bind_eq_ok_iff.mp hm
    obtain ⟨ns', hns, h⟩ := Except.bind_eq_ok_iff.mp h
    obtain rfl := Except.ok.inj hm
    exact ⟨as', cs', ns', has, hcs, hns, (Except.ok.inj h).symm⟩
  · rintro ⟨as', cs', ns', has, hcs, hns, rfl⟩
    rw [has, hcs, hns]
    rfl

theorem resolveNodes_text (base key : Text) (kind : TextKind) (t : Text) (ns : List Node) :
    resolveNodes base key (.text kind t :: ns) =
      (resolveNodes base key ns).map (.text kind t :: ·) := by
  rw [resolveNodes, resolveNode, Except.ok_bind]
  rfl

/-- **A pass ends well** if each address it comes to can be resolved. -/
theorem exists_resolveNodes_iff (base key : Text) (ns : List Node) :
    (∃ ms, resolveNodes base key ns = .ok ms) ↔
      ∀ n ∈ Node.elementsOf ns, ∀ v, n.attribute? key = some v →
        ∃ t, Url.join base v.text = .ok t := by
  induction ns using Node.forestInductionOn with
  | nil => exact iff_of_true ⟨[], by rw [resolveNodes]⟩ nofun
  | text kind t ns ih =>
    rw [resolveNodes_text, Node.elementsOf_text_cons, ← ih]
    exact Except.exists_map_eq_ok_iff
  | element name as void cs ns ihcs ihns =>
    -- the element itself, then what is inside of it, then its siblings
    rw [Node.elementsOf_element_cons, List.forall_mem_cons, List.forall_mem_append, ← ihcs, ← ihns]
    show _ ↔ (∀ v, as.get? key = some v → ∃ t, Url.join base v.text = .ok t) ∧ _
    rw [← exists_resolveAttribute_iff]
    simp only [resolveNodes_element_eq_ok_iff]
    constructor
    · rintro ⟨_, as', cs', ns', has, hcs, hns, rfl⟩
      exact ⟨⟨as', has⟩, ⟨cs', hcs⟩, ⟨ns', hns⟩⟩
    · rintro ⟨⟨as', has⟩, ⟨cs', hcs⟩, ⟨ns', hns⟩⟩
      exact ⟨_, as', cs', ns', has, hcs, hns, rfl⟩

/-- A pass finds every other attribute and leaves it as it is. -/
theorem attributes_resolveNodes (hne : other ≠ key) (h : resolveNodes base key ns = .ok ms) :
    (Node.elementsOf ms).map (Node.attribute? other) =
      (Node.elementsOf ns).map (Node.attribute? other) := by
  induction ns using Node.forestInductionOn generalizing ms with
  | nil =>
    rw [resolveNodes] at h
    rw [Except.ok.inj h]
  | text kind t ns ih =>
    rw [resolveNodes_text] at h
    obtain ⟨ms, hms, rfl⟩ := Except.map_eq_ok_iff.mp h
    rw [Node.elementsOf_text_cons, Node.elementsOf_text_cons, ih hms]
  | element name as void cs ns ihcs ihns =>
    obtain ⟨as', cs', ns', has, hcs, hns, rfl⟩ := resolveNodes_element_eq_ok_iff.mp h
    -- the element keeps its other attributes, and so do those inside and behind
    have hself : Node.attribute? other (.element name as' void cs') =
        Node.attribute? other (.element name as void cs) := get?_resolveAttribute hne has
    rw [Node.elementsOf_element_cons, Node.elementsOf_element_cons, List.map_cons, List.map_cons,
      List.map_append, List.map_append, hself, ihcs hcs, ihns hns]

/-! ## Both passes -/

/-- The attributes that hold addresses. -/
def addressKeys : List Text := ["href".toList, "src".toList]

/-- The fragment with its links resolved. -/
def resolveBoth (base : Text) (ns : List Node) : Except Fault (List Node) :=
  resolveNodes base "href".toList ns >>= resolveNodes base "src".toList

/-- The addresses in a fragment name hosts that may be named. -/
def Linked (ns : List Node) : Prop :=
  ∀ n ∈ Node.elementsOf ns, ∀ key ∈ addressKeys, ∀ v, n.attribute? key = some v →
    Url.Hostable (Url.namedHost v.text)

/-- **The links of a fragment are resolved** if the addresses in it name hosts that may be named. -/
theorem exists_resolveBoth_iff {d : Text} (h : Url.domain base = .ok d) (ns : List Node) :
    (∃ ms, resolveBoth base ns = .ok ms) ↔ Linked ns := by
  have hpass (key : Text) (ns : List Node) :
      (∃ ms, resolveNodes base key ns = .ok ms) ↔
        ∀ a ∈ (Node.elementsOf ns).map (Node.attribute? key), ∀ v, a = some v →
          Url.Hostable (Url.namedHost v.text) := by
    rw [exists_resolveNodes_iff, List.forall_mem_map]
    exact forall₄_congr fun _ _ v _ => Url.exists_join_iff h v.text
  -- what the first pass leaves has the same addresses for the second one
  have hsecond {ms : List Node} (hms : resolveNodes base "href".toList ns = .ok ms) :
      (∃ ms', resolveNodes base "src".toList ms = .ok ms') ↔
        ∃ ms', resolveNodes base "src".toList ns = .ok ms' := by
    rw [hpass, hpass, attributes_resolveNodes (by decide) hms]
  have hboth : (∃ ms, resolveBoth base ns = .ok ms) ↔
      (∃ ms, resolveNodes base "href".toList ns = .ok ms) ∧
        ∃ ms, resolveNodes base "src".toList ns = .ok ms := by
    constructor
    · rintro ⟨ms', h'⟩
      obtain ⟨ms, hms, hms'⟩ := Except.bind_eq_ok_iff.mp h'
      exact ⟨⟨ms, hms⟩, (hsecond hms).mp ⟨ms', hms'⟩⟩
    · rintro ⟨⟨ms, hms⟩, hsrc⟩
      obtain ⟨ms', hms'⟩ := (hsecond hms).mpr hsrc
      exact ⟨ms', Except.bind_eq_ok_iff.mpr ⟨ms, hms, hms'⟩⟩
  rw [hboth, hpass, hpass, List.forall_mem_map, List.forall_mem_map, ← forall₂_and]
  refine forall₂_congr fun n _ => ?_
  rw [addressKeys, List.forall_mem_cons, List.forall_mem_singleton]

end Clipbook.Markdown
