import Clipbook.Filter.Tree
import Clipbook.Proofs.Markup.Node
import Clipbook.Proofs.Markup.Tree
import Clipbook.Proofs.Value.Written

/-!
# Clipbook — markup through objects and back

A fragment that is made into objects, written again and made into objects a second time gives the
same objects where nothing in it is taken for something else when it is written: `toMarkup` escapes
nothing, so what was a reference is markup the second time, a quote ends the value it is in, and two
texts that a comment divided are one.

Main results:

* `toTree_toMarkup` — fragments that go through objects and back, for all readers.
* `toTree_toMarkup_escaped` — an escaped tag comes back as a tag.
-/

namespace Clipbook.Filter

open Markup
open Markup.Tree (Faithful Writable ofNode? ofNodes writtenAll content)

variable {ts cs : List Tree} {name rest t : Text} {as : Table Text} {levels : Nat}

/-! ## Objects -/

mutual

/-- The object of a tree. -/
def treeValue : Tree → Value
  | .text t => .obj [(textKey, .str t)]
  | .element name as cs =>
    .obj (Table.ofList [(name, .arr (treeValues cs)),
      (attributesKey, .obj (as.map fun a => (a.1, .str a.2)))])

def treeValues : List Tree → List Value
  | [] => []
  | t :: ts => treeValue t :: treeValues ts

end

/-- **Objects are made of the trees** of the nodes, and of nothing else in them. -/
theorem nodeValues_eq (ns : List Node) : nodeValues ns = treeValues (ofNodes ns) := by
  induction ns using Node.forestInductionOn with
  | nil => rfl
  | text kind t ns ih =>
    rw [nodeValues, ofNodes, nodeValue?, ofNode?]
    by_cases hleft : (kind.hasNotation || Text.blank t) = true
    · rw [if_pos hleft, if_pos hleft]
      exact ih
    · rw [if_neg hleft, if_neg hleft]
      exact congrArg (_ :: ·) ih
  | element name as void cs ns ihcs ih =>
    rw [nodeValues, ofNodes, nodeValue?, ofNode?, treeValues, treeValue, ih, ihcs, attributesValue,
      List.map_map]
    rfl

/-- The members of the object of an element. -/
def elementMembers (name : Text) (as : Table Text) (cs : List Tree) : Table Value :=
  [(name, .arr (treeValues cs)), (attributesKey, .obj (as.map fun a => (a.1, .str a.2)))]

/-- The object of an element whose name is none of the two keys. -/
theorem treeValue_element (h : Writable name as) (cs : List Tree) :
    treeValue (.element name as cs) = .obj (elementMembers name as cs) := by
  have hne : attributesKey ∉ Table.keys [(name, Value.arr (treeValues cs))] :=
    fun hmem => h.free.2 (List.mem_singleton.mp hmem).symm
  exact congrArg Value.obj (Table.put_of_not_mem_keys hne)

/-! ## Objects written -/

/-- The objects of a forest are read back from JSON, and written as the forest is. -/
structure Restored (ts : List Tree) : Prop where
  isExact : ∀ v ∈ treeValues ts, v.isExact = true
  markup : ∀ levels, Value.itemsDepth (treeValues ts) ≤ levels →
    itemsMarkup levels (treeValues ts) = .ok (writtenAll ts)

theorem restored_nil : Restored [] :=
  ⟨fun _ hv => absurd hv List.not_mem_nil, fun _ _ => rfl⟩

/-- One tree more. -/
theorem Restored.cons {u : Tree} (hexact : (treeValue u).isExact = true)
    (hmarkup : ∀ levels, (treeValue u).depth ≤ levels →
      Filter.markup levels (treeValue u) = .ok u.written) (h : Restored ts) :
    Restored (u :: ts) := by
  refine ⟨fun v hv => ?_, fun levels hdepth => ?_⟩
  · rcases List.mem_cons.mp hv with rfl | hv
    · exact hexact
    · exact h.isExact v hv
  · obtain ⟨hfirst, hothers⟩ := Nat.max_le.mp hdepth
    rw [treeValues, itemsMarkup, hmarkup levels hfirst, h.markup levels hothers]
    rfl

/-- Attributes are written as they are in a tag. -/
theorem attributeTexts_eq (as : Table Text) :
    attributeTexts (as.map fun a => (a.1, Value.str a.2)) = .ok (as.map Token.attributeText) := by
  induction as with
  | nil => rfl
  | cons a as ih =>
    rw [List.map_cons, attributeTexts, ih]
    rfl

/-- The attributes of an element stand in its tag as they are written. -/
theorem attributesMarkup_eq (h : Writable name as) (cs : List Tree) :
    attributesMarkup (elementMembers name as cs) = .ok (Token.attributesText as) := by
  have hname : name ≠ attributesKey := h.free.2
  have hget : (elementMembers name as cs).get? attributesKey =
      some (.obj (as.map fun a => (a.1, .str a.2))) := by
    rw [elementMembers, Table.get?_cons, if_neg hname, Table.get?_cons, if_pos rfl]
  rw [attributesMarkup, hget]
  show (attributeTexts (as.map fun a => (a.1, Value.str a.2))).map (Text.join [' ']) = _
  rw [attributeTexts_eq]
  rfl

theorem exists_eq_succ {n levels : Nat} (h : n + 1 ≤ levels) : ∃ k, levels = k + 1 ∧ n ≤ k :=
  ⟨levels - 1, by omega, by omega⟩

theorem markup_text (levels : Nat) (hdepth : (treeValue (.text t)).depth ≤ levels) :
    markup levels (treeValue (.text t)) = .ok t := by
  obtain ⟨levels, rfl, -⟩ := exists_eq_succ hdepth
  rw [treeValue, markup, membersMarkup, if_pos rfl]
  show Except.ok (t ++ []) = _
  rw [List.append_nil]

/-- An element is written as it is where its children are. -/
theorem markup_element (h : Writable name as) (hcs : Restored cs) (levels : Nat)
    (hdepth : (treeValue (.element name as cs)).depth ≤ levels) :
    markup levels (treeValue (.element name as cs)) = .ok (Tree.element name as cs).written := by
  have htext : name ≠ textKey := h.free.1
  have hattributes : name ≠ attributesKey := h.free.2
  rw [treeValue_element h] at hdepth ⊢
  -- one level for the object, one for the list of the children
  obtain ⟨levels, rfl, hmembers⟩ := exists_eq_succ hdepth
  obtain ⟨levels, rfl, hitems⟩ := exists_eq_succ (Nat.max_le.mp hmembers).1
  rw [markup, attributesMarkup_eq h, elementMembers, membersMarkup, if_neg htext,
    if_neg hattributes, markup, hcs.markup levels hitems, membersMarkup, if_neg (by decide),
    if_pos rfl, membersMarkup]
  show Except.ok ('<' :: name ++ ' ' :: Token.attributesText as ++ '>' :: writtenAll cs ++
    '<' :: '/' :: name ++ ['>'] ++ ([] ++ [])) = Except.ok (Tree.element name as cs).written
  simp [Tree.written, Token.startText, Token.stopText]

/-- The object of an element is exact where those of its children are. -/
theorem isExact_element (h : Writable name as) (hcs : Restored cs) :
    (treeValue (.element name as cs)).isExact = true := by
  have hattributes : name ≠ attributesKey := h.free.2
  have hkeys : (Table.keys (elementMembers name as cs)).Nodup :=
    List.nodup_cons.mpr
      ⟨fun hmem => hattributes (List.mem_singleton.mp hmem), List.pairwise_singleton _ _⟩
  have hchildren : (Value.arr (treeValues cs)).isExact = true :=
    Value.isExact_arr_iff.mpr hcs.isExact
  have hvalues : (Value.obj (as.map fun a => (a.1, Value.str a.2))).isExact = true := by
    refine Value.isExact_obj_iff.mpr ⟨?_, fun k v hmem => ?_⟩
    · rw [Table.keys, List.map_map]
      exact h.once
    · obtain ⟨a, -, heq⟩ := List.mem_map.mp hmem
      rw [← (Prod.mk.inj heq).2]
      rfl
  rw [treeValue_element h, Value.isExact_obj_iff]
  refine ⟨hkeys, fun k v hmem => ?_⟩
  -- an element has two members: its children and its attributes
  rcases List.mem_cons.mp hmem with heq | hmem
  · rw [(Prod.mk.inj heq).2]
    exact hchildren
  · rw [(Prod.mk.inj (List.mem_singleton.mp hmem)).2]
    exact hvalues

theorem isExact_text (t : Text) : (treeValue (.text t)).isExact = true := by
  refine Value.isExact_obj_iff.mpr ⟨List.pairwise_singleton _ _, fun k v hmem => ?_⟩
  rw [(Prod.mk.inj (List.mem_singleton.mp hmem)).2]
  rfl

/-- A text may stand before a forest that is read back. -/
theorem Restored.text (t : Text) (h : Restored ts) : Restored (.text t :: ts) :=
  .cons (isExact_text t) markup_text h

/-- An element may stand before a forest that is read back. -/
theorem Restored.element (hwritable : Writable name as) (hcs : Restored cs) (h : Restored ts) :
    Restored (.element name as cs :: ts) :=
  .cons (isExact_element hwritable hcs) (markup_element hwritable hcs) h

/-- **A forest that reads back is written as it should be.** -/
theorem restored_of_faithful (h : Faithful rest ts) : Restored ts := by
  induction h with
  | nil => exact restored_nil
  | @text rest t ts hshown hinert hnext hts ih => exact ih.text t
  | @void rest name as ts hwritable hvoid hts ih => exact .element hwritable restored_nil ih
  | @raw rest name as t ts hwritable hraw hshown hend hts ih =>
    have hcontent : Restored (content t) := by
      unfold content
      split
      · exact restored_nil
      · exact .text t restored_nil
    exact .element hwritable hcontent ih
  | @element rest name as cs ts hwritable hvoid hraw hcs hts ihcs ih =>
    exact .element hwritable ihcs ih

/-! ## There and back -/

variable {closing : Closing}

/-- A fragment made into objects, written again and made into objects a second time, by one and the
same reader. -/
def throughMarkup (closing : Closing) (v : Value) : Outcome Value := do
  toTreeBy closing (← toMarkup (← toTreeBy closing v))

/-- The objects of a fragment that is read. -/
theorem toTreeBy_eq {h : Text} {ns : List Node} (hread : readFragmentBy closing h = .ok ns) :
    toTreeBy closing (.str h) =
      Outcome.ofExcept ((Value.arr (treeValues (ofNodes ns))).json?.map Value.str) := by
  have htext : Value.text (.str h) = .ok h := rfl
  rw [← nodeValues_eq]
  unfold toTreeBy
  rw [htext]
  show Outcome.bind (Outcome.ofExcept (readFragmentBy closing h)) _ = _
  rw [hread]
  show Outcome.bind (Outcome.ofExcept (Value.json? _)) _ = _
  cases Value.json? (.arr (nodeValues ns)) with
  | error e => rfl
  | ok j => rfl

/-- A fragment that cannot be read has no objects. -/
theorem toTreeBy_of_error {h : Text} {f : Fault} (hread : readFragmentBy closing h = .error f) :
    toTreeBy closing (.str h) = Outcome.fail f := by
  have htext : Value.text (.str h) = .ok h := rfl
  unfold toTreeBy
  rw [htext]
  show Outcome.bind (Outcome.ofExcept (readFragmentBy closing h)) _ = _
  rw [hread]
  rfl

/-- The markup of the objects of a forest. -/
theorem toMarkup_eq (h : Faithful rest ts) (hdepth : (Value.arr (treeValues ts)).tooDeep = false) :
    toMarkup (.str (Value.arr (treeValues ts)).json) = pure (.str (writtenAll ts)) := by
  have hrestored := restored_of_faithful h
  have hparsed : Value.parsed (.str (Value.arr (treeValues ts)).json) =
      .ok (.arr (treeValues ts)) := by
    have hjson := Value.ofJson_json (Value.isExact_arr_iff.mpr hrestored.isExact) hdepth
    rw [Value.parsed, hjson]
  -- one level is the list around the objects
  have hmarkup : markup Value.maxNesting (.arr (treeValues ts)) = .ok (writtenAll ts) := by
    have hle : Value.itemsDepth (treeValues ts) + 1 ≤ Value.maxNesting :=
      Nat.le_of_not_lt (of_decide_eq_false hdepth)
    obtain ⟨levels, hlevels, hitems⟩ := exists_eq_succ hle
    rw [hlevels, markup]
    exact hrestored.markup levels hitems
  unfold toMarkup
  rw [hparsed]
  show Outcome.bind (Outcome.ofExcept (markup _ _)) _ = _
  rw [hmarkup]
  rfl

/-- A fragment that is not nested too deeply has objects. -/
theorem toTreeBy_of_shallow {h : Text} {ns : List Node}
    (hread : readFragmentBy closing h = .ok ns)
    (hdepth : (Value.arr (treeValues (ofNodes ns))).tooDeep = false) :
    toTreeBy closing (.str h) = pure (.str (Value.arr (treeValues (ofNodes ns))).json) := by
  rw [toTreeBy_eq hread, Value.json?, hdepth, if_neg Bool.false_ne_true]
  rfl

/-- A fragment that reads back comes back as it was; what is too deep is too deep both times. -/
theorem throughMarkup_of_faithful {h : Text} {ns : List Node}
    (hread : readFragmentBy closing h = .ok ns) (hforest : Faithful [] (ofNodes ns)) :
    throughMarkup closing (.str h) = toTreeBy closing (.str h) := by
  unfold throughMarkup
  obtain ⟨ns', hback, hns⟩ := Tree.exists_readFragment_writtenAll closing hforest
  cases hdepth : (Value.arr (treeValues (ofNodes ns))).tooDeep with
  | true =>
    rw [toTreeBy_eq hread, Value.json?, if_pos hdepth]
    rfl
  | false =>
    -- both forests are the same, and so is their JSON
    have hagain :
        toTreeBy closing (.str (writtenAll (ofNodes ns))) = toTreeBy closing (.str h) := by
      rw [toTreeBy_eq hback, toTreeBy_eq hread, hns]
    have hjson := toTreeBy_of_shallow hread hdepth
    rw [hjson, pure_bind, toMarkup_eq hforest hdepth, pure_bind, hagain, hjson]

/-- **Objects that are written as markup come back** where nothing in the fragment is taken for
something else when it is written.  What keeps them from being made again is what kept them from
being made: a fragment that cannot be read, or one that is nested too deeply.  It does not matter
what a reader makes of elements that say of themselves that they are closed. -/
theorem toTree_toMarkup (closing : Closing) (h : Text)
    (hfaithful : ∀ ns, readFragmentBy closing h = .ok ns → Faithful [] (ofNodes ns)) :
    throughMarkup closing (.str h) = toTreeBy closing (.str h) ∧
      ∀ ns, readFragmentBy closing h = .ok ns → (Value.arr (nodeValues ns)).tooDeep = false →
        throughMarkup closing (.str h) = pure (.str (Value.arr (nodeValues ns)).json) := by
  refine ⟨?_, fun ns hread hdepth => ?_⟩
  · cases hread : readFragmentBy closing h with
    | error f =>
      unfold throughMarkup
      rw [toTreeBy_of_error hread]
      rfl
    | ok ns => exact throughMarkup_of_faithful hread (hfaithful ns hread)
  · rw [nodeValues_eq] at hdepth ⊢
    rw [throughMarkup_of_faithful hread (hfaithful ns hread), toTreeBy_of_shallow hread hdepth]

/-- A fragment with blanks, an ampersand alone, a list of words, and breaks in two notations. -/
def paragraph : Text :=
  "<P class='a  b'> AT & T<br/><br>x</P>".toList

/-- The objects of this fragment come back. -/
theorem toTree_toMarkup_paragraph :
    (∀ closing ns, readFragmentBy closing paragraph = .ok ns → Faithful [] (ofNodes ns)) ∧
    ∀ closing, (throughMarkup closing (.str paragraph)).result.map Value.shown =
      .ok ("[\x7b\"p\":[\x7b\"text\":\"AT & T\"\x7d,"
        ++ "\x7b\"br\":[],\"attributes\":\x7b\x7d\x7d,"
        ++ "\x7b\"br\":[],\"attributes\":\x7b\x7d\x7d,\x7b\"text\":\"x\"\x7d],"
        ++ "\"attributes\":\x7b\"class\":\"a b\"\x7d\x7d]").toList := by
  -- the condition can be decided, and so can the objects, which are made once
  obtain ⟨hall, hobjects⟩ :
      (∀ closing, (readFragmentBy closing paragraph).toOption.all
        (fun ns => Faithful [] (ofNodes ns)) = true) ∧
      ∀ closing, ((toTreeBy closing (.str paragraph)).result.map Value.shown).toOption =
        some ("[\x7b\"p\":[\x7b\"text\":\"AT & T\"\x7d,"
          ++ "\x7b\"br\":[],\"attributes\":\x7b\x7d\x7d,"
          ++ "\x7b\"br\":[],\"attributes\":\x7b\x7d\x7d,\x7b\"text\":\"x\"\x7d],"
          ++ "\"attributes\":\x7b\"class\":\"a b\"\x7d\x7d]").toList := by decide +kernel
  have hfaithful : ∀ closing ns, readFragmentBy closing paragraph = .ok ns →
      Faithful [] (ofNodes ns) := by
    intro closing ns hread
    have hdecided := hall closing
    rw [hread] at hdecided
    exact of_decide_eq_true hdecided
  refine ⟨hfaithful, fun closing => ?_⟩
  rw [(toTree_toMarkup closing _ (hfaithful closing)).1]
  exact Except.toOption_eq_some_iff.mp (hobjects closing)

/-- A reader that leaves a break open makes a tree that is not written as it is. -/
example : (readFragmentBy .byEndTag "<br><br/>x".toList).toOption.any
    (fun ns => Faithful [] (ofNodes ns)) = false := by decide +kernel

/-- **An escaped tag comes back as a tag**, whichever the reader is. -/
theorem toTree_toMarkup_escaped :
    let h := "&#60;b&#62;x".toList
    (∀ closing, (toTreeBy closing (.str h)).result.map Value.shown =
      .ok "[\x7b\"text\":\"<b>x\"\x7d]".toList) ∧
    (∀ closing, (throughMarkup closing (.str h)).result.map Value.shown =
      .ok "[\x7b\"b\":[\x7b\"text\":\"x\"\x7d],\"attributes\":\x7b\x7d\x7d]".toList) ∧
    ∀ closing, throughMarkup closing (.str h) ≠ toTreeBy closing (.str h) := by
  intro h
  -- a reference is resolved once, when the fragment is read first, and the text it leaves is a tag
  -- when that is read a second time
  obtain ⟨hfirst, hsecond⟩ :
      (∀ closing, ((toTreeBy closing (.str h)).result.map Value.shown).toOption =
        some "[\x7b\"text\":\"<b>x\"\x7d]".toList) ∧
      ∀ closing, ((throughMarkup closing (.str h)).result.map Value.shown).toOption =
        some "[\x7b\"b\":[\x7b\"text\":\"x\"\x7d],\"attributes\":\x7b\x7d\x7d]".toList := by
    decide +kernel
  refine ⟨fun closing => Except.toOption_eq_some_iff.mp (hfirst closing),
    fun closing => Except.toOption_eq_some_iff.mp (hsecond closing), fun closing heq => ?_⟩
  have hsame := hsecond closing
  rw [heq, hfirst closing] at hsame
  exact absurd (Option.some.inj hsame) (by decide)

end Clipbook.Filter
