import Clipbook.Markup.Fragment
import Clipbook.Proofs.Markup.Round
import Clipbook.Proofs.Outcome
import Clipbook.Proofs.Table

/-!
# Clipbook — trees that read back

What is left of a fragment without its comments and blanks is a forest of elements and texts.
Written with every attribute in double quotes and every element with an end tag, but with nothing
escaped, a forest is read back where no text next to another one, and no character of a text or a
value, is taken for something else.

The proof follows the reader: the tokens of what is written come from the rounds, and building
elements from these tokens adds the same trees to whatever has been built before.  Readers that
differ in elements that say of themselves that they are closed build the same trees, since there
are no such elements in what is written.

Main results:

* `areFaithful_of_faithful`, `faithful_of_areFaithful` — whether a forest is faithful is computed.
* `exists_readsAs_and_builds` — the tokens of a forest, and what is built from them.
* `exists_readFragment_writtenAll` — whole fragments.
-/

namespace Clipbook.Markup

/-- What is left of a fragment: its elements, and its texts without the blanks at their ends. -/
inductive Tree where
  | text (t : Text)
  | element (name : Text) (attributes : Table Text) (children : List Tree)

namespace Tree

open Token (Spells ReadsAs Stops)

variable {t name : Text} {as : Table Text} {cs ts us : List Tree} {ks ls : List Token}
  {b b' : Building} {n : Node} {ns : List Node} {rest : Text} {closing : Closing}

/-! ## Forests -/

mutual

/-- The tree of a node, unless the node is a remark or blank. -/
def ofNode? : Node → Option Tree
  | .text kind t =>
    if kind.hasNotation || Text.blank t then none else some (text (Text.strip t))
  | .element name as _ cs =>
    some (element (Text.lower name) (as.map fun a => (a.1, a.2.text)) (ofNodes cs))

def ofNodes : List Node → List Tree
  | [] => []
  | n :: ns =>
    match ofNode? n with
    | some t => t :: ofNodes ns
    | none => ofNodes ns

end

mutual

/-- A tree as markup, with nothing escaped. -/
def written : Tree → Text
  | text t => t
  | element name as cs => '<' :: Token.startText name as ++ (writtenAll cs ++ Token.stopText name)

def writtenAll : List Tree → Text
  | [] => []
  | t :: ts => t.written ++ writtenAll ts

end

/-- Induction on a forest: over the children of the first tree and over the trees behind it. -/
@[elab_as_elim]
theorem forestInductionOn {motive : List Tree → Prop} (ts : List Tree) (nil : motive [])
    (text : ∀ t ts, motive ts → motive (.text t :: ts))
    (element : ∀ name as cs ts, motive cs → motive ts → motive (.element name as cs :: ts)) :
    motive ts :=
  match ts with
  | [] => nil
  | .text t :: ts => text t ts (forestInductionOn ts nil text element)
  | .element name as cs :: ts =>
    element name as cs ts (forestInductionOn cs nil text element)
      (forestInductionOn ts nil text element)

def startsWithText : List Tree → Bool
  | text _ :: _ => true
  | _ => false

/-- The content of an element whose content is no markup. -/
def content (t : Text) : List Tree :=
  if t = [] then [] else [text t]

/-! ## Forests that can be told from what they are written as -/

/-- A text as it stands in a tree. -/
structure Shown (t : Text) : Prop where
  trimmed : Text.strip t = t
  visible : Text.blank t = false

/-- An element that can be written.  Its name is none of the two that stand for texts and
attributes where elements are named. -/
structure Writable (name : Text) (as : Table Text) : Prop where
  tag : Token.TagName name
  free : name ≠ "text".toList ∧ name ≠ "attributes".toList
  quotable : ∀ a ∈ as, Token.Quotable a
  once : as.keys.Nodup
  words : ∀ a ∈ as, (attributeValue name a.1 a.2).text = a.2

/-- Nothing in a forest is taken for something else when it is written before `rest`: no text stands
next to another one or starts a tag or a reference, and every element can be written.  A void
element has no content, and that of a raw one does not end it. -/
inductive Faithful : (rest : Text) → List Tree → Prop
  | nil {rest : Text} : Faithful rest []
  | text {rest t : Text} {ts : List Tree} (hshown : Shown t)
      (hinert : Token.isInert (writtenAll ts ++ rest) t = true)
      (hnext : startsWithText ts = false) (hts : Faithful rest ts) : Faithful rest (text t :: ts)
  | void {rest name : Text} {as : Table Text} {ts : List Tree} (hwritable : Writable name as)
      (hvoid : name ∈ voidNames) (hts : Faithful rest ts) :
      Faithful rest (element name as [] :: ts)
  | raw {rest name : Text} {as : Table Text} {t : Text} {ts : List Tree}
      (hwritable : Writable name as) (hraw : Token.isRaw name = true) (hshown : t ≠ [] → Shown t)
      (hend : Token.rawEnd? name t = none) (hts : Faithful rest ts) :
      Faithful rest (element name as (content t) :: ts)
  | element {rest name : Text} {as : Table Text} {cs ts : List Tree} (hwritable : Writable name as)
      (hvoid : name ∉ voidNames) (hraw : Token.isRaw name = false)
      (hcs : Faithful (Token.stopText name ++ (writtenAll ts ++ rest)) cs)
      (hts : Faithful rest ts) : Faithful rest (element name as cs :: ts)

/-! ## Faithful forests computed -/

instance : Decidable (Shown t) :=
  decidable_of_iff (Text.strip t = t ∧ Text.blank t = false)
    ⟨fun h => ⟨h.1, h.2⟩, fun h => ⟨h.trimmed, h.visible⟩⟩

instance : Decidable (Writable name as) :=
  decidable_of_iff (Token.TagName name ∧ (name ≠ "text".toList ∧ name ≠ "attributes".toList) ∧
      (∀ a ∈ as, Token.Quotable a) ∧ as.keys.Nodup ∧
      ∀ a ∈ as, (attributeValue name a.1 a.2).text = a.2)
    ⟨fun h => ⟨h.1, h.2.1, h.2.2.1, h.2.2.2.1, h.2.2.2.2⟩,
      fun h => ⟨h.tag, h.free, h.quotable, h.once, h.words⟩⟩

/-- The content of an element whose content is no markup. -/
def isRawContent (name : Text) : List Tree → Bool
  | [] => true
  | [text t] => t ≠ [] && decide (Shown t) && (Token.rawEnd? name t).isNone
  | _ => false

mutual

/-- Whether a tree is faithful that stands before `rest`. -/
def isFaithful (rest : Text) : Tree → Bool
  | text t => decide (Shown t) && Token.isInert rest t
  | element name as cs =>
    decide (Writable name as) &&
      if name ∈ voidNames then cs.isEmpty
      else if Token.isRaw name then isRawContent name cs
      else areFaithful (Token.stopText name ++ rest) cs

def areFaithful (rest : Text) : List Tree → Bool
  | [] => true
  | t :: ts =>
    t.isFaithful (writtenAll ts ++ rest) && !(startsWithText [t] && startsWithText ts) &&
      areFaithful rest ts

end

theorem isRaw_of_void : ∀ name ∈ voidNames, Token.isRaw name = false := by
  decide +kernel

/-- An element that holds raw text is not void. -/
theorem not_void_of_isRaw (hraw : Token.isRaw name = true) : name ∉ voidNames :=
  fun hmem => Bool.false_ne_true ((isRaw_of_void name hmem).symm.trans hraw)

/-- Raw text that does not end too early is the content of its element. -/
theorem isRawContent_content (hshown : t ≠ [] → Shown t) (hend : Token.rawEnd? name t = none) :
    isRawContent name (content t) = true := by
  unfold content
  split
  · rfl
  · next hne =>
    rw [isRawContent, decide_eq_true hne, decide_eq_true (hshown hne), hend]
    rfl

/-- The content of an element with raw text is one text, or nothing. -/
theorem exists_eq_content (h : isRawContent name cs = true) :
    ∃ t, cs = content t ∧ (t ≠ [] → Shown t) ∧ Token.rawEnd? name t = none := by
  unfold isRawContent at h
  split at h
  · exact ⟨[], rfl, fun hne => absurd rfl hne, rfl⟩
  · next t =>
    simp only [Bool.and_eq_true, decide_eq_true_eq, Option.isNone_iff_eq_none] at h
    exact ⟨t, (if_neg h.1.1).symm, fun _ => h.1.2, h.2⟩
  · cases h

theorem areFaithful_of_faithful (h : Faithful rest ts) : areFaithful rest ts = true := by
  induction h with
  | nil => rfl
  | @text rest t ts hshown hinert hnext hts ih =>
    rw [areFaithful, isFaithful, decide_eq_true hshown, hinert, hnext, ih]
    rfl
  | @void rest name as ts hwritable hvoid hts ih =>
    rw [areFaithful, isFaithful, decide_eq_true hwritable, ih, if_pos hvoid]
    rfl
  | @raw rest name as t ts hwritable hraw hshown hend hts ih =>
    rw [areFaithful, isFaithful, decide_eq_true hwritable, ih, if_neg (not_void_of_isRaw hraw),
      if_pos hraw, isRawContent_content hshown hend]
    rfl
  | @element rest name as cs ts hwritable hvoid hraw hcs hts ihcs ih =>
    rw [areFaithful, isFaithful, decide_eq_true hwritable, ih, if_neg hvoid, hraw,
      if_neg Bool.false_ne_true, ihcs]
    rfl

theorem faithful_of_areFaithful (h : areFaithful rest ts = true) : Faithful rest ts := by
  induction ts using forestInductionOn generalizing rest with
  | nil => exact .nil
  | text t ts ih =>
    rw [areFaithful, isFaithful, startsWithText, Bool.true_and, Bool.and_eq_true,
      Bool.and_eq_true, Bool.and_eq_true, Bool.not_eq_true', decide_eq_true_eq] at h
    obtain ⟨⟨⟨hshown, hinert⟩, hnext⟩, hts⟩ := h
    exact .text hshown hinert hnext (ih hts)
  | element name as cs ts ihcs ih =>
    rw [areFaithful, isFaithful, Bool.and_eq_true, Bool.and_eq_true, Bool.and_eq_true,
      decide_eq_true_eq] at h
    -- what the content has to be depends on the element: nothing, raw text or a forest
    obtain ⟨⟨⟨hwritable, hcontent⟩, -⟩, hts⟩ := h
    split at hcontent
    · next hvoid =>
      rw [List.isEmpty_iff.mp hcontent]
      exact .void hwritable hvoid (ih hts)
    · next hvoid =>
      split at hcontent
      · next hraw =>
        obtain ⟨t, rfl, hshown, hend⟩ := exists_eq_content hcontent
        exact .raw hwritable hraw hshown hend (ih hts)
      · next hraw =>
        exact .element hwritable hvoid (Bool.eq_false_iff.mpr hraw) (ihcs hcontent) (ih hts)

instance : Decidable (Faithful rest ts) :=
  decidable_of_iff _ ⟨faithful_of_areFaithful, areFaithful_of_faithful⟩

/-! ## Building -/

/-- Without pending text there is nothing to add. -/
theorem flush_of_pending (h : b.pending = none) (kind : Option TextKind) : b.flush kind = b := by
  rw [Building.flush, h]

theorem pending_add (b : Building) (n : Node) : (b.add n).pending = b.pending := by
  unfold Building.add
  split <;> rfl

theorem ended_add (b : Building) (n : Node) : (b.add n).ended = b.ended := by
  unfold Building.add
  split <;> rfl

/-- Nothing is pending after the pending text was added. -/
theorem pending_flush (b : Building) (kind : Option TextKind) : (b.flush kind).pending = none := by
  unfold Building.flush
  split
  · next h => exact h
  · exact pending_add _ _

theorem ended_flush (b : Building) (kind : Option TextKind) : (b.flush kind).ended = b.ended := by
  unfold Building.flush
  split
  · rfl
  · exact ended_add _ _

theorem steps_append (b : Building) (ks ls : List Token) :
    steps closing b (ks ++ ls) = (steps closing b ks).bind fun b' => steps closing b' ls := by
  induction ks generalizing b with
  | nil => rfl
  | cons k ks ih =>
    rw [List.cons_append, steps, steps]
    cases step closing b k with
    | error e => rfl
    | ok b' => exact ih b'

/-! ### Texts -/

theorem hasNotation_plainKind (b : Building) : b.plainKind.hasNotation = false := by
  unfold Building.plainKind
  cases hfound : b.stack.findSome? _ with
  | none => rfl
  | some kind =>
    obtain ⟨o, -, ho⟩ := List.exists_of_findSome?_eq_some hfound
    split at ho
    all_goals cases ho
    all_goals rfl

/-- What a fragment takes for a space is a blank. -/
theorem isBlank_of_isSpace {c : Char} (h : Building.isSpace c = true) : Text.isBlank c = true := by
  have hall : [' ', '\n', '\t', '\x0c', '\r'].all Text.isBlank = true := by decide
  exact List.all_eq_true.mp hall c (of_decide_eq_true h)

theorem squeeze_of_shown (h : Shown t) : Building.squeeze t = t := by
  refine if_neg fun hspaces => ?_
  have hblank : Text.blank t = true :=
    List.all_eq_true.mpr fun c hc => isBlank_of_isSpace (List.all_eq_true.mp hspaces c hc)
  rw [h.visible] at hblank
  cases hblank

theorem ne_nil_of_shown (h : Shown t) : t ≠ [] := by
  rintro rfl
  exact absurd h.visible (by decide)

theorem data_data (b : Building) (u v : Text) : (b.data u).data v = b.data (u ++ v) := by
  unfold Building.data
  rw [Option.getD_some, List.append_assoc]

/-- A name that stands for nothing is text. -/
theorem step_named (hname : namedText? name = none) (b : Building) :
    step closing b (.named name) = .ok (b.data ('&' :: name)) := by
  rw [step, nameData, hname]
  rfl

/-- Tokens that spell a text add it to the pending one. -/
theorem steps_spells (hks : Spells ks t) (b : Building) (u : Text) :
    steps closing (b.data u) ks = .ok (b.data (u ++ t)) := by
  induction hks generalizing u with
  | nil => rw [List.append_nil]; rfl
  | data v hks ih =>
    show steps closing ((b.data u).data v) _ = _
    rw [data_data, ih, List.append_assoc]
  | @named ks t name hname hks ih =>
    rw [steps, step_named hname]
    show steps closing ((b.data u).data ('&' :: name)) _ = _
    rw [data_data, ih, List.append_assoc]

/-- The tokens of a text make it the text that is to be added. -/
theorem steps_text (hks : Spells ks t) (hne : t ≠ []) (hpending : b.pending = none) :
    steps closing b ks = .ok { b with pending := some t } := by
  have hdata : { b with pending := some t } = b.data t := by
    rw [Building.data, hpending]
    rfl
  rw [hdata]
  cases hks with
  | nil => exact absurd rfl hne
  | data u hks => exact steps_spells hks b u
  | @named ks t name hname hks =>
    rw [steps, step_named hname]
    exact steps_spells hks b ('&' :: name)

/-- A shown text is added as it is. -/
theorem flush_text (hshown : Shown t) (hpending : b.pending = none) :
    ({ b with pending := some t } : Building).flush none = b.add (.text b.plainKind t) := by
  have hself : (if b.keepsBlanks then t else Building.squeeze t) = t := by
    rw [squeeze_of_shown hshown, ite_self]
  have hclear : { b with pending := none } = b := by
    obtain ⟨stack, roots, pending, ended⟩ := b
    obtain rfl : pending = none := hpending
    rfl
  show ({ b with pending := none } : Building).add
    (.text b.plainKind (if b.keepsBlanks then t else Building.squeeze t)) = _
  rw [hclear, hself]

theorem ofNode?_text {kind : TextKind} (hkind : kind.hasNotation = false) (hshown : Shown t) :
    ofNode? (.text kind t) = some (text t) := by
  rw [ofNode?, hkind, hshown.visible, hshown.trimmed, Bool.or_false, if_neg Bool.false_ne_true]

/-! ### Elements -/

/-- A new element and the children it has so far. -/
def inside (b : Building) (name : Text) (as : Table AttributeValue) (ns : List Node) : Building :=
  { b.flush none with stack := ⟨name, as, false, ns.reverse⟩ :: (b.flush none).stack }

/-- Nothing is pending inside of an element that has just been opened. -/
theorem pending_inside (b : Building) (name : Text) (as : Table AttributeValue) (ns : List Node) :
    (inside b name as ns).pending = none :=
  pending_flush b none

/-- Opening an element does not change which end tags are waited for. -/
theorem ended_inside (b : Building) (name : Text) (as : Table AttributeValue) (ns : List Node) :
    (inside b name as ns).ended = b.ended :=
  ended_flush b none

theorem start_of_not_void (hvoid : name ∉ voidNames) (as : Table AttributeValue) :
    b.start closing name as false = inside b name as [] := by
  unfold Building.start
  dsimp only
  rw [if_neg Bool.false_ne_true, if_neg hvoid, decide_eq_false hvoid]
  rfl

/-- Nodes added inside of an element are its children. -/
theorem foldl_add_inside (b : Building) (name : Text) (as : Table AttributeValue)
    (ns : List Node) : ns.foldl Building.add (inside b name as []) = inside b name as ns := by
  induction ns using List.reverseRecOn with
  | nil => rfl
  | append_singleton ns n ih =>
    rw [List.foldl_concat, ih, inside, inside, List.reverse_concat]
    rfl

/-- A void element is closed where it starts, and its end tag waited for. -/
theorem start_of_void (hvoid : name ∈ voidNames) (as : Table AttributeValue) :
    b.start closing name as false =
      { (b.flush none).add (.element name as true []) with ended := name :: b.ended } := by
  unfold Building.start
  dsimp only
  rw [if_neg Bool.false_ne_true, if_pos hvoid, decide_eq_true hvoid, ended_flush]
  unfold Building.pop Building.add
  dsimp only
  split <;> rfl

/-- The end tag of an element whose children have been added. -/
theorem close_inside {as : Table AttributeValue} (hended : b'.ended = [])
    (hflush : b'.flush none = inside b name as ns) :
    b'.close name = (b.flush none).add (.element name as false ns) := by
  have hopen : (inside b name as ns).isOpen name = true :=
    List.any_eq_true.mpr ⟨_, List.mem_cons_self .., decide_eq_true rfl⟩
  rw [Building.close, hended, if_neg List.not_mem_nil, hflush]
  dsimp only
  rw [if_pos hopen]
  -- the element is the innermost one, so no other is closed with it
  show (if name = name then (inside b name as ns).pop else _) = _
  rw [if_pos rfl]
  show (b.flush none).add (.element name as false ns.reverse.reverse) = _
  rw [List.reverse_reverse]

/-- The attributes of an element that is read from its start tag. -/
def values (name : Text) (as : Table Text) : Table AttributeValue :=
  attributeTable name (as.map fun a => (a.1, some a.2))

/-- A start tag that was written opens its element, and says nothing of its being closed. -/
theorem step_opening (b : Building) (name : Text) (as : Table Text) :
    step closing b (Token.opening name as) = .ok (b.start closing name (values name as) false) := rfl

/-- The attributes of an element are the ones it is written with. -/
theorem texts_values (h : Writable name as) :
    (values name as).map (fun a => (a.1, a.2.text)) = as := by
  have hkeys : (Table.keys (as.map fun a => (a.1, attributeValue name a.1 a.2))).Nodup := by
    rw [Table.keys, List.map_map]
    exact h.once
  have htable : values name as = as.map fun a => (a.1, attributeValue name a.1 a.2) := by
    have hextend := Table.extend_of_nodup_keys (t := []) hkeys
    rw [Table.extend_eq, List.foldl_map, List.nil_append] at hextend
    rw [values, attributeTable, List.foldl_map]
    exact hextend
  rw [htable, List.map_map]
  refine (List.map_congr_left fun a ha => ?_).trans (List.map_id as)
  exact Prod.ext rfl (h.words a ha)

/-- An element that may be written is a tree. -/
theorem ofNode?_element (h : Writable name as) (void : Bool) (ns : List Node) :
    ofNode? (.element name (values name as) void ns) = some (element name as (ofNodes ns)) := by
  rw [ofNode?, texts_values h, h.tag.lower]

/-! ### Forests -/

/-- The tokens of a forest, for a reader: whatever has been built before, and unless two texts would
meet, nodes are added of which nothing but the forest is left. -/
def Builds (closing : Closing) (ks : List Token) (ts : List Tree) : Prop :=
  ∀ b : Building, b.ended = [] → (startsWithText ts = true → b.pending = none) →
    ∃ b' ns, steps closing b ks = .ok b' ∧ b'.ended = [] ∧
      b'.flush none = ns.foldl Building.add (b.flush none) ∧ ofNodes ns = ts

/-- The tokens of one element, which add a node and leave no text behind. -/
def BuildsElement (closing : Closing) (ks : List Token) (t : Tree) : Prop :=
  ∀ b : Building, b.ended = [] →
    ∃ n, steps closing b ks = .ok ((b.flush none).add n) ∧ ofNode? n = some t

theorem builds_nil : Builds closing [] [] :=
  fun b hended _ => ⟨b, [], rfl, hended, rfl, rfl⟩

/-- Tokens that build an element may stand before those that build a forest. -/
theorem BuildsElement.cons {t : Tree} (ht : BuildsElement closing ks t)
    (hts : Builds closing ls ts) : Builds closing (ks ++ ls) (t :: ts) := by
  intro b hended _
  obtain ⟨n, hfirst, hn⟩ := ht b hended
  -- an element leaves no text behind, so what follows may begin with one
  have hpending : ((b.flush none).add n).pending = none := by
    rw [pending_add, pending_flush]
  obtain ⟨b', ns, hlater, hended', hflush, hns⟩ :=
    hts ((b.flush none).add n) (by rw [ended_add, ended_flush, hended]) fun _ => hpending
  refine ⟨b', n :: ns, ?_, hended', ?_, ?_⟩
  · rw [steps_append, hfirst]
    exact hlater
  · rw [hflush, flush_of_pending hpending, List.foldl_cons]
  · rw [ofNodes, hn, hns]

/-- Tokens that spell a text may stand before those of a forest that starts with no text. -/
theorem builds_text (hks : Spells ks t) (hshown : Shown t) (hnext : startsWithText ts = false)
    (hts : Builds closing ls ts) : Builds closing (ks ++ ls) (text t :: ts) := by
  intro b hended hpending
  have hnone := hpending rfl
  -- the text is added by what follows, which is no text and does not go on with it
  obtain ⟨b', ns, hlater, hended', hflush, hns⟩ := hts { b with pending := some t } hended
    fun h => absurd h (by rw [hnext]; exact Bool.false_ne_true)
  refine ⟨b', .text b.plainKind t :: ns, ?_, hended', ?_, ?_⟩
  · rw [steps_append, steps_text hks (ne_nil_of_shown hshown) hnone]
    exact hlater
  · rw [hflush, flush_text hshown hnone, flush_of_pending hnone, List.foldl_cons]
  · rw [ofNodes, ofNode?_text (hasNotation_plainKind b) hshown, hns]

/-- An element is built of its start tag, its content and its end tag. -/
theorem builds_element (hwritable : Writable name as) (hvoid : name ∉ voidNames)
    (hcs : Builds closing ks cs) :
    BuildsElement closing (Token.opening name as :: (ks ++ [.stop name])) (element name as cs) := by
  intro b hended
  have hended₀ := (ended_inside b name (values name as) []).trans hended
  have hpending := pending_inside b name (values name as) []
  obtain ⟨b', ns, hinner, hended', hflush, hns⟩ := hcs _ hended₀ fun _ => hpending
  rw [flush_of_pending hpending, foldl_add_inside] at hflush
  refine ⟨_, ?_, (ofNode?_element hwritable false ns).trans (by rw [hns])⟩
  -- the start tag, the tokens of the children, the end tag
  rw [← close_inside hended' hflush, steps, step_opening, start_of_not_void hvoid]
  show steps closing _ (ks ++ [.stop name]) = _
  rw [steps_append, hinner]
  rfl

/-- The end tag of a void element is passed over. -/
theorem builds_void (hwritable : Writable name as) (hvoid : name ∈ voidNames) :
    BuildsElement closing [Token.opening name as, .stop name] (element name as []) := by
  intro b hended
  refine ⟨_, ?_, ofNode?_element hwritable true []⟩
  rw [steps, step_opening, start_of_void hvoid, hended]
  -- the name is the only one whose end tag is awaited
  generalize hadd : (b.flush none).add _ = added
  have hadded : added.ended = [] := by rw [← hadd, ended_add, ended_flush, hended]
  obtain ⟨stack, roots, pending, ended⟩ := added
  obtain rfl : ended = [] := hadded
  show Except.ok (Building.close _ name) = _
  rw [Building.close, if_pos (List.mem_singleton.mpr rfl), List.erase_cons_head]

/-- Raw text is built of the tokens it is written as. -/
theorem builds_raw (hshown : t ≠ [] → Shown t) : Builds closing (Token.rawTokens t) (content t) := by
  unfold Token.rawTokens content
  split
  · exact builds_nil
  · next hne =>
    have hspells : Spells [.data t] t := by
      have h := Spells.data t .nil
      rwa [List.append_nil] at h
    exact builds_text hspells (hshown hne) rfl builds_nil

/-! ## Forests read back -/

/-- An element whose tags have been read. -/
theorem readsAs_element (hwritable : Writable name as) (hraw : Token.isRaw name = false)
    {inner : Text} (hinner : ReadsAs inner ks (Token.stopText name ++ rest)) :
    ReadsAs ('<' :: Token.startText name as ++ (inner ++ Token.stopText name))
      (Token.opening name as :: (ks ++ [.stop name])) rest := by
  have hstart := Token.readsAs_start hwritable.tag hwritable.quotable hraw
    ((inner ++ Token.stopText name) ++ rest)
  exact hstart.append (hinner.append (Token.readsAs_stop hwritable.tag rest))

theorem stops_stopText (name rest : Text) : Stops (Token.stopText name ++ rest) :=
  .inr ⟨_, Token.stopText_append name rest⟩

theorem writtenAll_content (t : Text) : writtenAll (content t) = t := by
  unfold content
  split
  · next h => rw [h, writtenAll]
  · rw [writtenAll, written, writtenAll, List.append_nil]

/-- What follows a text is the end or a tag. -/
theorem stops_writtenAll (hnext : startsWithText ts = false) (hrest : Stops rest) :
    Stops (writtenAll ts ++ rest) := by
  cases ts with
  | nil => exact hrest
  | cons t ts =>
    cases t with
    | text t => cases hnext
    | element name as cs =>
      exact .inr ⟨_, rfl⟩

/-- **The tokens of a forest** before the end or a tag, and what is built from them. -/
theorem exists_readsAs_and_builds (closing : Closing) (h : Faithful rest ts) (hrest : Stops rest) :
    ∃ ks, ReadsAs (writtenAll ts) ks rest ∧ Builds closing ks ts := by
  induction h with
  | nil => exact ⟨[], Token.readsAs_nil _, builds_nil⟩
  | @text rest t ts hshown hinert hnext hts ih =>
    -- what is behind a text is no text, so the text is not longer than it should be
    obtain ⟨ls, hlater, hbuilt⟩ := ih hrest
    obtain ⟨ks, hspells, hread⟩ :=
      Token.exists_readsAs_text hinert (stops_writtenAll hnext hrest)
    exact ⟨_, hread.append hlater, builds_text hspells hshown hnext hbuilt⟩
  | @void rest name as ts hwritable hvoid hts ih =>
    obtain ⟨ls, hlater, hbuilt⟩ := ih hrest
    have hread := readsAs_element hwritable (isRaw_of_void name hvoid)
      (Token.readsAs_nil (Token.stopText name ++ (writtenAll ts ++ rest)))
    exact ⟨_, hread.append hlater, (builds_void hwritable hvoid).cons hbuilt⟩
  | @raw rest name as t ts hwritable hraw hshown hend hts ih =>
    obtain ⟨ls, hlater, hbuilt⟩ := ih hrest
    have hvoid := not_void_of_isRaw hraw
    have hread := Token.readsAs_raw hwritable.tag hwritable.quotable hraw hend
      (writtenAll ts ++ rest)
    refine ⟨_, ?_, (builds_element hwritable hvoid (builds_raw hshown)).cons hbuilt⟩
    rw [writtenAll, written, writtenAll_content]
    exact hread.append hlater
  | @element rest name as cs ts hwritable hvoid hraw hcs hts ihcs ih =>
    -- the children stand before the end tag of their element
    obtain ⟨ls, hlater, hbuilt⟩ := ih hrest
    obtain ⟨ks, hinner, hchildren⟩ := ihcs (stops_stopText name (writtenAll ts ++ rest))
    have hread := readsAs_element hwritable hraw hinner
    exact ⟨_, hread.append hlater, (builds_element hwritable hvoid hchildren).cons hbuilt⟩

/-- Nodes added outside of all elements are the roots. -/
theorem foldl_add_roots (ns : List Node) :
    ns.foldl Building.add {} = ({ roots := ns.reverse } : Building) := by
  induction ns using List.reverseRecOn with
  | nil => rfl
  | append_singleton ns n ih =>
    rw [List.foldl_concat, ih, List.reverse_concat]
    rfl

/-- A building without open elements ends with the nodes added to it. -/
theorem finish_of_flush (h : b.flush none = ns.foldl Building.add {}) : b.finish = ns := by
  rw [Building.finish, h, foldl_add_roots]
  exact List.reverse_reverse ns

/-- **A forest that can be told from what it is written as reads back**, whichever the reader is:
nothing in what is written says of itself that it is closed. -/
theorem exists_readFragment_writtenAll (closing : Closing) (h : Faithful [] ts) :
    ∃ ns, readFragmentBy closing (writtenAll ts) = .ok ns ∧ ofNodes ns = ts := by
  obtain ⟨ks, hread, hbuilt⟩ := exists_readsAs_and_builds closing h (.inl rfl)
  obtain ⟨left, hleft, hround⟩ := hread ((writtenAll ts).length + 1) (by rw [List.append_nil]; omega)
  obtain ⟨b, ns, hsteps, -, hflush, hns⟩ := hbuilt {} rfl fun _ => rfl
  -- the first round leaves nothing to the second one
  have htokens : Token.ofText (writtenAll ts) = .ok ks := by
    obtain ⟨left, rfl⟩ := Nat.exists_eq_add_one_of_ne_zero (Nat.ne_of_gt hleft)
    rw [List.append_nil] at hround
    rw [Token.ofText, hround]
    show Except.ok (ks ++ [] ++ [] ++ []) = _
    rw [List.append_nil, List.append_nil, List.append_nil]
  refine ⟨ns, ?_, hns⟩
  rw [readFragmentBy, htokens]
  show (steps closing {} ks).map Building.finish = _
  rw [hsteps, Except.map, finish_of_flush hflush]

end Tree

end Clipbook.Markup
