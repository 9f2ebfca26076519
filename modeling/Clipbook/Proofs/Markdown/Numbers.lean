import Clipbook.Markdown
import Clipbook.Proofs.Markup.Node
import Clipbook.Proofs.Outcome
import Clipbook.Proofs.Template.Path

/-!
# Clipbook — the numbers in a fragment

Three elements are written with a number that the page gives: a heading has a level in its name, a
list counts from a start, and a cell stands for some columns.  And two names find something that is
no rule.  All else about an element can always be written, whatever it holds; so a fragment is
written unless one of these numbers is spelled in digits that make none, where the number is asked
for, or an element has one of these names.

The numbers are those of the engine of the library; other engines may ask for others.

Main results:

* `exists_byRule_iff` — one element, once its content is written.
* `exists_listMarkdown_iff` — whole fragments.
* `exists_convert_iff` — the fragments that the engine of the library writes as Markdown.
-/

namespace Clipbook.Markdown

open Markup
open Value (Numeral)

variable {s : Setting} {p parent : Place} {before after ns : List Node} {n : Node} {t name : Text}
  {as : Table AttributeValue} {void : Bool} {cs : List Node} {ts : List Text}

/-! ## Numerals -/

/-- A text that may be taken for a number is one if its digits spell one; the empty text is never
asked for. -/
theorem exists_readInt_iff_of_ne_nil (hne : t ≠ []) (h : t.all Text.isNumeric = true) :
    (∃ n, Number.readInt t = .ok n) ↔ Numeral t :=
  Number.exists_readInt_iff hne (List.all_eq_true.mp h)

theorem numeral_nil : Numeral [] := ⟨nofun, Nat.zero_le _⟩

/-- The columns of a cell are told unless they are spelled in digits that make no number. -/
theorem exists_columns_iff (as : Table AttributeValue) :
    (∃ n, columns as = .ok n) ↔
      ∀ v, as.get? "colspan".toList = some v → v.text.all Text.isDigit = true → Numeral v.text := by
  rw [columns]
  cases as.get? "colspan".toList with
  | none => exact iff_of_true ⟨1, rfl⟩ nofun
  | some v =>
    -- there is one value, so the condition is one on it
    have honly : (∀ v', some v = some v' → v'.text.all Text.isDigit = true → Numeral v'.text) ↔
        (v.text.all Text.isDigit = true → Numeral v.text) :=
      ⟨fun h => h v rfl, fun h v' heq => Option.some.inj heq ▸ h⟩
    rw [honly]
    show (∃ n, (if v.text ≠ [] ∧ v.text.all Text.isDigit = true then _ else Except.ok 1) =
      .ok n) ↔ _
    by_cases hnil : v.text = []
    · rw [if_neg fun h => h.1 hnil, hnil]
      exact iff_of_true ⟨1, rfl⟩ fun _ => numeral_nil
    · by_cases hall : v.text.all Text.isDigit = true
      -- digits that are no decimals are asked for a number all the same
      · have hnumeric : v.text.all Text.isNumeric = true :=
          List.all_eq_true.mpr fun c hc => Text.isNumeric_of_isDigit (List.all_eq_true.mp hall c hc)
        rw [if_pos ⟨hnil, hall⟩, ← exists_readInt_iff_of_ne_nil hnil hnumeric]
        exact Except.exists_map_eq_ok_iff.trans ⟨fun h _ => h, fun h => h hall⟩
      · rw [if_neg fun h => hall h.2]
        exact iff_of_true ⟨1, rfl⟩ fun h => absurd h hall

/-- The start of a list is told unless it is spelled in numbers that make none together. -/
theorem exists_firstNumber_iff (p : Place) :
    (∃ n, firstNumber p = .ok n) ↔
      ((attributeOf p "start").all Text.isNumeric = true → Numeral (attributeOf p "start")) := by
  rw [firstNumber]
  cases hstart : attributeOf p "start" with
  | nil => exact iff_of_true ⟨1, rfl⟩ fun _ => numeral_nil
  | cons c t =>
    dsimp only
    by_cases hall : (c :: t).all Text.isNumeric = true
    · rw [if_pos hall, exists_readInt_iff_of_ne_nil (List.cons_ne_nil c t) hall]
      exact ⟨fun h _ => h, fun h => h hall⟩
    · rw [if_neg hall]
      exact iff_of_true ⟨1, rfl⟩ fun h => absurd h hall

/-- The level of a heading is a number unless it has too many digits. -/
theorem numeral_headingDigits_iff (name : Text) :
    Numeral (headingDigits name) ↔ (headingDigits name).length ≤ Number.maxDigits := by
  refine and_iff_right fun c hc => ?_
  unfold headingDigits at hc
  split at hc
  · exact List.mem_takeWhile_imp hc
  · cases hc

/-! ## One element -/

/-- The numbers an element is written with can be read, where they are asked for: its level for a
heading, the start of a list for an item that holds something, the columns for a cell. -/
structure Numbered (p parent : Place) (t : Text) : Prop where
  level : isHeading p.name = true → (headingDigits p.name).length ≤ Number.maxDigits
  start : p.name = "li".toList → parent.name = "ol".toList → Text.strip t ≠ [] →
    (attributeOf parent "start").all Text.isNumeric = true → Numeral (attributeOf parent "start")
  span : p.name ∈ names "td th" → ∀ v, p.attributes.get? "colspan".toList = some v →
    v.text.all Text.isDigit = true → Numeral v.text

/-- An element of a name that has nothing to do with numbers. -/
theorem numbered_of_other (hheading : isHeading p.name = false) (hitem : p.name ≠ "li".toList)
    (hcell : p.name ∉ names "td th") : Numbered p parent t :=
  ⟨fun h => absurd (hheading.symm.trans h) Bool.false_ne_true, fun h => absurd h hitem,
    fun h => absurd h hcell⟩

/-- A heading is written if its level can be read. -/
theorem exists_heading_iff (hname : isHeading p.name = true) :
    (∃ u, heading s p.name t = .ok u) ↔ Numbered p parent t := by
  -- a heading is neither an item nor a cell
  have hrest : Numbered p parent t ↔ (headingDigits p.name).length ≤ Number.maxDigits := by
    refine ⟨fun h => h.level hname, fun h => ⟨fun _ => h, fun hitem => ?_, fun hcell => ?_⟩⟩
    · rw [hitem] at hname
      exact absurd hname (by decide)
    · have hnone : ∀ name ∈ names "td th", ¬isHeading name = true := by decide
      exact absurd hname (hnone _ hcell)
  have hdigits : headingDigits p.name ≠ [] := of_decide_eq_true hname
  have hnumeric : (headingDigits p.name).all Text.isNumeric = true := by
    rw [List.all_eq_true]
    intro c hc
    unfold headingDigits at hc
    split at hc
    · rw [Text.isNumeric, List.mem_takeWhile_imp hc, Bool.true_or]
    · cases hc
  rw [hrest, heading, ← numeral_headingDigits_iff,
    ← exists_readInt_iff_of_ne_nil hdigits hnumeric]
  exact Except.exists_map_eq_ok_iff

/-- An item is written if the start of its list can be read. -/
theorem exists_item_iff (hname : p.name = "li".toList) :
    (∃ u, item parent before t = .ok u) ↔ Numbered p parent t := by
  -- of the three numbers a rule may read, an item reads only that of its list
  have hrest : Numbered p parent t ↔
      (parent.name = "ol".toList → Text.strip t ≠ [] →
        (attributeOf parent "start").all Text.isNumeric = true →
          Numeral (attributeOf parent "start")) := by
    refine ⟨fun h => h.start hname, fun h => ⟨fun hheading => ?_, fun _ => h, fun hcell => ?_⟩⟩
    · rw [hname] at hheading
      exact absurd hheading (by decide)
    · rw [hname] at hcell
      exact absurd hcell (by decide)
  rw [hrest, item]
  by_cases hblank : Text.strip t = []
  · rw [if_pos hblank]
    exact iff_of_true ⟨_, rfl⟩ fun _ hcontent => absurd hblank hcontent
  · rw [if_neg hblank]
    refine Except.exists_map_eq_ok_iff.trans ?_
    rw [bullet]
    by_cases hlist : parent.name = "ol".toList
    · rw [if_pos hlist]
      refine Except.exists_map_eq_ok_iff.trans ((exists_firstNumber_iff parent).trans ?_)
      exact ⟨fun h _ _ => h, fun h => h hlist hblank⟩
    · rw [if_neg hlist]
      exact iff_of_true ⟨_, rfl⟩ fun h => absurd h hlist

/-- A cell is written if its columns can be told. -/
theorem exists_cell_iff (hname : p.name ∈ names "td th") :
    (∃ u, cell p t = .ok u) ↔ Numbered p parent t := by
  have hrest : Numbered p parent t ↔ ∀ v, p.attributes.get? "colspan".toList = some v →
      v.text.all Text.isDigit = true → Numeral v.text := by
    have hnone : ∀ name ∈ names "td th", ¬isHeading name = true ∧ name ≠ "li".toList := by decide
    exact ⟨fun h => h.span hname, fun h => ⟨fun hheading => absurd hheading (hnone _ hname).1,
      fun hitem => absurd hitem (hnone _ hname).2, fun _ => h⟩⟩
  rw [hrest, ← exists_columns_iff, cell]
  exact Except.exists_map_eq_ok_iff

/-! ### Rows -/

/-- The columns of the cells in a row can be told, and so those of the row. -/
def Spanned (ns : List Node) : Prop :=
  ∀ n ∈ Node.elementsOf ns, n.name? = some "td".toList ∨ n.name? = some "th".toList →
    ∃ k, columns (nodeAttributes n) = .ok k

/-- The columns of a row can be counted where those of each cell can. -/
theorem exists_totalColumns (h : ∀ n ∈ ns, ∃ k, columns (nodeAttributes n) = .ok k) :
    ∃ k, totalColumns ns = .ok k := by
  induction ns with
  | nil => exact ⟨0, rfl⟩
  | cons n ns ih =>
    obtain ⟨⟨k, hk⟩, hns⟩ := List.forall_mem_cons.mp h
    obtain ⟨m, hm⟩ := ih hns
    refine ⟨k + m, ?_⟩
    rw [totalColumns, hk, hm]
    rfl

/-- A row can be written where the columns of its cells can be counted. -/
theorem exists_row (h : Spanned p.children) : ∃ u, row p parent before t = .ok u := by
  have hcells : ∀ n ∈ (Node.elementsOf p.children).filter (fun n =>
      n.name? = some "td".toList ∨ n.name? = some "th".toList),
      ∃ k, columns (nodeAttributes n) = .ok k := by
    intro n hn
    obtain ⟨hmem, hname⟩ := List.mem_filter.mp hn
    exact h n hmem (of_decide_eq_true hname)
  obtain ⟨k, hk⟩ := exists_totalColumns hcells
  unfold row
  dsimp only
  rw [hk, Except.ok_bind]
  -- what the row looks like depends on where it stands, but it is always written
  split
  · exact ⟨_, rfl⟩
  · generalize (_ || _ : Bool) = isFirstRow
    cases isFirstRow with
    | true => exact ⟨_, rfl⟩
    | false => exact ⟨_, rfl⟩

/-! ### All rules -/

/-- What a name finds is a rule, or nothing. -/
structure Ruled (s : Setting) (name : Text) : Prop where
  entry : name ≠ entryName
  first : findsRules name = true → s.first = some name

/-- Without a rule an element is its content, unless its name finds something else. -/
theorem exists_withoutRule_iff : (∃ u, withoutRule s name t = .ok u) ↔ Ruled s name := by
  rw [withoutRule]
  by_cases hentry : name = entryName
  · rw [if_pos hentry]
    exact iff_of_false (Except.not_exists_error_eq_ok _) fun h => h.entry hentry
  · rw [if_neg hentry]
    by_cases hrules : findsRules name = true
    · rw [hrules, Bool.true_and]
      by_cases hfirst : s.first = some name
      · rw [decide_eq_false (not_not_intro hfirst), if_neg Bool.false_ne_true]
        exact iff_of_true ⟨t, rfl⟩ ⟨hentry, fun _ => hfirst⟩
      · rw [if_pos (decide_eq_true hfirst)]
        exact iff_of_false (Except.not_exists_error_eq_ok _) fun h => hfirst (h.first hrules)
    · rw [Bool.eq_false_iff.mpr hrules, Bool.false_and, if_neg Bool.false_ne_true]
      exact iff_of_true ⟨t, rfl⟩ ⟨hentry, fun h => absurd h hrules⟩

theorem ruled_of_isHeading (h : isHeading name = true) : Ruled s name := by
  -- such a name begins with an h
  obtain ⟨rest, rfl⟩ : ∃ rest, name = 'h' :: rest := by
    have hdigits : headingDigits name ≠ [] := of_decide_eq_true h
    unfold headingDigits at hdigits
    split at hdigits
    · exact ⟨_, rfl⟩
    · exact absurd rfl hdigits
  refine ⟨fun heq => ?_, fun hrules => ?_⟩
  · exact absurd (List.cons.inj heq).1 (by decide)
  · have heq := of_decide_eq_true hrules
    rw [List.map_cons] at heq
    exact absurd (List.cons.inj heq).1 (by decide)

/-- An element with a rule that has nothing to do with numbers. -/
theorem numbered_of_rule {u : String} (hname : String.ofList p.name = u)
    (h : isHeading u.toList = false ∧ u.toList ≠ "li".toList ∧ u.toList ∉ names "td th") :
    Numbered p parent t := by
  have hu : p.name = u.toList := by rw [← hname, String.toList_ofList]
  rw [← hu] at h
  exact numbered_of_other h.1 h.2.1 h.2.2

/-- A name that finds a rule finds neither the entry nor the rules that were looked up. -/
theorem ruled_of_rule {u : String} (hname : String.ofList name = u)
    (h : u.toList ≠ entryName ∧ findsRules u.toList = false) : Ruled s name := by
  have hu : name = u.toList := by rw [← hname, String.toList_ofList]
  rw [← hu] at h
  exact ⟨h.1, fun hrules => absurd (h.2.symm.trans hrules) Bool.false_ne_true⟩

/-- **An element is written**, once its content is, if its numbers can be read and its name finds
a rule or nothing. -/
theorem exists_byRule_iff (hcells : p.name = "tr".toList → Spanned p.children) :
    (∃ u, byRule s p parent before after t = .ok u) ↔
      Numbered p parent t ∧ Ruled s p.name := by
  have hname {u : String} (h : String.ofList p.name = u) : p.name = u.toList := by
    rw [← h, String.toList_ofList]
  have hother {u : String} (h : String.ofList p.name = u → False) : p.name ≠ u.toList :=
    fun heq => h (by rw [heq, String.ofList_toList])
  unfold byRule
  dsimp only
  split
  all_goals first
    | exact iff_of_true ⟨_, rfl⟩ ⟨numbered_of_rule ‹_› (by decide), ruled_of_rule ‹_› (by decide)⟩
    | skip
  -- left are the items, the cells, the rows, and the elements without a rule of their own
  · next h => rw [exists_item_iff (hname h), and_iff_left (ruled_of_rule h (by decide))]
  · next h => rw [exists_cell_iff (hname h ▸ by decide), and_iff_left (ruled_of_rule h (by decide))]
  · next h => rw [exists_cell_iff (hname h ▸ by decide), and_iff_left (ruled_of_rule h (by decide))]
  · next h =>
    exact iff_of_true (exists_row (hcells (hname h)))
      ⟨numbered_of_rule h (by decide), ruled_of_rule h (by decide)⟩
  · by_cases hheading : isHeading p.name = true
    · rw [if_pos hheading, exists_heading_iff hheading,
        and_iff_left (ruled_of_isHeading hheading)]
    · have hitem : p.name ≠ "li".toList := hother ‹String.ofList p.name = "li" → False›
      have hcell : p.name ∉ names "td th" := by
        have htd : p.name ≠ "td".toList := hother ‹String.ofList p.name = "td" → False›
        have hth : p.name ≠ "th".toList := hother ‹String.ofList p.name = "th" → False›
        have hnames : names "td th" = ["td".toList, "th".toList] := by decide
        rw [hnames, List.mem_cons, List.mem_singleton, not_or]
        exact ⟨htd, hth⟩
      rw [if_neg hheading, exists_withoutRule_iff,
        and_iff_right (numbered_of_other (Bool.eq_false_iff.mpr hheading) hitem hcell)]

/-! ## Whole fragments -/

/-- The text of an element's content. -/
def contentOf (s : Setting) (name : Text) (ts : List Text) : Text :=
  if s.preformatted || name = "pre".toList then ts.flatten else joinBlocks ts

/-- An element is written by its rule around its content. -/
theorem nodeMarkdown_element (s : Setting) (parent : Place) (before : List Node) (name : Text)
    (as : Table AttributeValue) (void : Bool) (cs after : List Node) :
    nodeMarkdown s parent before (.element name as void cs) after =
      listMarkdown (s.enter name) (.inside parent before (.element name as void cs) after) [] cs >>=
        fun ts => byRule s (.inside parent before (.element name as void cs) after) parent before
          after (contentOf s name ts) := by
  rw [nodeMarkdown]
  dsimp only
  cases listMarkdown (s.enter name) (.inside parent before (.element name as void cs) after) [] cs
  all_goals rfl

/-- Siblings that are not left out are written one after the other. -/
theorem listMarkdown_cons (hkept : leftOut parent.name before.head? after.head? n = false) :
    listMarkdown s parent before (n :: after) =
      nodeMarkdown s parent before n after >>= fun t =>
        (listMarkdown s parent (n :: before) after).map fun ts =>
          if t = [] then ts else t :: ts := by
  rw [listMarkdown, hkept, if_neg Bool.false_ne_true]
  cases nodeMarkdown s parent before n after
  all_goals rfl

/-- A rule writes an element where the numbers in it can be read, and where there is a rule. -/
theorem exists_byRule_element_iff (hcells : Spanned cs) :
    (∃ u, byRule s (.inside parent before (.element name as void cs) after) parent before after t =
        .ok u) ↔
      Numbered (.inside parent before (.element name as void cs) after) parent t ∧ Ruled s name :=
  exists_byRule_iff fun _ => hcells

/-- A text is always written, if it is not left out. -/
theorem exists_listMarkdown_text_iff (s : Setting) (parent : Place) (before : List Node)
    (kind : TextKind) (t : Text) (after : List Node) :
    (∃ ts, listMarkdown s parent before (.text kind t :: after) = .ok ts) ↔
      ∃ ts, listMarkdown s parent (.text kind t :: before) after = .ok ts := by
  cases hleft : leftOut parent.name before.head? after.head? (.text kind t) with
  | true => rw [listMarkdown, hleft, if_pos rfl]
  | false =>
    rw [listMarkdown_cons hleft, nodeMarkdown, Except.ok_bind]
    exact Except.exists_map_eq_ok_iff

/-- An element among siblings is written where its content, it and the siblings behind it are. -/
theorem exists_listMarkdown_element_iff :
    (∃ ts, listMarkdown s parent before (.element name as void cs :: after) = .ok ts) ↔
      (∃ content,
        listMarkdown (s.enter name) (.inside parent before (.element name as void cs) after) [] cs =
            .ok content ∧
          ∃ t, byRule s (.inside parent before (.element name as void cs) after) parent before after
            (contentOf s name content) = .ok t) ∧
      ∃ ts, listMarkdown s parent (.element name as void cs :: before) after = .ok ts := by
  rw [listMarkdown_cons rfl, nodeMarkdown_element]
  constructor
  · rintro ⟨ts, h⟩
    obtain ⟨t, ht, h⟩ := Except.bind_eq_ok_iff.mp h
    obtain ⟨content, hcontent, ht⟩ := Except.bind_eq_ok_iff.mp ht
    obtain ⟨ts', hts', -⟩ := Except.map_eq_ok_iff.mp h
    exact ⟨⟨content, hcontent, t, ht⟩, ts', hts'⟩
  · rintro ⟨⟨content, hcontent, t, ht⟩, ts', hts'⟩
    rw [hcontent, Except.ok_bind, ht, Except.ok_bind, hts']
    exact ⟨_, rfl⟩

/-- Where the cells of a fragment are written, their columns are told. -/
theorem spanned_of_listMarkdown (h : ∃ ts, listMarkdown s parent before ns = .ok ts) :
    Spanned ns := by
  induction ns using Node.forestInductionOn generalizing s parent before with
  | nil => nofun
  | text kind t ns ih =>
    -- a text has no cells in it
    have hrest := ih ((exists_listMarkdown_text_iff ..).mp h)
    intro n hn
    rw [Node.elementsOf_text_cons] at hn
    exact hrest n hn
  | element name as void cs ns ihcs ihns =>
    obtain ⟨⟨content, hcontent, u, hu⟩, hns⟩ := exists_listMarkdown_element_iff.mp h
    -- the cells inside come first: the rule of the element may count them
    have hinside : Spanned cs := ihcs ⟨content, hcontent⟩
    intro n hn hname
    rw [Node.elementsOf_element_cons] at hn
    rcases List.mem_cons.mp hn with rfl | hn
    · -- the element itself, if it is a cell, is written by the rule for cells
      have hcell : name ∈ names "td th" := by
        rcases hname with hname | hname <;> rw [Option.some.inj hname] <;> decide
      obtain ⟨hnumbered, -⟩ := (exists_byRule_element_iff hinside).mp ⟨u, hu⟩
      exact (exists_columns_iff as).mpr (hnumbered.span hcell)
    · rcases List.mem_append.mp hn with hn | hn
      · exact hinside n hn hname
      · exact ihns hns n hn hname

/-- Somewhere in a fragment an element cannot be written: a number is asked for that cannot be
read, or a name finds what is no rule.  The element is the first one there, once its content is
written, or one inside of it, or one behind a node. -/
inductive Stuck : Setting → Place → List Node → List Node → Prop
  | here {s : Setting} {parent : Place} {before : List Node} {name : Text}
      {as : Table AttributeValue} {void : Bool} {cs after : List Node} {content : List Text}
      (hcontent : listMarkdown (s.enter name)
        (.inside parent before (.element name as void cs) after) [] cs = .ok content)
      (h : ¬(Numbered (.inside parent before (.element name as void cs) after) parent
        (contentOf s name content) ∧ Ruled s name)) :
      Stuck s parent before (.element name as void cs :: after)
  | inside {s : Setting} {parent : Place} {before : List Node} {name : Text}
      {as : Table AttributeValue} {void : Bool} {cs after : List Node}
      (h : Stuck (s.enter name) (.inside parent before (.element name as void cs) after)
        [] cs) :
      Stuck s parent before (.element name as void cs :: after)
  | behind {s : Setting} {parent : Place} {before : List Node} {n : Node} {after : List Node}
      (h : Stuck s parent (n :: before) after) : Stuck s parent before (n :: after)

/-- **A fragment is written** unless one of its elements cannot be. -/
theorem exists_listMarkdown_iff (s : Setting) (parent : Place) (before ns : List Node) :
    (∃ ts, listMarkdown s parent before ns = .ok ts) ↔ ¬Stuck s parent before ns := by
  induction ns using Node.forestInductionOn generalizing s parent before with
  | nil => exact iff_of_true ⟨[], by rw [listMarkdown]⟩ nofun
  | text kind t ns ih =>
    rw [exists_listMarkdown_text_iff, ih, not_iff_not]
    constructor
    · exact .behind
    · rintro (_ | _ | h)
      exact h
  | element name as void cs ns ihcs ihns =>
    rw [exists_listMarkdown_element_iff, ihns]
    constructor
    · rintro ⟨⟨content, hcontent, hrule⟩, hbehind⟩ h
      cases h with
      | here hcontent' h =>
        -- the content is the one that was written, and its cells could be counted
        obtain rfl := Except.ok.inj (hcontent.symm.trans hcontent')
        have hcells := spanned_of_listMarkdown ⟨content, hcontent⟩
        exact h ((exists_byRule_element_iff hcells).mp hrule)
      | inside h => exact (ihcs _ _ _).mp ⟨content, hcontent⟩ h
      | behind h => exact hbehind h
    · intro h
      -- where nothing is stuck inside, here or behind, all three are written
      obtain ⟨content, hcontent⟩ := (ihcs _ _ _).mpr fun hinside => h (.inside hinside)
      have hcells := spanned_of_listMarkdown ⟨content, hcontent⟩
      have hwritten := not_not.mp fun hfails => h (.here hcontent hfails)
      exact ⟨⟨content, hcontent, (exists_byRule_element_iff hcells).mpr hwritten⟩,
        fun hbehind => h (.behind hbehind)⟩

/-- **The engine of the library** makes Markdown of a fragment that is read and in which no element
is one that cannot be written. -/
theorem exists_convert_iff (t : Text) :
    (∃ u, convert t = .ok u) ↔ ∃ ns, readFragment t = .ok ns ∧
      ¬Stuck { first := firstEnded? ns } (.document ns) [] ns := by
  have hnodes (ns : List Node) : (∃ u, ofNodes ns = .ok u) ↔
      ¬Stuck { first := firstEnded? ns } (.document ns) [] ns :=
    Except.exists_map_eq_ok_iff.trans (exists_listMarkdown_iff ..)
  simp only [← hnodes]
  constructor
  · rintro ⟨u, hu⟩
    obtain ⟨ns, hns, hu⟩ := Except.bind_eq_ok_iff.mp hu
    exact ⟨ns, hns, u, hu⟩
  · rintro ⟨ns, hns, u, hu⟩
    exact ⟨u, Except.bind_eq_ok_iff.mpr ⟨ns, hns, hu⟩⟩

end Clipbook.Markdown
