import Clipbook.Proofs.Clipping
import Clipbook.Proofs.Note.Standard
import Clipbook.Proofs.Schema.Address
import Clipbook.Proofs.Text.Trimmed
import Clipbook.Proofs.Value.Nested

/-!
# Clipbook — authors on their way into a note

The data of a page may list authors by their names.  They pass through four hands: looking the
names up joins them with commas, the field of the author takes the joined text unless a meta tag
comes first, the standard template puts it in as it is, and its property takes the text apart at
the commas.  So the names arrive if they have no commas and no blanks around them and the first of
them does not begin like JSON; what else stands in them does not matter.

Main results:

* `Schema.property_authorsData` — the names that are looked up.
* `Clipping.get?_words` — a variable of every page is in the clip as it is.
* `PropertyType.listOf_join` — joined names are taken apart.
* `Note.authors_arrive` — the names from the data are the list in the note.
-/

namespace Clipbook

variable {names : List Text} {t : Text}

/-- Names that stay apart in a list with commas.  A bracket at the start would make the list
JSON. -/
structure Listable (names : List Text) : Prop where
  ne_nil : names ≠ []
  solid : ∀ n ∈ names, n ≠ []
  trimmed : ∀ n ∈ names, Text.Trimmed n
  apart : ∀ n ∈ names, ',' ∉ n
  first : (names.headD []).head? ≠ some '['

theorem filter_ne_nil (h : ∀ n ∈ names, n ≠ []) : names.filter (· ≠ []) = names :=
  List.filter_eq_self.mpr fun n hn => decide_eq_true (h n hn)

/-- Names with commas between them. -/
def byline (names : List Text) : Text :=
  Text.join [',', ' '] names

namespace Listable

theorem trimmed_byline (h : Listable names) : Text.Trimmed (byline names) :=
  Text.trimmed_join _ h.solid h.trimmed

/-- A byline of at least one name is not empty. -/
theorem byline_ne_nil (h : Listable names) : byline names ≠ [] := by
  rw [byline, Ne, Text.join_eq_nil_iff _ h.solid]
  exact h.ne_nil

theorem head?_byline_ne (h : Listable names) : (byline names).head? ≠ some '[' := by
  obtain ⟨n, ns, rfl⟩ := List.exists_cons_of_ne_nil h.ne_nil
  have hfirst : n.head? ≠ some '[' := h.first
  obtain ⟨c, n, rfl⟩ := List.exists_cons_of_ne_nil (h.solid n (List.mem_cons_self ..))
  rw [byline, Text.join_cons_cons]
  exact hfirst

end Listable

/-! ## Looking the names up -/

namespace Schema

/-- The data of a page that says nothing but the names of its authors. -/
def authorsData (names : List Text) : Value :=
  .obj [("author".toList, .arr (names.map fun n => .obj [("name".toList, .str n)]))]

/-- **Looking the names up joins them.** -/
theorem property_authorsData (h : ∀ n ∈ names, n ≠ []) :
    property (authorsData names) "author.name".toList = byline names := by
  have hkeys : Text.splitOn '.' "author.name".toList = ["author".toList, "name".toList] := by decide
  have hlist : property (authorsData names) "author.name".toList =
      search (.arr (names.map fun n => .obj [("name".toList, .str n)])) ["name".toList]
        "author".toList := by
    rw [property, hkeys, authorsData, search_obj_cons, Table.get?_cons, if_pos rfl]
    rfl
  -- each element is searched for its name, and gives it
  have helement (n : Text) : search (.obj [("name".toList, .str n)])
      (elementSearch ["name".toList] "author".toList).1
      (elementSearch ["name".toList] "author".toList).2 = n := by
    have hstays : elementSearch ["name".toList] "author".toList =
        (["name".toList], "author".toList) := if_neg (by decide)
    rw [hstays, search_obj_cons, Table.get?_cons, if_pos rfl]
    rfl
  rw [hlist, search_arr, List.map_map]
  simp only [Function.comp_def, helement, List.map_id', filter_ne_nil h, byline]

/-- The data of a page with authors is not nested too deeply. -/
theorem tooDeep_authorsData (names : List Text) : (authorsData names).tooDeep = false := by
  have hobjects : ∀ v ∈ names.map fun n => Value.obj [("name".toList, .str n)], v.depth ≤ 1 := by
    intro v hv
    obtain ⟨n, -, rfl⟩ := List.mem_map.mp hv
    exact Nat.le_refl 1
  have hlist : (Value.arr (names.map fun n => .obj [("name".toList, .str n)])).depth ≤ 2 :=
    Value.depth_arr_le_iff.mpr hobjects
  have hdepth : (authorsData names).depth ≤ 3 := by
    refine Value.depth_obj_le_iff.mpr fun k v hmem => ?_
    obtain ⟨-, rfl⟩ := Prod.mk.inj (List.mem_singleton.mp hmem)
    exact hlist
  exact Value.tooDeep_eq_false_iff.mpr (Nat.le_trans hdepth (by decide))

/-- The names of the authors are found in the data. -/
theorem lookup_authorsData (h : Listable names) (default : Text) :
    lookup (authorsData names) "author.name".toList default = pure (byline names) :=
  lookup_eq_pure (property_authorsData h.solid) h.byline_ne_nil (tooDeep_authorsData names)

end Schema

/-- **The author of a page is what its data says**, if no meta tag says otherwise. -/
theorem Field.resolve_author {p : Page} {data : Value}
    (hmeta : p.metaContent "name".toList "sailthru.author".toList = [])
    (hdata : Schema.lookup data "author.name".toList [] = pure t) (htrim : Text.Trimmed t)
    (hne : t ≠ []) : Field.author.resolve p data = pure t := by
  obtain ⟨c, t, rfl⟩ := List.exists_cons_of_ne_nil hne
  have htag : (Field.named "sailthru.author").text p data = pure [] := by
    rw [Field.named, Source.text, hmeta]
    rfl
  have hproperty : (Field.schema "author.name").text p data = pure (c :: t) := hdata
  have hempty : Text.strip [] = [] := rfl
  -- the first source says nothing, so the second is asked
  rw [Field.resolve, Field.sources, Source.resolve, htag, pure_bind, hempty]
  dsimp only
  rw [Source.resolve, hproperty, pure_bind, Text.strip_eq_self htrim]

/-! ## Variables -/

namespace Clipping

variable {e : Engines} {c : Clipping} {useHighlights : Bool} {now : Int} {moment : Moment}
  {clip : Clip} {data : Value}

/-- **The author of a page is a variable of its clip**, if no other author came with the page. -/
theorem get?_words_author (h : (c.clip e useHighlights now moment).result = .ok clip)
    (hdata : (c.dataOf (Page.read c.html)).result = .ok data)
    (hextracted : "author".toList ∉ c.extracted.keys) :
    ∃ t, (Field.author.resolve (Page.read c.html) data).result = .ok t ∧
      clip.words.get? (Text.braced "author".toList) = some t := by
  obtain ⟨data', b, hdata', hb, hget⟩ := get?_words h (by decide) hextracted
  obtain rfl : data = data' := Except.ok.inj (hdata.symm.trans hdata')
  refine ⟨b.author, (of_basics hb).1, hget.trans ?_⟩
  -- the author is the first variable in the table
  show Table.get? _ ((Text.braced "author".toList, b.author) :: _) = _
  rw [Table.get?_cons, if_pos rfl]

end Clipping

/-! ## Taking the names apart -/

/-- A blank at the start of a text is a blank at the start of its first piece. -/
theorem Text.map_strip_splitOn_cons {sep c : Char} (hc : isBlank c = true) (hne : c ≠ sep)
    (t : Text) : (splitOn sep (c :: t)).map strip = (splitOn sep t).map strip := by
  have hstrip (piece : Text) : strip (c :: piece) = strip piece := by
    rw [strip, trim, trimStart, List.dropWhile_cons_of_pos hc]
    rfl
  obtain ⟨piece, pieces, hpieces⟩ := List.exists_cons_of_ne_nil (splitOn_ne_nil sep t)
  rw [splitOn, if_neg hne, hpieces, List.map_cons, List.map_cons, hstrip]

/-- The pieces between commas are the names, but for the blanks in front of them. -/
theorem map_strip_splitOn_byline (hne : names ≠ []) (hcomma : ∀ n ∈ names, ',' ∉ n)
    (htrim : ∀ n ∈ names, Text.Trimmed n) :
    (Text.splitOn ',' (byline names)).map Text.strip = names := by
  induction names with
  | nil => exact absurd rfl hne
  | cons n ns ih =>
    obtain ⟨hn, hns⟩ := List.forall_mem_cons.mp hcomma
    obtain ⟨hntrim, hnstrim⟩ := List.forall_mem_cons.mp htrim
    have hfirst : (Text.splitOn ',' n).map Text.strip = [n] := by
      rw [Text.splitOn_of_not_mem hn, List.map_singleton, Text.strip_eq_self hntrim]
    cases ns with
    | nil => exact hfirst
    | cons m ms =>
      -- the blank behind the comma becomes the first character of the next piece
      have hjoin : byline (n :: m :: ms) = n ++ ',' :: ' ' :: byline (m :: ms) := by
        rw [byline, Text.join_cons_of_ne_nil (List.cons_ne_nil m ms), List.append_assoc]
        rfl
      rw [hjoin, Text.splitOn_append, List.map_append, hfirst,
        Text.map_strip_splitOn_cons (by decide) (by decide),
        ih (List.cons_ne_nil m ms) hns hnstrim, List.singleton_append]

/-- **Joined names are taken apart** by the type of a property with several texts. -/
theorem PropertyType.listOf_byline (h : Listable names) :
    listOf (byline names) = .ok (.arr (names.map .str)) := by
  rw [listOf, if_neg h.head?_byline_ne, parts,
    map_strip_splitOn_byline h.ne_nil h.apart h.trimmed, filter_ne_nil h.solid]

/-! ## The note -/

namespace Note

variable {e : Engines} {c : Clipping} {useHighlights : Bool} {now : Int} {moment : Moment}
  {clip : Clip}

/-- **The names in the data of a page are the authors in the note** that the standard template
makes of its variables. -/
theorem authors_arrive (hnames : Listable names)
    (hmeta : (Page.read c.html).metaContent "name".toList "sailthru.author".toList = [])
    (hdata : (c.dataOf (Page.read c.html)).result = .ok (Schema.authorsData names))
    (hextracted : c.extracted = [])
    (hclip : (c.clip e useHighlights now moment).result = .ok clip) :
    ∃ note, ofTemplate NoteTemplate.standard clip.words = pure note ∧
      note.properties.get? (.str "author".toList) = some (.arr (names.map .str)) := by
  have hlookup := Schema.lookup_authorsData hnames []
  have hresolve : Field.author.resolve (Page.read c.html) (Schema.authorsData names) =
      pure (byline names) :=
    Field.resolve_author hmeta hlookup hnames.trimmed_byline hnames.byline_ne_nil
  have hnone : "author".toList ∉ c.extracted.keys := by
    rw [hextracted]
    exact List.not_mem_nil
  obtain ⟨t, ht, hword⟩ := Clipping.get?_words_author hclip hdata hnone
  -- the variable is the joined names, and it is put in without being read
  obtain rfl : byline names = t := Except.ok.inj ((congrArg Outcome.result hresolve).symm.trans ht)
  have hauthors : PropertyType.listOf (Text.strip (textOf clip.words "author")) =
      .ok (.arr (names.map .str)) := by
    rw [textOf, hword, Option.getD_some, Text.strip_eq_self hnames.trimmed_byline]
    exact PropertyType.listOf_byline hnames
  exact ⟨_, ofTemplate_standard hauthors, rfl⟩

/-- A page that came with data of its authors, and with an article without text. -/
def withAuthors (names : List Text) : Clipping where
  html := "<title>x</title>".toList
  url := "https://example.com/".toList
  data := Schema.authorsData names
  article := some []

/-- Names that look like slots or like JSON arrive as they are. -/
theorem authors_arrive_lookalike :
    let names := ["$\x7burl\x7d".toList, "\x7b\x7btitle\x7d\x7d Bo".toList, "[Cy]".toList]
    let c := withAuthors names
    Listable names ∧
      (Page.read c.html).metaContent "name".toList "sailthru.author".toList = [] ∧
      (c.dataOf (Page.read c.html)).result = .ok (Schema.authorsData names) ∧
      c.extracted = [] ∧ ∃ clip, (c.clip .own false 0 ⟨⟨2024, 1, 1⟩, 0, none⟩).result = .ok clip ∧
        ∃ note, ofTemplate NoteTemplate.standard clip.words = pure note ∧
          note.properties.get? (.str "author".toList) = some (.arr (names.map .str)) := by
  intro names c
  have hnames : Listable names :=
    ⟨by decide, by decide, by decide +kernel, by decide +kernel, by decide⟩
  have hmeta : (Page.read c.html).metaContent "name".toList "sailthru.author".toList = [] := by
    decide +kernel
  have hdata : (c.dataOf (Page.read c.html)).result = .ok (Schema.authorsData names) := rfl
  obtain ⟨clip, hclip⟩ : ∃ clip, (c.clip .own false 0 ⟨⟨2024, 1, 1⟩, 0, none⟩).result = .ok clip :=
    Except.exists_eq_ok_of_isOk (by decide +kernel)
  exact ⟨hnames, hmeta, hdata, rfl, clip, hclip, authors_arrive hnames hmeta hdata rfl hclip⟩

end Note

end Clipbook
