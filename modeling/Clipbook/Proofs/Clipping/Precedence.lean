import Clipbook.Proofs.Clipping.Details

/-!
# Clipbook — which source of a variable wins

Four sources fill the variables of a clip: those that every page has, those that came with the page,
its meta tags and its data.  Their names are made of texts that a page may choose, and any of the
later sources may take a name of those that came with the page.  But a page cannot choose a name
without a colon, so that the variables every page has are safe from what it says of itself.

Main results:

* `get?_tagVariables` — the last tag that forms a name and has a content gives the variable.
* `get?_laterWrites` — of the sources that come after, the latest one counts.
* `get?_words_precedence` — what every variable of a clip is.
-/

namespace Clipbook

namespace Page.Meta

/-- The name of the variable of an attribute, if the attribute is there and not empty. -/
def formed (start : String) : Option Text → List Text
  | none | some [] => []
  | some t => [Text.braced (start.toList ++ t)]

/-- The names of variables that a tag forms of its name and its property. -/
def formedNames (m : Meta) : List Text :=
  formed "meta:name:" m.name ++ formed "meta:property:" m.property

/-- The content of a tag that forms a name, if it is not empty. -/
def contentUnder? (key : Text) (m : Meta) : Option Text :=
  if key ∈ m.formedNames then m.content.filter (· ≠ []) else none

end Page.Meta

namespace Clipping

variable {e : Engines} {c : Clipping} {useHighlights : Bool} {now : Int} {moment : Moment}
  {clip : Clip} {p : Page} {data : Value} {entries : Table Text} {key name : Text}

/-! ## Sources -/

/-- The content of the last tag that has one and forms the name. -/
def tagContent? (key : Text) (metas : List Page.Meta) : Option Text :=
  metas.reverse.findSome? (Page.Meta.contentUnder? key)

/-- What came with the page under a name in braces; of several values the last one. -/
def extractedValue? (key : Text) (extracted : Table Text) : Option Text :=
  (extracted.reverse.find? fun e => Text.braced e.1 = key).map Prod.snd

/-- The flat data of a page; data that is nothing has none. -/
def dataWords (data : Value) : Outcome (Table Text) :=
  if data.isNothing then pure [] else Schema.flatten [] [] data

/-- In a table with one value for all its keys every look-up that finds something finds it. -/
theorem get?_reverse_map_const (key t : Text) (names : List Text) :
    Table.get? key (names.map fun name => (name, t)).reverse =
      if key ∈ names then some t else none := by
  induction names with
  | nil => rfl
  | cons name names ih =>
    rw [List.map_cons, List.reverse_cons, Table.get?_append, ih, Table.get?_cons]
    -- the text is the same under all names, so it does not matter which of them is read
    by_cases hkey : key ∈ names
    · rw [if_pos hkey, if_pos (List.mem_cons_of_mem _ hkey)]
      rfl
    · rw [if_neg hkey, Option.none_or]
      by_cases heq : name = key
      · rw [if_pos heq, if_pos (heq ▸ List.mem_cons_self ..)]
      · rw [if_neg heq, if_neg fun hmem => hkey ((List.mem_cons.mp hmem).resolve_left (Ne.symm heq))]
        rfl

/-- The variables of a tag stand before those of the tags behind it. -/
theorem tagVariables_cons (m : Page.Meta) (metas : List Page.Meta) :
    tagVariables (m :: metas) =
      ((m.content.filter (· ≠ [])).elim [] fun content =>
        m.formedNames.map fun name => (name, content)) ++ tagVariables metas := by
  obtain ⟨name, property, content⟩ := m
  rw [tagVariables, List.flatMap_cons]
  congr 1
  -- an attribute that is missing forms nothing, and an empty one neither
  rcases content with _ | _ | ⟨ch, t⟩
  · rfl
  · rfl
  · rcases name with _ | _ | _ <;> rcases property with _ | _ | _ <;> rfl

/-- **The last tag that forms a name and has a content** gives the variable of that name. -/
theorem get?_tagVariables (key : Text) (metas : List Page.Meta) :
    Table.get? key (tagVariables metas).reverse = tagContent? key metas := by
  induction metas with
  | nil => rfl
  | cons m metas ih =>
    rw [tagVariables_cons, List.reverse_append, Table.get?_append, ih, tagContent?, tagContent?,
      List.reverse_cons, List.findSome?_append, List.findSome?_singleton, Page.Meta.contentUnder?]
    congr 1
    cases m.content.filter (· ≠ []) with
    | none => exact (ite_self none).symm
    | some content => exact get?_reverse_map_const key content m.formedNames

/-- Of the variables that came with the page, the last one of a name counts. -/
theorem get?_extracted (key : Text) (extracted : Table Text) :
    Table.get? key (extracted.map fun e => (Text.braced e.1, e.2)).reverse =
      extractedValue? key extracted := by
  rw [Table.get?_eq_find?, ← List.map_reverse, List.find?_map, Option.map_map]
  rfl

theorem exists_dataWords (data : Value) : ∃ entries, (dataWords data).result = .ok entries := by
  rw [dataWords]
  split
  · exact ⟨[], rfl⟩
  · exact ⟨_, by rw [Schema.flatten_eq]⟩

/-- An entry of the flat data is the last write to its name. -/
theorem get?_dataWords (h : (dataWords data).result = .ok entries) (key : Text) :
    Table.get? key (if data.isNothing then []
      else Schema.writes (Schema.outline data [])).reverse = entries.get? key := by
  rw [dataWords] at h
  split at h
  · next hnothing =>
    rw [if_pos hnothing, ← Except.ok.inj h]
    rfl
  · next hsome =>
    rw [Schema.flatten_eq] at h
    rw [if_neg hsome, ← Except.ok.inj h, Table.get?_extend]
    exact Option.or_none.symm

/-- **Of the sources that come after, the latest one counts.** -/
theorem get?_laterWrites (h : (dataWords data).result = .ok entries) (key : Text) :
    Table.get? key (c.laterWrites p data).reverse =
      (entries.get? key).or ((tagContent? key p.metas).or (extractedValue? key c.extracted)) := by
  rw [laterWrites, List.reverse_append, List.reverse_append, Table.get?_append, Table.get?_append,
    get?_tagVariables, get?_extracted, get?_dataWords h]

/-! ## Names without a colon -/

/-- No variable that every page has is named with a colon. -/
theorem colon_not_mem_names (h : name ∈ Basics.names) : ':' ∉ Text.braced name := by
  have hall : ∀ name ∈ Basics.names, ':' ∉ Text.braced name := by decide
  exact hall name h

/-- Meta tags give nothing under a word without a colon. -/
theorem tagContent?_eq_none (hcolon : ':' ∉ key) (metas : List Page.Meta) :
    tagContent? key metas = none := by
  rw [← get?_tagVariables]
  refine Table.get?_eq_none_of_not_mem_keys fun hmem => hcolon ?_
  obtain ⟨e, he, rfl⟩ := List.mem_map.mp hmem
  obtain ⟨name, hname, hcolon⟩ := exists_braced_of_mem_tagVariables (List.mem_reverse.mp he)
  exact hname ▸ colon_mem_braced_iff.mpr hcolon

/-- Data gives nothing under a word without a colon. -/
theorem get?_dataWords_eq_none (h : (dataWords data).result = .ok entries) (hcolon : ':' ∉ key) :
    entries.get? key = none := by
  rw [← get?_dataWords h]
  split
  · rfl
  · refine Table.get?_eq_none_of_not_mem_keys fun hmem => hcolon ?_
    obtain ⟨e, he, rfl⟩ := List.mem_map.mp hmem
    obtain ⟨path, hpath⟩ := Schema.exists_eq_variableName (List.mem_reverse.mp he)
    rw [hpath, variableName_eq_braced]
    exact colon_mem_braced_iff.mpr (colon_mem_schemaName path)

/-! ## Clips -/

/-- **What every variable of a clip is**: its flat data if there is such an entry, or else the
content of the last meta tag that forms the name, or else what came with the page under it, or else
the variable that every page has.  With other variables coming with the page, the name of the note
stays, and so do the variables that every page has, but for those that are among them. -/
theorem get?_words_precedence (h : (c.clip e useHighlights now moment).result = .ok clip) :
    ∃ data b entries, (c.dataOf (Page.read c.html)).result = .ok data ∧
      (c.basics e useHighlights now moment (Page.read c.html) data).result = .ok b ∧
      (dataWords data).result = .ok entries ∧
      (∀ key, clip.words.get? key =
        (entries.get? key).or ((tagContent? key (Page.read c.html).metas).or
          ((extractedValue? key c.extracted).or (b.table.get? key)))) ∧
      ∀ extracted, ∃ clip',
        ({ c with extracted }.clip e useHighlights now moment).result = .ok clip' ∧
          clip'.noteName = clip.noteName ∧ ∀ name ∈ Basics.names,
            clip'.words.get? (Text.braced name) =
              (extractedValue? (Text.braced name) extracted).or (b.table.get? (Text.braced name)) := by
  obtain ⟨data, b, hdata, hb, rfl⟩ := result_clip_eq_ok_iff.mp h
  obtain ⟨entries, hentries⟩ := exists_dataWords data
  refine ⟨data, b, entries, hdata, hb, hentries, fun key => ?_, fun extracted => ?_⟩
  · rw [Table.get?_extend, get?_laterWrites hentries]
    simp only [Option.or_assoc]
  · have hclip := result_clip_eq_ok_iff (c := { c with extracted }).mpr ⟨data, b, hdata, hb, rfl⟩
    refine ⟨_, hclip, rfl, fun name hname => ?_⟩
    -- the names that every page has are without a colon
    have hcolon := colon_not_mem_names hname
    rw [Table.get?_extend, get?_laterWrites hentries, get?_dataWords_eq_none hentries hcolon,
      tagContent?_eq_none hcolon, Option.none_or, Option.none_or]

/-- A page that came with variables of the names that it forms itself. -/
def withNames : Clipping where
  html := "<meta name=\"a\" content=\"1\"><meta name=\"a\" content=\"2\">".toList
  url := "https://example.com/".toList
  extracted := [("title".toList, ['t']), ("meta:name:a".toList, ['t']), ("schema:k".toList, ['t'])]
  data := .obj [(['k'], .str ['v'])]
  article := some []

/-- What came with the page loses to its tags and to its data, and wins over its title. -/
theorem get?_words_precedence_names :
    ∃ clip clip', (withNames.clip .own false 0 ⟨⟨2024, 1, 1⟩, 0, none⟩).result = .ok clip ∧
      ({ withNames with extracted := [] }.clip .own false 0 ⟨⟨2024, 1, 1⟩, 0, none⟩).result = .ok clip' ∧
      clip'.noteName = clip.noteName ∧
      clip.words.get? (Text.braced "title".toList) = some ['t'] ∧
      clip.words.get? (Text.braced "meta:name:a".toList) = some ['2'] ∧
      clip.words.get? (Text.braced "schema:k".toList) = some ['v'] := by
  -- what has to be known of the page: it can be clipped, and its last tag counts
  obtain ⟨hdomain, hbody, htag⟩ : (Url.domain (Url.withoutQuote withNames.url)).isOk = true ∧
      (Markdown.ofMarkup .own (Url.withoutQuote withNames.url)
        (withNames.ownBody (Page.read withNames.html) (some []))).isOk = true ∧
      tagContent? (Text.braced "meta:name:a".toList) (Page.read withNames.html).metas =
        some ['2'] := by decide +kernel
  obtain ⟨clip, hclip⟩ : ∃ clip,
      (withNames.clip .own false 0 ⟨⟨2024, 1, 1⟩, 0, none⟩).result = .ok clip :=
    (exists_clip_iff (Except.exists_eq_ok_of_isOk hdomain) rfl).mpr
      ⟨⟨_, rfl⟩, some [], articleBy_of_some rfl, Except.exists_eq_ok_of_isOk hbody⟩
  obtain ⟨data, b, entries, hdata, -, hentries, hget, hmore⟩ := get?_words_precedence hclip
  -- the name of the note does not depend on what came with the page
  obtain ⟨clip', hclip', hname, -⟩ := hmore []
  obtain rfl : withNames.data = data := Except.ok.inj hdata
  have hsome : ¬withNames.data.isNothing = true := Bool.false_ne_true
  obtain ⟨hentry, hother⟩ :
      Table.get? (Text.braced "schema:k".toList)
        (Schema.writes (Schema.outline withNames.data [])).reverse = some ['v'] ∧
      Table.get? (Text.braced "meta:name:a".toList)
        (Schema.writes (Schema.outline withNames.data [])).reverse = none := by decide +kernel
  refine ⟨clip, clip', hclip, hclip', hname, ?_, ?_, ?_⟩
  -- without a colon neither the tags nor the data give anything under this word
  · have hcolon : ':' ∉ Text.braced "title".toList := by decide
    rw [hget, get?_dataWords_eq_none hentries hcolon, tagContent?_eq_none hcolon]
    rfl
  · rw [hget, ← get?_dataWords hentries, if_neg hsome, hother, htag]
    rfl
  · rw [hget, ← get?_dataWords hentries, if_neg hsome, hentry]
    rfl

end Clipping

end Clipbook
