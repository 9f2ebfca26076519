import Clipbook.Proofs.Clipping
import Clipbook.Proofs.Filter.Template
import Clipbook.Proofs.Note.Standard
import Clipbook.Proofs.Template.Plain
import Clipbook.Proofs.Time.Stamp

/-!
# Clipbook — highlights on their way into a note

The highlights of a page become one variable, as JSON text.  A template in a slot reads the text
again and is filled in for each highlight.  Whatever stands in the contents and the notes, the text
reads back, since it has no numbers; and a stamp is shown as it is, since it has nothing that a
template replaces.  So what a slot shows of the times are the times, one for each record.

Main results:

* `Highlight.listed_eq_ok_iff` — what is listed of a highlight.
* `Clipping.ofJson_highlightsText` — the list is read back from its text.
* `Note.fill_templateSlot` — a slot whose filter fills in a template for a variable.
* `Note.highlights_arrive` — the records, one by one, in the variable and in the slot of the times.
-/

namespace Clipbook

variable {e : Engines} {url t time : Text} {items : List Value} {times : List Text}

/-! ## Stamps -/

/-- A stamp is a plain text: it is made of digits and marks. -/
theorem Stamp.plain (hne : t ≠ []) (h : ∀ c ∈ t, Stamp.IsMark c) : Template.Plain t where
  line hc := absurd (h _ hc) (by decide)
  reference hc := absurd (h _ hc) (by decide)
  escape hc := absurd (h _ hc) (by decide)
  ne_nil := hne
  trimmed := Text.trimmed_of_not_blank fun c hc => Stamp.isBlank_eq_false_of_isMark (h c hc)
  defined heq := absurd (h 'u' (heq ▸ List.mem_cons_self ..)) (by decide)

theorem Highlight.plain_timestamp {id : Text} (h : Highlight.timestamp id = .ok t) :
    Template.Plain t := by
  obtain ⟨n, -, hn⟩ := Except.bind_eq_ok_iff.mp h
  exact Stamp.plain (Stamp.stampOf_ne_nil hn) fun _ => Stamp.isMark_of_mem_stampOf hn

namespace Highlight

variable {h : Highlight} {hs : List Highlight} {item : Value} {text : Text} {notes : List Value}

/-! ## The list -/

/-- The entry of a list of highlights; the notes are left out where there are none. -/
def entry (text time : Text) (notes : List Value) : Value :=
  .obj ([("text".toList, .str text), ("timestamp".toList, .str time)] ++
    if notes.isEmpty then [] else [("notes".toList, .arr notes)])

/-- A highlight has markup if its content is a text. -/
theorem markup_eq_ok_iff : h.markup = .ok t ↔ h.content = .str t := by
  rw [markup]
  cases h.content with
  | str u =>
    exact ⟨fun heq => congrArg _ (Except.ok.inj heq), fun heq => congrArg _ (Value.str.inj heq)⟩
  | _ => exact iff_of_false nofun nofun

/-- **What is listed of a highlight**: its content in Markdown, its time and its notes. -/
theorem listed_eq_ok_iff : h.listed e url = .ok item ↔
    ∃ content text time, h.content = .str content ∧ Markdown.ofMarkup e url content = .ok text ∧
      timestamp h.id = .ok time ∧ item = entry text time h.notes := by
  constructor
  · intro hlisted
    obtain ⟨content, hcontent, hlisted⟩ := Except.bind_eq_ok_iff.mp hlisted
    obtain ⟨text, htext, hlisted⟩ := Except.bind_eq_ok_iff.mp hlisted
    obtain ⟨time, htime, hlisted⟩ := Except.bind_eq_ok_iff.mp hlisted
    exact ⟨content, text, time, markup_eq_ok_iff.mp hcontent, htext, htime,
      (Except.ok.inj hlisted).symm⟩
  · rintro ⟨content, text, time, hcontent, htext, htime, rfl⟩
    rw [listed, markup_eq_ok_iff.mpr hcontent, Except.ok_bind, htext, Except.ok_bind, htime]
    rfl

/-- Texts have no numbers, and the three keys are different. -/
theorem isExact_entry (hnotes : ∀ v ∈ notes, ∃ t, v = .str t) :
    (entry text time notes).isExact = true := by
  -- notes are texts, and texts are exact
  have harr : (Value.arr notes).isExact = true := by
    refine Value.isExact_arr_iff.mpr fun v hv => ?_
    obtain ⟨t, rfl⟩ := hnotes v hv
    rfl
  rw [entry, Value.isExact_obj_iff]
  cases notes.isEmpty with
  | true =>
    have hkeys : ["text".toList, "timestamp".toList].Nodup := by decide
    refine ⟨hkeys, fun k v hmem => ?_⟩
    simp only [if_true, List.append_nil, List.mem_cons, Prod.mk.injEq, List.not_mem_nil,
      or_false] at hmem
    rcases hmem with ⟨-, rfl⟩ | ⟨-, rfl⟩ <;> rfl
  | false =>
    have hkeys : ["text".toList, "timestamp".toList, "notes".toList].Nodup := by decide
    refine ⟨hkeys, fun k v hmem => ?_⟩
    simp only [Bool.false_eq_true, if_false, List.cons_append, List.nil_append, List.mem_cons,
      Prod.mk.injEq, List.not_mem_nil, or_false] at hmem
    rcases hmem with ⟨-, rfl⟩ | ⟨-, rfl⟩ | ⟨-, rfl⟩
    · rfl
    · rfl
    · exact harr

/-! ## The times -/

/-- The template that shows the time of an entry. -/
def timing : Text := Expression.printed "timestamp".toList none

/-- The template for times shows the time of an entry. -/
theorem itemText_timing (render : Renderer) (htime : Template.Plain time) :
    Template.itemText render timing (entry text time notes) = pure time := by
  have hkey : Template.Word "timestamp".toList := ⟨by decide, List.all_eq_true.mp (by decide)⟩
  have hput : Expression.substitute render timing (entry text time notes) =
      pure (Expression.shown time) :=
    Template.substitute_of_str hkey rfl
  rw [Expression.shown, if_neg htime.defined] at hput
  exact Template.itemText_of_plain htime hput

/-- **Each entry shows the time of its highlight.** -/
theorem exists_times (h : List.Forall₂ (fun h item => listed e url h = .ok item) hs items) :
    ∃ times, List.Forall₂ (fun h time => timestamp h.id = .ok time) hs times ∧
      List.Forall₂ (fun item time => Template.itemText Template.render timing item = pure time)
        items times := by
  induction h with
  | nil => exact ⟨[], .nil, .nil⟩
  | cons hlisted _ ih =>
    obtain ⟨times, hstamps, hshown⟩ := ih
    obtain ⟨content, text, time, -, -, htime, rfl⟩ := listed_eq_ok_iff.mp hlisted
    exact ⟨time :: times, .cons htime hstamps,
      .cons (itemText_timing _ (plain_timestamp htime)) hshown⟩

end Highlight

namespace Clipping

variable {now : Int} {records : List Value} {hs : List Highlight}

/-- A list of records is read record by record. -/
theorem highlightsOf_arr : highlightsOf now (.arr records) = .ok hs ↔
    List.Forall₂ (fun r h => Highlight.ofValue now r = .ok h) records hs := by
  have helements : (Value.arr records).elementsIfAny = .ok records := by
    cases records <;> rfl
  rw [highlightsOf, helements, Except.ok_bind, Except.mapM_eq_ok_iff]

/-- **The list of highlights is read back from its text**, if the notes are texts. -/
theorem ofJson_highlightsText (h : highlightsText e url hs = .ok t)
    (hnotes : ∀ h ∈ hs, ∀ v ∈ h.notes, ∃ t, v = .str t) :
    ∃ items, List.Forall₂ (fun h item => Highlight.listed e url h = .ok item) hs items ∧
      Value.ofJson t = .ok (.arr items) := by
  obtain ⟨items, hitems, hjson⟩ := Except.bind_eq_ok_iff.mp h
  have hexact : (Value.arr items).isExact = true := by
    refine Value.isExact_arr_iff.mpr fun item hitem => ?_
    obtain ⟨highlight, hmem, hlisted⟩ := Except.exists_of_mem_of_mapM_eq_ok hitems hitem
    obtain ⟨content, text, time, -, -, -, rfl⟩ := Highlight.listed_eq_ok_iff.mp hlisted
    exact Highlight.isExact_entry (hnotes highlight hmem)
  refine ⟨items, Except.mapM_eq_ok_iff.mp hitems, ?_⟩
  -- text is made only of what is not nested too deeply
  rw [Value.json?] at hjson
  split at hjson
  · cases hjson
  · next hdepth =>
    rw [← Except.ok.inj hjson]
    exact Value.ofJson_json hexact (Bool.eq_false_iff.mpr hdepth)

end Clipping

/-! ## Slots -/

namespace Note

variable {words : Variables} {name template path : Text} {filters : Option Text}

/-- The name of a variable is what its braces hold. -/
theorem bare_braced (name : Text) : bare (Text.braced name) = name := by
  have htake : (Text.braced name).take ((Text.braced name).length - 2) =
      '\x7b' :: '\x7b' :: name := by
    have hbraced : Text.braced name = ('\x7b' :: '\x7b' :: name) ++ ['\x7d', '\x7d'] := rfl
    rw [hbraced, List.length_append]
    exact List.take_left
  rw [bare, htake]
  rfl

/-- Variables as fields of an item, without their braces. -/
def fields (words : Variables) : Table Value :=
  words.map fun e => (bare e.1, .str e.2)

/-- The names of different variables are different. -/
theorem nodup_keys_fields (hkeys : words.keys.Nodup)
    (hbraced : ∀ e ∈ words, ∃ name, e.1 = Text.braced name) : (fields words).keys.Nodup := by
  have hbare : (fields words).keys = words.keys.map bare := by
    rw [fields, Table.keys, Table.keys, List.map_map, List.map_map]
    rfl
  rw [hbare]
  -- the braces are all that is taken off
  refine List.Nodup.map_on (fun k hk l hl hkl => ?_) hkeys
  obtain ⟨d, hd, rfl⟩ := List.mem_map.mp hk
  obtain ⟨e, he, rfl⟩ := List.mem_map.mp hl
  obtain ⟨m, hm⟩ := hbraced d hd
  obtain ⟨n, hn⟩ := hbraced e he
  rw [hm, hn, bare_braced, bare_braced] at hkl
  rw [hm, hn, hkl]

/-- A variable is a field of the item that expressions speak of. -/
theorem at_itemOf (hname : Template.Word name) (hkeys : words.keys.Nodup)
    (hbraced : ∀ e ∈ words, ∃ name, e.1 = Text.braced name)
    (hword : words.get? (Text.braced name) = some t) : (itemOf words).at_ name = .ok (.str t) := by
  have hfields := nodup_keys_fields hkeys hbraced
  have hmem : (name, Value.str t) ∈ fields words :=
    List.mem_map.mpr ⟨_, Table.mem_of_get?_eq_some hword, by rw [bare_braced]⟩
  have hitem : itemOf words = .obj (fields words) :=
    congrArg Value.obj (Table.extend_of_nodup_keys hfields)
  rw [hitem, Template.at_word hname, Table.get?_eq_some_of_mem hfields hmem]
  rfl

/-- An expression alone is replaced by its text. -/
theorem fill_printed (h : Expression.Printable path filters) :
    fill words (Expression.printed path filters) =
      Expression.evaluate Template.render (itemOf words)
        ⟨0, Expression.length path filters, path, filters⟩ := by
  have hbody := Expression.body?_printed h []
  have hslot : slotAt? 0 (Expression.printed path filters) =
      some (.expression ⟨0, 0 + Expression.length path filters, path, filters⟩) := by
    rw [Expression.printed, slotAt?, expressionAt?, hbody]
    rfl
  rw [fill_of_slot hslot (by rw [Slot.stop, Expression.length_printed, Nat.zero_add]), Nat.zero_add]
  rfl

/-- **A slot fills in a template** for the items of a variable, where the template needs no
escapes. -/
theorem fill_templateSlot (hname : Template.Word name)
    (hword : (itemOf words).at_ name = .ok (.str t))
    (htemplate : ∀ c ∈ template, c ≠ '"' ∧ c ≠ '\\') {u : Text}
    (hrender : Template.render template (.str t) = pure u) :
    fill words (Expression.printed name (some (Filter.templateCall template).printed)) =
      pure (Expression.shown u) := by
  -- the template stands in brackets that close, and the call in an expression
  have hbracketed : Call.Bracketed (Filter.templateCall template).args :=
    Filter.bracketed_of_neutral (Filter.neutral_of_no_escapes htemplate)
  have hprintable :
      Expression.Printable name (some (Filter.templateCall template).printed) := by
    refine ⟨hname.ne_nil, hname.printable.path, fun f hf => ?_⟩
    rw [← Option.some.inj hf]
    exact Call.part_printed (Filter.printable_templateCall hbracketed) (by decide) (by decide)
  have hfilters : Call.applyChain Template.render (Filter.templateCall template).printed (.str t) =
      pure (.str u) := by
    have hfills := Filter.fillsIn_of_bracketed hbracketed (.str t) u (by rw [hrender]; rfl)
    rw [hrender] at hfills
    exact hfills
  rw [fill_printed hprintable, Expression.evaluate, hword, Outcome.liftM_ok, pure_bind]
  show (Call.applyChain _ _ _ >>= _) = _
  rw [Option.getD_some, hfilters]
  rfl

/-- Plain texts with blank lines between them are never the word for what is missing. -/
theorem shown_join (h : ∀ t ∈ times, Template.Plain t) :
    Expression.shown (Text.join ['\n', '\n'] times) = Text.join ['\n', '\n'] times := by
  have hdefined : Text.join ['\n', '\n'] times ≠ "undefined".toList := by
    match times with
    | [] => exact List.cons_ne_nil _ _ |>.symm
    | [t] => exact (h t (List.mem_cons_self ..)).defined
    | t :: u :: ts =>
      -- there is a line end in what is joined
      have hline : '\n' ∈ Text.join ['\n', '\n'] (t :: u :: ts) :=
        List.mem_append_left _ (List.mem_append_right _ (List.mem_cons_self ..))
      exact fun heq => absurd (heq ▸ hline) (by decide)
  rw [Expression.shown, if_neg hdefined]

/-! ## The note -/

variable {c : Clipping} {useHighlights : Bool} {now : Int} {moment : Moment} {clip : Clip}
  {records : List Value}

/-- What stands beside an element of a list. -/
theorem exists_getElem?_of_forall₂ {α β : Type} {r : α → β → Prop} {as : List α} {bs : List β}
    (h : List.Forall₂ r as bs) {i : Nat} {a : α} (ha : as[i]? = some a) :
    ∃ b, bs[i]? = some b ∧ r a b := by
  induction h generalizing i with
  | nil => cases ha
  | @cons a' b _ _ hhead _ ih =>
    cases i with
    | zero => exact ⟨b, rfl, Option.some.inj ha ▸ hhead⟩
    | succ i => exact ih ha

/-- The variable of the highlights, unless another one of its name came with the page. -/
theorem get?_words_highlights (hclip : (c.clip e useHighlights now moment).result = .ok clip)
    (hextracted : "highlights".toList ∉ c.extracted.keys) :
    ∃ hs t, Clipping.highlightsOf now c.highlights = .ok hs ∧
      Clipping.highlightsText e (Url.withoutQuote c.url) hs = .ok t ∧
        clip.words.get? (Text.braced "highlights".toList) = some t := by
  obtain ⟨data, b, -, hb, hget⟩ := Clipping.get?_words hclip (by decide) hextracted
  obtain ⟨-, hs, hhighlights, hlisted⟩ := Clipping.of_basics hb
  have hmem : (Text.braced "highlights".toList, b.highlights) ∈ b.table := by
    simp [Clipping.Basics.table]
  exact ⟨hs, b.highlights, hhighlights, hlisted,
    hget.trans (Table.get?_eq_some_of_mem b.nodup_keys_table hmem)⟩

/-- **Every highlight arrives once and in order**: the variable of the highlights is the text of a
list with one entry for each record, and a slot shows the times of the entries one by one. -/
theorem highlights_arrive (hclip : (c.clip e useHighlights now moment).result = .ok clip)
    (hextracted : "highlights".toList ∉ c.extracted.keys) (hrecords : c.highlights = .arr records)
    (hnotes : ∀ r ∈ records, ∀ h, Highlight.ofValue now r = .ok h → ∀ v ∈ h.notes,
      ∃ t, v = .str t) :
    ∃ t items times, clip.words.get? (Text.braced "highlights".toList) = some t ∧
      Value.ofJson t = .ok (.arr items) ∧ items.length = records.length ∧
      times.length = records.length ∧
      (∀ (i : Nat) r, records[i]? = some r → ∃ h content text time,
        Highlight.ofValue now r = .ok h ∧ h.content = .str content ∧
        Markdown.ofMarkup e (Url.withoutQuote c.url) content = .ok text ∧
        Highlight.timestamp h.id = .ok time ∧ times[i]? = some time ∧
        items[i]? = some (Highlight.entry text time h.notes)) ∧
      fill clip.words "$\x7bhighlights|template(\"$\x7btimestamp\x7d\")\x7d".toList =
        pure (Text.join ['\n', '\n'] times) := by
  obtain ⟨hs, t, hhighlights, htext, hword⟩ := get?_words_highlights hclip hextracted
  rw [hrecords] at hhighlights
  have hcoerced := Clipping.highlightsOf_arr.mp hhighlights
  -- every highlight is that of a record
  have hnotes' : ∀ h ∈ hs, ∀ v ∈ h.notes, ∃ t, v = .str t := by
    rw [Clipping.highlightsOf_arr, ← Except.mapM_eq_ok_iff] at hhighlights
    intro h hh
    obtain ⟨r, hr, heq⟩ := Except.exists_of_mem_of_mapM_eq_ok hhighlights hh
    exact hnotes r hr h heq
  -- the variable is the JSON of the entries, and is read back
  obtain ⟨items, hlisted, hread⟩ := Clipping.ofJson_highlightsText htext hnotes'
  obtain ⟨times, hstamps, hshown⟩ := Highlight.exists_times hlisted
  refine ⟨t, items, times, hword, hread, (hcoerced.length_eq.trans hlisted.length_eq).symm,
    (hcoerced.length_eq.trans hstamps.length_eq).symm, fun i r hr => ?_, ?_⟩
  · -- what stands at one place of the four lists belongs together
    obtain ⟨h, hh, hof⟩ := exists_getElem?_of_forall₂ hcoerced hr
    obtain ⟨item, hitem, hentry⟩ := exists_getElem?_of_forall₂ hlisted hh
    obtain ⟨time, htime, hstamp⟩ := exists_getElem?_of_forall₂ hstamps hh
    obtain ⟨content, text, time', hcontent, hmarkdown, hstamp', rfl⟩ :=
      Highlight.listed_eq_ok_iff.mp hentry
    obtain rfl : time = time' := Except.ok.inj (hstamp.symm.trans hstamp')
    exact ⟨h, content, text, time, hof, hcontent, hmarkdown, hstamp, htime, hitem⟩
  · -- the slot reads the list again, and shows the time of each entry
    have hplain : ∀ time ∈ times, Template.Plain time := by
      intro time htime
      have hmap : hs.mapM (fun h => Highlight.timestamp h.id) = .ok times :=
        Except.mapM_eq_ok_iff.mpr hstamps
      obtain ⟨h, -, hh⟩ := Except.exists_of_mem_of_mapM_eq_ok hmap htime
      exact Highlight.plain_timestamp hh
    have hitems : (Value.str t).items = .ok items := by
      rw [Value.items, Value.parsed, hread]
      rfl
    have htrimmed : Text.Trimmed (Text.join ['\n', '\n'] times) :=
      Text.trimmed_join _ (fun time htime => (hplain time htime).ne_nil)
        fun time htime => (hplain time htime).trimmed
    have hrender : Template.render Highlight.timing (.str t) =
        pure (Text.join ['\n', '\n'] times) := by
      rw [Template.render_eq_pure hitems hshown, Text.strip_eq_self htrimmed]
    have hname : Template.Word "highlights".toList :=
      ⟨by decide, List.all_eq_true.mp (by decide)⟩
    have hescapes : ∀ ch ∈ Highlight.timing, ch ≠ '"' ∧ ch ≠ '\\' := fun ch hch =>
      ⟨ne_of_mem_of_not_mem hch (by decide), ne_of_mem_of_not_mem hch (by decide)⟩
    obtain ⟨hkeys, hbraced⟩ := Clipping.nodup_words hclip
    have hfill := fill_templateSlot hname (at_itemOf hname hkeys hbraced hword) hescapes hrender
    rw [shown_join hplain] at hfill
    exact hfill

/-- An object with a note that needs escapes, and a text that looks like a slot. -/
theorem highlights_arrive_lookalike :
    let noted := Value.obj [("id".toList, .str "1700000000000".toList),
      ("content".toList, .str "<b>x</b> \"y\"".toList), ("notes".toList, .arr [.str ['"', '\\']])]
    let records := [noted, .str "$\x7bz\x7d".toList]
    let c : Clipping := { html := "<title>x</title>".toList, url := "https://example.com/".toList,
                          highlights := .arr records, article := some [] }
    "highlights".toList ∉ c.extracted.keys ∧
      (∀ r ∈ records, ∀ h, Highlight.ofValue 5 r = .ok h → ∀ v ∈ h.notes, ∃ t, v = .str t) ∧
      ∃ clip, (c.clip .own true 5 ⟨⟨2024, 1, 1⟩, 0, none⟩).result = .ok clip ∧
        ∃ t items times, clip.words.get? (Text.braced "highlights".toList) = some t ∧
          Value.ofJson t = .ok (.arr items) ∧ items.length = 2 ∧ times.length = 2 ∧
          fill clip.words "$\x7bhighlights|template(\"$\x7btimestamp\x7d\")\x7d".toList =
            pure (Text.join ['\n', '\n'] times) := by
  intro noted records c
  have hextracted : "highlights".toList ∉ c.extracted.keys := List.not_mem_nil
  have hnotes : ∀ r ∈ records, ∀ h, Highlight.ofValue 5 r = .ok h → ∀ v ∈ h.notes,
      ∃ t, v = .str t := by
    intro r hr h hh v hv
    rcases List.mem_cons.mp hr with rfl | hr
    -- an object is read field by field, and any other value is the text of a highlight
    · have hof : Highlight.ofValue 5 noted = .ok { id := "1700000000000".toList
                                                   content := .str "<b>x</b> \"y\"".toList
                                                   notes := [.str ['"', '\\']] } := rfl
      rw [hof] at hh
      rw [← Except.ok.inj hh] at hv
      exact ⟨_, List.mem_singleton.mp hv⟩
    · obtain rfl := List.mem_singleton.mp hr
      rw [← Except.ok.inj hh] at hv
      cases hv
  obtain ⟨clip, hclip⟩ : ∃ clip, (c.clip .own true 5 ⟨⟨2024, 1, 1⟩, 0, none⟩).result = .ok clip :=
    Except.exists_eq_ok_of_isOk (by decide +kernel)
  obtain ⟨t, items, times, hword, hread, hitems, htimes, -, hfill⟩ :=
    highlights_arrive hclip hextracted rfl hnotes
  exact ⟨hextracted, hnotes, clip, hclip, t, items, times, hword, hread, hitems, htimes, hfill⟩

end Note

end Clipbook
