import Clipbook.Clipping
import Clipbook.Proofs.Outcome
import Clipbook.Proofs.Schema.Outline
import Mathlib.Data.List.Nodup

/-!
# Clipbook — the variables of clips

Whatever a page says of itself, and whatever comes with it, the variables that every page has are
there.

Main results:

* `Clipping.exists_get?_words` — a clip has all the variables that every page has.
* `Clipping.nodup_words` — each variable has one name, in braces.
* `Clipping.get?_words` — they stay as they are unless others of their names came with the page.
-/

namespace Clipbook.Clipping

variable {e : Engines} {c : Clipping} {useHighlights : Bool} {now : Int} {moment : Moment}
  {clip : Clip} {name : Text}

theorem braced_injective : Function.Injective Text.braced :=
  (List.append_left_injective _).comp ((List.cons_injective).comp List.cons_injective)

namespace Basics

/-- The names of the variables that every page has. -/
def names : List Text :=
  ["author", "content", "contentHtml", "date", "time", "description", "domain", "fullHtml", "image",
    "noteName", "published", "site", "title", "url", "highlights"].map String.toList

/-- The words of the variables every page has. -/
theorem keys_table (b : Basics) : b.table.keys = names.map Text.braced := rfl

theorem isSome_get?_table (b : Basics) (hname : name ∈ names) :
    (b.table.get? (Text.braced name)).isSome = true :=
  Table.isSome_get?_of_mem_keys (b.keys_table ▸ List.mem_map_of_mem hname)

/-- No two variables that every page has stand under one word. -/
theorem nodup_keys_table (b : Basics) : b.table.keys.Nodup := by
  rw [keys_table]
  exact List.Nodup.map braced_injective (by decide)

end Basics

/-- The author is looked up, and the highlights are listed, as they are for the page alone. -/
theorem of_basics {p : Page} {data : Value} {b : Basics}
    (h : (c.basics e useHighlights now moment p data).result = .ok b) :
    (Field.author.resolve p data).result = .ok b.author ∧
      ∃ hs, highlightsOf now c.highlights = .ok hs ∧
        highlightsText e (Url.withoutQuote c.url) hs = .ok b.highlights := by
  -- of all the steps only three matter, but each may have failed
  unfold basics at h
  obtain ⟨title, -, h⟩ := Outcome.result_bind_eq_ok_iff.mp h
  obtain ⟨author, hauthor, h⟩ := Outcome.result_bind_eq_ok_iff.mp h
  obtain ⟨description, -, h⟩ := Outcome.result_bind_eq_ok_iff.mp h
  obtain ⟨domain, -, h⟩ := Outcome.result_bind_eq_ok_iff.mp h
  obtain ⟨image, -, h⟩ := Outcome.result_bind_eq_ok_iff.mp h
  obtain ⟨published, -, h⟩ := Outcome.result_bind_eq_ok_iff.mp h
  obtain ⟨site, -, h⟩ := Outcome.result_bind_eq_ok_iff.mp h
  obtain ⟨article, -, h⟩ := Outcome.result_bind_eq_ok_iff.mp h
  obtain ⟨hs, hhighlights, h⟩ := Outcome.result_bind_eq_ok_iff.mp h
  obtain ⟨body, -, h⟩ := Outcome.result_bind_eq_ok_iff.mp h
  obtain ⟨content, -, h⟩ := Outcome.result_bind_eq_ok_iff.mp h
  obtain ⟨highlights, hlisted, h⟩ := Outcome.result_bind_eq_ok_iff.mp h
  rw [← Except.ok.inj h]
  exact ⟨hauthor, hs, hhighlights, hlisted⟩

/-- Telling a fault as that of the page takes no clip away. -/
theorem clip_eq_ok_iff :
    (c.clip e useHighlights now moment).result = .ok clip ↔
      (c.clipOrCause e useHighlights now moment).result = .ok clip := by
  rw [Clipping.clip]
  cases hresult : (c.clipOrCause e useHighlights now moment).result with
  | ok clip' => rw [Outcome.recover_of_ok hresult, hresult]
  | error f =>
    rw [Outcome.result_recover_of_error hresult]
    exact iff_of_false nofun nofun

/-- What is written after the variables that every page has: those that came with the page, those
of its meta tags and those of its data. -/
def laterWrites (c : Clipping) (p : Page) (data : Value) : Table Text :=
  (c.extracted.map fun e => (Text.braced e.1, e.2)) ++ tagVariables p.metas ++
    if data.isNothing then [] else Schema.writes (Schema.outline data [])

/-- A page is clipped if its data can be told and it has the variables that every page has; all
others are written over these. -/
theorem result_clip_eq_ok_iff :
    (c.clip e useHighlights now moment).result = .ok clip ↔
      ∃ data basics, (c.dataOf (Page.read c.html)).result = .ok data ∧
        (c.basics e useHighlights now moment (Page.read c.html) data).result = .ok basics ∧
          ⟨basics.noteName, basics.table.extend (c.laterWrites (Page.read c.html) data)⟩ = clip := by
  rw [clip_eq_ok_iff, clipOrCause]
  refine Outcome.result_bind_eq_ok_iff.trans (exists_congr fun data => ?_)
  rw [exists_and_left]
  refine and_congr_right' (Outcome.result_bind_eq_ok_iff.trans (exists_congr fun basics =>
    and_congr_right' ?_))
  rw [laterWrites, Table.extend_append]
  dsimp only
  -- data that is nothing adds no variables
  split
  · rw [Table.extend_eq _ [], List.foldl_nil]
    exact ⟨Except.ok.inj, congrArg Except.ok⟩
  · rw [Schema.flatten_eq]
    exact ⟨Except.ok.inj, congrArg Except.ok⟩

/-- The variables of a clip are written over those that every page has. -/
theorem words_eq (h : (c.clip e useHighlights now moment).result = .ok clip) :
    ∃ data basics, (c.dataOf (Page.read c.html)).result = .ok data ∧
      (c.basics e useHighlights now moment (Page.read c.html) data).result = .ok basics ∧
        clip.words = basics.table.extend (c.laterWrites (Page.read c.html) data) := by
  obtain ⟨data, basics, hdata, hbasics, rfl⟩ := result_clip_eq_ok_iff.mp h
  exact ⟨data, basics, hdata, hbasics, rfl⟩

/-- **A clip has all the variables that every page has**: later writes take none away. -/
theorem exists_get?_words (h : (c.clip e useHighlights now moment).result = .ok clip)
    (hname : name ∈ Basics.names) : ∃ t, clip.words.get? (Text.braced name) = some t := by
  obtain ⟨data, basics, -, -, hwords⟩ := words_eq h
  have htable := basics.isSome_get?_table hname
  rw [← Option.isSome_iff_exists, hwords]
  exact Table.isSome_get?_extend htable

/-! ## Names -/

theorem colon_mem_braced_iff : ':' ∈ Text.braced name ↔ ':' ∈ name := by
  simp [Text.braced]

/-- The name of a variable of the meta tags has a colon in it. -/
theorem exists_braced_of_mem_tagVariables {metas : List Page.Meta} {e : Text × Text}
    (h : e ∈ tagVariables metas) : ∃ name, e.1 = Text.braced name ∧ ':' ∈ name := by
  obtain ⟨m, -, h⟩ := List.mem_flatMap.mp h
  split at h
  · cases h
  · cases h
  · -- a name and a property give a variable each, if they are there
    rcases List.mem_append.mp h with h | h
    all_goals
      dsimp only at h
      split at h
      · cases h
      · cases h
      · exact ⟨_, congrArg Prod.fst (List.mem_singleton.mp h),
          List.mem_append_left _ (by decide)⟩

theorem variableName_eq_braced (path : Text) :
    Schema.variableName path = Text.braced ("schema:".toList ++ path) := rfl

/-- The name of a variable of the data has a colon in it. -/
theorem colon_mem_schemaName (path : Text) : ':' ∈ "schema:".toList ++ path :=
  List.mem_append_left _ (by decide)

/-- What is written later has its name in braces, and in the name a colon unless it came with the
page. -/
theorem exists_braced_of_mem_laterWrites {p : Page} {data : Value} {e : Text × Text}
    (h : e ∈ c.laterWrites p data) :
    ∃ name, e.1 = Text.braced name ∧ (name ∈ c.extracted.keys ∨ ':' ∈ name) := by
  rcases List.mem_append.mp h with h | h
  · rcases List.mem_append.mp h with h | h
    · obtain ⟨x, hx, rfl⟩ := List.mem_map.mp h
      exact ⟨x.1, rfl, .inl (List.mem_map_of_mem hx)⟩
    · obtain ⟨name, hname, hcolon⟩ := exists_braced_of_mem_tagVariables h
      exact ⟨name, hname, .inr hcolon⟩
  · split at h
    · cases h
    · obtain ⟨path, hpath⟩ := Schema.exists_eq_variableName h
      exact ⟨_, hpath.trans (variableName_eq_braced path), .inr (colon_mem_schemaName path)⟩

/-- The variables of a clip have their names in braces, and each name once. -/
theorem nodup_words (h : (c.clip e useHighlights now moment).result = .ok clip) :
    clip.words.keys.Nodup ∧ ∀ e ∈ clip.words, ∃ name, e.1 = Text.braced name := by
  obtain ⟨data, basics, -, -, hwords⟩ := words_eq h
  rw [hwords]
  refine ⟨Table.nodup_keys_extend _ basics.nodup_keys_table, fun e he => ?_⟩
  rcases Table.mem_extend he with hmem | hmem
  · have hkey : e.1 ∈ basics.table.keys := List.mem_map_of_mem hmem
    obtain ⟨name, -, hname⟩ := List.mem_map.mp (basics.keys_table ▸ hkey)
    exact ⟨name, hname.symm⟩
  · obtain ⟨name, hname, -⟩ := exists_braced_of_mem_laterWrites hmem
    exact ⟨name, hname⟩

/-- **A variable that every page has stays as it is** unless one of its name came with the page. -/
theorem get?_words (h : (c.clip e useHighlights now moment).result = .ok clip) (hcolon : ':' ∉ name)
    (hextracted : name ∉ c.extracted.keys) :
    ∃ data basics, (c.dataOf (Page.read c.html)).result = .ok data ∧
      (c.basics e useHighlights now moment (Page.read c.html) data).result = .ok basics ∧
        clip.words.get? (Text.braced name) = basics.table.get? (Text.braced name) := by
  obtain ⟨data, basics, hdata, hbasics, hwords⟩ := words_eq h
  refine ⟨data, basics, hdata, hbasics, ?_⟩
  rw [hwords]
  -- a later write of this name would have come with the page, or would have a colon
  refine Table.get?_extend_of_ne fun e he heq => ?_
  obtain ⟨name', hname', hlater⟩ := exists_braced_of_mem_laterWrites he
  obtain rfl : name' = name := braced_injective (hname'.symm.trans heq)
  exact hlater.elim hextracted hcolon

end Clipbook.Clipping
