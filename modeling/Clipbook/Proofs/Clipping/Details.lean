import Clipbook.Proofs.Clipping
import Clipbook.Proofs.Markdown
import Clipbook.Proofs.Page

/-!
# Clipbook — details that keep a page from being clipped

A clip is made of everything a page says of itself, and one fault on the way is the fault of all
of it.  The fields, the meta tags, the flattening of the data and the domain are safe; a block of
data and the body are not.  So a page is clipped unless one of its data blocks holds a number of
too many digits, or a detail of the body keeps it from being written as Markdown.

What the engines make of a page is not known here: the body may hold a detail that the engine for
Markdown stops at, and where the article is asked for, the engine for articles may stop too.

Main results:

* `exists_basics_iff` — the variables every page has.
* `clip_succeeds_iff` — the pages that are clipped, where there are no highlights and the data is
  that of the page.
* `clip_fails_bracket` — one link is enough to keep a page from being clipped.
-/

namespace Clipbook.Clipping

variable {e : Engines} {c : Clipping} {useHighlights : Bool} {now : Int} {moment : Moment}
  {p : Page} {article : Option Text}

/-! ## The body -/

/-- The body where there are no highlights. -/
def ownBody (c : Clipping) (p : Page) (article : Option Text) : Text :=
  if c.selection ≠ [] then c.selection
  else
    match article with
    | some (ch :: t) => ch :: t
    | _ => if p.bodyMarkup = [] then c.fullHtml else p.bodyMarkup

/-- Without highlights the body is the page's own, whether highlights are wanted or not. -/
theorem body_nil (c : Clipping) (useHighlights : Bool) (p : Page) (article : Option Text) :
    c.body useHighlights p article [] = .ok (c.ownBody p article) := by
  have hnone : (useHighlights && !([] : List Highlight).isEmpty) = false := Bool.and_false _
  unfold body ownBody
  rw [hnone, if_neg Bool.false_ne_true]
  split
  · rfl
  · cases article with
    | none => rfl
    | some article => cases article <;> rfl

/-- A value that is nothing lists no highlights. -/
theorem highlightsOf_of_isNothing {v : Value} (h : v.isNothing = true) :
    highlightsOf now v = .ok [] := by
  rw [highlightsOf, Value.elementsIfAny, if_pos h]
  rfl

theorem exists_highlightsText_nil (e : Engines) (url : Text) :
    ∃ t, highlightsText e url [] = .ok t :=
  ⟨_, rfl⟩

/-- An article that came with the page is the article, and no engine is asked for it. -/
theorem articleBy_of_some {t : Text} (h : c.article = some t) :
    (c.articleBy e).result = .ok (some t) := by
  rw [articleBy, h]
  rfl

/-! ## The variables -/

/-- **The variables every page has** are there if the article is, and if the body can be written as
Markdown. -/
theorem exists_basics_iff {d : Text} (hurl : Url.domain (Url.withoutQuote c.url) = .ok d)
    (hhighlights : c.highlights.isNothing = true) (data : Value) :
    (∃ b, (c.basics e useHighlights now moment p data).result = .ok b) ↔
      ∃ article, (c.articleBy e).result = .ok article ∧
        ∃ u, Markdown.ofMarkup e (Url.withoutQuote c.url) (c.ownBody p article) = .ok u := by
  obtain ⟨title, htitle⟩ := Field.title.exists_resolve p data
  obtain ⟨author, hauthor⟩ := Field.author.exists_resolve p data
  obtain ⟨description, hdescription⟩ := Field.description.exists_resolve p data
  obtain ⟨image, himage⟩ := Field.image.exists_resolve p data
  obtain ⟨published, hpublished⟩ := Field.published.exists_resolve p data
  obtain ⟨site, hsite⟩ := Field.site.exists_resolve p data
  obtain ⟨highlights, hlisted⟩ := exists_highlightsText_nil e (Url.withoutQuote c.url)
  have hlift {α : Type} {r : Except Fault α} {a : α} (h : r = .ok a) :
      (liftM r : Outcome α).result = .ok a := h
  unfold basics
  dsimp only
  -- all steps before the article is asked for are safe
  rw [Outcome.result_bind_of_ok htitle, Outcome.result_bind_of_ok hauthor,
    Outcome.result_bind_of_ok hdescription, Outcome.result_bind_of_ok (hlift hurl),
    Outcome.result_bind_of_ok himage, Outcome.result_bind_of_ok hpublished,
    Outcome.result_bind_of_ok hsite]
  refine Outcome.exists_bind_iff.trans (exists_congr fun article => and_congr_right' ?_)
  rw [Outcome.result_bind_of_ok (hlift (highlightsOf_of_isNothing hhighlights)),
    Outcome.result_bind_of_ok (hlift (body_nil c useHighlights p article))]
  refine Outcome.exists_bind_iff.trans (exists_congr fun u => and_iff_left ?_)
  rw [Outcome.result_bind_of_ok (hlift hlisted)]
  exact ⟨_, rfl⟩

/-! ## The clip -/

/-- Where no data came with the page, the data is that of its blocks. -/
theorem dataOf_of_null (h : c.data = .null) (p : Page) : c.dataOf p = p.data := by
  rw [dataOf, h]

/-- Whatever goes wrong, the fault tells that the page has no content. -/
theorem exists_error_iff :
    (∃ message, (c.clip e useHighlights now moment).result = .error (.pageContent message)) ↔
      ¬∃ clip, (c.clip e useHighlights now moment).result = .ok clip := by
  rw [clip]
  cases hresult : (c.clipOrCause e useHighlights now moment).result with
  | ok clip =>
    rw [Outcome.recover_of_ok hresult, hresult]
    exact iff_of_false (not_exists.mpr fun message h => Except.error_ne_ok _ _ h.symm)
      fun h => h ⟨clip, rfl⟩
  | error f =>
    rw [Outcome.result_recover_of_error hresult]
    exact iff_of_true ⟨f.message, rfl⟩ (Except.not_exists_error_eq_ok _)

/-- Where there are no highlights, a page is clipped if its data can be read and it has an article,
or is one without, of which the body is written. -/
theorem exists_clip_iff (hurl : ∃ d, Url.domain (Url.withoutQuote c.url) = .ok d)
    (hhighlights : c.highlights.isNothing = true) :
    (∃ clip, (c.clip e useHighlights now moment).result = .ok clip) ↔
      (∃ data, (c.dataOf (Page.read c.html)).result = .ok data) ∧
        ∃ article, (c.articleBy e).result = .ok article ∧
          ∃ u, Markdown.ofMarkup e (Url.withoutQuote c.url)
            (c.ownBody (Page.read c.html) article) = .ok u := by
  obtain ⟨d, hd⟩ := hurl
  simp only [clip_eq_ok_iff]
  rw [clipOrCause]
  refine Outcome.exists_bind_iff.trans ?_
  rw [← exists_and_right]
  refine exists_congr fun data => and_congr_right' ?_
  rw [← exists_basics_iff hd hhighlights data]
  -- once there are variables, there is a clip: the data only adds to them
  refine Outcome.exists_bind_iff.trans (exists_congr fun basics => and_iff_left ?_)
  dsimp only
  split
  · exact ⟨_, rfl⟩
  · rw [Schema.flatten_eq]
    exact ⟨_, rfl⟩

/-- **A page is clipped**, where there are no highlights and the data is that of the page, if no
data block of it holds a number of too many digits, it has an article or is one without, and its
body can be written as Markdown.  An article that came with the page leaves two ways to fail: the
data blocks and the body. -/
theorem clip_succeeds_iff (e : Engines) (hurl : ∃ d, Url.domain (Url.withoutQuote c.url) = .ok d)
    (hdata : c.data = .null) (hhighlights : c.highlights.isNothing = true) :
    (∃ clip, (c.clip e useHighlights now moment).result = .ok clip) ↔
      (∀ t ∈ (Page.read c.html).dataBlocks, ¬Page.Overlong t) ∧
        ∃ article, (c.articleBy e).result = .ok article ∧
          Markdown.Convertible e (Url.withoutQuote c.url)
            (c.ownBody (Page.read c.html) article) := by
  rw [exists_clip_iff hurl hhighlights, dataOf_of_null hdata, Page.exists_data_iff]
  obtain ⟨d, hd⟩ := hurl
  simp only [Markdown.exists_ofMarkup_iff hd]

/-- A page with one link, and an article without text. -/
def linkOnly (href : String) : Clipping where
  html := ("<a href=\"" ++ href ++ "\">x</a>").toList
  url := "https://example.com/".toList
  article := some []

/-- A link to another page is no reason not to clip this one. -/
theorem clip_succeeds_iff_relative :
    let c := linkOnly "/about"
    (∃ d, Url.domain (Url.withoutQuote c.url) = .ok d) ∧ c.data = .null ∧
      c.highlights.isNothing = true ∧ ∀ useHighlights now moment,
        ∃ clip, (c.clip .own useHighlights now moment).result = .ok clip := by
  intro c
  -- the link is resolved against the address of the page, and the engine takes it
  obtain ⟨hdomain, hblocks, hbody⟩ : (Url.domain (Url.withoutQuote c.url)).isOk = true ∧
      (Page.read c.html).dataBlocks = [] ∧
      (Markdown.ofMarkup .own (Url.withoutQuote c.url)
        (c.ownBody (Page.read c.html) (some []))).isOk = true := by decide +kernel
  have hurl := Except.exists_eq_ok_of_isOk hdomain
  refine ⟨hurl, rfl, rfl, fun useHighlights now moment =>
    (clip_succeeds_iff .own hurl rfl rfl).mpr ⟨?_, some [], articleBy_of_some rfl, ?_⟩⟩
  · rw [hblocks]
    exact List.forall_mem_nil _
  · obtain ⟨d, hd⟩ := hurl
    exact (Markdown.exists_ofMarkup_iff hd .own _).mp (Except.exists_eq_ok_of_isOk hbody)

/-- A link whose host has a bracket that does not close keeps the page from being clipped, whatever
the engines make of it. -/
theorem clip_fails_bracket :
    let c := linkOnly "http://["
    (∃ d, Url.domain (Url.withoutQuote c.url) = .ok d) ∧ ∀ e useHighlights now moment,
      ∃ message, (c.clip e useHighlights now moment).result = .error (.pageContent message) := by
  intro c
  -- the link stops the resolution before any engine for Markdown is asked
  obtain ⟨hdomain, hlink⟩ : (Url.domain (Url.withoutQuote c.url)).isOk = true ∧
      ∀ closing, ((Markup.readFragmentBy closing
        (c.ownBody (Page.read c.html) (some []))).bind fun ns =>
          Markdown.resolveBoth (Url.withoutQuote c.url)
            (Markdown.withoutScripts ns)).isOk = false := by decide +kernel
  have hurl := Except.exists_eq_ok_of_isOk hdomain
  refine ⟨hurl, fun e useHighlights now moment => exists_error_iff.mpr fun hclip => ?_⟩
  obtain ⟨-, article, harticle, hbody⟩ := (exists_clip_iff hurl rfl).mp hclip
  obtain ⟨d, hd⟩ := hurl
  obtain ⟨ns, hns, -, ms, hms, -⟩ := (Markdown.exists_ofMarkup_iff hd e _).mp hbody
  obtain rfl := Except.ok.inj ((articleBy_of_some (e := e) (c := c) rfl).symm.trans harticle)
  have hfails := hlink e.closing
  rw [hns, Except.bind, hms] at hfails
  cases hfails

end Clipbook.Clipping
