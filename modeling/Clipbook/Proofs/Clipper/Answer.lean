import Clipbook.Proofs.Clipper.Account
import Clipbook.Proofs.Clipper.Templates
import Clipbook.Proofs.Note.Made

/-!
# Clipbook — requests that get no answer

A request is answered with a result or with a refusal, or it fails.  Where settings can be read and
the clock can be shown, what makes it fail is gone through stage by stage: the file of templates,
the choice of a template, the data, the note and its file.  The page and the account never fail:
every fault of a page is refused, and there is nothing that a clip lacks to be recorded.

Main results:

* `fails_words_iff` — variables are given unless the data is beyond a limit.
* `fails_draft_iff` — the stages at which a draft fails.
* `fails_save_iff` — the drafts that are not saved.
* `tools_fail_iff` — the requests that get no answer.
-/

namespace Clipbook.Clipper

variable {α β : Type} {x : Except Halt α} {g : α → Except Halt β} {refusal? : Fault → Option Refusal}
  {c : Clipper} {s : Settings} {moment : Moment} {now : Int} {r : ClipRequest} {d : Draft}
  {templates : Templates} {data name : Option Text} {fs : Files}

/-! ## Failing along a computation -/

/-- A computation that ends with a fault that nothing is refused for. -/
def Fails (x : Except Halt α) : Prop :=
  ∃ f, x = .error (.failed f)

theorem not_fails_ok (a : α) : ¬Fails (.ok a) := nofun

theorem not_fails_refused (reason : Refusal) :
    ¬Fails (.error (.refused reason) : Except Halt α) := nofun

theorem fails_failed (f : Fault) : Fails (.error (.failed f) : Except Halt α) :=
  ⟨f, rfl⟩

/-- What fails is what stops at a fault that is no refusal. -/
theorem fails_error_iff {h : Halt} : Fails (.error h : Except Halt α) ↔ ∃ f, h = .failed f :=
  exists_congr fun f => ⟨Except.error.inj, fun heq => by rw [heq]⟩

/-- Two steps fail if the first does, or if the second does with what the first gave. -/
theorem fails_bind_iff : Fails (x >>= g) ↔ Fails x ∨ ∃ a, x = .ok a ∧ Fails (g a) := by
  cases x with
  | ok a =>
    rw [Except.ok_bind]
    simp only [not_fails_ok, false_or, Except.ok.injEq, exists_eq_left']
  | error h =>
    rw [Except.error_bind]
    simp only [fails_error_iff, reduceCtorEq, false_and, exists_false, or_false]

/-- A step that refuses some faults fails with the others. -/
theorem fails_orRefuse_iff {x : Except Fault α} :
    Fails (orRefuse refusal? x) ↔ ∃ f, x = .error f ∧ refusal? f = none :=
  exists_congr fun _ => orRefuse_eq_failed_iff

/-! ## Data -/

/-- Data that reaches a limit of reading JSON: it is nested too deeply, or a number in it has too
many digits. -/
def BeyondLimits (data : Option Text) : Prop :=
  ∃ t f, data = some t ∧ Value.ofJson t = .error f ∧ Value.IsLimit f

/-- Limits of the reader are not refused where data is read. -/
theorem dataRefusal?_eq_none {f : Fault} (h : Value.IsLimit f) : dataRefusal? f = none := by
  rcases h with rfl | ⟨digits, rfl, -⟩ <;> rfl

/-- Data that is no JSON is refused, and what is beyond a limit is not. -/
theorem fails_dataOf_iff (data : Option Text) : Fails (dataOf data) ↔ BeyondLimits data := by
  unfold dataOf
  split
  · exact iff_of_false (not_fails_ok _) nofun
  · -- no data, for which the limits are out of reach
    refine iff_of_false (not_fails_ok _) ?_
    rintro ⟨t, f, ht, hread, hlimit⟩
    obtain rfl := Option.some.inj ht
    rcases hlimit with rfl | ⟨digits, rfl, -⟩ <;> cases hread
  · next t _ =>
    rw [fails_orRefuse_iff]
    constructor
    · rintro ⟨f, hread, hnone⟩
      rcases Value.ofJson_error_cases hread with ⟨cause, place, rfl⟩ | hlimit
      · cases hnone
      · exact ⟨t, f, rfl, hread, hlimit⟩
    · rintro ⟨u, f, hu, hread, hlimit⟩
      obtain rfl := Option.some.inj hu
      exact ⟨f, hread, dataRefusal?_eq_none hlimit⟩

/-! ## Pages -/

/-- Every fault of a page is refused. -/
theorem not_fails_page (e : Engines) (clipping : Clipping) (useHighlights : Bool)
    (moment : Moment) :
    ¬Fails (orRefuse pageRefusal? (clipping.clip e useHighlights now moment).result) := by
  rw [fails_orRefuse_iff]
  rintro ⟨f, hclip, hnone⟩
  rw [Clipping.clip] at hclip
  cases hcause : (clipping.clipOrCause e useHighlights now moment).result with
  | ok clip =>
    rw [Outcome.recover_of_ok hcause, hcause] at hclip
    cases hclip
  | error cause =>
    rw [Outcome.result_recover_of_error hcause] at hclip
    rw [← Except.error.inj hclip] at hnone
    cases hnone

/-- A page is read where a clock can be shown and the data is within limits. -/
theorem fails_clipOf_iff (e : Engines) (hmoment : Moment.ofMilliseconds now = .ok moment) :
    Fails (clipOf e s now r) ↔ BeyondLimits r.data := by
  rw [clipOf, fails_bind_iff, fails_dataOf_iff]
  -- what comes after the data is the clock and the page
  refine or_iff_left ?_
  rintro ⟨v, -, hrest⟩
  rw [hmoment] at hrest
  exact not_fails_page e _ _ moment hrest

/-- **Variables are given**, or data is refused, unless it is beyond a limit. -/
theorem fails_words_iff (hsettings : Settings.read c.surroundings = .ok s)
    (hmoment : Moment.ofMilliseconds now = .ok moment) :
    Fails (c.words now r) ↔ BeyondLimits r.data := by
  have hsettings' : orFail (Settings.read c.surroundings) = .ok s := orFail_eq_ok_iff.mpr hsettings
  rw [words, hsettings', Except.ok_bind, fails_bind_iff, fails_clipOf_iff c.engines hmoment]
  exact or_iff_left fun ⟨_, _, h⟩ => not_fails_ok _ h

/-! ## Drafts -/

/-- The choice of a template fails only where there are none and no name is given. -/
theorem fails_choose_iff : Fails (choose templates name) ↔ templates = [] ∧ name = none := by
  cases name with
  | none =>
    cases templates with
    | nil => exact iff_of_true (fails_failed _) ⟨rfl, rfl⟩
    | cons t templates => exact iff_of_false (not_fails_ok _) nofun
  | some name =>
    refine iff_of_false ?_ nofun
    rw [choose]
    split
    · exact not_fails_ok _
    · exact not_fails_refused _

theorem not_fails_vaultOf (s : Settings) (name : Option Text) : ¬Fails (vaultOf s name) := by
  cases name with
  | none => exact not_fails_ok _
  | some name =>
    rw [vaultOf]
    split
    · exact not_fails_ok _
    · exact not_fails_refused _

/-- **Why no draft is made** and nothing is refused, in the order of the stages. -/
inductive Undrafted (c : Clipper) (s : Settings) (now : Int) (r : ClipRequest) : Prop
  | templates (h : TemplatesFail c s)
  | choice (htemplates : c.templatesOf s = .ok []) (hname : r.template = none)
  | data {templates : Templates} {template : NoteTemplate} {vault : Option (Text × Location)}
      (htemplates : c.templatesOf s = .ok templates)
      (htemplate : choose templates r.template = .ok template)
      (hvault : vaultOf s r.vault = .ok vault) (h : BeyondLimits r.data)
  | note {templates : Templates} {template : NoteTemplate} {vault : Option (Text × Location)}
      {clip : Clip} (htemplates : c.templatesOf s = .ok templates)
      (htemplate : choose templates r.template = .ok template)
      (hvault : vaultOf s r.vault = .ok vault) (hclip : clipOf c.engines s now r = .ok clip)
      (h : ¬template.Makeable clip.words)

/-- A note that is not made makes the draft fail. -/
theorem fails_note_iff (template : NoteTemplate) (words : Note.Variables) :
    Fails (orFail (Note.ofTemplate template words).result) ↔ ¬template.Makeable words := by
  rw [← Note.exists_ofTemplate_iff, orFail, fails_orRefuse_iff]
  cases (Note.ofTemplate template words).result with
  | ok n =>
    refine iff_of_false ?_ fun h => h ⟨n, rfl⟩
    rintro ⟨f, hf, -⟩
    cases hf
  | error f => exact iff_of_true ⟨f, rfl, rfl⟩ (Except.not_exists_error_eq_ok f)

/-- **A draft fails at one of its stages.** -/
theorem fails_draft_iff (hsettings : Settings.read c.surroundings = .ok s)
    (hmoment : Moment.ofMilliseconds now = .ok moment) :
    Fails (c.draft now r) ↔ Undrafted c s now r := by
  have hsettings' : orFail (Settings.read c.surroundings) = .ok s := orFail_eq_ok_iff.mpr hsettings
  rw [draft, hsettings', Except.ok_bind]
  -- each stage is reached where all those before it ended well
  simp only [fails_bind_iff, fails_orRefuse_iff, exists_templatesOf_fails_iff, fails_choose_iff,
    not_fails_vaultOf, fails_clipOf_iff c.engines hmoment, fails_note_iff, orRefuse_eq_ok_iff, false_or]
  constructor
  · rintro (htemplates | ⟨templates, htemplates, ⟨rfl, hname⟩ | ⟨template, htemplate, vault, hvault,
      hdata | ⟨clip, hclip, hnote | ⟨note, -, hok⟩⟩⟩⟩)
    · exact .templates htemplates
    · exact .choice htemplates hname
    · exact .data htemplates htemplate hvault hdata
    · exact .note htemplates htemplate hvault hclip hnote
    · exact absurd hok (not_fails_ok _)
  · intro h
    cases h with
    | templates h => exact .inl h
    | choice htemplates hname => exact .inr ⟨[], htemplates, .inl ⟨rfl, hname⟩⟩
    | data htemplates htemplate hvault h =>
      exact .inr ⟨_, htemplates, .inr ⟨_, htemplate, _, hvault, .inl h⟩⟩
    | note htemplates htemplate hvault hclip h =>
      exact .inr ⟨_, htemplates, .inr ⟨_, htemplate, _, hvault, .inr ⟨_, hclip, .inl h⟩⟩⟩

/-! ## Saving -/

/-- **Why a draft is not saved** and nothing is refused: there is a null character in its path, or
its file cannot be written. -/
inductive Unsaved (fs : Files) (d : Draft) : Prop
  | path {vault : Text} {folder : Location} (hvault : d.vault = some (vault, folder))
      (h : ¬NullFree d.note.filePath)
  | file {vault : Text} {folder l : Location} {cause : PathFault}
      (hvault : d.vault = some (vault, folder)) (htarget : targetOf vault folder d.note = .ok l)
      (h : (fs.write l d.note.text).1 = .error cause)

/-- The place of a note fails only at a NUL in its path. -/
theorem fails_targetOf_iff (vault : Text) (folder : Location) (n : Note) :
    Fails (targetOf vault folder n) ↔ ¬NullFree n.filePath := by
  rcases targetOf_cases vault folder n with ⟨hnull, h⟩ | ⟨hnull, -, h⟩ | ⟨hnull, -, h⟩
  · rw [h]
    exact iff_of_true (fails_failed _) hnull
  · rw [h]
    exact iff_of_false (not_fails_ok _) (not_not_intro hnull)
  · rw [h]
    exact iff_of_false (not_fails_refused _) (not_not_intro hnull)

/-- Saving fails where there is no file to save to. -/
theorem fails_save_iff : Fails (save fs d).1 ↔ Unsaved fs d := by
  rw [save]
  cases hvault : d.vault with
  | none =>
    refine iff_of_false (not_fails_ok _) fun h => ?_
    cases h with
    | path hsome => cases hvault.symm.trans hsome
    | file hsome => cases hvault.symm.trans hsome
  | some p =>
    obtain ⟨vault, folder⟩ := p
    have hnull := fails_targetOf_iff vault folder d.note
    dsimp only
    cases htarget : targetOf vault folder d.note with
    | error h =>
      rw [htarget, fails_error_iff] at hnull
      show Fails (.error h : Except Halt (Option Text)) ↔ _
      rw [fails_error_iff]
      constructor
      · exact fun hfails => .path hvault (hnull.mp hfails)
      · intro h
        cases h with
        | path _ h => exact hnull.mpr h
        | file hsome hok =>
          obtain ⟨rfl, rfl⟩ := Prod.mk.inj (Option.some.inj (hvault.symm.trans hsome))
          cases htarget.symm.trans hok
    | ok l =>
      -- the target is inside the vault, and writing it decides
      rw [htarget] at hnull
      dsimp only
      rcases hwrite : fs.write l d.note.text with ⟨result, files⟩
      cases result with
      | error cause =>
        have hcause : (fs.write l d.note.text).1 = .error cause := by rw [hwrite]
        exact iff_of_true (fails_failed _) (.file hvault htarget hcause)
      | ok u =>
        refine iff_of_false (not_fails_ok _) fun h => ?_
        cases h with
        | path _ h => exact not_fails_ok l (hnull.mpr h)
        | file hsome hok h =>
          obtain ⟨rfl, rfl⟩ := Prod.mk.inj (Option.some.inj (hvault.symm.trans hsome))
          obtain rfl := Except.ok.inj (htarget.symm.trans hok)
          rw [hwrite] at h
          cases h

/-! ## Requests -/

/-- A clip fails while it is drafted or saved; taking account of it does not fail. -/
theorem fails_clip_iff {m : Nat} {log : List Entry} {n : Text → Nat}
    (hview : Store.Represents m log n c.store) (hm : Store.fits m = true) :
    Fails (c.clip now r).1 ↔
      Fails (c.draft now r) ∨ ∃ d, c.draft now r = .ok d ∧ Fails (save c.files d).1 := by
  cases hdraft : c.draft now r with
  | error h =>
    rw [clip_of_draft_error hdraft]
    simp only [fails_error_iff, reduceCtorEq, false_and, exists_false, or_false]
  | ok d =>
    simp only [not_fails_ok, false_or, Except.ok.injEq, exists_eq_left']
    rcases hsave : save c.files d with ⟨result, files⟩
    cases result with
    | error h =>
      rw [clip_of_save_error hdraft hsave, fails_error_iff, fails_error_iff]
    | ok savedTo =>
      -- a saved draft has all that an entry needs
      obtain ⟨store, e, hclip, -, -⟩ := clip_of_save hview hm hdraft hsave
      rw [hclip]
      exact iff_of_false (not_fails_ok _) (not_fails_ok _)

/-- **The requests that get no answer.**  A clip fails if no draft is made, or if the draft is not
saved; asking for variables fails if the data is beyond a limit.  Any other request is answered, if
only with a refusal. -/
theorem tools_fail_iff {m : Nat} {log : List Entry} {n : Text → Nat}
    (hview : Store.Represents m log n c.store) (hm : Store.fits m = true)
    (hsettings : Settings.read c.surroundings = .ok s)
    (hmoment : Moment.ofMilliseconds now = .ok moment) (r : ClipRequest) :
    (Fails (c.clip now r).1 ↔
      Undrafted c s now r ∨ ∃ d, c.draft now r = .ok d ∧ Unsaved c.files d) ∧
    (Fails (c.words now r) ↔ BeyondLimits r.data) := by
  refine ⟨?_, fails_words_iff hsettings hmoment⟩
  rw [fails_clip_iff hview hm, fails_draft_iff hsettings hmoment]
  simp only [fails_save_iff]

/-- A clipper whose file of templates has none. -/
def bare : Clipper :=
  fresh .own { environment := [("WEBCLIP_TEMPLATES".toList, ['t'])], homes := [], folder := [['w']] }
    { folders := [[['w']]], files := [([['w'], ['t']], "[]".toList)] }

/-- Of no templates none is the first one, and a clip that asks for no name fails; the variables of
its page are given all the same. -/
theorem tools_fail_iff_bare :
    let r : ClipRequest := { html := [], url := "http://e/".toList }
    Fails (bare.clip 0 r).1 ∧ ¬Fails (bare.words 0 r) := by
  intro r
  have hview : Store.Represents 1000 [] (fun _ => 0) bare.store := Store.represents_fresh 1000
  have hfits : Store.fits (1000 : Nat) = true := by decide
  obtain ⟨s, hsettings⟩ : ∃ s, Settings.read bare.surroundings = .ok s := ⟨_, rfl⟩
  have hclock : (Moment.ofMilliseconds 0).isOk = true := by decide +kernel
  obtain ⟨moment, hmoment⟩ := Except.exists_eq_ok_of_isOk hclock
  obtain ⟨hclip, hwords⟩ := tools_fail_iff hview hfits hsettings hmoment r
  refine ⟨hclip.mpr (.inl (.choice ?_ rfl)), fun h => ?_⟩
  · obtain rfl := Except.ok.inj hsettings
    rfl
  · obtain ⟨t, f, ht, -⟩ := hwords.mp h
    cases ht

/-- A clip of a clipper without templates gets no answer. -/
theorem clip_fails_bare :
    (bare.clip 0 { html := [], url := "http://e/".toList }).1 = .error (.failed .noTemplate) := by
  obtain ⟨s, hsettings⟩ : ∃ s, Settings.read bare.surroundings = .ok s := ⟨_, rfl⟩
  have htemplates : bare.templatesOf s = .ok [] := by
    obtain rfl := Except.ok.inj hsettings
    rfl
  have hdraft : bare.draft 0 { html := [], url := "http://e/".toList } =
      .error (.failed .noTemplate) := by
    rw [draft, orFail_eq_ok_iff.mpr hsettings, Except.ok_bind, htemplates, orRefuse_ok,
      Except.ok_bind]
    rfl
  rw [clip_of_draft_error hdraft]

end Clipbook.Clipper
