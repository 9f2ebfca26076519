import Clipbook.Proofs.Clipper.Vault
import Clipbook.Proofs.Clipping
import Clipbook.Proofs.Store.Log

/-!
# Clipbook — the account of a run

Calls are made to a clipper one after the other.  What they leave in its files and in its store can
be told from the replies alone: it is the work of the clips that were answered.  A call that is
refused or fails leaves nothing, although a clip may halt in the middle, between files and store.

The clipper starts with an empty store of the default capacity.  Its settings, its templates and
its engines may be anything.

Main results:

* `Accounts.perform` — one call adds to the account what it is answered with.
* `Accounts.run` — so does a run of calls.
* `run_accounts` — files, history and counters after a run.
-/

namespace Clipbook.Clipper

/-! ## Calls -/

/-- What can be asked of a clipper; clips are made at an instant in milliseconds. -/
inductive Call where
  | clip (now : Int) (r : ClipRequest)
  | words (now : Int) (r : ClipRequest)
  | render (template data : Text)
  | history (limit : Int)

inductive Reply where
  | saved (s : Saved)
  | words (words : Table Text)
  | text (t : Text)
  | history (entries : List Entry) (stats : Table Nat)

/-- The reply to a call, and the clipper after it. -/
def perform (c : Clipper) : Call → Except Halt Reply × Clipper
  | .clip now r => ((c.clip now r).1.map .saved, (c.clip now r).2)
  | .words now r => ((c.words now r).map .words, c)
  | .render template data => ((orFail (render template data).result).map .text, c)
  | .history limit => ((orFail (c.history limit)).map fun p => .history p.1 p.2, c)

/-- The replies to calls made one after the other, and the clipper after them. -/
def run (c : Clipper) : List Call → List (Except Halt Reply) × Clipper
  | [] => ([], c)
  | call :: calls => let p := run (c.perform call).2 calls; ((c.perform call).1 :: p.1, p.2)

/-- A clipper with an empty store. -/
def fresh (es : Engines) (s : Surroundings) (files : Files) : Clipper :=
  { engines := es, surroundings := s, files, store := Store.fresh Store.defaultCapacity }

/-! ## Clips that were answered -/

/-- A clip that was answered. -/
structure Done where
  now : Int
  request : ClipRequest
  saved : Saved

namespace Done

/-- The clip that a reply to a call tells of. -/
def of? : Call → Except Halt Reply → Option Done
  | .clip now request, .ok (.saved saved) => some ⟨now, request, saved⟩
  | _, _ => none

/-- The path of the file of the note, seen from its vault. -/
def filePath (d : Done) : FilePath :=
  (FilePath.read d.saved.path).append (FilePath.read (d.saved.noteName ++ ".md".toList))

/-- Where the note was written to, if a vault was asked for. -/
def target? (s : Surroundings) (d : Done) : Option Location := do
  let settings ← (Settings.read s).toOption
  let folder ← settings.vaults.get? (← d.request.vault)
  return d.filePath.locate folder

def action (d : Done) : Action :=
  if d.request.vault.isSome then .addToVault else .copy

end Done

/-- The clips that were answered, in order. -/
def done (calls : List Call) (replies : List (Except Halt Reply)) : List Done :=
  (calls.zip replies).filterMap fun p => Done.of? p.1 p.2

/-- What was written last to a location. -/
def lastTo (s : Surroundings) (ds : List Done) (l : Location) : Option Text :=
  (ds.reverse.find? fun d => d.target? s = some l).map (·.saved.content)

/-- How often clips were made by an action. -/
def tally (ds : List Done) (action : Text) : Nat :=
  ds.countP fun d => d.action.name = action

/-- The entry of a clip: its address and its title are variables of its page. -/
def Recorded (es : Engines) (s : Surroundings) (d : Done) (e : Entry) : Prop :=
  ∃ settings clip time url title, Settings.read s = .ok settings ∧
    clipOf es settings d.now d.request = .ok clip ∧ stampOf d.now = .ok time ∧
    clip.words.get? (Text.braced "url".toList) = some url ∧
    clip.words.get? (Text.braced "title".toList) = some title ∧
    e = { time, url, action := d.action.name, title := some title, vault := d.request.vault
          path := d.saved.savedTo }

/-- One clip more is the last one to the file it was saved to. -/
theorem lastTo_concat (s : Surroundings) (ds : List Done) (d : Done) (l : Location) :
    lastTo s (ds ++ [d]) l =
      if d.target? s = some l then some d.saved.content else lastTo s ds l := by
  rw [lastTo, List.reverse_append, List.reverse_singleton, List.singleton_append, List.find?_cons]
  by_cases h : d.target? s = some l
  · rw [if_pos h, decide_eq_true h]
    rfl
  · rw [if_neg h, decide_eq_false h]
    rfl

theorem tally_concat (ds : List Done) (d : Done) :
    tally (ds ++ [d]) = fun action => tally ds action + if d.action.name = action then 1 else 0 := by
  funext action
  rw [tally, List.countP_append, List.countP_singleton, tally]
  simp only [decide_eq_true_eq]

/-! ## One clip -/

variable {es : Engines} {s : Surroundings} {before : Files} {ds : List Done} {c : Clipper}
  {now : Int} {r : ClipRequest} {d : Draft} {savedTo : Option Text} {files : Files} {call : Call}

/-- The answer to a request whose draft is saved. -/
def answer (now : Int) (r : ClipRequest) (d : Draft) (savedTo : Option Text) : Done where
  now := now
  request := r
  saved := { noteName := d.note.name, path := d.note.path, savedTo, content := d.note.text }

/-- The vault of a draft is the one that is asked for. -/
theorem vault_of_draft (hdraft : c.draft now r = .ok d) : r.vault = d.vault.map (·.1) := by
  obtain ⟨settings, templates, template, -, -, -, hvault, -, -⟩ := draft_eq_ok_iff.mp hdraft
  cases hd : d.vault with
  | none =>
    rw [hd] at hvault
    cases hr : r.vault with
    | none => rfl
    | some name =>
      rw [hr, vaultOf] at hvault
      split at hvault <;> cases hvault
  | some p =>
    rw [hd] at hvault
    exact (vaultOf_eq_some hvault).1

/-- The action that a reply tells of is the one of the draft. -/
theorem action_answer (hdraft : c.draft now r = .ok d) (savedTo : Option Text) :
    (answer now r d savedTo).action = actionOf d := by
  rw [Done.action, actionOf, answer, vault_of_draft hdraft, Option.isSome_map]

/-- The file a reply leads to is where the note of the draft is to be saved. -/
theorem target?_answer (hdraft : c.draft now r = .ok d) (savedTo : Option Text) :
    (answer now r d savedTo).target? c.surroundings =
      d.vault.map fun p => d.note.filePath.locate p.2 := by
  obtain ⟨settings, templates, template, hsettings, -, -, hvault, -, -⟩ :=
    draft_eq_ok_iff.mp hdraft
  rw [Done.target?, hsettings]
  cases hd : d.vault with
  | none =>
    -- no vault in the draft, so none was asked for, and no file is written
    have hnone : r.vault = none := by rw [vault_of_draft hdraft, hd]; rfl
    simp only [Except.toOption, answer, hnone, Option.map_none, Option.bind_eq_bind,
      Option.bind_some, Option.bind_none]
  | some p =>
    obtain ⟨vault, folder⟩ := p
    rw [hd] at hvault
    -- the folder of the draft is the one the settings have under the name
    obtain ⟨hname, hfolder⟩ := vaultOf_eq_some hvault
    simp only [Except.toOption, answer, hname, hfolder, Option.map_some, Option.bind_eq_bind,
      Option.bind_some, Option.pure_def]
    rfl

/-- Saving a draft changes the text of its target, and no other text. -/
theorem text?_of_save (hdraft : c.draft now r = .ok d)
    (hsave : save c.files d = (.ok savedTo, files)) (l : Location) :
    files.text? l = if (answer now r d savedTo).target? c.surroundings = some l
      then some d.note.text else c.files.text? l := by
  rw [target?_answer hdraft]
  rcases save_cases c.files d with ⟨h, fs, hfail, -⟩ | ⟨hvault, hnone⟩ |
    ⟨vault, folder, l', fs, hvault, htarget, -, hwrite, hfiles⟩
  · rw [hsave] at hfail
    cases hfail
  · obtain ⟨-, rfl⟩ := Prod.mk.inj (hsave.symm.trans hnone)
    rw [hvault, if_neg nofun]
  -- one file is written, and all others have the text they had
  · obtain ⟨-, rfl⟩ := Prod.mk.inj (hsave.symm.trans hwrite)
    obtain ⟨-, rfl, -⟩ := targetOf_eq_ok_iff.mp htarget
    rw [hvault, Option.map_some, Files.text?_eq_textIn, hfiles, Files.textIn_put]
    simp only [Option.some.injEq]
    rfl

/-- An instant that a clock can show can be written down. -/
theorem exists_stampOf {moment : Moment} (h : Moment.ofMilliseconds now = .ok moment) :
    ∃ time, stampOf now = .ok time := by
  obtain ⟨instant, hinstant, h⟩ := Except.bind_eq_ok_iff.mp h
  obtain ⟨date, hdate, -⟩ := Except.map_eq_ok_iff.mp h
  rw [stampOf, hinstant, Except.ok_bind, Instant.stamp, hdate]
  exact ⟨_, rfl⟩

/-- There is nothing missing to report of a draft. -/
theorem exists_report (hdraft : c.draft now r = .ok d) (savedTo : Option Text) :
    ∃ report : Store.Report, stampOf now = .ok report.time ∧
      report.action = (actionOf d).name ∧ report.details = details d savedTo ∧
      Recorded c.engines c.surroundings (answer now r d savedTo) report.entry := by
  obtain ⟨settings, templates, template, hsettings, -, -, -, hclip, -⟩ := draft_eq_ok_iff.mp hdraft
  have hclip' := hclip
  rw [clipOf] at hclip'
  obtain ⟨data, -, hclip'⟩ := Except.bind_eq_ok_iff.mp hclip'
  obtain ⟨moment, hmoment, hclip'⟩ := Except.bind_eq_ok_iff.mp hclip'
  -- every page has an address and a title, so there is something to record
  have hwords := orRefuse_eq_ok_iff.mp hclip'
  obtain ⟨time, htime⟩ := exists_stampOf (orFail_eq_ok_iff.mp hmoment)
  have hnames : "url".toList ∈ Clipping.Basics.names ∧ "title".toList ∈ Clipping.Basics.names := by
    decide
  obtain ⟨url, hurl⟩ := Clipping.exists_get?_words hwords hnames.1
  obtain ⟨title, htitle⟩ := Clipping.exists_get?_words hwords hnames.2
  refine ⟨{ time, action := (actionOf d).name, url, title := some title, vault := r.vault
            path := savedTo }, htime, rfl, ?_, settings, d.clip, time, url, title, hsettings, hclip,
    htime, hurl, htitle, ?_⟩
  · rw [Store.Report.details, details]
    simp only [hurl, htitle, vault_of_draft hdraft]
  · rw [Store.Report.entry, action_answer hdraft]
    rfl

/-- A draft that is saved is answered and taken account of. -/
theorem clip_of_save {m : Nat} {log : List Entry} {n : Text → Nat}
    (hview : Store.Represents m log n c.store) (hm : Store.fits m = true)
    (hdraft : c.draft now r = .ok d) (hsave : save c.files d = (.ok savedTo, files)) :
    ∃ (store : Store) (e : Entry),
      c.clip now r = (.ok (answer now r d savedTo).saved, { c with files, store }) ∧
      Recorded c.engines c.surroundings (answer now r d savedTo) e ∧
      Store.Represents m (e :: log)
        (fun a => n a + if (answer now r d savedTo).action.name = a then 1 else 0) store := by
  obtain ⟨report, htime, haction, hdetails, hrecorded⟩ := exists_report hdraft savedTo
  -- a clip is added to a vault or copied, and the store knows both
  have hknown : report.action ∈ Action.names := by
    rw [haction]
    cases actionOf d <;> decide
  obtain ⟨hentry, hnext⟩ := hview.record hm hknown
  rcases hrecord : c.store.record report.time report.action report.details with ⟨reply, store⟩
  rw [hrecord] at hentry hnext
  dsimp only at hentry hnext
  rw [haction, hdetails, hentry] at hrecord
  rw [haction, ← action_answer hdraft savedTo] at hnext
  exact ⟨store, report.entry, clip_of_record hdraft hsave htime hrecord, hrecorded, hnext⟩

/-- **One clip** halts and leaves all files and the store, or it is answered: then the text of its
target is its content, the other texts are as they were, and the store has one more entry. -/
theorem clip_cases {m : Nat} {log : List Entry} {n : Text → Nat}
    (hview : Store.Represents m log n c.store) (hm : Store.fits m = true) (now : Int)
    (r : ClipRequest) :
    (∃ h files, c.clip now r = (.error h, { c with files }) ∧ files.files = c.files.files) ∨
      ∃ (d : Done) (files : Files) (store : Store) (e : Entry), d.now = now ∧ d.request = r ∧
        c.clip now r = (.ok d.saved, { c with files, store }) ∧
        (∀ l, files.text? l =
          if d.target? c.surroundings = some l then some d.saved.content else c.files.text? l) ∧
        Recorded c.engines c.surroundings d e ∧
        Store.Represents m (e :: log) (fun a => n a + if d.action.name = a then 1 else 0) store := by
  cases hdraft : c.draft now r with
  | error h => exact .inl ⟨h, c.files, clip_of_draft_error hdraft, rfl⟩
  | ok d =>
    rcases hsave : save c.files d with ⟨result, files⟩
    cases result with
    | error h =>
      refine .inl ⟨h, files, clip_of_save_error hdraft hsave, ?_⟩
      -- of the ways saving can end, only a failure ends in a fault
      rcases save_cases c.files d with ⟨h', fs, hfail, hfiles⟩ | ⟨-, hnone⟩ |
        ⟨vault, folder, l, fs, -, -, -, hwrite, -⟩
      · obtain ⟨-, rfl⟩ := Prod.mk.inj (hsave.symm.trans hfail)
        exact hfiles
      · cases hsave.symm.trans hnone
      · cases hsave.symm.trans hwrite
    | ok savedTo =>
      obtain ⟨store, e, hclip, hrecorded, hnext⟩ := clip_of_save hview hm hdraft hsave
      exact .inr ⟨answer now r d savedTo, files, store, e, rfl, rfl, hclip,
        text?_of_save hdraft hsave, hrecorded, hnext⟩

/-! ## The account -/

/-- The files and the store of a clipper are the work of the clips that were answered. -/
structure Accounts (es : Engines) (s : Surroundings) (before : Files) (ds : List Done)
    (c : Clipper) : Prop where
  engines : c.engines = es
  surroundings : c.surroundings = s
  files : ∀ l, c.files.text? l = (lastTo s ds l).or (before.text? l)
  store : ∃ log, List.Forall₂ (Recorded es s) ds.reverse log ∧
    Store.Represents 1000 log (tally ds) c.store

/-- A clipper that has not been used accounts for no clips. -/
theorem accounts_fresh (es : Engines) (s : Surroundings) (before : Files) :
    Accounts es s before [] (fresh es s before) where
  engines := rfl
  surroundings := rfl
  files := fun _ => rfl
  store := ⟨[], .nil, Store.represents_fresh 1000⟩

/-- The length of the history can be bound to a statement. -/
theorem fits_capacity : Store.fits (1000 : Nat) = true := by decide

/-- What was answered is added to the account. -/
theorem Accounts.concat (h : Accounts es s before ds c) {d : Done} {store : Store} {log : List Entry}
    {e : Entry} (hfiles : ∀ l, files.text? l =
      if d.target? s = some l then some d.saved.content else c.files.text? l)
    (hrecorded : Recorded es s d e) (hlog : List.Forall₂ (Recorded es s) ds.reverse log)
    (hstore : Store.Represents 1000 (e :: log)
      (fun a => tally ds a + if d.action.name = a then 1 else 0) store) :
    Accounts es s before (ds ++ [d]) { c with files, store } where
  engines := h.engines
  surroundings := h.surroundings
  files := by
    intro l
    rw [hfiles, lastTo_concat]
    split
    · rfl
    · exact h.files l
  store := by
    rw [List.reverse_append, List.reverse_singleton, List.singleton_append, tally_concat]
    exact ⟨e :: log, .cons hrecorded hlog, hstore⟩

/-- **One call** adds to the account what it is answered with. -/
theorem Accounts.perform (h : Accounts es s before ds c) (call : Call) :
    Accounts es s before (ds ++ (Done.of? call (c.perform call).1).toList) (c.perform call).2 := by
  cases call with
  | clip now r =>
    obtain ⟨log, hlog, hview⟩ := h.store
    obtain rfl := h.engines
    obtain rfl := h.surroundings
    rcases clip_cases hview fits_capacity now r with ⟨halt, files, hclip, hfiles⟩ |
      ⟨d, files, store, e, rfl, rfl, hclip, hfiles, hrecorded, hnext⟩
    · rw [Clipper.perform, hclip]
      show Accounts _ _ _ (ds ++ []) _
      rw [List.append_nil]
      refine ⟨rfl, rfl, fun l => ?_, h.store⟩
      rw [← h.files, Files.text?_eq_textIn, hfiles]
      rfl
    · rw [Clipper.perform, hclip]
      exact h.concat hfiles hrecorded hlog hnext
  | words now r | render template data | history limit =>
    -- only clips are accounted for
    show Accounts es s before (ds ++ []) c
    rw [List.append_nil]
    exact h

/-- What is not answered leaves all files and the store. -/
theorem Accounts.perform_eq_of_error {h : Halt} (haccounts : Accounts es s before ds c)
    (hcall : (c.perform call).1 = .error h) :
    (c.perform call).2.files.files = c.files.files ∧ (c.perform call).2.store = c.store := by
  cases call with
  | clip now r =>
    obtain ⟨log, -, hview⟩ := haccounts.store
    rcases clip_cases hview fits_capacity now r with ⟨halt, files, hclip, hfiles⟩ |
      ⟨d, files, store, e, rfl, rfl, hclip, -⟩
    · rw [Clipper.perform, hclip]
      exact ⟨hfiles, rfl⟩
    · rw [Clipper.perform, hclip] at hcall
      cases hcall
  | words now r | render template data | history limit => exact ⟨rfl, rfl⟩

/-- A run takes its first call, and goes on from what that call leaves. -/
theorem run_cons (c : Clipper) (call : Call) (calls : List Call) :
    c.run (call :: calls) =
      ((c.perform call).1 :: ((c.perform call).2.run calls).1, ((c.perform call).2.run calls).2) :=
  rfl

/-- What was done is what the first reply tells of, and what the others do. -/
theorem done_cons (call : Call) (calls : List Call) (reply : Except Halt Reply)
    (replies : List (Except Halt Reply)) :
    done (call :: calls) (reply :: replies) =
      (Done.of? call reply).toList ++ done calls replies := by
  rw [done, List.zip_cons_cons, List.filterMap_cons]
  cases Done.of? call reply <;> rfl

/-- **A run of calls** adds to the account what its calls are answered with, one by one. -/
theorem Accounts.run (h : Accounts es s before ds c) (calls : List Call) :
    Accounts es s before (ds ++ done calls (c.run calls).1) (c.run calls).2 := by
  -- the account grows by the answer of each call
  induction calls generalizing ds c with
  | nil =>
    show Accounts es s before (ds ++ []) c
    rw [List.append_nil]
    exact h
  | cons call calls ih =>
    have hrest := ih (h.perform call)
    rw [run_cons, done_cons, ← List.append_assoc]
    exact hrest

/-! ## What can be read from the account -/

theorem action_name_inj {a b : Action} : a.name = b.name ↔ a = b := by
  refine ⟨fun h => ?_, fun h => h ▸ rfl⟩
  cases a <;> cases b <;> first | rfl | exact absurd h (by decide)

/-- The tally of an action is the number of clips that are of it. -/
theorem tally_name (ds : List Done) (action : Action) :
    tally ds action.name = ds.countP fun d => d.action = action := by
  rw [tally]
  simp only [action_name_inj]

/-- A clip counts as added to a vault if a vault was asked for. -/
theorem action_eq_addToVault_iff {d : Done} :
    d.action = .addToVault ↔ d.request.vault.isSome = true := by
  rw [Done.action]
  split <;> simp_all

/-- A clip counts as copied if no vault was asked for. -/
theorem action_eq_copy_iff {d : Done} : d.action = .copy ↔ d.request.vault.isNone = true := by
  rw [Done.action, ← Option.not_isSome]
  split <;> simp_all

/-- Clips are made by two actions only. -/
theorem action_eq (d : Done) : d.action = .addToVault ∨ d.action = .copy := by
  rw [Done.action]
  split
  · exact .inl rfl
  · exact .inr rfl

theorem tally_eq_zero {action : Action} (hadd : action ≠ .addToVault) (hcopy : action ≠ .copy)
    (ds : List Done) : tally ds action.name = 0 := by
  rw [tally_name, List.countP_eq_zero]
  intro d _ heq
  rcases action_eq d with haction | haction
  · exact hadd ((of_decide_eq_true heq).symm.trans haction)
  · exact hcopy ((of_decide_eq_true heq).symm.trans haction)

/-- How often each action was taken is told by the vaults that were asked for. -/
theorem Accounts.stats_eq (h : Accounts es s before ds c) :
    c.store.stats = [(Action.addToVault.name, ds.countP fun d => d.request.vault.isSome),
      (Action.saveFile.name, 0), (Action.copy.name, ds.countP fun d => d.request.vault.isNone),
      (Action.share.name, 0)] := by
  obtain ⟨log, -, hview⟩ := h.store
  have hadd : tally ds Action.addToVault.name = ds.countP fun d => d.request.vault.isSome := by
    rw [tally_name]
    simp only [action_eq_addToVault_iff, Bool.decide_eq_true]
  have hcopy : tally ds Action.copy.name = ds.countP fun d => d.request.vault.isNone := by
    rw [tally_name]
    simp only [action_eq_copy_iff, Bool.decide_eq_true]
  -- no clip is counted under the other two words
  have hsave : tally ds Action.saveFile.name = 0 := tally_eq_zero (by decide) (by decide) ds
  have hshare : tally ds Action.share.name = 0 := tally_eq_zero (by decide) (by decide) ds
  rw [hview.stats_eq, Action.names, Action.all]
  simp only [List.map_cons, List.map_nil, hadd, hcopy, hsave, hshare]

/-- The newest of the clips are what is read of the history. -/
theorem Accounts.history_eq (h : Accounts es s before ds c) (limit : Nat) :
    ∃ entries, List.Forall₂ (Recorded es s) (ds.reverse.take (min limit 1000)) entries ∧
      c.history limit = (Settings.read s >>= fun _ =>
        if Store.fits limit then .ok (entries, c.store.stats) else .error .limitTooLarge) := by
  obtain ⟨log, hlog, hview⟩ := h.store
  -- a limit the store can be given is cut off by what it keeps
  have hread : c.store.history? limit =
      if Store.fits limit then .ok (log.take (min limit 1000)) else .error .limitTooLarge := by
    split
    · next hfits => rw [hview.history?_eq hfits, firsts_natCast, List.take_take]
    · next hfits => rw [Store.history?, if_neg hfits]
  refine ⟨log.take (min limit 1000), List.forall₂_take _ hlog, ?_⟩
  rw [history, h.surroundings, hread]
  cases Settings.read s with
  | error f => rw [Except.error_bind, Except.error_bind]
  | ok settings =>
    rw [Except.ok_bind, Except.ok_bind]
    by_cases hfits : Store.fits limit = true
    · rw [if_pos hfits, if_pos hfits]
      rfl
    · rw [if_neg hfits, if_neg hfits]
      rfl

/-- **Files, history and counters after a run** of calls on a clipper with an empty store.  The
text of a file is the content of the last clip that was answered and written there, and where no
clip was written it is what it was before.  The history lists the clips that were answered, newest
first, as far as the limit and the capacity go, each with the address and the title that its page
has as variables, its vault and its path; a limit that the database cannot be given is a fault.
Clips with a vault and clips without one are counted, and nothing else is.  And what is refused or
fails leaves all files and the store. -/
theorem run_accounts (es : Engines) (s : Surroundings) (before : Files)
    (calls : List Call) :
    let replies := ((fresh es s before).run calls).1
    let c := ((fresh es s before).run calls).2
    let ds := done calls replies
    (∀ l, c.files.text? l = (lastTo s ds l).or (before.text? l)) ∧
    (∀ limit : Nat, ∃ entries,
      List.Forall₂ (Recorded es s) (ds.reverse.take (min limit 1000)) entries ∧
      c.history limit = (Settings.read s >>= fun _ =>
        if Store.fits limit then .ok (entries, c.store.stats) else .error .limitTooLarge)) ∧
    c.store.stats = [(Action.addToVault.name, ds.countP fun d => d.request.vault.isSome),
      (Action.saveFile.name, 0), (Action.copy.name, ds.countP fun d => d.request.vault.isNone),
      (Action.share.name, 0)] ∧
    ∀ call h, (c.perform call).1 = .error h →
      (c.perform call).2.files.files = c.files.files ∧ (c.perform call).2.store = c.store := by
  intro replies c ds
  -- one invariant of the run, of which each part of the statement is a consequence
  have haccounts : Accounts es s before ds c := (accounts_fresh es s before).run calls
  exact ⟨haccounts.files, haccounts.history_eq, haccounts.stats_eq,
    fun _ _ => haccounts.perform_eq_of_error⟩

/-- Two clips go to one file and one goes nowhere; another one leads out of the vault. -/
theorem run_accounts_climber :
    let selected (t : Char) : ClipRequest := { climb "in" with selection := [t] }
    let calls : List Call := [.clip 0 (selected 'a'), .clip 0 (selected 'b'), .clip 0 (climb "out"),
      .clip 0 { selected 'c' with vault := none }]
    let c := ((fresh .own climber.surroundings climber.files).run calls).2
    c.files.text? [['w'], ['v'], ['b'], "Untitled.md".toList] = some ['b'] ∧
      c.store.stats = [(Action.addToVault.name, 2), (Action.saveFile.name, 0),
        (Action.copy.name, 1), (Action.share.name, 0)] := by
  intro selected calls
  obtain ⟨hfiles, -, hstats, -⟩ := run_accounts .own climber.surroundings climber.files calls
  -- what the clips that were answered come to
  obtain ⟨hlast, hadd, hcopy⟩ :
      let ds := done calls ((fresh .own climber.surroundings climber.files).run calls).1
      lastTo climber.surroundings ds [['w'], ['v'], ['b'], "Untitled.md".toList] = some ['b'] ∧
        (ds.countP fun d => d.request.vault.isSome) = 2 ∧
        (ds.countP fun d => d.request.vault.isNone) = 1 := by decide +kernel
  refine ⟨(hfiles _).trans ?_, hstats.trans ?_⟩
  · rw [hlast, Option.some_or]
  · rw [hadd, hcopy]

end Clipbook.Clipper
