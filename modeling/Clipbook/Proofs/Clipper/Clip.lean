import Clipbook.Clipper
import Clipbook.Proofs.Files
import Clipbook.Proofs.Note.File

/-!
# Clipbook — what a clip does

A clip is a draft that is saved and then taken account of.  Each of the steps may end it early, and
what it leaves behind is told here once, so that nothing else has to open the steps.

Main results:

* `draft_eq_ok_iff` — what a draft is made of.
* `targetOf_cases` — where a draft may be saved.
* `save_cases` — saving fails and leaves all files alone, or writes one file into a vault, or
  nothing without one.
* `clip_eq_refused_iff`, `files_clip_of_draft` — when a clip is refused, and which files it leaves.
-/

namespace Clipbook.Clipper

variable {α : Type} {c : Clipper} {s : Settings} {now : Int} {r : ClipRequest} {d : Draft}
  {refusal? : Fault → Option Refusal} {x : Except Fault α} {a : α} {f : Fault} {h : Halt}
  {reason : Refusal} {vault : Text} {folder l : Location} {n : Note} {fs : Files}

/-! ## Faults with and without an answer -/

theorem orRefuse_ok (refusal? : Fault → Option Refusal) (a : α) :
    orRefuse refusal? (.ok a) = .ok a := rfl

theorem orRefuse_of_some (hf : refusal? f = some reason) :
    orRefuse refusal? (.error f : Except Fault α) = .error (.refused reason) := by
  unfold orRefuse
  simp only [hf]

theorem orRefuse_of_none (hf : refusal? f = none) :
    orRefuse refusal? (.error f : Except Fault α) = .error (.failed f) := by
  unfold orRefuse
  simp only [hf]

theorem orRefuse_eq_ok_iff : orRefuse refusal? x = .ok a ↔ x = .ok a := by
  cases x with
  | ok b => rw [orRefuse_ok, Except.ok.injEq, Except.ok.injEq]
  | error f =>
    cases hf : refusal? f with
    | some reason => rw [orRefuse_of_some hf]; exact iff_of_false nofun nofun
    | none => rw [orRefuse_of_none hf]; exact iff_of_false nofun nofun

/-- What is refused are the faults with a refusal. -/
theorem orRefuse_eq_refused_iff :
    orRefuse refusal? x = .error (.refused reason) ↔
      ∃ f, x = .error f ∧ refusal? f = some reason := by
  cases x with
  | ok b => exact iff_of_false nofun nofun
  | error f =>
    cases hf : refusal? f with
    | some reason' =>
      rw [orRefuse_of_some hf]
      simp only [Except.error.injEq, Halt.refused.injEq, exists_eq_left', hf, Option.some.injEq]
    | none =>
      rw [orRefuse_of_none hf]
      simp only [Except.error.injEq, reduceCtorEq, exists_eq_left', hf]

/-- What fails are the faults without a refusal. -/
theorem orRefuse_eq_failed_iff :
    orRefuse refusal? x = .error (.failed f) ↔ x = .error f ∧ refusal? f = none := by
  cases x with
  | ok b => exact iff_of_false nofun nofun
  | error g =>
    cases hg : refusal? g with
    | some reason =>
      rw [orRefuse_of_some hg]
      -- the fault would have to be the one that is refused
      refine iff_of_false nofun ?_
      rintro ⟨heq, hnone⟩
      rw [← Except.error.inj heq, hg] at hnone
      cases hnone
    | none =>
      rw [orRefuse_of_none hg]
      constructor
      · intro heq
        obtain rfl := Halt.failed.inj (Except.error.inj heq)
        exact ⟨rfl, hg⟩
      · rintro ⟨heq, -⟩
        rw [Except.error.inj heq]

theorem orFail_eq_ok_iff : orFail x = .ok a ↔ x = .ok a :=
  orRefuse_eq_ok_iff

/-- Every fault is a failure where none is refused. -/
theorem orFail_eq_error_iff : orFail x = .error h ↔ ∃ f, x = .error f ∧ h = .failed f := by
  cases h with
  | refused reason =>
    rw [orFail, orRefuse_eq_refused_iff]
    simp only [reduceCtorEq, and_false]
  | failed f =>
    rw [orFail, orRefuse_eq_failed_iff]
    simp only [Halt.failed.injEq, exists_eq_right', and_true]

/-! ## Drafts -/

/-- **What a draft is made of.** -/
theorem draft_eq_ok_iff :
    c.draft now r = .ok d ↔ ∃ s templates template, Settings.read c.surroundings = .ok s ∧
      c.templatesOf s = .ok templates ∧ choose templates r.template = .ok template ∧
      vaultOf s r.vault = .ok d.vault ∧ clipOf c.engines s now r = .ok d.clip ∧
      (Note.ofTemplate template d.clip.words).result = .ok d.note := by
  rw [draft]
  simp only [Except.bind_eq_ok_iff, orFail_eq_ok_iff, orRefuse_eq_ok_iff]
  constructor
  · rintro ⟨s, hs, templates, htemplates, template, htemplate, vault, hvault, clip, hclip, note,
      hnote, hd⟩
    obtain rfl := Except.ok.inj hd
    exact ⟨s, templates, template, hs, htemplates, htemplate, hvault, hclip, hnote⟩
  · rintro ⟨s, templates, template, hs, htemplates, htemplate, hvault, hclip, hnote⟩
    exact ⟨s, hs, templates, htemplates, template, htemplate, d.vault, hvault, d.clip, hclip,
      d.note, hnote, rfl⟩

/-- The note of a draft has the name of a file. -/
theorem named_of_draft (h : c.draft now r = .ok d) : d.note.Named := by
  obtain ⟨s, templates, template, -, -, -, -, -, hnote⟩ := draft_eq_ok_iff.mp h
  exact Note.named_of_ofTemplate hnote

/-- The vault of a draft is one of the settings. -/
theorem vaultOf_eq_some (h : vaultOf s r.vault = .ok (some (vault, folder))) :
    r.vault = some vault ∧ s.vaults.get? vault = some folder := by
  cases hvault : r.vault with
  | none =>
    rw [hvault] at h
    cases h
  | some name =>
    rw [hvault, vaultOf] at h
    split at h
    · next l hget =>
      obtain ⟨rfl, rfl⟩ := Prod.mk.inj (Option.some.inj (Except.ok.inj h))
      exact ⟨rfl, hget⟩
    · cases h

/-- The folder of the vault of a draft is in normal form, if the working folder is. -/
theorem proper_of_draft (hfolder : ∀ p ∈ c.surroundings.folder, FilePath.Proper p)
    (h : c.draft now r = .ok d) (hvault : d.vault = some (vault, folder)) :
    ∀ p ∈ folder, FilePath.Proper p := by
  obtain ⟨s, templates, template, hs, -, -, hvaultOf, -, -⟩ := draft_eq_ok_iff.mp h
  rw [hvault] at hvaultOf
  have hget := (vaultOf_eq_some hvaultOf).2
  exact Settings.proper_of_mem_vaults hfolder hs (Table.mem_of_get?_eq_some hget)

/-! ## Saving -/

/-- No name of a path holds a null character. -/
def NullFree (p : FilePath) : Prop :=
  ∀ part ∈ p.parts, ∀ c ∈ part, c.toNat ≠ 0

/-- That no part of a path holds a NUL can be found by looking at all characters. -/
theorem nullFree_iff {p : FilePath} :
    NullFree p ↔ ¬(p.parts.any fun part => part.any fun c => c.toNat = 0) = true := by
  simp only [NullFree, List.any_eq_true, decide_eq_true_eq, not_exists, not_and]

/-- **Where a draft may be saved**: at the location of its path, if that is inside the vault. -/
theorem targetOf_cases (vault : Text) (folder : Location) (n : Note) :
    (¬NullFree n.filePath ∧ targetOf vault folder n = .error (.failed .nullInPath)) ∨
      (NullFree n.filePath ∧ folder <+: n.filePath.locate folder ∧
        targetOf vault folder n = .ok (n.filePath.locate folder)) ∨
      (NullFree n.filePath ∧ ¬folder <+: n.filePath.locate folder ∧
        targetOf vault folder n = .error (.refused (.outsideVault vault n.filePath))) := by
  -- the check of the place compares it with the folder, name by name
  have hwithin : folder.within (n.filePath.locate folder) = true ↔
      folder <+: n.filePath.locate folder := List.isPrefixOf_iff_prefix
  by_cases hnull : NullFree n.filePath
  · rw [targetOf, if_neg (nullFree_iff.mp hnull)]
    by_cases hbegin : folder <+: n.filePath.locate folder
    · exact .inr (.inl ⟨hnull, hbegin, if_pos (hwithin.mpr hbegin)⟩)
    · exact .inr (.inr ⟨hnull, hbegin, if_neg fun h => hbegin (hwithin.mp h)⟩)
  · rw [targetOf, if_pos (Decidable.not_not.mp fun h => hnull (nullFree_iff.mpr h))]
    exact .inl ⟨hnull, rfl⟩

/-- A note may be saved where the path to it has no NUL and stays below the folder. -/
theorem targetOf_eq_ok_iff :
    targetOf vault folder n = .ok l ↔
      NullFree n.filePath ∧ l = n.filePath.locate folder ∧ folder <+: l := by
  rcases targetOf_cases vault folder n with ⟨hnull, h⟩ | ⟨hnull, hbegin, h⟩ | ⟨hnull, hbegin, h⟩
  · rw [h]
    exact iff_of_false nofun fun h => hnull h.1
  · rw [h]
    constructor
    · intro heq
      obtain rfl := Except.ok.inj heq
      exact ⟨hnull, rfl, hbegin⟩
    · rintro ⟨-, rfl, -⟩
      rfl
  · rw [h]
    refine iff_of_false nofun ?_
    rintro ⟨-, rfl, hl⟩
    exact hbegin hl

/-- A note is refused where the path to it leaves the folder. -/
theorem targetOf_eq_refused_iff :
    targetOf vault folder n = .error (.refused reason) ↔
      NullFree n.filePath ∧ reason = .outsideVault vault n.filePath ∧
        ¬folder <+: n.filePath.locate folder := by
  rcases targetOf_cases vault folder n with ⟨hnull, h⟩ | ⟨hnull, hbegin, h⟩ | ⟨hnull, hbegin, h⟩
  · rw [h]
    exact iff_of_false nofun fun h => hnull h.1
  · rw [h]
    exact iff_of_false nofun fun h => h.2.2 hbegin
  · rw [h]
    constructor
    · intro heq
      exact ⟨hnull, (Halt.refused.inj (Except.error.inj heq)).symm, hbegin⟩
    · rintro ⟨-, rfl, -⟩
      rfl

/-- **Saving** fails and leaves all files alone, or there is no vault to save into, or it writes
one file into a vault. -/
theorem save_cases (fs : Files) (d : Draft) :
    (∃ h fs', save fs d = (.error h, fs') ∧ fs'.files = fs.files) ∨
      (d.vault = none ∧ save fs d = (.ok none, fs)) ∨
      ∃ vault folder l fs', d.vault = some (vault, folder) ∧
        targetOf vault folder d.note = .ok l ∧ fs.isFolder l = false ∧
        save fs d = (.ok (some d.note.filePath.text), fs') ∧
        fs'.files = Files.put l d.note.text fs.files := by
  rw [save]
  split
  · next hvault => exact .inr (.inl ⟨hvault, rfl⟩)
  · next vault folder hvault =>
    split
    · next h htarget => exact .inl ⟨h, fs, rfl, rfl⟩
    · next l htarget =>
      -- the place is in the vault: what is left is whether it can be written to
      rcases Files.write_cases fs l d.note.text with
        ⟨cause, fs', hwrite, hfiles⟩ | ⟨fs', hwrite, hfiles, hfolder⟩
      · rw [hwrite]
        exact .inl ⟨_, fs', rfl, hfiles⟩
      · rw [hwrite]
        exact .inr (.inr ⟨vault, folder, l, fs', hvault, htarget, hfolder, rfl, hfiles⟩)

/-- Saving refuses nothing but a path that leaves the vault. -/
theorem save_eq_refused_iff :
    (save fs d).1 = .error (.refused reason) ↔ ∃ vault folder, d.vault = some (vault, folder) ∧
      targetOf vault folder d.note = .error (.refused reason) := by
  rw [save]
  split
  · next hvault =>
    refine iff_of_false nofun ?_
    rintro ⟨vault, folder, hsome, -⟩
    rw [hvault] at hsome
    cases hsome
  · next vault folder hvault =>
    have honly : (∃ vault folder, d.vault = some (vault, folder) ∧
        targetOf vault folder d.note = .error (.refused reason)) ↔
        targetOf vault folder d.note = .error (.refused reason) := by
      simp only [hvault, Option.some.injEq, Prod.mk.injEq, and_assoc, exists_and_left,
        exists_eq_left']
    rw [honly]
    split
    · next h htarget => rw [htarget, Except.error.injEq, Except.error.injEq]
    · next l htarget =>
      rw [htarget]
      -- what stops the writing of a file is no refusal
      refine iff_of_false ?_ nofun
      split <;> nofun

/-! ## Clips -/

theorem clip_of_draft_error (hdraft : c.draft now r = .error h) : c.clip now r = (.error h, c) := by
  rw [clip, hdraft]

/-- Where saving stops, the files may have changed, and nothing else has. -/
theorem clip_of_save_error {files : Files} (hdraft : c.draft now r = .ok d)
    (hsave : save c.files d = (.error h, files)) :
    c.clip now r = (.error h, { c with files }) := by
  rw [clip, hdraft]
  simp only [hsave]

/-- A clip that is saved and accounted for is answered. -/
theorem clip_of_record {savedTo : Option Text} {files : Files} {time : Text} {e : Entry}
    {store : Store} (hdraft : c.draft now r = .ok d) (hsave : save c.files d = (.ok savedTo, files))
    (htime : stampOf now = .ok time)
    (hrecord : c.store.record time (actionOf d).name (details d savedTo) = (.ok e, store)) :
    c.clip now r = (.ok { noteName := d.note.name, path := d.note.path, savedTo
                          content := d.note.text }, { c with files, store }) := by
  rw [clip, hdraft]
  simp only [hsave, htime, hrecord]

/-- The files after a clip are those after its draft was saved. -/
theorem files_clip_of_draft (hdraft : c.draft now r = .ok d) :
    (c.clip now r).2.files = (save c.files d).2 := by
  rcases hsave : save c.files d with ⟨result, files⟩
  cases result with
  | error h => rw [clip_of_save_error hdraft hsave]
  | ok savedTo =>
    rw [clip, hdraft]
    simp only [hsave]
    split <;> rfl

/-- A request is refused while it is drafted or before it is saved. -/
theorem clip_eq_refused_iff :
    (c.clip now r).1 = .error (.refused reason) ↔
      c.draft now r = .error (.refused reason) ∨
        ∃ d, c.draft now r = .ok d ∧ (save c.files d).1 = .error (.refused reason) := by
  cases hdraft : c.draft now r with
  | error h =>
    rw [clip_of_draft_error hdraft]
    simp only [Except.error.injEq, reduceCtorEq, false_and, exists_false, or_false]
  | ok d =>
    simp only [reduceCtorEq, Except.ok.injEq, exists_eq_left', false_or]
    rcases hsave : save c.files d with ⟨result, files⟩
    cases result with
    | error h => rw [clip_of_save_error hdraft hsave, Except.error.injEq, Except.error.injEq]
    | ok savedTo =>
      -- the account is kept or fails; it refuses nothing
      refine iff_of_false ?_ nofun
      rw [clip, hdraft]
      simp only [hsave]
      split
      · nofun
      · dsimp only
        split <;> nofun

end Clipbook.Clipper
