import Clipbook.Proofs.Clipper.Clip

/-!
# Clipbook — a clip never leaves its vault

The page has a say in the path of its note, and the path may lead anywhere: up by two dots, or to
the root by a slash.  Still a clip writes one file at most, and that inside of the vault.  A path
that leads out of the vault is refused, and no other path is.

Whether a path leads out is told by its normal form, so that folders are taken to be what their
names say: links among them are not followed.

Main results:

* `draft_ne_outsideVault` — only where the note is saved a path is refused.
* `clip_stays_in_vault` — what a clip writes, and which paths it refuses.
-/

namespace Clipbook.Clipper

open FilePath

variable {c : Clipper} {e : Engines} {s : Settings} {now : Int} {r : ClipRequest} {d : Draft}
  {vault : Text} {path : FilePath} {folder l : Location} {n : Note}

/-! ## Refused paths -/

/-- A page is not refused for the path of a note. -/
theorem clipOf_ne_outsideVault :
    clipOf e s now r ≠ .error (.refused (.outsideVault vault path)) := by
  rw [clipOf]
  simp only [ne_eq, Except.bind_eq_error_iff, not_or, not_exists, not_and]
  refine ⟨?_, fun data _ => ⟨?_, fun moment _ => ?_⟩⟩
  · -- the data of the request
    unfold dataOf
    split
    · nofun
    · nofun
    · rw [orRefuse_eq_refused_iff]
      rintro ⟨f, -, hf⟩
      unfold dataRefusal? at hf
      split at hf <;> cases hf
  · rw [orFail_eq_error_iff]
    rintro ⟨f, -, hf⟩
    cases hf
  · -- the page
    rw [orRefuse_eq_refused_iff]
    rintro ⟨f, -, hf⟩
    unfold pageRefusal? at hf
    split at hf <;> cases hf

/-- Only where the note is saved a path is refused. -/
theorem draft_ne_outsideVault :
    c.draft now r ≠ .error (.refused (.outsideVault vault path)) := by
  rw [draft]
  simp only [ne_eq, Except.bind_eq_error_iff, not_or, not_exists, not_and]
  -- one goal for each stage of the draft, since none of them knows of this refusal
  refine ⟨?_, fun s _ => ⟨?_, fun templates _ => ⟨?_, fun template _ => ⟨?_, fun vault _ =>
    ⟨clipOf_ne_outsideVault, fun clip _ => ⟨?_, fun note _ h => by cases h⟩⟩⟩⟩⟩⟩
  · rw [orFail_eq_error_iff]
    rintro ⟨f, -, hf⟩
    cases hf
  · -- the file of templates
    rw [orRefuse_eq_refused_iff]
    rintro ⟨f, -, hf⟩
    unfold templatesRefusal? at hf
    split at hf <;> cases hf
  · -- the name of the template
    unfold choose
    split <;> split <;> exact fun h => by cases h
  · -- the name of the vault
    unfold vaultOf
    split
    · exact fun h => by cases h
    · split <;> exact fun h => by cases h
  · rw [orFail_eq_error_iff]
    rintro ⟨f, -, hf⟩
    cases hf

/-! ## Inside the vault -/

/-- Behind the folder of the vault the location has no dots. -/
theorem parent_not_mem_inner {inner : List Text} (hnormal : Normalizes (n.route folder) l)
    (hl : l = folder ++ inner) : parent ∉ inner := by
  intro hmem
  have hproper : Proper parent := hnormal.proper parent (hl ▸ List.mem_append_right _ hmem)
  exact hproper.2.2 rfl

/-- The path of a note without null characters leads to a file without them. -/
theorem nullFree_of_named (h : n.Named) (hnull : ∀ ch ∈ n.path, ch.toNat ≠ 0) :
    NullFree n.filePath := by
  intro part hpart ch hch hzero
  rcases h.mem_path_of_mem_filePath hpart hch with hpath | hplain
  · exact hnull ch hpath hzero
  · omega

/-- **A clip never leaves its vault.**  Where the working folder is in normal form and the path of
the note has no null characters, a clip leaves all files as they are, or it writes one.  The
normal form of the route of that one is the folder of the vault and what is behind it: names, at
least one if the folder is there, and none of them two dots.  The last name is the name of the note
with its ending, and the name of the note holds neither slashes nor control characters.  A path is
refused if and only if the folder of the vault is not the beginning of the normal form of the
route. -/
theorem clip_stays_in_vault (c : Clipper) (now : Int) (r : ClipRequest)
    (hfolder : ∀ p ∈ c.surroundings.folder, Proper p)
    (hnull : ∀ d, c.draft now r = .ok d → ∀ ch ∈ d.note.path, ch.toNat ≠ 0) :
    ((c.clip now r).2.files.files = c.files.files ∨
      ∃ d vault folder inner, c.draft now r = .ok d ∧ d.vault = some (vault, folder) ∧
        Normalizes (d.note.route folder) (folder ++ inner) ∧
        (c.clip now r).2.files.files = Files.put (folder ++ inner) d.note.text c.files.files ∧
        (c.files.isFolder folder = true → inner ≠ []) ∧ parent ∉ inner ∧
        (folder ++ inner).getLast? = some (d.note.name ++ ".md".toList) ∧
        ∀ ch ∈ d.note.name, ch ≠ '/' ∧ ch ≠ '\\' ∧ 0x20 ≤ ch.toNat) ∧
    ∀ vault path, (c.clip now r).1 = .error (.refused (.outsideVault vault path)) ↔
      ∃ d folder l, c.draft now r = .ok d ∧ d.vault = some (vault, folder) ∧
        path = d.note.filePath ∧ Normalizes (d.note.route folder) l ∧ ¬folder <+: l := by
  constructor
  · cases hdraft : c.draft now r with
    | error h =>
      left
      rw [clip_of_draft_error hdraft]
    | ok d =>
      have hnamed := named_of_draft hdraft
      rw [files_clip_of_draft hdraft]
      -- saving fails, is not asked for, or writes one file
      rcases save_cases c.files d with ⟨h, fs, hsave, hfiles⟩ | ⟨-, hsave⟩ |
        ⟨vault, folder, l, fs, hvault, htarget, hplace, hsave, hfiles⟩
      · left
        rw [hsave, hfiles]
      · left
        rw [hsave]
      · right
        -- the place has been found to be below the folder of the vault
        obtain ⟨-, hl, inner, rfl⟩ := targetOf_eq_ok_iff.mp htarget
        have hproper := proper_of_draft hfolder hdraft hvault
        have hnormal := (hnamed.normalizes_iff hproper).mpr hl
        have hlast : (folder ++ inner).getLast? = some d.note.fileName :=
          hl ▸ hnamed.getLast?_locate_filePath folder
        refine ⟨d, vault, folder, inner, rfl, hvault, hnormal, ?_, ?_,
          parent_not_mem_inner hnormal rfl, hlast, fun ch hch => hnamed.plain_of_mem hch⟩
        · rw [hsave, hfiles]
        · -- a folder is not written to
          rintro hthere rfl
          rw [List.append_nil, hthere] at hplace
          cases hplace
  · intro vault path
    rw [clip_eq_refused_iff, or_iff_right draft_ne_outsideVault]
    constructor
    · rintro ⟨d, hdraft, hsave⟩
      obtain ⟨vault', folder, hvault, htarget⟩ := save_eq_refused_iff.mp hsave
      -- only the check of the place refuses for this reason
      obtain ⟨-, hreason, houtside⟩ := targetOf_eq_refused_iff.mp htarget
      obtain ⟨rfl, rfl⟩ := Refusal.outsideVault.inj hreason
      have hproper := proper_of_draft hfolder hdraft hvault
      exact ⟨d, folder, _, hdraft, hvault, rfl,
        ((named_of_draft hdraft).normalizes_iff hproper).mpr rfl, houtside⟩
    · rintro ⟨d, folder, l, hdraft, hvault, rfl, hnormal, houtside⟩
      have hnamed := named_of_draft hdraft
      obtain rfl := (hnamed.normalizes_iff (proper_of_draft hfolder hdraft hvault)).mp hnormal
      have hfree := nullFree_of_named hnamed (hnull d hdraft)
      refine ⟨d, hdraft, save_eq_refused_iff.mpr ⟨vault, folder, hvault, ?_⟩⟩
      exact targetOf_eq_refused_iff.mpr ⟨hfree, rfl, houtside⟩

/-- That there is no NUL can be found by looking at all characters. -/
theorem null_free_of_all {t : Text} (h : (t.all fun ch => ch.toNat ≠ 0) = true) :
    ∀ ch ∈ t, ch.toNat ≠ 0 :=
  fun ch hch => of_decide_eq_true (List.all_eq_true.mp h ch hch)

/-- A clipper with one vault, whose first template leads back into it and whose second one leads
out. -/
def climber : Clipper where
  engines := .own
  surroundings :=
    { environment := [("WEBCLIP_VAULTS".toList, "v".toList), ("WEBCLIP_TEMPLATES".toList, ['t'])]
      homes := []
      folder := [['w']] }
  files :=
    { folders := [[['w']], [['w'], ['v']]]
      files := [([['w'], ['t']],
        "[\x7b\"name\":\"in\",\"path\":\"a/..//./b\"\x7d,".toList
          ++ "\x7b\"name\":\"out\",\"path\":\"a/../..\"\x7d]".toList)] }
  store := { capacity := 1000 }

/-- A request for an empty page. -/
def climb (template : String) : ClipRequest :=
  { html := [], url := "http://e/".toList, template := some template.toList, vault := some ['v'] }

/-- Dots that lead back are no way out of the vault, and dots that lead on are. -/
theorem clip_stays_in_vault_climber :
    (∀ p ∈ climber.surroundings.folder, Proper p) ∧
    (∀ d, climber.draft 0 (climb "in") = .ok d → ∀ ch ∈ d.note.path, ch.toNat ≠ 0) ∧
    (∀ d, climber.draft 0 (climb "out") = .ok d → ∀ ch ∈ d.note.path, ch.toNat ≠ 0) ∧
    (∀ vault path, (climber.clip 0 (climb "in")).1 ≠
      .error (.refused (.outsideVault vault path))) ∧
    (climber.clip 0 (climb "out")).1 = .error (.refused (.outsideVault ['v']
      ⟨[], [['a'], parent, parent, "Untitled.md".toList]⟩)) := by
  have hfolder : ∀ p ∈ climber.surroundings.folder, Proper p := by decide
  -- the drafts, as far as they matter here
  have hin : ((climber.draft 0 (climb "in")).toOption.map fun d =>
      (d.vault, d.note.path, resolve (d.note.route [['w'], ['v']]))) =
      some (some (['v'], [['w'], ['v']]), "a/..//./b".toList,
        [['w'], ['v'], ['b'], "Untitled.md".toList]) := by decide +kernel
  have hout : ((climber.draft 0 (climb "out")).toOption.map fun d =>
      (d.vault, d.note.path, d.note.filePath, resolve (d.note.route [['w'], ['v']]))) =
      some (some (['v'], [['w'], ['v']]), "a/../..".toList,
        ⟨[], [['a'], parent, parent, "Untitled.md".toList]⟩,
        [['w'], "Untitled.md".toList]) := by decide +kernel
  obtain ⟨din, hdin, hin⟩ := Except.toOption_map_eq_some_iff.mp hin
  obtain ⟨dout, hdout, hout⟩ := Except.toOption_map_eq_some_iff.mp hout
  simp only [Prod.mk.injEq] at hin hout
  obtain ⟨hvaultIn, hpathIn, hrouteIn⟩ := hin
  obtain ⟨hvaultOut, hpathOut, hfileOut, hrouteOut⟩ := hout
  have hnullIn : ∀ d, climber.draft 0 (climb "in") = .ok d → ∀ ch ∈ d.note.path, ch.toNat ≠ 0 := by
    intro d hd
    obtain rfl := Except.ok.inj (hd.symm.trans hdin)
    rw [hpathIn]
    exact null_free_of_all (by decide)
  have hnullOut : ∀ d, climber.draft 0 (climb "out") = .ok d →
      ∀ ch ∈ d.note.path, ch.toNat ≠ 0 := by
    intro d hd
    obtain rfl := Except.ok.inj (hd.symm.trans hdout)
    rw [hpathOut]
    exact null_free_of_all (by decide)
  refine ⟨hfolder, hnullIn, hnullOut, fun vault path hrefused => ?_, ?_⟩
  · obtain ⟨d, folder, l, hd, hvault, -, hnormal, houtside⟩ :=
      ((clip_stays_in_vault climber 0 (climb "in") hfolder hnullIn).2 vault path).mp hrefused
    obtain rfl := Except.ok.inj (hd.symm.trans hdin)
    obtain ⟨rfl, rfl⟩ := Prod.mk.inj (Option.some.inj (hvault.symm.trans hvaultIn))
    rw [normalizes_iff, hrouteIn] at hnormal
    subst hnormal
    exact houtside (by decide)
  · refine ((clip_stays_in_vault climber 0 (climb "out") hfolder hnullOut).2 _ _).mpr
      ⟨dout, _, _, hdout, hvaultOut, hfileOut.symm, normalizes_iff.mpr rfl, ?_⟩
    rw [hrouteOut]
    decide

end Clipbook.Clipper
