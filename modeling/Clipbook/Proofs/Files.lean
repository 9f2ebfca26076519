import Clipbook.Files

/-!
# Clipbook — what writing does to files

Writing makes folders first and then writes one file.  Where it fails, folders may have been made,
but the files are those of before.

Main results:

* `textIn_put` — a file that is written has its text, and the others keep theirs.
* `write_cases` — writing fails and leaves all files alone, or writes one that is no folder.
-/

namespace Clipbook.Files

variable {fs : Files} {l l' : Location} {t : Text}

/-! ## Texts -/

/-- The text of a file in a list of files. -/
def textIn (files : List (Location × Text)) (l : Location) : Option Text :=
  (files.find? fun e => e.1 = l).map (·.2)

theorem text?_eq_textIn (fs : Files) (l : Location) : fs.text? l = textIn fs.files l := rfl

/-- The first entry for a file hides those behind it. -/
theorem textIn_cons (k l : Location) (t : Text) (files : List (Location × Text)) :
    textIn ((k, t) :: files) l = if k = l then some t else textIn files l := by
  rw [textIn, List.find?_cons]
  by_cases h : k = l
  · simp [h]
  · simp only [h, decide_false, if_false]
    rfl

/-- **A file that is written has its text**, and the others keep theirs. -/
theorem textIn_put (l l' : Location) (t : Text) (files : List (Location × Text)) :
    textIn (put l t files) l' = if l = l' then some t else textIn files l' := by
  induction files with
  | nil =>
    rw [put, textIn_cons]
  | cons e files ih =>
    obtain ⟨k, old⟩ := e
    rw [put, textIn_cons]
    by_cases hk : k = l
    · subst hk
      rw [if_pos rfl, textIn_cons]
      -- the old text is out of reach either way
      split <;> rfl
    · rw [if_neg hk, textIn_cons, ih]
      by_cases hk' : k = l'
      · subst hk'
        rw [if_pos rfl, if_pos rfl, if_neg fun h => hk h.symm]
      · rw [if_neg hk', if_neg hk']

/-! ## Folders -/

/-- A folder stays one when another is added. -/
theorem isFolder_addFolder (h : fs.isFolder l = true) (l' : Location) :
    (fs.addFolder l').isFolder l = true := by
  rw [addFolder]
  split
  · exact h
  · rw [isFolder, Bool.or_eq_true, decide_eq_true_eq, decide_eq_true_eq] at h ⊢
    exact h.imp id fun hmem => List.mem_cons_of_mem _ hmem

theorem files_addFolder (fs : Files) (l : Location) : (fs.addFolder l).files = fs.files := by
  rw [addFolder]
  split <;> rfl

/-- Making folders leaves the files and the folders that are there, whether it fails or not. -/
theorem makeFolders_keeps (fs : Files) (above : Location) (names : List Text) :
    (fs.makeFolders above names).2.files = fs.files ∧
      ∀ l, fs.isFolder l = true → (fs.makeFolders above names).2.isFolder l = true := by
  induction names generalizing fs above with
  | nil => exact ⟨rfl, fun _ h => h⟩
  | cons name names ih =>
    rw [makeFolders]
    split
    · exact ⟨rfl, fun _ h => h⟩
    · split
      · exact ⟨rfl, fun _ h => h⟩
      · obtain ⟨hfiles, hfolders⟩ := ih (fs.addFolder (above ++ [name])) (above ++ [name])
        exact ⟨hfiles.trans (files_addFolder ..), fun l h => hfolders l (isFolder_addFolder h _)⟩

/-! ## Writing -/

/-- **Writing fails and leaves all files alone, or it writes one file** at a place where there was
no folder. -/
theorem write_cases (fs : Files) (l : Location) (t : Text) :
    (∃ cause fs', fs.write l t = (.error cause, fs') ∧ fs'.files = fs.files) ∨
      ∃ fs', fs.write l t = (.ok (), fs') ∧ fs'.files = put l t fs.files ∧
        fs.isFolder l = false := by
  obtain ⟨hfiles, hfolders⟩ := makeFolders_keeps fs [] l.dropLast
  rw [write]
  split
  · next cause fs' hmake =>
    rw [hmake] at hfiles
    exact .inl ⟨cause, fs', rfl, hfiles⟩
  · next fs' hmake =>
    -- folders that were made are there, and those that were there still are
    rw [hmake] at hfiles hfolders
    dsimp only at hfiles hfolders
    split
    · exact .inl ⟨_, fs', rfl, hfiles⟩
    · split
      · exact .inl ⟨_, fs', rfl, hfiles⟩
      · next hfolder =>
        refine .inr ⟨_, rfl, by rw [hfiles], ?_⟩
        rw [← Bool.not_eq_true]
        -- what was a folder before is one now, and is not written to
        exact fun h => hfolder (hfolders l h)

end Clipbook.Files
