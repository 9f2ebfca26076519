import Clipbook.Note
import Clipbook.Proofs.FileName
import Clipbook.Proofs.FilePath
import Clipbook.Proofs.Outcome
import Clipbook.Proofs.Settings
import Clipbook.Proofs.Text.Pieces

/-!
# Clipbook — where the file of a note is

The path of a note is a text of its own making, with slashes and dots in any order.  Seen from a
folder it leads where its pieces lead behind the names of the folder; from the root, where it
begins with a slash.  The name of the file comes last, and it is a name whatever the title is.

Main results:

* `Named.plain_of_mem` — the name of a note holds neither slashes nor control characters.
* `Named.locate_filePath` — the location of the file is the normal form of its route.
* `Named.getLast?_locate_filePath` — the last name there is that of the file.
-/

namespace Clipbook.Note

open FilePath

variable {n : Note} {t : NoteTemplate} {words : Variables} {folder l : Location} {c : Char}

/-! ## Names -/

/-- The names of notes are made by `FileName.sanitize`. -/
def Named (n : Note) : Prop :=
  ∃ title, n.name = FileName.sanitize title

/-- A note that is made has the name of a file. -/
theorem named_of_ofTemplate (h : (ofTemplate t words).result = .ok n) : n.Named := by
  obtain ⟨title, -, h⟩ := Outcome.result_bind_eq_ok_iff.mp h
  obtain ⟨path, -, h⟩ := Outcome.result_bind_eq_ok_iff.mp h
  obtain ⟨properties, -, h⟩ := Outcome.result_bind_eq_ok_iff.mp h
  obtain ⟨content, -, h⟩ := Outcome.result_bind_eq_ok_iff.mp h
  obtain rfl := Except.ok.inj h
  exact ⟨title, rfl⟩

/-- **The name of a note holds neither slashes nor control characters.** -/
theorem Named.plain_of_mem (h : n.Named) (hc : c ∈ n.name) :
    c ≠ '/' ∧ c ≠ '\\' ∧ 0x20 ≤ c.toNat := by
  obtain ⟨title, htitle⟩ := h
  rw [htitle] at hc
  exact FileName.plain_of_isUnsafe (FileName.isUnsafe_of_mem_sanitize hc)

/-- No character in the name of a file leads to another folder. -/
theorem Named.plain_of_mem_fileName (h : n.Named) (hc : c ∈ n.fileName) :
    c ≠ '/' ∧ c ≠ '\\' ∧ 0x20 ≤ c.toNat := by
  rcases List.mem_append.mp hc with hname | hending
  · exact h.plain_of_mem hname
  · have hletter : c = '.' ∨ c = 'm' ∨ c = 'd' := by simpa using hending
    rcases hletter with rfl | rfl | rfl <;> decide

/-- The name of a file is neither empty nor made of dots alone. -/
theorem proper_fileName (n : Note) : Proper n.fileName := by
  have hlast : n.fileName.getLast? = some 'd' := by
    rw [fileName, List.getLast?_append]
    rfl
  refine ⟨?_, ?_, ?_⟩ <;>
    · intro heq
      rw [heq] at hlast
      exact absurd hlast (by decide)

/-! ## Paths -/

/-- The name of a file, read as a path, is that name. -/
theorem Named.read_fileName (h : n.Named) : FilePath.read n.fileName = ⟨[], [n.fileName]⟩ := by
  have hslash : '/' ∉ n.fileName := fun hmem => (h.plain_of_mem_fileName hmem).1 rfl
  have hroot : rootOf n.fileName = [] := by
    rw [rootOf_eq_nil_iff]
    exact fun hhead => hslash (List.mem_of_head? hhead)
  rw [FilePath.read, hroot, Text.splitOn_of_not_mem hslash,
    filter_isName_of_proper fun p hp => List.mem_singleton.mp hp ▸ n.proper_fileName]

/-- The path to a note is that of its template, with the name of the file behind it. -/
theorem Named.filePath_eq (h : n.Named) :
    n.filePath = ⟨rootOf n.path, (FilePath.read n.path).parts ++ [n.fileName]⟩ := by
  rw [filePath, h.read_fileName]
  rfl

/-- The names on the way from the root to the file of a note: those of the folder, unless the path
of the note is absolute, the pieces of the path, and the name of the file. -/
def route (folder : Location) (n : Note) : List Text :=
  (if n.path.head? = some '/' then [] else folder) ++ Text.splitOn '/' n.path ++ [n.fileName]

/-- **The location of the file is the normal form of its route.** -/
theorem Named.locate_filePath (h : n.Named) (hfolder : ∀ p ∈ folder, Proper p) :
    n.filePath.locate folder = resolve (n.route folder) := by
  have hfile : [n.fileName].filter isName = [n.fileName] :=
    filter_isName_of_proper fun p hp => List.mem_singleton.mp hp ▸ n.proper_fileName
  have hparts : ∀ p ∈ n.filePath.parts, isName p = true := by
    rw [h.filePath_eq]
    intro p hp
    rcases List.mem_append.mp hp with hpath | hname
    · exact isName_of_mem_read hpath
    · rw [List.mem_singleton.mp hname]
      exact isName_of_proper n.proper_fileName
  have hroot : n.filePath.root = [] ↔ ¬n.path.head? = some '/' := by
    rw [h.filePath_eq]
    exact rootOf_eq_nil_iff n.path
  rw [locate_eq_resolve hfolder _ hparts, route, h.filePath_eq, List.append_assoc, resolve_append,
    resolve_append, List.filter_append, List.filter_append, hfile]
  -- what the path leaves out of its pieces leads nowhere
  rw [FilePath.read, List.filter_filter]
  simp only [Bool.and_self]
  rw [h.filePath_eq] at hroot
  by_cases habsolute : n.path.head? = some '/'
  · rw [if_pos habsolute, if_neg fun heq => hroot.mp heq habsolute]
  · rw [if_neg habsolute, if_pos (hroot.mpr habsolute)]

theorem Named.normalizes_iff (h : n.Named) (hfolder : ∀ p ∈ folder, Proper p) :
    Normalizes (n.route folder) l ↔ l = n.filePath.locate folder := by
  rw [FilePath.normalizes_iff, h.locate_filePath hfolder]

/-- The last name of the location is that of the file. -/
theorem Named.getLast?_locate_filePath (h : n.Named) (folder : Location) :
    (n.filePath.locate folder).getLast? = some n.fileName := by
  rw [h.filePath_eq, locate, List.foldl_append, List.foldl_cons, List.foldl_nil,
    step_of_proper n.proper_fileName, List.getLast?_concat]

/-! ## Characters of paths -/

/-- The characters of the path of the file are those of the path of the note and of plain names. -/
theorem Named.mem_path_of_mem_filePath (h : n.Named) {part : Text} (hpart : part ∈ n.filePath.parts)
    (hc : c ∈ part) : c ∈ n.path ∨ 0x20 ≤ c.toNat := by
  rw [h.filePath_eq] at hpart
  rcases List.mem_append.mp hpart with hpath | hname
  · exact .inl (Text.mem_of_mem_splitOn (List.mem_filter.mp hpath).1 hc)
  · rw [List.mem_singleton.mp hname] at hc
    exact .inr (h.plain_of_mem_fileName hc).2.2

end Clipbook.Note
