import Clipbook.Proofs.FilePath
import Clipbook.Proofs.Outcome
import Clipbook.Proofs.Table
import Clipbook.Settings

/-!
# Clipbook — the folders of vaults

The folder of a vault is where one of the listed paths leads from the working folder.  It is a
location without dots, so that nothing above it has its names as a prefix.

Main results:

* `proper_of_mem_vaults` — the folders of vaults are in normal form.
-/

namespace Clipbook

/-- The parts of a path that is read are names. -/
theorem FilePath.isName_of_mem_read {t p : Text} (h : p ∈ (FilePath.read t).parts) :
    FilePath.isName p = true :=
  (List.mem_filter.mp h).2

namespace Settings

open FilePath

variable {s : Surroundings} {settings : Settings} {segment t name : Text} {l : Location}

/-- A path with a home in it has no other names than the path and the home. -/
theorem isName_of_mem_expandHome {homes : Table Text} {p q : FilePath}
    (hparts : ∀ part ∈ p.parts, isName part = true) (h : p.expandHome homes = .ok q) :
    ∀ part ∈ q.parts, isName part = true := by
  rw [expandHome] at h
  split at h
  · next user parts _ hp =>
    split at h
    · obtain rfl := Except.ok.inj h
      intro part hpart
      rcases List.mem_append.mp hpart with hhome | hrest
      · exact isName_of_mem_read hhome
      · exact hparts part (by rw [hp]; exact List.mem_cons_of_mem _ hrest)
    · cases h
  · obtain rfl := Except.ok.inj h
    exact hparts

/-- A vault lies at a location without detours. -/
theorem proper_of_vaultOf (hfolder : ∀ p ∈ s.folder, Proper p) (h : vaultOf s segment = .ok l) :
    ∀ p ∈ l, Proper p := by
  obtain ⟨path, hpath, rfl⟩ := Except.map_eq_ok_iff.mp h
  have hparts := isName_of_mem_expandHome (fun _ => isName_of_mem_read) hpath
  rw [locate]
  refine proper_of_mem_foldl_step ?_ hparts
  split
  · exact hfolder
  · exact List.forall_mem_nil _

/-- The folder of a vault is where a path of the list leads. -/
theorem exists_vaultOf_of_mem (h : vaultsOf s t = .ok settings.vaults)
    (hmem : (name, l) ∈ settings.vaults) : ∃ segment ∈ segments t, vaultOf s segment = .ok l := by
  obtain ⟨folders, hfolders, hvaults⟩ := Except.bind_eq_ok_iff.mp h
  have hentry : (name, l) ∈ Table.ofList (folders.map fun l => (l.name, l)) := by
    rw [Except.ok.inj hvaults]
    exact hmem
  rw [Table.ofList, ← Table.extend_eq] at hentry
  rcases Table.mem_extend hentry with hnil | hmap
  · cases hnil
  · obtain ⟨folder, hfolder, heq⟩ := List.mem_map.mp hmap
    obtain ⟨-, rfl⟩ := Prod.mk.inj heq
    exact Except.exists_of_mem_of_mapM_eq_ok hfolders hfolder

/-- **The folders of vaults are in normal form**, if the working folder is. -/
theorem proper_of_mem_vaults (hfolder : ∀ p ∈ s.folder, Proper p)
    (h : read s = .ok settings) (hmem : (name, l) ∈ settings.vaults) : ∀ p ∈ l, Proper p := by
  obtain ⟨_, -, h⟩ := Except.bind_eq_ok_iff.mp h
  obtain ⟨_, -, h⟩ := Except.bind_eq_ok_iff.mp h
  obtain ⟨vaults, hvaults, h⟩ := Except.bind_eq_ok_iff.mp h
  obtain rfl := Except.ok.inj h
  obtain ⟨segment, -, hsegment⟩ := exists_vaultOf_of_mem hvaults hmem
  exact proper_of_vaultOf hfolder hsegment

end Settings

end Clipbook
