import Clipbook.Proofs.Settings

/-!
# Clipbook — which vaults can be reached

A list of vaults names folders, and each folder is kept under its last name.  Two folders of one
last name meet there, and the later one stays.  So every entry is a folder of the list under its
last name, and a folder of the list is an entry if and only if no other folder of its last name
comes later.

Where a segment of the list leads is said without the program: its names stand behind those of the
home that a tilde asks for, or behind those of the working folder unless a slash comes first, and
the row of names is normalized.

Main results:

* `vaultOf_eq_ok_iff`, `vaultOf_eq_error_iff` — where a segment leads, and when it leads nowhere.
* `vaultsOf_reaches` — the vaults of a list.
-/

namespace Clipbook.Settings

open FilePath

variable {s : Surroundings} {segment t user name : Text} {rest : List Text} {l : Location}
  {vaults : Table Location}

/-! ## Where a segment leads -/

/-- The names from the root on that a text leads along, seen from a folder. -/
def trail (folder : Location) (t : Text) : List Text :=
  (if t.head? = some '/' then [] else folder) ++ Text.splitOn '/' t

/-- The first name of a relative path is a tilde with the name of a user. -/
structure AsksHome (segment user : Text) (rest : List Text) : Prop where
  relative : segment.head? ≠ some '/'
  names : (Text.splitOn '/' segment).filter isName = ('~' :: user) :: rest

/-- A segment leads to the normal form of its names behind those of the working folder, or behind
those of the home it asks for. -/
inductive LeadsTo (s : Surroundings) (segment : Text) (l : Location) : Prop
  | plain (h : ∀ user rest, ¬AsksHome segment user rest)
      (hl : Normalizes (trail s.folder segment) l)
  | home {user home : Text} {rest : List Text} (h : AsksHome segment user rest)
      (hhome : s.homes.get? user = some home) (hl : Normalizes (trail s.folder home ++ rest) l)

/-- The home that a segment asks for is not known. -/
def Homeless (s : Surroundings) (segment : Text) : Prop :=
  ∃ user rest, AsksHome segment user rest ∧ s.homes.get? user = none

/-- The path that a text is read as, with more names behind it, leads along the trail. -/
theorem locate_read_append (hfolder : ∀ p ∈ s.folder, Proper p) (t : Text) {more : List Text}
    (hmore : ∀ p ∈ more, isName p = true) :
    locate s.folder ⟨(FilePath.read t).root, (FilePath.read t).parts ++ more⟩ =
      resolve (trail s.folder t ++ more) := by
  have hparts : ∀ p ∈ (FilePath.read t).parts ++ more, isName p = true := by
    intro p hp
    rcases List.mem_append.mp hp with hp | hp
    · exact isName_of_mem_read hp
    · exact hmore p hp
  have hroot : (FilePath.read t).root = [] ↔ ¬t.head? = some '/' := rootOf_eq_nil_iff t
  rw [locate_eq_resolve hfolder _ hparts]
  simp only [hroot, trail, ite_not, List.append_assoc]
  -- names that say nothing are left out in any case
  rw [resolve, resolve, FilePath.read]
  simp only [List.filter_append, List.filter_filter, Bool.and_self]

/-- A segment leads where the trail of its parts does. -/
theorem locate_read (hfolder : ∀ p ∈ s.folder, Proper p) (t : Text) :
    locate s.folder (FilePath.read t) = resolve (trail s.folder t) := by
  have h := locate_read_append hfolder t (List.forall_mem_nil _)
  rw [List.append_nil, List.append_nil] at h
  exact h

/-- A segment asks for a home if it starts with a tilde and is no path from the root. -/
theorem asksHome_iff :
    AsksHome segment user rest ↔
      (FilePath.read segment).root = [] ∧ (FilePath.read segment).parts = ('~' :: user) :: rest := by
  rw [show (FilePath.read segment).root = rootOf segment from rfl, rootOf_eq_nil_iff]
  exact ⟨fun h => ⟨h.relative, h.names⟩, fun h => ⟨h.1, h.2⟩⟩

theorem AsksHome.isName (h : AsksHome segment user rest) : ∀ p ∈ rest, isName p = true := by
  intro p hp
  have hmem : p ∈ (Text.splitOn '/' segment).filter FilePath.isName := by
    rw [h.names]
    exact List.mem_cons_of_mem _ hp
  exact (List.mem_filter.mp hmem).2

theorem AsksHome.unique {user' : Text} {rest' : List Text} (h : AsksHome segment user rest)
    (h' : AsksHome segment user' rest') : user = user' ∧ rest = rest' := by
  obtain ⟨hname, hrest⟩ := List.cons.inj (h.names.symm.trans h'.names)
  exact ⟨(List.cons.inj hname).2, hrest⟩

/-- A segment that asks for a home leads into it, or nowhere if there is none. -/
theorem expandHome_of_asksHome (h : AsksHome segment user rest) :
    (FilePath.read segment).expandHome s.homes =
      match s.homes.get? user with
      | some home => .ok ⟨(FilePath.read home).root, (FilePath.read home).parts ++ rest⟩
      | none => .error .unknownHome := by
  obtain ⟨hroot, hparts⟩ := asksHome_iff.mp h
  cases hhome : s.homes.get? user <;> simp only [expandHome, hroot, hparts, hhome]

/-- A segment that asks for no home leads from the folder of the program. -/
theorem vaultOf_of_plain (h : ∀ user rest, ¬AsksHome segment user rest) :
    vaultOf s segment = .ok (locate s.folder (FilePath.read segment)) := by
  rw [vaultOf, expandHome]
  split
  · next user rest hroot hparts => exact absurd (asksHome_iff.mpr ⟨hroot, hparts⟩) (h user rest)
  · rfl

/-- **Where a segment leads.** -/
theorem vaultOf_eq_ok_iff (hfolder : ∀ p ∈ s.folder, Proper p) :
    vaultOf s segment = .ok l ↔ LeadsTo s segment l := by
  by_cases hasks : ∃ user rest, AsksHome segment user rest
  · obtain ⟨user, rest, hasks⟩ := hasks
    rw [vaultOf, expandHome_of_asksHome hasks]
    cases hhome : s.homes.get? user with
    | none =>
      -- the names of a segment settle which home it asks for
      refine iff_of_false (Except.error_ne_ok _ _) fun h => ?_
      cases h with
      | plain hplain => exact hplain user rest hasks
      | home hasks' hhome' =>
        obtain ⟨rfl, rfl⟩ := hasks.unique hasks'
        rw [hhome] at hhome'
        cases hhome'
    | some home =>
      have hlocate := locate_read_append hfolder home hasks.isName
      show Except.ok (locate s.folder _) = _ ↔ _
      rw [Except.ok.injEq, hlocate]
      constructor
      · intro h
        exact .home hasks hhome (normalizes_iff.mpr h.symm)
      · intro h
        cases h with
        | plain hplain => exact absurd hasks (hplain user rest)
        | home hasks' hhome' hl =>
          obtain ⟨rfl, rfl⟩ := hasks.unique hasks'
          obtain rfl := Option.some.inj (hhome.symm.trans hhome')
          exact (normalizes_iff.mp hl).symm
  · have hplain : ∀ user rest, ¬AsksHome segment user rest := fun user rest h =>
      hasks ⟨user, rest, h⟩
    rw [vaultOf_of_plain hplain, locate_read hfolder, Except.ok.injEq]
    constructor
    · exact fun h => .plain hplain (normalizes_iff.mpr h.symm)
    · intro h
      cases h with
      | plain _ hl => exact (normalizes_iff.mp hl).symm
      | home hasks' => exact absurd hasks' (hplain _ _)

/-- **A segment leads nowhere** if it asks for a home that is not known. -/
theorem vaultOf_eq_error_iff {f : Fault} :
    vaultOf s segment = .error f ↔ f = .unknownHome ∧ Homeless s segment := by
  by_cases hasks : ∃ user rest, AsksHome segment user rest
  · obtain ⟨user, rest, hasks⟩ := hasks
    -- the segment asks for one home, so it is homeless if that one is missing
    have hhomeless : Homeless s segment ↔ s.homes.get? user = none := by
      constructor
      · rintro ⟨user', rest', hasks', hnone⟩
        obtain ⟨rfl, -⟩ := hasks.unique hasks'
        exact hnone
      · exact fun hnone => ⟨user, rest, hasks, hnone⟩
    rw [vaultOf, expandHome_of_asksHome hasks, hhomeless]
    cases s.homes.get? user with
    | none => simp [Except.map, eq_comm]
    | some home => simp [Except.map]
  · rw [vaultOf_of_plain fun user rest h => hasks ⟨user, rest, h⟩]
    refine iff_of_false nofun ?_
    rintro ⟨-, user, rest, h, -⟩
    exact hasks ⟨user, rest, h⟩

/-- A segment leads somewhere unless it asks for a home that is not there. -/
theorem exists_leadsTo_iff (hfolder : ∀ p ∈ s.folder, Proper p) :
    (∃ l, LeadsTo s segment l) ↔ ¬Homeless s segment := by
  simp only [← vaultOf_eq_ok_iff hfolder]
  cases h : vaultOf s segment with
  | ok l =>
    refine iff_of_true ⟨l, rfl⟩ fun hhomeless => ?_
    have herror := vaultOf_eq_error_iff.mpr ⟨rfl, hhomeless⟩
    rw [h] at herror
    cases herror
  | error f =>
    have hhomeless := (vaultOf_eq_error_iff.mp h).2
    exact iff_of_false nofun (not_not_intro hhomeless)

/-! ## The vaults of a list -/

/-- The last segment of a list that leads to a folder with a given last name, and where it leads. -/
def LastOf (s : Surroundings) (t name : Text) (l : Location) : Prop :=
  ∃ before segment after, segments t = before ++ segment :: after ∧ LeadsTo s segment l ∧
    l.name = name ∧ ∀ later ∈ after, ∀ l', LeadsTo s later l' → l'.name ≠ name

/-- A folder that is the last one of its name comes from a segment. -/
theorem LastOf.comes_from (h : LastOf s t name l) :
    l.name = name ∧ ∃ segment ∈ segments t, LeadsTo s segment l := by
  obtain ⟨before, segment, after, hsegments, hl, hname, -⟩ := h
  have hmem : segment ∈ before ++ segment :: after :=
    List.mem_append_right _ (List.mem_cons_self ..)
  exact ⟨hname, segment, hsegments ▸ hmem, hl⟩

/-- The vaults are the folders of the segments, the last one of each name. -/
theorem vaultsOf_eq_ok_iff :
    vaultsOf s t = .ok vaults ↔
      ∃ folders : List Location, (segments t).map (vaultOf s) = folders.map .ok ∧
        vaults = Table.ofList (folders.map fun l => (l.name, l)) := by
  rw [vaultsOf, Except.bind_eq_ok_iff]
  refine exists_congr fun folders => and_congr ?_ ?_
  · rw [Except.mapM_eq_ok_iff, ← List.forall₂_eq_eq_eq, List.forall₂_map_left_iff,
      List.forall₂_map_right_iff]
  · exact ⟨fun h => (Except.ok.inj h).symm, fun h => congrArg Except.ok h.symm⟩

/-- Where two lists have the same images, a part of the one has a counterpart in the other. -/
theorem exists_append_cons_of_map_eq {α β γ : Type} {f : α → γ} {g : β → γ} {xs : List α}
    {before after : List β} {y : β} (h : xs.map f = (before ++ y :: after).map g) :
    ∃ before' x after', xs = before' ++ x :: after' ∧ f x = g y ∧ after'.map f = after.map g := by
  rw [List.map_append, List.map_cons] at h
  obtain ⟨before', rest, rfl, -, hrest⟩ := List.map_eq_append_iff.mp h
  obtain ⟨x, after', rfl, hx, hafter⟩ := List.map_eq_cons_iff.mp hrest
  exact ⟨before', x, after', rfl, hx, hafter⟩

/-- **The entries of vaults** are the folders of the list under their last names, but those that
another folder of that name comes after. -/
theorem mem_vaults_iff (hfolder : ∀ p ∈ s.folder, Proper p) (h : vaultsOf s t = .ok vaults) :
    (name, l) ∈ vaults ↔ LastOf s t name l := by
  obtain ⟨folders, hfolders, rfl⟩ := vaultsOf_eq_ok_iff.mp h
  rw [Table.mem_ofList_iff, LastOf]
  simp only [← vaultOf_eq_ok_iff hfolder]
  constructor
  · rintro ⟨writesBefore, writesAfter, hwrites, hlater⟩
    -- the write is that of a folder, and the folder is that of a segment
    obtain ⟨_, l', after, rfl, hl', hafter⟩ :=
      exists_append_cons_of_map_eq (g := id) (hwrites.trans (List.map_id _).symm)
    obtain ⟨rfl, rfl⟩ := Prod.mk.inj hl'
    obtain ⟨before, segment, segmentsAfter, hsegments, hsegment, hrest⟩ :=
      exists_append_cons_of_map_eq hfolders
    refine ⟨before, segment, segmentsAfter, hsegments, hsegment, rfl, fun later hmem m hm => ?_⟩
    have hmem' : vaultOf s later ∈ after.map .ok := hrest ▸ List.mem_map_of_mem hmem
    obtain ⟨m', hm', heq⟩ := List.mem_map.mp hmem'
    obtain rfl := Except.ok.inj (heq.trans hm)
    refine hlater (m'.name, m') ?_
    rw [← List.map_id writesAfter, ← hafter]
    exact List.mem_map_of_mem hm'
  · rintro ⟨before, segment, after, hsegments, hsegment, rfl, hlater⟩
    rw [hsegments] at hfolders
    obtain ⟨foldersBefore, l', foldersAfter, rfl, hl', hrest⟩ :=
      exists_append_cons_of_map_eq hfolders.symm
    obtain rfl := Except.ok.inj (hl'.trans hsegment)
    refine ⟨_, _, List.map_append.trans (congrArg _ List.map_cons), fun e he => ?_⟩
    obtain ⟨m, hm, rfl⟩ := List.mem_map.mp he
    have hmem : Except.ok m ∈ after.map (vaultOf s) := hrest ▸ List.mem_map_of_mem hm
    obtain ⟨later, hmem, heq⟩ := List.mem_map.mp hmem
    exact hlater later hmem m heq

/-- There are no vaults at all where one segment asks for a home that is not there. -/
theorem vaultsOf_eq_error_iff {f : Fault} :
    vaultsOf s t = .error f ↔ f = .unknownHome ∧ ∃ segment ∈ segments t, Homeless s segment := by
  constructor
  · intro h
    rcases Except.bind_eq_error_iff.mp h with hfolders | ⟨folders, -, hfolders⟩
    · obtain ⟨segment, hmem, hsegment⟩ := Except.exists_of_mapM_eq_error hfolders
      obtain ⟨hf, hhomeless⟩ := vaultOf_eq_error_iff.mp hsegment
      exact ⟨hf, segment, hmem, hhomeless⟩
    · cases hfolders
  · rintro ⟨rfl, segment, hmem, hhomeless⟩
    have herror : vaultOf s segment = .error .unknownHome :=
      vaultOf_eq_error_iff.mpr ⟨rfl, hhomeless⟩
    cases hfolders : (segments t).mapM (vaultOf s) with
    | ok folders =>
      obtain ⟨l, hl⟩ := Except.exists_mapM_eq_ok_iff.mp ⟨folders, hfolders⟩ segment hmem
      rw [herror] at hl
      cases hl
    | error g =>
      -- whichever segment fails first, it fails in the same way
      obtain ⟨segment', -, hsegment'⟩ := Except.exists_of_mapM_eq_error hfolders
      obtain ⟨rfl, -⟩ := vaultOf_eq_error_iff.mp hsegment'
      rw [vaultsOf, hfolders]
      rfl

/-- The name of every folder that a segment leads to is in the table. -/
theorem exists_get?_of_leadsTo (hfolder : ∀ p ∈ s.folder, Proper p)
    (h : vaultsOf s t = .ok vaults) (hmem : segment ∈ segments t) (hl : LeadsTo s segment l) :
    ∃ l', vaults.get? l.name = some l' := by
  obtain ⟨folders, hfolders, rfl⟩ := vaultsOf_eq_ok_iff.mp h
  have himage : vaultOf s segment ∈ folders.map .ok := hfolders ▸ List.mem_map_of_mem hmem
  obtain ⟨l', hl', heq⟩ := List.mem_map.mp himage
  obtain rfl := Except.ok.inj (heq.trans ((vaultOf_eq_ok_iff hfolder).mpr hl))
  rw [Table.ofList, ← Table.extend_eq]
  exact Table.exists_get?_extend (List.mem_map_of_mem hl')

/-- **The vaults of a list.**  There are vaults unless a segment asks for a home that is not known.
Every entry is a folder that a segment leads to, under its last name.  And under the last name of
the folder of any segment there is the folder of the last segment with that name, so that a folder
is reached if and only if it is this one. -/
theorem vaultsOf_reaches (hfolder : ∀ p ∈ s.folder, Proper p) (t : Text) :
    (∀ f, vaultsOf s t = .error f ↔
      f = .unknownHome ∧ ∃ segment ∈ segments t, Homeless s segment) ∧
    ∀ vaults, vaultsOf s t = .ok vaults →
      (∀ name l, (name, l) ∈ vaults → name = l.name ∧ ∃ segment ∈ segments t, LeadsTo s segment l) ∧
      ∀ segment ∈ segments t, ∃ l, LeadsTo s segment l ∧
        (∃ l', vaults.get? l.name = some l' ∧ LastOf s t l.name l') ∧
        ((∃ name, (name, l) ∈ vaults) ↔ LastOf s t l.name l) := by
  refine ⟨fun f => vaultsOf_eq_error_iff, fun vaults h => ⟨fun name l hentry => ?_, ?_⟩⟩
  · obtain ⟨hname, hsegment⟩ := ((mem_vaults_iff hfolder h).mp hentry).comes_from
    exact ⟨hname.symm, hsegment⟩
  · intro segment hmem
    -- else there would be no vaults at all
    have hhome : ¬Homeless s segment := fun hhomeless => by
      have herror := vaultsOf_eq_error_iff.mpr ⟨rfl, segment, hmem, hhomeless⟩
      rw [h] at herror
      cases herror
    obtain ⟨l, hl⟩ := (exists_leadsTo_iff hfolder).mpr hhome
    obtain ⟨l', hl'⟩ := exists_get?_of_leadsTo hfolder h hmem hl
    refine ⟨l, hl, ⟨l', hl', (mem_vaults_iff hfolder h).mp (Table.mem_of_get?_eq_some hl')⟩, ?_⟩
    constructor
    · rintro ⟨name, hentry⟩
      have hlast : LastOf s t name l := (mem_vaults_iff hfolder h).mp hentry
      rw [hlast.comes_from.1]
      exact hlast
    · exact fun hlast => ⟨l.name, (mem_vaults_iff hfolder h).mpr hlast⟩

/-- A working folder, and the home of the one who runs the program. -/
def shelf : Surroundings where
  environment := []
  homes := [([], "/home/u".toList)]
  folder := [['w']]

theorem vaultsOf_reaches_home :
    (∀ p ∈ shelf.folder, Proper p) ∧
      vaultsOf shelf "/a/n:: ~/n/../m :n".toList =
        .ok [(['n'], [['w'], ['n']]), (['m'], ["home".toList, ['u'], ['m']])] ∧
      ∃ segment ∈ segments "/a/n:: ~/n/../m :n".toList,
        LeadsTo shelf segment ["home".toList, ['u'], ['m']] := by
  have hfolder : ∀ p ∈ shelf.folder, Proper p := by decide
  have hvaults : vaultsOf shelf "/a/n:: ~/n/../m :n".toList =
      .ok [(['n'], [['w'], ['n']]), (['m'], ["home".toList, ['u'], ['m']])] := by rfl
  obtain ⟨-, hok⟩ := vaultsOf_reaches hfolder "/a/n:: ~/n/../m :n".toList
  obtain ⟨hentries, -⟩ := hok _ hvaults
  exact ⟨hfolder, hvaults, (hentries _ _ (List.mem_cons_of_mem _ (List.mem_cons_self ..))).2⟩

/-- **Two folders of one last name cannot both be reached.** -/
theorem vaultsOf_sameName :
    ¬∀ (t : Text) vaults, vaultsOf shelf t = .ok vaults →
      ∀ segment ∈ segments t, ∀ l, LeadsTo shelf segment l → ∃ name, (name, l) ∈ vaults := by
  intro h
  have hfolder : ∀ p ∈ shelf.folder, Proper p := by decide
  have hl : LeadsTo shelf "/a/n".toList [['a'], ['n']] := (vaultOf_eq_ok_iff hfolder).mp rfl
  obtain ⟨name, hentry⟩ := h "/a/n:/b/n".toList [(['n'], [['b'], ['n']])] rfl "/a/n".toList
    (by decide) _ hl
  have hpair := List.mem_singleton.mp hentry
  exact absurd (Prod.mk.inj hpair).2 (by decide)

end Clipbook.Settings
