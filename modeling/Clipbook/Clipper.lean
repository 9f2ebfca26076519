import Clipbook.Clipping
import Clipbook.Files
import Clipbook.Note
import Clipbook.Settings
import Clipbook.Store

/-!
# Clipbook — the clipper

The clipper makes notes of pages, with the help of its engines.  It writes them into vaults, which
are folders, and keeps account of them in a store.
-/

namespace Clipbook

structure Clipper where
  engines : Engines
  surroundings : Surroundings
  files : Files := {}
  store : Store

/-! ## Requests -/

structure ClipRequest where
  html : Text
  url : Text
  template : Option Text := none
  /-- The vault to write the note into; without one it is written nowhere. -/
  vault : Option Text := none
  selection : Text := []
  /-- JSON text. -/
  data : Option Text := none
  highlights : Value := .null
  extracted : Table Text := []

/-- What became of a request. -/
structure Saved where
  noteName : Text
  path : Text
  savedTo : Option Text
  content : Text
  deriving DecidableEq, Repr

/-! ## Refusals -/

/-- Why a request is not carried out. -/
inductive Refusal where
  | badTemplates (fault : Fault)
  | unknownTemplate (name : Text) (known : List Value)
  | unknownVault (name : Text) (known : List Text)
  | badData (fault : Fault)
  | badPage (fault : Fault)
  | outsideVault (vault : Text) (path : FilePath)

def Refusal.message : Refusal → Text
  | badTemplates fault => fault.message
  | unknownTemplate name known =>
    "Template '".toList ++ name ++ "' not found. Available: ".toList ++ (Value.arr known).literal
  | unknownVault name known =>
    "Vault '".toList ++ name ++ "' not found. Available: ".toList
      ++ (Value.arr (known.map .str)).literal
  | badData fault => "Invalid schema_org_data: ".toList ++ fault.message
  | badPage fault => fault.message
  | outsideVault vault path =>
    "Note path escapes vault '".toList ++ vault ++ "': ".toList ++ path.text

/-- A request ends early with a refusal, which is an answer, or with a fault, which is none. -/
inductive Halt where
  | refused (reason : Refusal)
  | failed (fault : Fault)

namespace Clipper

/-- A fault with an answer for it, if there is one. -/
def orRefuse {α : Type} (refusal? : Fault → Option Refusal) (r : Except Fault α) :
    Except Halt α :=
  match r with
  | .ok a => .ok a
  | .error f =>
    match refusal? f with
    | some reason => .error (.refused reason)
    | none => .error (.failed f)

def orFail {α : Type} (r : Except Fault α) : Except Halt α :=
  orRefuse (fun _ => none) r

/-! ## Templates and vaults -/

def templatesRefusal? (f : Fault) : Option Refusal :=
  match f with
  | .invalidTemplatesFile .. | .invalidTemplate .. | .unknownPropertyType .. | .longNumeral .. =>
    some (.badTemplates f)
  | _ => none

/-- The templates of the file for them, or the standard one where there is no such file. -/
def templatesOf (c : Clipper) (s : Settings) : Except Fault Templates :=
  match s.templatesPath with
  | none => .ok .standard
  | some p =>
    -- a path that leads nowhere is as good as none
    match c.files.find? c.surroundings.folder p with
    | none => .ok .standard
    | some l =>
      match c.files.text? l with
      | some t => Templates.read p.text t
      | none => .error (.unreachable .isFolder)

/-- The template of a name, or the first one. -/
def choose (templates : Templates) : Option Text → Except Halt NoteTemplate
  | none =>
    match templates with
    -- there is no first template in a file that lists none
    | [] => .error (.failed .noTemplate)
    | (_, t) :: _ => .ok t
  | some name =>
    match templates.get? (.str name) with
    | some t => .ok t
    | none => .error (.refused (.unknownTemplate name templates.keys))

/-- The vault of a name. -/
def vaultOf (s : Settings) : Option Text → Except Halt (Option (Text × Location))
  | none => .ok none
  | some name =>
    match s.vaults.get? name with
    | some l => .ok (some (name, l))
    | none => .error (.refused (.unknownVault name s.vaults.keys))

/-! ## Pages -/

def dataRefusal? (f : Fault) : Option Refusal :=
  match f with
  | .json .. => some (.badData f)
  | _ => none

def pageRefusal? (f : Fault) : Option Refusal :=
  match f with
  | .pageContent .. => some (.badPage f)
  | _ => none

/-- The data in a request; an empty text is none. -/
def dataOf : Option Text → Except Halt Value
  | none | some [] => .ok .null
  | some t => orRefuse dataRefusal? (Value.ofJson t)

/-- The clip of the page in a request. -/
def clipOf (e : Engines) (s : Settings) (now : Int) (r : ClipRequest) : Except Halt Clip := do
  let data ← dataOf r.data
  let moment ← orFail (Moment.ofMilliseconds now)
  let clipping : Clipping :=
    { html := r.html, url := r.url, selection := r.selection, extracted := r.extracted, data
      fullHtml := r.html, highlights := r.highlights }
  orRefuse pageRefusal? (clipping.clip e s.useHighlights now moment).result

/-! ## Saving -/

/-- A note made for a request, and the vault it is for. -/
structure Draft where
  clip : Clip
  note : Note
  vault : Option (Text × Location)

def draft (c : Clipper) (now : Int) (r : ClipRequest) : Except Halt Draft := do
  let s ← orFail (Settings.read c.surroundings)
  let templates ← orRefuse templatesRefusal? (c.templatesOf s)
  let template ← choose templates r.template
  let vault ← vaultOf s r.vault
  let clip ← clipOf c.engines s now r
  let note ← orFail (Note.ofTemplate template clip.words).result
  return ⟨clip, note, vault⟩

/-- The file of a note in a vault, if it is not outside. -/
def targetOf (vault : Text) (folder : Location) (n : Note) : Except Halt Location :=
  let path := n.filePath
  -- no location has a NUL in it, so this comes before the location
  if path.parts.any fun part => part.any fun c => c.toNat = 0 then .error (.failed .nullInPath)
  else
    let l := path.locate folder
    if folder.within l then .ok l else .error (.refused (.outsideVault vault path))

/-- The path of the file that a note is written to, and the files after that; without a vault
nothing is written. -/
def save (fs : Files) (d : Draft) : Except Halt (Option Text) × Files :=
  match d.vault with
  | none => (.ok none, fs)
  | some (vault, folder) =>
    match targetOf vault folder d.note with
    | .error h => (.error h, fs)
    -- nothing is written before it is known where
    | .ok l =>
      match fs.write l d.note.text with
      | (.error cause, fs) => (.error (.failed (.unreachable cause)), fs)
      | (.ok (), fs) => (.ok (some d.note.filePath.text), fs)

/-- What the store is told of a note. -/
def details (d : Draft) (savedTo : Option Text) : Details :=
  let get (name : String) : Option Text := d.clip.words.get? (Text.braced name.toList)
  { url := get "url", title := get "title", vault := d.vault.map (·.1), path := savedTo }

def actionOf (d : Draft) : Action :=
  if d.vault.isSome then .addToVault else .copy

/-! ## Tools -/

/-- Makes a note of a page, writes it into a vault if one is asked for, and takes account of it. -/
def clip (c : Clipper) (now : Int) (r : ClipRequest) : Except Halt Saved × Clipper :=
  match c.draft now r with
  | .error h => (.error h, c)
  | .ok d =>
    match save c.files d with
    | (.error h, files) => (.error h, { c with files })
    | (.ok savedTo, files) =>
      -- the note is on the disk now, and stays there whatever goes wrong
      match stampOf now with
      | .error f => (.error (.failed f), { c with files })
      | .ok time =>
        -- the clip is recorded last
        let (entry, store) := c.store.record time (actionOf d).name (details d savedTo)
        let saved : Saved :=
          { noteName := d.note.name, path := d.note.path, savedTo, content := d.note.text }
        (match entry with | .ok _ => .ok saved | .error f => .error (.failed f),
          { c with files, store })

/-- The variables a page has. -/
def words (c : Clipper) (now : Int) (r : ClipRequest) : Except Halt (Table Text) := do
  let s ← orFail (Settings.read c.surroundings)
  return (← clipOf c.engines s now r).words

/-- A template filled in for a value in JSON text, or for a text. -/
def render (template data : Text) : Outcome Text :=
  Template.render template (.str data)

/-- The newest clips, and how often each action was taken. -/
def history (c : Clipper) (limit : Int) : Except Fault (List Entry × Table Nat) := do
  let _ ← Settings.read c.surroundings
  return (← c.store.history? limit, c.store.stats)

end Clipper

end Clipbook
