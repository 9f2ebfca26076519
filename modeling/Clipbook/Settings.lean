import Clipbook.FilePath
import Clipbook.Text.Blank
import Clipbook.Text.Case

/-!
# Clipbook — settings

Settings come from the variables of the environment.  Blank ones count as unset.
-/

namespace Clipbook

/-- Where the program runs. -/
structure Surroundings where
  environment : Table Text
  /-- Homes of users; the home of the one who runs the program is that of the empty name. -/
  homes : Table Text
  folder : Location

structure Settings where
  highlighterEnabled : Bool := true
  highlightBehavior : Text := "highlight-inline".toList
  vaults : Table Location := []
  templatesPath : Option FilePath := none
  storePath : Option FilePath := none
  logLevel : Text := "WARNING".toList

namespace Settings

/-- Whether highlights, where there are any, take the place of the body of the page. -/
def useHighlights (s : Settings) : Bool :=
  s.highlighterEnabled && s.highlightBehavior ≠ "no-highlights".toList

/-! ## Variables -/

def trueWords : List Text :=
  ["1".toList, "true".toList, "yes".toList, "on".toList]

def falseWords : List Text :=
  ["0".toList, "false".toList, "no".toList, "off".toList]

/-- A word for true or false in any case; other words leave it at a default. -/
def flagOf (default : Bool) (t : Text) : Bool :=
  let word := Text.lower (Text.strip t)
  if word ∈ trueWords then true else if word ∈ falseWords then false else default

def textOr (default t : Text) : Text :=
  if Text.strip t = [] then default else Text.strip t

def pathOf (homes : Table Text) (t : Text) : Except Fault (Option FilePath) :=
  match Text.strip t with
  | [] => .ok none
  | t => ((FilePath.read t).expandHome homes).map some

/-! ## Vaults -/

/-- The paths in a list with colons between them. -/
def segments (t : Text) : List Text :=
  ((Text.splitOn ':' t).map Text.strip).filter fun segment => segment ≠ []

/-- The folder a segment leads to. -/
def vaultOf (s : Surroundings) (segment : Text) : Except Fault Location :=
  ((FilePath.read segment).expandHome s.homes).map fun p => p.locate s.folder

/-- The vaults by their folders' names; of two folders of one name the later one stays. -/
def vaultsOf (s : Surroundings) (t : Text) : Except Fault (Table Location) := do
  -- one home that is not there is enough to have no settings at all
  let folders ← (segments t).mapM (vaultOf s)
  return Table.ofList (folders.map fun l => (l.name, l))

/-! ## All settings -/

def read (s : Surroundings) : Except Fault Settings := do
  let get (name : String) : Text := (s.environment.get? name.toList).getD []
  let templatesPath ← pathOf s.homes (get "WEBCLIP_TEMPLATES")
  let storePath ← pathOf s.homes (get "WEBCLIP_DB_PATH")
  let vaults ← vaultsOf s (get "WEBCLIP_VAULTS")
  let level := Text.upper (Text.strip (get "WEBCLIP_LOG_LEVEL"))
  return { highlighterEnabled := flagOf true (get "WEBCLIP_HIGHLIGHTER_ENABLED")
           highlightBehavior := textOr "highlight-inline".toList (get "WEBCLIP_HIGHLIGHT_BEHAVIOR")
           vaults
           templatesPath
           storePath
           logLevel := if level = [] then "WARNING".toList else level }

end Settings

/-! ## Log levels -/

/-- The levels by their names. -/
def logLevels : Table Nat :=
  [("CRITICAL".toList, 50), ("FATAL".toList, 50), ("ERROR".toList, 40), ("WARN".toList, 30),
   ("WARNING".toList, 30), ("INFO".toList, 20), ("DEBUG".toList, 10), ("NOTSET".toList, 0)]

def logLevel (name : Text) : Except Fault Nat :=
  match logLevels.get? name with
  | some n => .ok n
  | none => .error (.unknownLevel name)

end Clipbook
