import Clipbook.Time.Instant
import Clipbook.Value.Parts
import Clipbook.Value.Printer

/-!
# Clipbook — highlights

A highlight is a marked piece of a page with notes.  Its id is the time at which it was made.  It
arrives as an object or as a mere text.
-/

namespace Clipbook

structure Highlight where
  id : Text
  content : Value
  type : Value := .str "text".toList
  xpath : Value := .str []
  startOffset : Value := .int 0
  endOffset : Value := .int 0
  notes : List Value := []

namespace Highlight

/-- The highlight of a text, made at the given instant. -/
def ofText (now : Int) (t : Text) : Highlight :=
  { id := Text.ofInt now
    content := .str ("<div>".toList ++ t ++ "</div>".toList)
    endOffset := .int t.length }

/-- The highlight of an object; only the id has to be there. -/
def ofMembers (members : Table Value) : Except Fault Highlight := do
  let member (key : String) (missing : Value) : Value := (members.get? key.toList).getD missing
  match members.get? "id".toList with
  | none => .error (.missingKey "id".toList)
  | some id =>
    -- any value is an id, by its text
    if id.tooDeep then .error .tooDeep
    else
      let notes ← (member "notes" .null).elementsIfAny
      return { id := id.plain
               content := member "content" (.str [])
               type := member "type" (.str "text".toList)
               xpath := member "xpath" (.str [])
               startOffset := member "startOffset" (.int 0)
               endOffset := member "endOffset" (.int 0)
               notes }

/-- The highlight a value describes; a mere text was highlighted now. -/
def ofValue (now : Int) : Value → Except Fault Highlight
  | .str t => .ok (ofText now t)
  -- what is no object has no members to ask for
  | v => v.members >>= ofMembers

/-- The time at which a highlight was made. -/
def timestamp (id : Text) : Except Fault Text :=
  Number.readInt id >>= stampOf

end Highlight

end Clipbook
