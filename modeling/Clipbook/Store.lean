import Clipbook.Fault
import Clipbook.Table

/-!
# Clipbook — the store

The store is a database of two tables.  One holds the newest clips, each under a number that no
other clip ever had; the other counts how often each action was taken.
-/

namespace Clipbook

/-- A clip as the store remembers it. -/
structure Entry where
  time : Text
  url : Text
  action : Text
  title : Option Text := none
  vault : Option Text := none
  path : Option Text := none
  deriving DecidableEq, Repr

/-- What there is to say of a clip; an entry needs an address. -/
structure Details where
  url : Option Text
  title : Option Text := none
  vault : Option Text := none
  path : Option Text := none

/-- The first elements of a list, all of them where the limit is negative. -/
def firsts {α : Type} (limit : Int) (l : List α) : List α :=
  if limit < 0 then l else l.take limit.toNat

/-! ## Clips -/

/-- A clip under its number. -/
structure Row where
  id : Nat
  entry : Entry
  deriving DecidableEq, Repr

/-- The table of clips.  The greatest number that any clip ever had is remembered, also when the
clip is gone. -/
structure Clips where
  rows : List Row := []
  lastId : Nat := 0

namespace Clips

def insert (e : Entry) (c : Clips) : Clips :=
  { rows := c.rows ++ [⟨c.lastId + 1, e⟩], lastId := c.lastId + 1 }

/-- The rows with the greatest numbers, those first. -/
def newest (limit : Int) (c : Clips) : List Row :=
  firsts limit (c.rows.mergeSort fun a b => b.id ≤ a.id)

/-- Deletes all rows but the newest. -/
def trim (limit : Int) (c : Clips) : Clips :=
  -- by their numbers, so that rows may be in any order
  let kept := (c.newest limit).map Row.id
  { c with rows := c.rows.filter fun r => r.id ∈ kept }

end Clips

/-! ## Counts -/

namespace Counts

/-- Counts once more, from one where nothing was counted. -/
def bump (action : Text) (counts : Table Nat) : Table Nat :=
  let count :=
    match Table.get? action counts with
    | none => 1
    | some n => n + 1
  counts.put action count

/-- The counts of all actions; what was never counted is zero. -/
def ofAll (counts : Table Nat) : Table Nat :=
  Table.extend (Action.names.map fun action => (action, 0)) counts

end Counts

/-! ## The store -/

/-- The tables of a database; those that were not made yet are missing. -/
structure Database where
  clips : Option Clips := none
  counts : Option (Table Nat) := none

structure Store where
  /-- The number of entries kept; a negative one sets no bound. -/
  capacity : Int
  clips : Clips := {}
  counts : Table Nat := []

namespace Store

def defaultCapacity : Int := 1000

/-- Numbers that a database can be given. -/
def fits (n : Int) : Bool :=
  -Int.pow 2 63 ≤ n && n < Int.pow 2 63

/-- The store in a database, in which the tables that are missing are made. -/
def ofDatabase (capacity : Int) (d : Database) : Store :=
  { capacity, clips := d.clips.getD {}, counts := d.counts.getD [] }

def toDatabase (s : Store) : Database :=
  { clips := some s.clips, counts := some s.counts }

/-- Makes the tables that are missing. -/
def init (s : Store) : Store :=
  ofDatabase s.capacity s.toDatabase

/-! ## Writing -/

def checkAction (action : Text) : Except Fault Unit :=
  if action ∈ Action.names then .ok () else .error (.unknownAction action)

/-- Adds an entry.  A capacity that the database cannot be given is found out too late: the entry
stays. -/
def add (s : Store) (time action : Text) (d : Details) : Except Fault Entry × Store :=
  match checkAction action, d.url with
  | .error f, _ => (.error f, s)
  -- the action is checked first
  | .ok _, none => (.error (.missingColumn "history.url".toList), s)
  | .ok _, some url =>
    let e : Entry := { time, url, action, title := d.title, vault := d.vault, path := d.path }
    let clips := s.clips.insert e
    -- the row is there before the others are trimmed
    if fits s.capacity then (.ok e, { s with clips := clips.trim s.capacity })
    else (.error .limitTooLarge, { s with clips })

/-- Counts an action; the result is how often it was taken, as the table has it then. -/
def increment (s : Store) (action : Text) : Except Fault Nat × Store :=
  match checkAction action with
  | .error f => (.error f, s)
  | .ok _ =>
    let counts := Counts.bump action s.counts
    let counted :=
      match Table.get? action counts with
      | none => .error (.notSubscriptable .null)
      | some n => .ok n
    (counted, { s with counts })

/-- Counts an action and adds an entry for it. -/
def record (s : Store) (time action : Text) (d : Details) : Except Fault Entry × Store :=
  match s.increment action with
  | (.error f, s) => (.error f, s)
  -- what was counted stays counted where the entry cannot be added
  | (.ok _, s) => s.add time action d

/-! ## Reading -/

/-- The newest entries, newest first. -/
def history (s : Store) (limit : Int) : List Entry :=
  (s.clips.newest limit).map Row.entry

/-- `history` for a limit that the database can be given. -/
def history? (s : Store) (limit : Int) : Except Fault (List Entry) :=
  if fits limit then .ok (s.history limit) else .error .limitTooLarge

/-- How often each action was taken. -/
def stats (s : Store) : Table Nat :=
  Counts.ofAll s.counts

end Store

end Clipbook
