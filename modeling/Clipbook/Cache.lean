/-!
# Clipbook — caches

A cache of bounded size.  Reading an entry and writing it make it the latest one; when there are
too many, the entries not touched for the longest time go.
-/

namespace Clipbook

/-- The entries come in the order in which they were last touched, the latest last. -/
structure Cache (κ α : Type) where
  capacity : Nat
  entries : List (κ × α) := []

namespace Cache

variable {κ α : Type}

def empty (capacity : Nat) : Cache κ α := { capacity }

def size (c : Cache κ α) : Nat := c.entries.length

/-- The keys, the one touched longest ago first. -/
def keys (c : Cache κ α) : List κ := c.entries.map Prod.fst

def clear (c : Cache κ α) : Cache κ α := { c with entries := [] }

variable [BEq κ]

def find? (c : Cache κ α) (key : κ) : Option α :=
  c.entries.lookup key

/-- The entries without that of a key. -/
def without (key : κ) (entries : List (κ × α)) : List (κ × α) :=
  entries.filter fun e => !(e.1 == key)

/-- The entries with that of a key as the latest one. -/
def touch (key : κ) (value : α) (c : Cache κ α) : Cache κ α :=
  { c with entries := without key c.entries ++ [(key, value)] }

def get (c : Cache κ α) (key : κ) : Option α × Cache κ α :=
  match c.find? key with
  | none => (none, c)
  | some value => (some value, c.touch key value)

/-- The latest entries, as many as there may be. -/
def evict (c : Cache κ α) : Cache κ α :=
  { c with entries := c.entries.drop (c.entries.length - c.capacity) }

def put (c : Cache κ α) (key : κ) (value : α) : Cache κ α :=
  (c.touch key value).evict

end Cache

end Clipbook
