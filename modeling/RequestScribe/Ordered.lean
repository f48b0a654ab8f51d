/-!
# Ordered maps

A map kept as its list of entries, in order of first insertion.  Which keys
count as the same is a parameter, so that header names can be compared without
regard to case.
-/

namespace RequestScribe

namespace Ordered

variable {κ α : Type}

def find? (same : κ → κ → Bool) (key : κ) : List (κ × α) → Option α
  | [] => none
  | (k, v) :: rest => if same k key then some v else find? same key rest

def has (same : κ → κ → Bool) (key : κ) (entries : List (κ × α)) : Bool :=
  (find? same key entries).isSome

/--
Give `key` a value.  An entry with the same key keeps its spelling and its
place; otherwise the new entry goes to the end.
-/
def set (same : κ → κ → Bool) (key : κ) (value : α) : List (κ × α) → List (κ × α)
  | [] => [(key, value)]
  | (k, v) :: rest =>
      if same k key then (k, value) :: rest else (k, v) :: set same key value rest

/-- Remove the first entry whose key is the same as `key`. -/
def erase (same : κ → κ → Bool) (key : κ) : List (κ × α) → List (κ × α)
  | [] => []
  | (k, v) :: rest => if same k key then rest else (k, v) :: erase same key rest

/-- Give `key` a value unless it has one. -/
def setDefault (same : κ → κ → Bool) (key : κ) (value : α) (entries : List (κ × α)) :
    List (κ × α) :=
  if has same key entries then entries else entries ++ [(key, value)]

/-- Enter pairs one after the other. -/
def enter (same : κ → κ → Bool) (entries pairs : List (κ × α)) : List (κ × α) :=
  pairs.foldl (fun es pair => set same pair.1 pair.2 es) entries

/-- The map of a list of pairs: the first place and the last value of each key. -/
def ofPairs (same : κ → κ → Bool) (pairs : List (κ × α)) : List (κ × α) :=
  enter same [] pairs

/-- Add a value to the group of its key, latest first; a new group goes to the end. -/
def addToGroup (same : κ → κ → Bool) (groups : List (κ × List α)) (pair : κ × α) :
    List (κ × List α) :=
  match find? same pair.1 groups with
  | some values => set same pair.1 (pair.2 :: values) groups
  | none => groups ++ [(pair.1, [pair.2])]

/-- The values of each key, keys in order of their first pair. -/
def group (same : κ → κ → Bool) (pairs : List (κ × α)) : List (κ × List α) :=
  (pairs.foldl (addToGroup same) []).map fun (key, values) => (key, values.reverse)

end Ordered

end RequestScribe
