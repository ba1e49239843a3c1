import Lockstep.Storage.Basic

set_option autoImplicit false
set_option relaxedAutoImplicit false

/-!
A directory with files in memory, and the way that a path takes through it name by name.
-/

namespace Lockstep

inductive Entry where
  | file (bytes : List UInt8)
  | directory
deriving DecidableEq

/-- A directory as the paths of its entries, each the list of the names on it; the directories on the way
to an entry are implied. -/
abbrev Directory := List (List Text × Entry)

namespace Directory

/-- The entry at a place in a directory; of several at one place the last counts. -/
def entry? (d : Directory) (place : List Text) : Option Entry :=
  match d.reverse.find? fun e => e.1 = place with
  | some e => some e.2
  | none => if place = [] || d.any (fun e => place.isPrefixOf e.1) then some .directory else none

def nameLimit : Nat := 255

def pathLimit : Nat := 4096

/-- What is found at a place, where no place is known outside of the directory: there is only the
directory that surrounds it. -/
def found? (d : Directory) : Option (List Text) → Option Entry
  | none => some .directory
  | some place => d.entry? place

/-- The place that a name leads to from another. A dot stays in a directory and two dots leave it; what
lies outside stays unknown. -/
def enter (name : Text) (place : Option (List Text)) : Option (Option (List Text)) :=
  if name = [] || name = ['.'] then some place
  else if name = ['.', '.'] then
    match place with
    | none | some [] => some none
    | some names => some (some names.dropLast)
  else place.map fun names => some (names ++ [name])

def walk (d : Directory) (place : Option (List Text)) : List Text → Except ReadFailure Entry
  | [] =>
    match d.found? place with
    | some e => .ok e
    | none => .error .notFound
  | name :: names =>
    match d.found? place with
    | none => .error .notFound
    | some (.file _) => .error .notADirectory
    | some .directory =>
      if (Text.encode name).length > nameLimit then .error .nameTooLong
      else
        match enter name place with
        | none => .error .notFound
        | some next => walk d next names

/-- The storage that reads from a directory in memory. A path that begins with a slash begins outside. -/
def storage (d : Directory) : Storage := fun path =>
  if path.contains '\x00' then .error .nameHasNul
  else if path = [] then .error .notFound
  else if (Text.encode path).length ≥ pathLimit then .error .nameTooLong
  else
    match d.walk (if path.head? = some '/' then none else some []) (Storage.pathNames path) with
    | .error cause => .error cause
    | .ok .directory => .error .isADirectory
    | .ok (.file bytes) => .ok bytes

end Directory

end Lockstep
