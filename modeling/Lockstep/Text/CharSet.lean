set_option autoImplicit false
set_option relaxedAutoImplicit false

/-!
Sets of characters as ranges of code points. A set is normal when its ranges ascend and leave a gap
between one another; membership needs no normal form, complements do. Tables give sets their names.
-/

namespace Lockstep

structure CharRange where
  first : Nat
  last : Nat
deriving DecidableEq

namespace CharRange

def contains (r : CharRange) (c : Char) : Bool :=
  r.first ≤ c.toNat && c.toNat ≤ r.last

end CharRange

abbrev CharSet := List CharRange

namespace CharSet

def maxCode : Nat := 0x10FFFF

def full : CharSet := [⟨0, maxCode⟩]

def contains (s : CharSet) (c : Char) : Bool :=
  s.any fun r => r.contains c

def singleton (c : Char) : CharSet := [⟨c.toNat, c.toNat⟩]

/-- Joins a range with those of an ascending list that touch or overlap it, and so on. -/
def mergeFrom (r : CharRange) : List CharRange → CharSet
  | [] => [r]
  | s :: rest =>
    if s.first ≤ r.last + 1 then mergeFrom ⟨r.first, max r.last s.last⟩ rest
    else r :: mergeFrom s rest

def merge : List CharRange → CharSet
  | [] => []
  | r :: rest => mergeFrom r rest

def place (r : CharRange) : List CharRange → List CharRange
  | [] => [r]
  | s :: rest => if r.first ≤ s.first then r :: s :: rest else s :: place r rest

def normalize (rs : List CharRange) : CharSet :=
  merge (rs.foldr place [])

def union (s t : CharSet) : CharSet :=
  normalize (s ++ t)

def gapsFrom (low : Nat) : CharSet → CharSet
  | [] => if low ≤ maxCode then [⟨low, maxCode⟩] else []
  | r :: rest =>
    if low < r.first then ⟨low, r.first - 1⟩ :: gapsFrom (r.last + 1) rest
    else gapsFrom (max low (r.last + 1)) rest

def complement (s : CharSet) : CharSet :=
  gapsFrom 0 s

def inter (s t : CharSet) : CharSet :=
  (union s.complement t.complement).complement

def diff (s t : CharSet) : CharSet :=
  inter s t.complement

def symmDiff (s t : CharSet) : CharSet :=
  union (diff s t) (diff t s)

def isAscii (s : CharSet) : Bool :=
  s.all fun r => r.last ≤ 0x7F

private def digitValue? (c : Char) : Option Nat :=
  if '0' ≤ c ∧ c ≤ '9' then some (c.toNat - 48)
  else if 'A' ≤ c ∧ c ≤ 'F' then some (c.toNat - 55)
  else none

/-- What has been read of a table: the ranges before, the first end of an open range, and the
number being read. -/
private structure TableState where
  done : List CharRange
  opened : Option Nat
  value : Nat

private def TableState.close (s : TableState) : TableState :=
  ⟨⟨s.opened.getD s.value, s.value⟩ :: s.done, none, 0⟩

/-- Reads a line of ranges: hexadecimal ends joined by a hyphen, ranges separated by blanks. -/
private def rangesOfLine (line : String) : CharSet :=
  let read (s : TableState) (c : Char) : TableState :=
    match digitValue? c with
    | some d => { s with value := s.value * 16 + d }
    | none => if c = '-' then ⟨s.done, some s.value, 0⟩ else s.close
  (line.toList.foldl read ⟨[], none, 0⟩).close.done.reverse

def ofHex (table : List String) : CharSet :=
  table.flatMap rangesOfLine

end CharSet

end Lockstep

/-!
Tables of sets of characters that are looked up by name. Names are written loosely: case, blanks,
hyphens and underscores in them do not count.
-/

namespace Lockstep.Unicode

/-- A set of characters with the names it goes by, in their loose form. -/
structure NamedSet where
  names : List String
  ranges : List String

def setNamed? (table : List NamedSet) (name : String) : Option CharSet :=
  (table.find? fun s => s.names.contains name).map fun s => .ofHex s.ranges

/-- The loose form of a name: lower case, with no blanks, hyphens and underscores, without a leading
`is`, and without anything beyond ASCII. The name `isc` keeps its lead, for `c` names a category. -/
def looseName (name : String) : String :=
  let cs := name.toList
  let lowered := fun (rest : List Char) =>
    (rest.filter fun c => c.toNat ≤ 0x7F && c != ' ' && c != '_' && c != '-').map Char.toLower
  match cs with
  | i :: s :: rest =>
    if i.toLower = 'i' ∧ s.toLower = 's' then
      let tail := lowered rest
      if tail = ['c'] then "isc" else String.ofList tail
    else String.ofList (lowered cs)
  | _ => String.ofList (lowered cs)

end Lockstep.Unicode
