import Lockstep.Trace.Basic

set_option autoImplicit false
set_option relaxedAutoImplicit false

/-!
Comparisons of two traces: how keys match, how far the traces agree, and where and how they diverge.
-/

namespace Lockstep

/-- When a candidate key matches a reference key: when they are equal, or when the candidate's digits
occur in those of the reference. -/
inductive MatchRule where
  | exact
  | contains
deriving DecidableEq

namespace MatchRule

/-- Whether a candidate key matches a reference key under a rule. -/
def admits (rule : MatchRule) (reference candidate : Key) : Bool :=
  match rule with
  | .exact => reference = candidate
  | .contains => reference.contains candidate

end MatchRule

/-- The side whose length bounds a comparison by position. -/
inductive Driver where
  | reference
  | candidate
deriving DecidableEq

namespace Driver

def other : Driver → Driver
  | .reference => .candidate
  | .candidate => .reference

end Driver

inductive DivergenceKind where
  | mismatch
  | missingInCandidate
  | candidateEnded
  | referenceEnded
deriving DecidableEq

/-- The place where two traces stop to agree: its position from zero on, and the records there as far
as there are any. -/
structure Divergence where
  index : Nat
  kind : DivergenceKind
  reference : Option Record
  candidate : Option Record
deriving DecidableEq

namespace Divergence

/-- The position counted from one, in words of 64 bits: zero follows the last position that a word can
hold. -/
def position (d : Divergence) : Nat :=
  (UInt64.ofNat d.index + 1).toNat

/-- The key of the driving side, or of the other side where the driving one has no record. -/
def keyFor? (d : Divergence) (driver : Driver) : Option Key :=
  match driver with
  | .reference => (d.reference.or d.candidate).map Record.key
  | .candidate => (d.candidate.or d.reference).map Record.key

/-- The key of the reference, or of the candidate where the reference has no record. -/
def key? (d : Divergence) : Option Key :=
  d.keyFor? .reference

end Divergence

/-- What a comparison finds: how many positions match before the divergence, the last reference record
that matches, and the first divergence. -/
structure Comparison where
  matched : Nat
  lastMatch : Option Record
  divergence : Option Divergence
deriving DecidableEq

namespace Comparison

def isMatch (c : Comparison) : Bool :=
  c.divergence.isNone

end Comparison

end Lockstep

/-!
Comparison by position. Both traces are walked in step; the driving side bounds the walk, and what the
other side has beyond it is of no concern.
-/

namespace Lockstep.Comparison

/-- Walks two traces in step from position `index`, with the reference record that matched last. -/
def walk (rule : MatchRule) (driver : Driver) (index : Nat) (last : Option Record) :
    List Record → List Record → Comparison
  | [], [] => ⟨index, last, none⟩
  | r :: _, [] =>
    match driver with
    | .reference => ⟨index, last, some ⟨index, .candidateEnded, some r, none⟩⟩
    | .candidate => ⟨index, last, none⟩
  | [], c :: _ =>
    match driver with
    | .reference => ⟨index, last, none⟩
    | .candidate => ⟨index, last, some ⟨index, .referenceEnded, none, some c⟩⟩
  | r :: rs, c :: cs =>
    if rule.admits r.key c.key then walk rule driver (index + 1) (some r) rs cs
    else ⟨index, last, some ⟨index, .mismatch, some r, some c⟩⟩

def positional (reference candidate : List Record) (rule : MatchRule) (driver : Driver) :
    Comparison :=
  walk rule driver 0 none reference candidate

end Lockstep.Comparison

/-!
Comparison by membership. The candidate may produce addresses in any order; each address of the
reference is looked up in an index of the candidate by key.
-/

namespace Lockstep

/-- One record for each of a set of keys, in ascending order of the keys. -/
abbrev KeyIndex := List (Key × Record)

namespace KeyIndex

/-- Enters a record under a key, in place of the record there may be. -/
def insert (key : Key) (record : Record) : KeyIndex → KeyIndex
  | [] => [(key, record)]
  | (k, r) :: rest =>
    if key = k then (key, record) :: rest
    else if key.precedes k then (key, record) :: (k, r) :: rest
    else (k, r) :: insert key record rest

def get? (index : KeyIndex) (key : Key) : Option Record :=
  (index.find? fun entry => entry.1 = key).map Prod.snd

def hasKey (index : KeyIndex) (key : Key) : Bool :=
  index.any fun entry => entry.1 = key

def keys (index : KeyIndex) : List Key :=
  index.map Prod.fst

/-- Indexes records by key; of several with one key the last is kept. -/
def ofRecords (records : List Record) : KeyIndex :=
  records.foldl (fun index r => insert r.key r index) []

end KeyIndex

namespace Comparison

/-- Looks up reference records from position `index` on, with the one that matched last. -/
def lookUp (candidate : KeyIndex) (index : Nat) (last : Option Record) : List Record → Comparison
  | [] => ⟨index, last, none⟩
  | r :: rs =>
    if candidate.hasKey r.key then lookUp candidate (index + 1) (some r) rs
    else ⟨index, last, some ⟨index, .missingInCandidate, some r, none⟩⟩

def membership (reference : List Record) (candidate : KeyIndex) : Comparison :=
  lookUp candidate 0 none reference

end Comparison

end Lockstep
