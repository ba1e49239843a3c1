import Lockstep.Library

set_option autoImplicit false
set_option relaxedAutoImplicit false

/-!
Traces: lines of a file, the records they carry, and the keys by which records are compared.

Keys of traces. Traces write one address in many ways, with and without a lead of `0x`, in either case
and padded with zeros; the key of an address is its one form, so that equal keys mean equal addresses.
-/

namespace Lockstep

/-- The canonical form of an address: its digits in lower case, without a lead and without padding. -/
structure Key where
  digits : Text
deriving DecidableEq

namespace Key

def dropLead : Text → Text
  | '0' :: 'x' :: rest => rest
  | '0' :: 'X' :: rest => rest
  | t => t

def dropZeros (t : Text) : Text :=
  t.dropWhile (· = '0')

/-- The key of any text. Blanks around it and one lead go first, then blanks after the lead, then
padding; a text of padding alone is zero, and blank text has the empty key. -/
def ofText (raw : Text) : Key :=
  let trimmed := Text.trim raw
  match dropZeros (Text.trimStart (dropLead trimmed)) with
  | [] => if trimmed.isEmpty then ⟨[]⟩ else ⟨['0']⟩
  | digits => ⟨digits.map Char.toLower⟩

/-- The key of a text that is an address: digits after at most one lead, with blanks around. -/
def parse? (raw : Text) : Option Key :=
  let digits := dropLead (Text.trim raw)
  if !digits.isEmpty && digits.all Text.isHexDigit then some (ofText digits) else none

def display (k : Key) : Text :=
  '0' :: 'x' :: k.digits

def contains (k other : Key) : Bool :=
  Text.occursIn other.digits k.digits

/-- The order of keys is that of their digits, character by character. -/
def precedes (k other : Key) : Bool :=
  decide (k.digits < other.digits)

/-- Enters a key into a list in ascending order, unless it is there. -/
def insertSorted (k : Key) : List Key → List Key
  | [] => [k]
  | other :: rest =>
    if k = other then other :: rest
    else if k.precedes other then k :: other :: rest
    else other :: insertSorted k rest

def sortDistinct (keys : List Key) : List Key :=
  keys.foldr insertSorted []

end Key

/-!
Traces as they are compared: files of lines, of which some carry a record.
-/

/-- One keyed line of a trace: its number from zero on, its key, and the text worth showing. -/
structure Record where
  line : Nat
  key : Key
  text : Text
deriving DecidableEq

/-- A trace as lines in memory; the path serves messages only. -/
structure TraceFile where
  path : Text
  lines : List Text
deriving DecidableEq

/-!
Extraction of records. Each kind of trace writes the address of a step in its own way; a line without
an address carries no record, whatever else it holds.
-/

/-- The ways in which lines carry an address: alone on the line, between two delimiters, where a pattern
finds it, or before a colon unless the line contains a text that excludes it. A custom reading of lines
yields the key itself. -/
inductive Extractor where
  | bare
  | delimited (opening closing : Text)
  | pattern (regex : Regex)
  | addressed (excluded : Option Text)
  | custom (read : Text → Option (Key × Text))

namespace Extractor

/-- The address between the first opening delimiter and the first closing one after it. -/
def between? (opening closing line : Text) : Option Text :=
  match Text.splitFirst? opening line with
  | none => none
  | some (_, rest) => (Text.splitFirst? closing rest).map Prod.fst

def isExcluded (excluded : Option Text) (line : Text) : Bool :=
  match excluded with
  | none => false
  | some marker => Text.occursIn marker line

/-- The key of the text of an address, with the text worth showing. -/
def keyed? (address text : Text) : Option (Key × Text) :=
  (Key.parse? address).map fun key => (key, text)

/-- The key of a line and the text worth showing, where the line carries a record. -/
def extract? : Extractor → Text → Option (Key × Text)
  | .bare, line => keyed? line (Text.trim line)
  | .delimited opening closing, line =>
    (between? opening closing line).bind fun address => keyed? address (Text.trim line)
  | .pattern regex, line =>
    (regex.firstGroup? line).bind fun (address, _) => keyed? address (Text.trim line)
  | .addressed excluded, line =>
    if isExcluded excluded line then none
    else (Text.splitFirst? [':'] line).bind fun (address, rest) => keyed? address (Text.trim rest)
  | .custom read, line => read line

def record? (e : Extractor) (number : Nat) (line : Text) : Option Record :=
  (e.extract? line).map fun (key, text) => ⟨number, key, text⟩

def recordsFrom (e : Extractor) (start : Nat) (lines : List Text) : List Record :=
  (lines.zipIdx start).filterMap fun (line, number) => e.record? number line

def records (e : Extractor) (lines : List Text) : List Record :=
  e.recordsFrom 0 lines

def recordsAfter (e : Extractor) (start : Nat) (lines : List Text) : List Record :=
  e.recordsFrom start (lines.drop start)

def window (e : Extractor) (start count : Nat) (lines : List Text) : List Record :=
  (e.recordsAfter start lines).take count

/-- The address field of a commit log, as in `pc=[0000000080000000]`. -/
def commitLog : Extractor := .delimited "pc=[".toList "]".toList

end Extractor

namespace Pattern

/-- The text of the pattern of joint numbers: `[joint]` and hexadecimal digits. -/
def jointText : Text := "\\[joint\\]\\s*([0-9a-fA-F]+)".toList

/-- The text of the pattern of program counters: `pc:` and hexadecimal digits. -/
def counterText : Text := "pc:\\s*([0-9a-fA-F]+)".toList

end Pattern

end Lockstep
