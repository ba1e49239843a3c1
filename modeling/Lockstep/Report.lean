import Lockstep.Configuration
import Lockstep.Text.Basic

set_option autoImplicit false
set_option relaxedAutoImplicit false

/-!
Reports: an outcome as a text, for readers, for scripts or as JSON.

JSON values as far as reports need them, and their compact text. A text is written between double quotes,
with escapes for quotes, backslashes and control characters only.
-/

namespace Lockstep

/-- A JSON value: null, a truth value, a natural number, a text, or an object with its members in
order. -/
inductive Json where
  | null
  | bool (value : Bool)
  | number (value : Nat)
  | string (value : Text)
  | object (members : List (Text × Json))

namespace Json

def ofOption {α : Type} (toJson : α → Json) : Option α → Json
  | none => null
  | some a => toJson a

/-- The escape of a control character without a short one: its code in four hexadecimal digits. -/
def controlEscape (c : Char) : Text :=
  let digits := Text.hexadecimal c.toNat
  '\\' :: 'u' :: (List.replicate (4 - digits.length) '0' ++ digits)

def escapeChar (c : Char) : Text :=
  if c = '"' then ['\\', '"']
  else if c = '\\' then ['\\', '\\']
  else if c = '\n' then ['\\', 'n']
  else if c = '\r' then ['\\', 'r']
  else if c = '\t' then ['\\', 't']
  else if c = '\x08' then ['\\', 'b']
  else if c = '\x0c' then ['\\', 'f']
  else if c < ' ' then controlEscape c
  else [c]

def renderString (t : Text) : Text :=
  '"' :: (t.flatMap escapeChar ++ ['"'])

mutual

def render : Json → Text
  | null => "null".toList
  | bool true => "true".toList
  | bool false => "false".toList
  | number n => Text.decimal n
  | string t => renderString t
  | object [] => ['\x7b', '\x7d']
  | object ((name, value) :: members) =>
    '\x7b' :: (renderString name ++ ':' :: (render value ++ renderMembers members))

def renderMembers : List (Text × Json) → Text
  | [] => ['\x7d']
  | (name, value) :: members =>
    ',' :: (renderString name ++ ':' :: (render value ++ renderMembers members))

end

end Json

/-!
The signs that open the lines of a report or message, plain or in colour.
-/

/-- A sign at the start of a line: an arrow for information, a tick for success, a cross for failure. -/
inductive Glyph where
  | arrow
  | tick
  | cross
deriving DecidableEq

namespace Glyph

def char : Glyph → Char
  | .arrow => '→'
  | .tick => '✓'
  | .cross => '✗'

/-- What a terminal is sent before a sign: its colour, and boldness for success and failure. -/
def opening : Glyph → Text
  | .arrow => "\x1b[36m".toList
  | .tick => "\x1b[32m\x1b[1m".toList
  | .cross => "\x1b[31m\x1b[1m".toList

def closing : Text := "\x1b[0m".toList

def text (colored : Bool) (g : Glyph) : Text :=
  if colored then g.opening ++ g.char :: closing else [g.char]

end Glyph

/-!
The raw report: one line for each field, its name and its value with an equals sign between.
-/

namespace Report

def absent : Text := "none".toList

/-- The key of a record as it is shown, where there is a record. -/
def shownKey (r : Option Record) : Text :=
  match r with
  | some r => r.key.display
  | none => absent

def truth : Bool → Text
  | true => "true".toList
  | false => "false".toList

def rawKind : DivergenceKind → Text
  | .mismatch => "Mismatch".toList
  | .missingInCandidate => "MissingInCandidate".toList
  | .candidateEnded => "CandidateEnded".toList
  | .referenceEnded => "ReferenceEnded".toList

abbrev Field := Text × Text

def fieldLine (f : Field) : Text :=
  f.1 ++ '=' :: (f.2 ++ ['\n'])

def divergenceFields (d : Divergence) : List Field :=
  [("divergence_index".toList, Text.decimal d.index),
   ("divergence_kind".toList, rawKind d.kind),
   ("reference".toList, shownKey d.reference),
   ("candidate".toList, shownKey d.candidate)]

/-- The field of a start line, counted from one, where there is a start line. -/
def startFields : Option Nat → List Field
  | none => []
  | some line => [("start_line".toList, Text.decimal (line + 1))]

end Report

namespace Outcome

open Report

def rawFields (o : Outcome) : List Field :=
  [("tool".toList, o.tool.name),
   ("match".toList, truth o.comparison.isMatch),
   ("matched".toList, Text.decimal o.comparison.matched),
   ("line_count".toList, Text.decimal o.lineCount)]
  ++ startFields o.startLine
  ++ [("last_match".toList, shownKey o.comparison.lastMatch)]
  ++ (match o.comparison.divergence with
      | none => []
      | some d => divergenceFields d)

def rawReport (o : Outcome) : Text :=
  o.rawFields.flatMap fieldLine

end Outcome

/-!
The report for readers: one fact on each line. Lines of a trace and positions are counted from one.
-/

def DivergenceKind.phrase : DivergenceKind → Text
  | .mismatch => "address mismatch".toList
  | .missingInCandidate => "address missing from decoder dump".toList
  | .candidateEnded => "decoder trace ended early".toList
  | .referenceEnded => "reference trace ended early".toList

namespace Report

/-- A record in words: its key, its line and its text, where it has one. -/
def recordPhrase : Option Record → Text
  | none => absent
  | some r =>
    r.key.display ++ " (line ".toList ++ Text.decimal (r.line + 1) ++ ")".toList
      ++ (if r.text.isEmpty then [] else ": ".toList ++ r.text)

def divergentKey (o : Outcome) : Text :=
  match o.divergentKey? with
  | some key => key.display
  | none => absent

def startLines (colored : Bool) : Option Nat → List Text
  | none => []
  | some line =>
    [Glyph.arrow.text colored ++ " Comparison starts at reference line ".toList
      ++ Text.decimal (line + 1)]

def matchLines (colored : Bool) (o : Outcome) : List Text :=
  [Glyph.tick.text colored ++ " No divergence found. All ".toList ++ o.tool.units
     ++ " match.".toList,
   "  Everything matched up to the last line: ".toList ++ Text.decimal o.comparison.matched,
   "  Last ".toList ++ o.tool.unit ++ ": ".toList ++ shownKey o.comparison.lastMatch]

def divergenceLines (colored : Bool) (o : Outcome) (d : Divergence) : List Text :=
  [Glyph.cross.text colored ++ " Most recent divergence found at ".toList ++ o.tool.unit
     ++ ": ".toList ++ divergentKey o ++ " (".toList ++ d.kind.phrase ++ ")".toList,
   "  Most recent match: ".toList ++ shownKey o.comparison.lastMatch,
   "  First divergence: ".toList ++ divergentKey o,
   "  Reference: ".toList ++ recordPhrase d.reference,
   "  Candidate: ".toList ++ recordPhrase d.candidate,
   "  At line count: ".toList ++ Text.decimal o.lineCount]

end Report

namespace Outcome

open Report

def textLines (colored : Bool) (o : Outcome) : List Text :=
  startLines colored o.startLine ++
    match o.comparison.divergence with
    | none => matchLines colored o
    | some d => divergenceLines colored o d

def textReport (colored : Bool) (o : Outcome) : Text :=
  (o.textLines colored).flatMap fun line => line ++ ['\n']

end Outcome

/-!
The report for programs: one JSON object on a line, with the members of every object in ascending order of
their names.
-/

def Key.toJson (k : Key) : Json :=
  .string k.display

def Record.toJson (r : Record) : Json :=
  .object [("key".toList, r.key.toJson), ("line".toList, .number r.line),
    ("text".toList, .string r.text)]

def DivergenceKind.name : DivergenceKind → Text
  | .mismatch => "mismatch".toList
  | .missingInCandidate => "missing_in_candidate".toList
  | .candidateEnded => "candidate_ended".toList
  | .referenceEnded => "reference_ended".toList

def Divergence.toJson (d : Divergence) : Json :=
  .object [("candidate".toList, .ofOption Record.toJson d.candidate),
    ("index".toList, .number d.index),
    ("kind".toList, .string d.kind.name),
    ("reference".toList, .ofOption Record.toJson d.reference)]

/-- A comparison with its divergence, null where the traces match. -/
def Comparison.toJson (c : Comparison) : Json :=
  .object [("divergence".toList, .ofOption Divergence.toJson c.divergence),
    ("last_match".toList, .ofOption Record.toJson c.lastMatch),
    ("matched".toList, .number c.matched)]

namespace Outcome

/-- An outcome with what is derived from it, the verdict and the line count. -/
def toJson (o : Outcome) : Json :=
  .object [("candidate_path".toList, .string o.candidatePath),
    ("candidate_records".toList, .number o.candidateRecords),
    ("comparison".toList, o.comparison.toJson),
    ("line_count".toList, .number o.lineCount),
    ("match".toList, .bool o.comparison.isMatch),
    ("reference_path".toList, .string o.referencePath),
    ("reference_records".toList, .number o.referenceRecords),
    ("start_line".toList, .ofOption .number o.startLine),
    ("tool".toList, .string o.tool.name)]

def jsonReport (o : Outcome) : Text :=
  o.toJson.render ++ ['\n']

end Outcome

/-!
Reports in each of their formats.
-/

namespace Report

/-- The formats of a report: for readers, for scripts, and for programs. -/
inductive Format where
  | text
  | raw
  | json
deriving DecidableEq

namespace Format

def named? (name : Text) : Option Format :=
  if name = "text".toList then some .text
  else if name = "raw".toList then some .raw
  else if name = "json".toList then some .json
  else none

end Format

end Report

namespace Outcome

/-- The report of an outcome in a format; only the report for readers has colours. -/
def render (o : Outcome) (colored : Bool) : Report.Format → Text
  | .text => o.textReport colored
  | .raw => o.rawReport
  | .json => o.jsonReport

end Outcome

end Lockstep
