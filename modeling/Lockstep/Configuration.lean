import Lockstep.Comparison
import Lockstep.Fault
import Lockstep.Trace.Basic

set_option autoImplicit false
set_option relaxedAutoImplicit false

/-!
Configurations and their runs. A configuration says what is compared and how; run over two traces it
either fails or has an outcome.

Where a comparison starts in the reference: at the line with the start marker, at a distance from it, or
at the first line that matches a target.
-/

namespace Lockstep

/-- The ways to bring a candidate in line with its reference: not at all, as each address is looked up;
from the start of both; at a distance from the start marker; or where the candidate's first address is
found. -/
inductive Alignment where
  | membership
  | sequential
  | offset (distance : Int)
  | targetSearch
deriving DecidableEq

namespace Alignment

def markerLine? (marker : Text) (lines : List Text) : Option Nat :=
  lines.findIdx? (Text.occursIn marker)

/-- The largest number of a signed word of 64 bits; line numbers are reckoned in such words. -/
def wordLimit : Nat := 0x7FFFFFFFFFFFFFFF

/-- The line at a distance from a starting line; distance 1 is the starting line itself. The line must
lie within the reference or just after it, and the reckoning within a word. -/
def offsetStart (start : Nat) (distance : Int) (lines : Nat) : Except Fault Nat :=
  let next : Int := start + distance
  if start ≤ wordLimit ∧ next ≤ wordLimit ∧ 1 ≤ next ∧ next - 1 ≤ lines then
    .ok (next - 1).toNat
  else
    .error (.offsetOutOfRange distance start lines)

def carries (e : Extractor) (rule : MatchRule) (target : Key) (line : Text) : Bool :=
  (e.extract? line).any fun (key, _) => rule.admits key target

/-- The first line at or after `start` with a record that a target matches. -/
def searchTarget? (lines : List Text) (start : Nat) (e : Extractor) (target : Key)
    (rule : MatchRule) : Option Nat :=
  ((lines.drop start).findIdx? (carries e rule target)).map (· + start)

end Alignment

/-!
What a comparison is asked to do: which traces it is for, how their lines carry addresses, where the
reference starts, and how the two are aligned and matched. Each kind of trace comes with a configuration
of its own, which settings then change.
-/

/-- The kinds of traces that are compared: a list of addresses with a dump keyed by address, a commit
log with a dump that holds timestamps, and a log of joints with a log of program counters. -/
inductive Tool where
  | spike
  | verilator
  | joints
deriving DecidableEq

namespace Tool

def name : Tool → Text
  | .spike => "spike".toList
  | .verilator => "verilator".toList
  | .joints => "joints".toList

def unit : Tool → Text
  | .joints => "joint".toList
  | _ => "address".toList

def units : Tool → Text
  | .joints => "joints".toList
  | _ => "addresses".toList

end Tool

def Library.extractor? (lib : Library) (source : Text) : Except Fault Extractor :=
  match lib.regex source with
  | .ok regex => .ok (.pattern regex)
  | .error refusal => .error (.patternRefused source refusal)

structure Configuration where
  tool : Tool
  reference : Extractor
  candidate : Extractor
  marker : Option Text
  alignment : Alignment
  rule : MatchRule
  driver : Driver

namespace Configuration

def startMarker : Text := "Writing".toList

def timestampMarker : Text := "timestamp".toList

/-- A list of addresses, each of which a dump must hold somewhere. -/
def spike : Configuration where
  tool := .spike
  reference := .bare
  candidate := .addressed none
  marker := none
  alignment := .membership
  rule := .exact
  driver := .reference

/-- A commit log and a dump, aligned at a distance from the start marker or else at the dump's first
address. -/
def verilator (distance : Option Int) : Configuration where
  tool := .verilator
  reference := .commitLog
  candidate := .addressed (some timestampMarker)
  marker := some startMarker
  alignment := match distance with
    | some d => .offset d
    | none => .targetSearch
  rule := .contains
  driver := .candidate

/-- Two logs from which regular expressions cut the addresses, compared from their starts. -/
def jointsBy (lib : Library) (reference candidate : Text) : Except Fault Configuration :=
  match lib.extractor? reference, lib.extractor? candidate with
  | .error fault, _ => .error fault
  | _, .error fault => .error fault
  | .ok reference, .ok candidate => .ok
    { tool := .joints
      reference := reference
      candidate := candidate
      marker := none
      alignment := .sequential
      rule := .exact
      driver := .reference }

inductive Setting where
  | rule (rule : MatchRule)
  | marker (marker : Option Text)
  | reference (e : Extractor)
  | candidate (e : Extractor)
  | alignment (alignment : Alignment)
  | driver (driver : Driver)

def set (config : Configuration) : Setting → Configuration
  | .rule rule => { config with rule }
  | .marker marker => { config with marker }
  | .reference reference => { config with reference }
  | .candidate candidate => { config with candidate }
  | .alignment alignment => { config with alignment }
  | .driver driver => { config with driver }

def setAll (config : Configuration) (settings : List Setting) : Configuration :=
  settings.foldl set config

end Configuration

/-!
Outcomes: what a report says of a finished comparison.
-/

/-- A finished comparison with what was compared: the counts are of the records that took part, and the
start line is the line of the reference where the comparison began, if it began at a certain line. -/
structure Outcome where
  tool : Tool
  driver : Driver
  referencePath : Text
  candidatePath : Text
  referenceRecords : Nat
  candidateRecords : Nat
  startLine : Option Nat
  comparison : Comparison
deriving DecidableEq

namespace Outcome

/-- The count shown with a divergence: for joints the position of the divergence counted from one, for
addresses how many matched. -/
def lineCount (o : Outcome) : Nat :=
  match o.comparison.divergence, o.tool with
  | some d, .joints => d.position
  | _, _ => o.comparison.matched

/-- The key that a divergence is known by, which is that of the driving side. -/
def divergentKey? (o : Outcome) : Option Key :=
  o.comparison.divergence.bind fun d => d.keyFor? o.driver

end Outcome

end Lockstep

/-!
The run of a configuration over two traces: find the start of the reference, take the span of it that is
compared, and compare.
-/

namespace Lockstep.Configuration

/-- The line with the start marker, where a configuration has one. -/
def markedLine (config : Configuration) (reference : TraceFile) : Except Fault (Option Nat) :=
  match config.marker with
  | none => .ok none
  | some marker =>
    match Alignment.markerLine? marker reference.lines with
    | some line => .ok (some line)
    | none => .error (.markerNotFound marker reference.path)

/-- The records of a reference that take part in a comparison, and the line where they begin. -/
structure Span where
  startLine : Option Nat
  records : List Record
deriving DecidableEq

def openSpan (config : Configuration) (reference : TraceFile) (marked : Option Nat) : Span :=
  ⟨marked, config.reference.recordsAfter (marked.getD 0) reference.lines⟩

def windowSpan (config : Configuration) (reference : TraceFile) (candidate : List Record)
    (start : Nat) : Span :=
  ⟨some start, config.reference.window start candidate.length reference.lines⟩

/-- The line where the search for a target begins: the one before the marked line. -/
def searchStart (marked : Option Nat) : Nat :=
  marked.getD 0 - 1

/-- The line of the reference where the candidate's first address is found. A candidate without
records is in line where the search would begin. -/
def targetLine (config : Configuration) (reference : TraceFile) (candidate : List Record)
    (marked : Option Nat) : Except Fault Nat :=
  let start := searchStart marked
  match candidate with
  | [] => .ok start
  | first :: _ =>
    match Alignment.searchTarget? reference.lines start config.reference first.key config.rule with
    | some line => .ok line
    | none => .error (.targetNotFound first.key start reference.path)

def align (config : Configuration) (reference : TraceFile) (candidate : List Record)
    (marked : Option Nat) : Except Fault Span :=
  match config.alignment with
  | .membership | .sequential => .ok (config.openSpan reference marked)
  | .offset distance =>
    (Alignment.offsetStart (marked.getD 0) distance reference.lines.length).map
      (config.windowSpan reference candidate)
  | .targetSearch =>
    (config.targetLine reference candidate marked).map (config.windowSpan reference candidate)

/-- Compares records by membership or by position, as the alignment asks. -/
def compare (config : Configuration) (reference candidate : List Record) : Comparison :=
  match config.alignment with
  | .membership => .membership reference (.ofRecords candidate)
  | _ => .positional reference candidate config.rule config.driver

/-- The outcome of comparing a span of the reference with the candidate's records. -/
def outcome (config : Configuration) (reference candidate : TraceFile) (records : List Record)
    (span : Span) : Outcome where
  tool := config.tool
  driver := config.driver
  referencePath := reference.path
  candidatePath := candidate.path
  referenceRecords := span.records.length
  candidateRecords := records.length
  startLine := span.startLine
  comparison := config.compare span.records records

/-- Reads both traces, aligns them and finds the first divergence, or says why they cannot be aligned. -/
def run (config : Configuration) (reference candidate : TraceFile) : Except Fault Outcome :=
  let records := config.candidate.records candidate.lines
  match config.markedLine reference with
  | .error fault => .error fault
  | .ok marked =>
    (config.align reference records marked).map (config.outcome reference candidate records)

end Lockstep.Configuration
