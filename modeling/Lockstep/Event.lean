import Lockstep.Configuration
import Lockstep.Report

set_option autoImplicit false
set_option relaxedAutoImplicit false

/-!
Events: what the log tells of a comparison while it takes place. The events of a run follow from the same
parts as its outcome and have no effect on it.
-/

namespace Lockstep

inductive Level where
  | debug
  | info
  | error
deriving DecidableEq

namespace Level

/-- The rank of a level; a log shows the events of its own level and above. -/
def rank : Level → Nat
  | .debug => 0
  | .info => 1
  | .error => 2

def name : Level → Text
  | .debug => "DEBUG".toList
  | .info => "INFO".toList
  | .error => "ERROR".toList

end Level

inductive Event where
  | traceRead (path : Text) (lines : Nat)
  | candidateParsed (path : Text) (records : Nat)
  | referenceParsed (path : Text) (records : Nat)
  | markerFound (line : Nat) (marker : Text)
  | targetFound (line skipped : Nat) (target : Key)
  | targetNotFound (start skipped : Nat) (target : Key)
  | alignedByOffset (line : Nat) (distance : Int)
  | alignedAtTarget (line : Nat)
  | keyMissing (index : Nat) (key : Key)
  | diverged (index : Nat) (kind : DivergenceKind)
  | finished (tool : Tool) (matched : Nat) (diverged : Bool)
  | failed (tool : Tool) (fault : Fault)
  | patternRefused (fault : Fault)
deriving DecidableEq

namespace Event

/-- How much an event matters: the steps of a comparison are details, its alignment and end are
information, and a fault is an error. -/
def level : Event → Level
  | .alignedByOffset .. | .alignedAtTarget .. | .finished .. => .info
  | .failed .. | .patternRefused .. => .error
  | _ => .debug

def message : Event → Text
  | .traceRead .. => "read trace".toList
  | .candidateParsed .. => "parsed candidate trace".toList
  | .referenceParsed .. => "parsed reference trace".toList
  | .markerFound .. => "found start of trace".toList
  | .targetFound .. => "found alignment target".toList
  | .targetNotFound .. => "alignment target not found".toList
  | .alignedByOffset .. => "aligned reference by offset".toList
  | .alignedAtTarget .. => "aligned reference at decoder's first address".toList
  | .keyMissing .. => "reference address missing from candidate".toList
  | .diverged .. => "traces diverged".toList
  | .finished .. => "comparison finished".toList
  | .failed .. => "comparison failed".toList
  | .patternRefused .. => "invalid pattern".toList

/-- The fields of an event in order. Lines of an alignment are counted from one, all others from zero. -/
def fields : Event → List Report.Field
  | .traceRead path lines => [("path".toList, path), ("lines".toList, Text.decimal lines)]
  | .candidateParsed path records | .referenceParsed path records =>
    [("path".toList, path), ("records".toList, Text.decimal records)]
  | .markerFound line marker =>
    [("line".toList, Text.decimal line), ("marker".toList, marker)]
  | .targetFound line skipped target =>
    [("line".toList, Text.decimal line), ("skipped".toList, Text.decimal skipped),
     ("target".toList, target.display)]
  | .targetNotFound start skipped target =>
    [("from".toList, Text.decimal start), ("skipped".toList, Text.decimal skipped),
     ("target".toList, target.display)]
  | .alignedByOffset line distance =>
    [("line".toList, Text.decimal (line + 1)), ("offset".toList, Text.signedDecimal distance)]
  | .alignedAtTarget line => [("line".toList, Text.decimal (line + 1))]
  | .keyMissing index key =>
    [("index".toList, Text.decimal index), ("key".toList, key.display)]
  | .diverged index kind => [("index".toList, Text.decimal index), ("kind".toList, kind.phrase)]
  | .finished tool matched apart =>
    [("tool".toList, tool.name), ("matched".toList, Text.decimal matched),
     ("diverged".toList, Report.truth apart)]
  | .failed tool fault => [("tool".toList, tool.name), ("error".toList, fault.message)]
  | .patternRefused fault => [("error".toList, fault.message)]

/-- The line of an event in the log: its level, its message and its fields. -/
def line (e : Event) : Text :=
  e.level.name ++ ' ' :: (e.message ++ e.fields.flatMap fun f => ' ' :: (f.1 ++ '=' :: f.2))

end Event

namespace Configuration

def skipped (config : Configuration) (lines : List Text) : Nat :=
  lines.countP fun line => (config.reference.extract? line).isNone

def searchEvents (config : Configuration) (reference : TraceFile) (start : Nat) (target : Key) :
    List Event :=
  let lines := reference.lines.drop start
  match Alignment.searchTarget? reference.lines start config.reference target config.rule with
  | some line =>
    [.targetFound line (config.skipped (lines.take (line - start))) target, .alignedAtTarget line]
  | none => [.targetNotFound start (config.skipped lines) target]

def alignEvents (config : Configuration) (reference : TraceFile) (candidate : List Record)
    (marked : Option Nat) : List Event :=
  match config.alignment with
  | .membership | .sequential =>
    [.referenceParsed reference.path (config.openSpan reference marked).records.length]
  | .offset distance =>
    match Alignment.offsetStart (marked.getD 0) distance reference.lines.length with
    | .ok line => [.alignedByOffset line distance]
    | .error _ => []
  | .targetSearch =>
    let start := searchStart marked
    match candidate with
    | [] => [.alignedAtTarget start]
    | first :: _ => config.searchEvents reference start first.key

def divergenceEvents (config : Configuration) (c : Comparison) : List Event :=
  match c.divergence with
  | none => []
  | some d =>
    match config.alignment, d.key? with
    | .membership, some key => [.keyMissing d.index key]
    | _, _ => [.diverged d.index d.kind]

def events (config : Configuration) (reference candidate : TraceFile) : List Event :=
  let records := config.candidate.records candidate.lines
  .candidateParsed candidate.path records.length ::
    match config.markedLine reference with
    | .error _ => []
    | .ok marked =>
      (match config.marker, marked with
        | some marker, some line => [.markerFound line marker]
        | _, _ => [])
      ++ config.alignEvents reference records marked
      ++ (match config.run reference candidate with
          | .ok o => config.divergenceEvents o.comparison
          | .error _ => [])

end Configuration

end Lockstep
