import Lockstep.CommandLine.Scan
import Lockstep.Event
import Lockstep.Native

set_option autoImplicit false
set_option relaxedAutoImplicit false

/-!
The program: what it answers to a command line, given a storage to read traces from. The answer is a value;
showing it is left to whoever asked.
-/

namespace Lockstep

open CommandLine

/-- What is said beside the report: an event of the log, or a message on a failure. -/
inductive Notice where
  | event (e : Event)
  | failure (message : Text)
deriving DecidableEq

namespace Notice

def line (colored : Bool) : Notice → Text
  | .event e => e.line
  | .failure message => Glyph.cross.text colored ++ ' ' :: message

end Notice

/-- The end of a comparison: the exit status, the report, and what is said beside it. -/
structure Finish where
  status : Nat
  report : Text
  notices : List Notice
deriving DecidableEq

namespace Finish

def success : Nat := 0

def failure : Nat := 1

def refused : Nat := 2

end Finish

namespace CommandLine.Invocation

/-- The least level of events that the log shows. To be silent counts before being verbose. -/
def level (i : Invocation) : Level :=
  if i.silent then .error else if i.verbose then .debug else .info

def shown (i : Invocation) (events : List Event) : List Notice :=
  (events.filter fun e => i.level.rank ≤ e.level.rank).map Notice.event

def fail (i : Invocation) (events : List Event) (fault : Fault) : Finish :=
  ⟨Finish.failure, [], i.shown events ++ [.failure fault.message]⟩

def readEvent (trace : TraceFile) : Event :=
  .traceRead trace.path trace.lines.length

/-- Compares two traces and reports the outcome. Traces that diverge are a failure if that is asked
for. -/
def compare (i : Invocation) (colored : Bool) (config : Configuration)
    (reference candidate : TraceFile) : Finish :=
  let events :=
    [readEvent reference, readEvent candidate] ++ config.events reference candidate
  match config.run reference candidate with
  | .error fault => i.fail (events ++ [.failed config.tool fault]) fault
  | .ok o =>
    let diverged := !o.comparison.isMatch
    { status := if i.failOnDivergence && diverged then Finish.failure else Finish.success
      report := o.render colored i.format
      notices := i.shown (events ++ [.finished config.tool o.comparison.matched diverged]) }

/-- Carries out an invocation: patterns are refused before any trace is read, and the reference is read
before the dump. -/
def execute (i : Invocation) (lib : Library) (colored : Bool) (storage : Storage) : Finish :=
  match i.task.configuration lib with
  | .error fault => i.fail [.patternRefused fault] fault
  | .ok config =>
    match TraceFile.readBy lib storage i.referencePath with
    | .error fault => i.fail [] fault
    | .ok reference =>
      match TraceFile.readBy lib storage i.dumpPath with
      | .error fault => i.fail [readEvent reference] fault
      | .ok candidate => i.compare colored config reference candidate

end CommandLine.Invocation

/-- The answer to a command line: help, the version, a refusal, or the end of a comparison. -/
inductive Answer where
  | help
  | version
  | refused (refusal : Refusal)
  | finished (finish : Finish)
deriving DecidableEq

namespace Program

def versionLine : Text := "tracediff 0.1.0\n".toList

def usage : Text :=
  ("Find the first divergence between a reference trace and a decoder trace\n\n"
    ++ "Usage: tracediff [OPTIONS] <spike|verilator|joints> -r <PATH> -d <PATH> [OPTIONS]\n\n"
    ++ "Options:\n"
    ++ "  -r, --ref_file <PATH>         Reference trace\n"
    ++ "  -d, --decoder_dump <PATH>     Decoder dump\n"
    ++ "  -v, --verbose                 Log every step\n"
    ++ "  -s, --silent                  Log errors only\n"
    ++ "      --format <FORMAT>         Report format: text, raw or json\n"
    ++ "      --fail-on-divergence      Exit with status 1 when the traces diverge\n"
    ++ "  -h, --help                    Print help\n"
    ++ "  -V, --version                 Print version\n\n"
    ++ "Options of verilator:\n"
    ++ "  -o, --offset <OFFSET>         Lines after the start marker, 1 for its own line\n"
    ++ "      --marker <MARKER>         Text of the line that marks the start\n"
    ++ "      --exclude <EXCLUDE>       Text of decoder dump lines to skip\n"
    ++ "      --match <MATCH>           How keys match: exact or contains\n\n"
    ++ "Options of joints:\n"
    ++ "      --ref-pattern <PATTERN>   Regex for the joint number\n"
    ++ "      --dut-pattern <PATTERN>   Regex for the decoder PC\n"
    ++ "      --match <MATCH>           How keys match: exact or contains\n").toList

/-- Answers a command line, without the name of the program, by the functions of a library. -/
def answerBy (lib : Library) (colored : Bool) (storage : Storage) (words : List Text) : Answer :=
  match Invocation.ofWords words with
  | .error .helpAsked => .help
  | .error .versionAsked => .version
  | .error refusal => .refused refusal
  | .ok i => .finished (i.execute lib colored storage)

def answer : Bool → Storage → List Text → Answer :=
  answerBy .native

end Program

end Lockstep
