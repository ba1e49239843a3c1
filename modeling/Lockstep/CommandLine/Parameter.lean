import Lockstep.Configuration
import Lockstep.Report

set_option autoImplicit false
set_option relaxedAutoImplicit false

/-!
The parameters of the command line: how each is spelled, where it may stand, and which values it takes.
An accepted command line is an invocation, which has a value for each of them.
-/

namespace Lockstep.CommandLine

/-- Why a command line starts no comparison: something in it is wrong, or it asks for help or for the
version. -/
inductive Refusal where
  | unknownArgument
  | invalidValue
  | malformedValue
  | tooManyValues
  | conflict
  | missingArgument
  | invalidCommand
  | missingCommand
  | noArguments
  | helpAsked
  | versionAsked
deriving DecidableEq

def Refusal.message : Refusal → Text
  | .unknownArgument => "unexpected argument".toList
  | .invalidValue => "invalid value or no value for an option".toList
  | .malformedValue => "malformed number for an option".toList
  | .tooManyValues => "unexpected value for an option that takes none".toList
  | .conflict => "options that exclude each other or are given twice".toList
  | .missingArgument => "a required option is missing".toList
  | .invalidCommand => "unrecognized command".toList
  | .missingCommand | .noArguments => "a command is required".toList
  | .helpAsked => "help".toList
  | .versionAsked => "version".toList

inductive Parameter where
  | verbose
  | silent
  | format
  | failOnDivergence
  | reference
  | dump
  | offset
  | marker
  | exclude
  | rule
  | referencePattern
  | dumpPattern
  | help
  | version
deriving DecidableEq

inductive Argument where
  | verbose
  | silent
  | format (format : Report.Format)
  | failOnDivergence
  | reference (path : Text)
  | dump (path : Text)
  | offset (distance : Int)
  | marker (text : Text)
  | exclude (text : Text)
  | rule (rule : MatchRule)
  | referencePattern (source : Text)
  | dumpPattern (source : Text)
deriving DecidableEq

namespace Argument

def parameter : Argument → Parameter
  | .verbose => .verbose
  | .silent => .silent
  | .format _ => .format
  | .failOnDivergence => .failOnDivergence
  | .reference _ => .reference
  | .dump _ => .dump
  | .offset _ => .offset
  | .marker _ => .marker
  | .exclude _ => .exclude
  | .rule _ => .rule
  | .referencePattern _ => .referencePattern
  | .dumpPattern _ => .dumpPattern

def format? : Argument → Option Report.Format
  | .format f => some f
  | _ => none

def reference? : Argument → Option Text
  | .reference path => some path
  | _ => none

def dump? : Argument → Option Text
  | .dump path => some path
  | _ => none

def offset? : Argument → Option Int
  | .offset distance => some distance
  | _ => none

def marker? : Argument → Option Text
  | .marker text => some text
  | _ => none

def exclude? : Argument → Option Text
  | .exclude text => some text
  | _ => none

def rule? : Argument → Option MatchRule
  | .rule r => some r
  | _ => none

def referencePattern? : Argument → Option Text
  | .referencePattern source => some source
  | _ => none

def dumpPattern? : Argument → Option Text
  | .dumpPattern source => some source
  | _ => none

end Argument

def ruleNamed? (name : Text) : Option MatchRule :=
  if name = "exact".toList then some .exact
  else if name = "contains".toList then some .contains
  else none

/-- The distance of a numeral, if it fits a signed word of 64 bits. -/
def distance? (numeral : Text) : Option Int :=
  (Text.integer? numeral).filter fun n =>
    -(Alignment.wordLimit : Int) - 1 ≤ n ∧ n ≤ Alignment.wordLimit

namespace Parameter

def longNames : Parameter → List Text
  | .verbose => ["verbose".toList]
  | .silent => ["silent".toList]
  | .format => ["format".toList]
  | .failOnDivergence => ["fail-on-divergence".toList]
  | .reference => ["ref_file".toList, "ref-file".toList]
  | .dump => ["decoder_dump".toList, "decoder-dump".toList]
  | .offset => ["offset".toList]
  | .marker => ["marker".toList]
  | .exclude => ["exclude".toList]
  | .rule => ["match".toList]
  | .referencePattern => ["ref-pattern".toList]
  | .dumpPattern => ["dut-pattern".toList]
  | .help => ["help".toList]
  | .version => ["version".toList]

def letter? : Parameter → Option Char
  | .verbose => some 'v'
  | .silent => some 's'
  | .reference => some 'r'
  | .dump => some 'd'
  | .offset => some 'o'
  | .help => some 'h'
  | .version => some 'V'
  | _ => none

def takesValue : Parameter → Bool
  | .verbose | .silent | .failOnDivergence | .help | .version => false
  | _ => true

/-- The argument that a parameter makes of a value, which is of no account for one that takes none. A
path must not be empty. -/
def argument (value : Text) : Parameter → Except Refusal Argument
  | .verbose => .ok .verbose
  | .silent => .ok .silent
  | .failOnDivergence => .ok .failOnDivergence
  | .help => .error .helpAsked
  | .version => .error .versionAsked
  | .format =>
    match Report.Format.named? value with
    | some f => .ok (.format f)
    | none => .error .invalidValue
  | .reference => if value.isEmpty then .error .invalidValue else .ok (.reference value)
  | .dump => if value.isEmpty then .error .invalidValue else .ok (.dump value)
  | .offset =>
    match distance? value with
    | some n => .ok (.offset n)
    | none => .error .malformedValue
  | .marker => .ok (.marker value)
  | .exclude => .ok (.exclude value)
  | .rule =>
    match ruleNamed? value with
    | some r => .ok (.rule r)
    | none => .error .invalidValue
  | .referencePattern => .ok (.referencePattern value)
  | .dumpPattern => .ok (.dumpPattern value)

/-- The parameters that may stand before and after the name of a command. -/
def shared : List Parameter :=
  [.verbose, .silent, .format, .failOnDivergence, .help]

def ofCommand : Tool → List Parameter
  | .spike => [.reference, .dump]
  | .verilator => [.reference, .dump, .offset, .marker, .exclude, .rule]
  | .joints => [.reference, .dump, .referencePattern, .dumpPattern, .rule]

end Parameter

/-!
Invocations: what an accepted command line asks for, with the defaults of all that it leaves out.
-/

inductive Task where
  | spike
  | verilator (offset : Option Int) (marker exclude : Text) (rule : MatchRule)
  | joints (referencePattern dumpPattern : Text) (rule : MatchRule)
deriving DecidableEq

namespace Task

def tool : Task → Tool
  | .spike => .spike
  | .verilator .. => .verilator
  | .joints .. => .joints

def ofArguments (arguments : List Argument) : Tool → Task
  | .spike => .spike
  | .verilator =>
    .verilator (arguments.findSome? Argument.offset?)
      ((arguments.findSome? Argument.marker?).getD Configuration.startMarker)
      ((arguments.findSome? Argument.exclude?).getD Configuration.timestampMarker)
      ((arguments.findSome? Argument.rule?).getD .contains)
  | .joints =>
    .joints ((arguments.findSome? Argument.referencePattern?).getD Pattern.jointText)
      ((arguments.findSome? Argument.dumpPattern?).getD Pattern.counterText)
      ((arguments.findSome? Argument.rule?).getD .exact)

/-- The configuration of a task. No line of a dump is excluded by an empty text. -/
def configuration (lib : Library) : Task → Except Fault Configuration
  | .spike => .ok .spike
  | .verilator offset marker exclude rule =>
    .ok ((Configuration.verilator offset).setAll
      [.marker (some marker),
       .candidate (.addressed (if exclude.isEmpty then none else some exclude)),
       .rule rule])
  | .joints reference dump rule =>
    (Configuration.jointsBy lib reference dump).map fun config => config.set (.rule rule)

end Task

structure Invocation where
  verbose : Bool
  silent : Bool
  failOnDivergence : Bool
  format : Report.Format
  referencePath : Text
  dumpPath : Text
  task : Task
deriving DecidableEq

namespace Invocation

/-- The invocation of a command with the arguments before and after its name, where both paths are
given. A format after the name counts before one ahead of it. -/
def ofArguments (command : Tool) (before after : List Argument) (referencePath dumpPath : Text) :
    Invocation where
  verbose := before.contains .verbose || after.contains .verbose
  silent := before.contains .silent || after.contains .silent
  failOnDivergence := before.contains .failOnDivergence || after.contains .failOnDivergence
  format := ((after ++ before).findSome? Argument.format?).getD .text
  referencePath := referencePath
  dumpPath := dumpPath
  task := Task.ofArguments after command

end Invocation

end Lockstep.CommandLine
