import Lockstep.CommandLine.Parameter
import Lockstep.Text.Basic

set_option autoImplicit false
set_option relaxedAutoImplicit false

/-!
Reading of command lines. Words are told apart by their shape alone, and then read one after another.

The words of a command line by their shape: a name behind two dashes, letters behind one, or a value.
-/

namespace Lockstep.CommandLine

/-- The shapes of words: the two dashes that end all parameters, a long name with a value after an equals
sign, letters after one dash, and anything else. -/
inductive Word where
  | dashes
  | long (name : Text) (value : Option Text)
  | letters (letters : Text)
  | plain
deriving DecidableEq

namespace Word

def ofText : Text → Word
  | '-' :: '-' :: [] => .dashes
  | '-' :: '-' :: rest =>
    match rest.span (· != '=') with
    | (name, '=' :: value) => .long name (some value)
    | (name, _) => .long name none
  | '-' :: c :: rest => .letters (c :: rest)
  | _ => .plain

/-- Whether letters read as a number: digits with at most one point after the first of them, and at
most one exponent mark after that, which is not the last letter. -/
def numeric (seenPoint seenMark atStart : Bool) : Text → Bool
  | [] => true
  | c :: rest =>
    if c.isDigit then numeric seenPoint seenMark false rest
    else if c = '.' && !seenPoint && !seenMark && !atStart then numeric true seenMark false rest
    else if c = 'e' && !seenMark && !atStart && !rest.isEmpty then numeric seenPoint true false rest
    else false

def isNumber (letters : Text) : Bool :=
  numeric false false true letters

end Word

/-!
The reading of command lines word by word. Arguments before the name of a command belong to the program,
those after it to the command. A value in a word of its own is entered only when the next parameter or the
end is reached, so that of two errors the one that is reached first counts.
-/

/-- The arguments given so far, and a parameter whose value is still to come or to be entered. -/
structure Given where
  arguments : List Argument
  pending : Option (Parameter × Option Text)
deriving DecidableEq

namespace Given

def empty : Given := ⟨[], none⟩

def awaited? (g : Given) : Option Parameter :=
  match g.pending with
  | some (p, none) => some p
  | _ => none

/-- Enters a parameter with its value; no parameter is given twice. -/
def enter (g : Given) (p : Parameter) (value : Text) : Except Refusal Given :=
  if g.arguments.any fun a => a.parameter = p then .error .conflict
  else (p.argument value).map fun a => ⟨g.arguments ++ [a], none⟩

def settle (g : Given) : Except Refusal Given :=
  match g.pending with
  | none => .ok g
  | some (_, none) => .error .invalidValue
  | some (p, some value) => g.enter p value

def give (g : Given) (p : Parameter) (value : Text) : Except Refusal Given :=
  g.settle.bind fun g => g.enter p value

/-- Waits for the value of a parameter after entering what is pending. -/
def await (g : Given) (p : Parameter) : Except Refusal Given :=
  g.settle.map fun g => ⟨g.arguments, some (p, none)⟩

def supply (g : Given) (p : Parameter) (value : Text) : Given :=
  ⟨g.arguments, some (p, some value)⟩

/-- The arguments after the last word. Output is either verbose or silent. -/
def close (g : Given) : Except Refusal (List Argument) :=
  g.settle.bind fun g =>
    if g.arguments.contains .verbose && g.arguments.contains .silent then .error .conflict
    else .ok g.arguments

/-- Reads a parameter by its long name, among those that may stand here. -/
def readLong (g : Given) (allowed : List Parameter) (name : Text) (value : Option Text) :
    Except Refusal Given :=
  match allowed.find? fun p => p.longNames.contains name with
  | none => .error .unknownArgument
  | some p =>
    match p.takesValue, value with
    | true, some value => g.give p value
    | true, none => g.await p
    | false, some _ => .error .tooManyValues
    | false, none => g.give p []

def dropEquals : Text → Text
  | '=' :: value => value
  | value => value

/-- Reads parameters by their letters. The rest of the letters after a parameter that takes a value is
its value. -/
def readLetters (g : Given) (allowed : List Parameter) : Text → Except Refusal Given
  | [] => .ok g
  | c :: rest =>
    match allowed.find? fun p => p.letter? = some c with
    | none => .error .unknownArgument
    | some p =>
      if p.takesValue then
        if rest.isEmpty then g.await p else g.give p (dropEquals rest)
      else
        match g.give p [] with
        | .error refusal => .error refusal
        | .ok g => readLetters g allowed rest

end Given

/-- How far a command line has been read: before the name of a command, after it, or among the words
that help is asked on, which name at most one command. -/
inductive Stage where
  | program
  | command (command : Tool)
  | help (named : Bool)
deriving DecidableEq

namespace Stage

def parameters : Stage → List Parameter
  | .program => .version :: Parameter.shared
  | .command c => Parameter.shared ++ Parameter.ofCommand c
  | .help _ => []

end Stage

def commandNamed? (word : Text) : Option Tool :=
  [Tool.spike, .verilator, .joints].find? fun c => c.name = word

/-- The stage that a word opens when it names a command or asks for help. -/
def stageNamed? (word : Text) : Option Stage :=
  if word = "help".toList then some (.help false) else (commandNamed? word).map .command

/-- The state of a reading: the stage, whether two dashes have ended the parameters, what was given
before the name of a command, and what is given at this stage. -/
structure Scan where
  stage : Stage
  ended : Bool
  before : Given
  given : Given
deriving DecidableEq

namespace Scan

def start : Scan := ⟨.program, false, .empty, .empty⟩

/-- What is wrong with a word that is neither a parameter nor a value. -/
def stray (s : Scan) (word : Text) : Refusal :=
  match s.stage with
  | .program => if (stageNamed? word).isSome then .unknownArgument else .invalidCommand
  | _ => .unknownArgument

/-- Reads a word as what its shape says: parameters, a value, or something out of place. A negative
number may be the value of an offset. -/
def readWord (s : Scan) (word : Text) : Except Refusal Scan :=
  match Word.ofText word with
  | .dashes => .ok { s with ended := true }
  | .long name value =>
    (s.given.readLong s.stage.parameters name value).map fun given => { s with given }
  | .letters letters =>
    if s.given.awaited? = some .offset && Word.isNumber letters then
      .ok { s with given := s.given.supply .offset word }
    else (s.given.readLetters s.stage.parameters letters).map fun given => { s with given }
  | .plain =>
    match s.given.awaited? with
    | some p => .ok { s with given := s.given.supply p word }
    | none => .error (s.stray word)

/-- The stage that a word opens at this point: only before a command's name, and not in the place of a
value. -/
def opened? (s : Scan) (word : Text) : Option Stage :=
  if s.stage = .program && s.given.awaited? = none then stageNamed? word else none

/-- Reads a word on which help is asked, which must name a command or help itself. -/
def readTopic (s : Scan) (named : Bool) (word : Text) : Except Refusal Scan :=
  if !named && (stageNamed? word).isSome then .ok { s with stage := .help true }
  else .error .invalidCommand

def step (s : Scan) (word : Text) : Except Refusal Scan :=
  match s.stage with
  | .help named => s.readTopic named word
  | _ =>
    if s.ended then .error (s.stray word)
    else
      match s.opened? word with
      | some stage => .ok ⟨stage, false, s.given, .empty⟩
      | none => s.readWord word

/-- Reads words one after the other, up to the first that is refused. -/
def read (s : Scan) : List Text → Except Refusal Scan
  | [] => .ok s
  | word :: words =>
    match s.step word with
    | .error refusal => .error refusal
    | .ok s => read s words

/-- The invocation after the last word. The arguments of a command are checked before those ahead of
its name, and both paths must be there. -/
def finish (s : Scan) : Except Refusal Invocation :=
  match s.stage with
  | .help _ => .error .helpAsked
  | .program =>
    s.given.settle.bind fun g =>
      .error (if g.arguments.isEmpty then .noArguments else .missingCommand)
  | .command c =>
    s.given.close.bind fun after =>
      match after.findSome? Argument.reference?, after.findSome? Argument.dump? with
      | some reference, some dump =>
        s.before.close.map fun before => .ofArguments c before after reference dump
      | _, _ => .error .missingArgument

end Scan

namespace Invocation

/-- The invocation of a command line, without the name of the program. -/
def ofWords (words : List Text) : Except Refusal Invocation :=
  (Scan.start.read words).bind Scan.finish

end Invocation

end Lockstep.CommandLine
