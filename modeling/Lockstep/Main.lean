import Lockstep.Program

set_option autoImplicit false
set_option relaxedAutoImplicit false

/-!
The command line program: it hands the arguments and the bytes of the files they name to
`Program.answer`, and shows the answer.
-/

namespace Lockstep.Main

/-- The code of a failed call to the system, which some calls give below zero. -/
def errorCode (code : UInt32) : Nat :=
  if code.toNat < 0x80000000 then code.toNat else 0x100000000 - code.toNat

def causeOf (code : UInt32) (description : String) : ReadFailure :=
  match errorCode code with
  | 2 => .notFound
  | 13 => .permissionDenied
  | 20 => .notADirectory
  | 21 => .isADirectory
  | 36 => .nameTooLong
  | n => .other (description.toList ++ " (os error ".toList ++ Text.decimal n ++ ")".toList)

def readFailure : IO.Error → ReadFailure
  | .noFileOrDirectory _ code details
  | .invalidArgument _ code details
  | .permissionDenied _ code details
  | .resourceExhausted _ code details
  | .inappropriateType _ code details
  | .alreadyExists _ code details
  | .noSuchThing _ code details
  | .interrupted _ code details
  | .otherError code details
  | .resourceBusy code details
  | .resourceVanished code details
  | .unsupportedOperation code details
  | .hardwareFault code details
  | .unsatisfiedConstraints code details
  | .illegalOperation code details
  | .protocolError code details
  | .timeExpired code details => causeOf code details
  | .unexpectedEof => .other "unexpected end of file".toList
  | .userError details => .other details.toList

def readBytes (path : Text) : IO (Except ReadFailure (List UInt8)) := do
  if path.contains '\x00' then return .error .nameHasNul
  match ← (IO.FS.readBinFile (String.ofList path)).toBaseIO with
  | .ok bytes => return .ok bytes.toList
  | .error e => return .error (readFailure e)

def namedFiles (words : List Text) : List Text :=
  match CommandLine.Invocation.ofWords words with
  | .ok i => [i.referencePath, i.dumpPath]
  | .error _ => []

def storageOf (files : List (Text × Except ReadFailure (List UInt8))) : Storage := fun path =>
  match files.find? fun f => f.1 = path with
  | some (_, content) => content
  | none => .error .notFound

def tell (colored : Bool) : Answer → IO UInt32
  | .help => do
    IO.print (String.ofList Program.usage)
    return 0
  | .version => do
    IO.print (String.ofList Program.versionLine)
    return 0
  | .refused refusal => do
    IO.eprint (String.ofList ("error: ".toList ++ refusal.message ++ ['\n'] ++ Program.usage))
    return Finish.refused.toUInt32
  | .finished finish => do
    for notice in finish.notices do
      IO.eprintln (String.ofList (notice.line colored))
    IO.print (String.ofList finish.report)
    (← IO.getStdout).flush
    return finish.status.toUInt32

end Lockstep.Main

def main (arguments : List String) : IO UInt32 := do
  let words := arguments.map String.toList
  let colored ← (← IO.getStdout).isTty
  let files ← (Lockstep.Main.namedFiles words).mapM fun path => do
    return (path, ← Lockstep.Main.readBytes path)
  Lockstep.Main.tell colored
    (Lockstep.Program.answer colored (Lockstep.Main.storageOf files) words)
