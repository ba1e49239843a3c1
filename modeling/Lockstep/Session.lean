import Lockstep.Configuration

set_option autoImplicit false
set_option relaxedAutoImplicit false

/-!
Sessions: a configuration and two traces that change step by step, with a comparison at hand after each.
-/

namespace Lockstep

namespace TraceFile

def append (trace : TraceFile) (lines : List Text) : TraceFile :=
  { trace with lines := trace.lines ++ lines }

def truncate (trace : TraceFile) (count : Nat) : TraceFile :=
  { trace with lines := trace.lines.take count }

end TraceFile

structure Session where
  config : Configuration
  reference : TraceFile
  candidate : TraceFile

namespace Session

/-- A change to a session: a new configuration, settings for the present one, lines added to a trace, a
trace cut to some lines, or the traces exchanged; or no change. -/
inductive Step where
  | keep
  | configure (config : Configuration)
  | adjust (settings : List Configuration.Setting)
  | appendReference (lines : List Text)
  | appendCandidate (lines : List Text)
  | truncateReference (count : Nat)
  | truncateCandidate (count : Nat)
  | swap

def after (s : Session) : Step → Session
  | .keep => s
  | .configure config => { s with config }
  | .adjust settings => { s with config := s.config.setAll settings }
  | .appendReference lines => { s with reference := s.reference.append lines }
  | .appendCandidate lines => { s with candidate := s.candidate.append lines }
  | .truncateReference count => { s with reference := s.reference.truncate count }
  | .truncateCandidate count => { s with candidate := s.candidate.truncate count }
  | .swap => { s with reference := s.candidate, candidate := s.reference }

def run (s : Session) : Except Fault Outcome :=
  s.config.run s.reference s.candidate

def runs (s : Session) : List Step → List (Except Fault Outcome)
  | [] => []
  | step :: steps => (s.after step).run :: (s.after step).runs steps

end Session

end Lockstep
