import LocaleRegistrar.Console.Screen

/-!
A console that can be swapped. Messages go to the sink in use; a sink that was swapped in keeps a
record of what it has printed. Debug messages are shown only while the console is verbose, and
changing the sink ends that.
-/

namespace LocaleRegistrar.Console

structure Session where
  /-- How many sinks there are. Sink 0 is the standard output. -/
  sinks : Nat := 1
  /-- The sink in use. -/
  target : Nat := 0
  verbose : Bool := false
  /-- What the sink in use has printed since the record was last taken, if it keeps one. -/
  record : Option (List Item) := none

inductive Step
  /-- Use a new sink. -/
  | swap
  /-- Use the standard output again. -/
  | reset
  | verbose (on : Bool)
  | log (level : Level) (message : String)
  | print (message : String)
  /-- Take the record of the sink in use. -/
  | takeRecord
deriving DecidableEq, Repr

/-- Why a step fails. -/
inductive StepFault
  | message (fault : MessageFault)
  | noRecord
deriving DecidableEq, Repr

/-- What a step prints and takes. -/
structure Effect where
  printed : List Item := []
  taken : Option (List Item) := none
  fault : Option StepFault := none

namespace Session

/-- The lowest level that is shown, as a number. -/
def threshold (s : Session) : Nat := if s.verbose then 10 else 20

/-- Prints items, unless the message cannot be printed. -/
def printItems (s : Session) : Except MessageFault (List Item) → Session × Effect
  | .ok items => ({ s with record := s.record.map (· ++ items) }, { printed := items })
  | .error fault => (s, { fault := some (.message fault) })

def step (s : Session) : Step → Session × Effect
  | .swap => ({ sinks := s.sinks + 1, target := s.sinks, record := some [] }, {})
  | .reset => ({ sinks := s.sinks }, {})
  | .verbose on => ({ s with verbose := on }, {})
  | .log .debug message => if s.verbose then s.printItems (logged .debug message) else (s, {})
  | .log level message => s.printItems (logged level message)
  | .print message => s.printItems (printed message)
  | .takeRecord =>
    match s.record with
    | some items => ({ s with record := some [] }, { taken := some items })
    | none => (s, { fault := some .noRecord })

end Session

end LocaleRegistrar.Console
