import StateNest.Machine.Parse
import StateNest.Text.Quoted

/-!
# Logs

A log tells the journal of a call in words. Each entry has a level, and a log
is kept down to some level.
-/

set_option autoImplicit false

namespace StateNest

/-- The levels of a log, the most important first. -/
inductive Level where
  | error
  | warn
  | info
  | debug
  | trace
  deriving DecidableEq, Repr

namespace Level

def rank : Level → Nat
  | .error => 0
  | .warn => 1
  | .info => 2
  | .debug => 3
  | .trace => 4

def name : Level → String
  | .error => "ERROR"
  | .warn => "WARN"
  | .info => "INFO"
  | .debug => "DEBUG"
  | .trace => "TRACE"

end Level

structure LogEntry where
  level : Level
  message : String
  deriving DecidableEq, Repr

def LogEntry.line (entry : LogEntry) : String := entry.level.name ++ " " ++ entry.message

def Verdict.text : Verdict → String
  | .enter target => "Enter(" ++ toString target ++ ")"
  | .pop => "Pop"
  | .undecided => "Undecided"
  | .miss => "Miss"

/-- The entry for an event, `name` giving the names of states. A call of a callback has none. -/
def Event.logged? (name : StateId → String) : Event → Option LogEntry
  | .ignored state symbol => some ⟨.trace, "<" ++ name state ++ "> ignores " ++ Quoted.char symbol⟩
  | .classified state symbol verdict =>
    some ⟨.trace, "<" ++ name state ++ "> " ++ Quoted.char symbol ++ ": " ++ verdict.text⟩
  | .branched state buffer =>
    some ⟨.debug, "branch into <" ++ name state ++ "> on " ++ Quoted.chars buffer⟩
  | .returned state buffer =>
    some ⟨.debug, "back from <" ++ name state ++ "> on " ++ Quoted.chars buffer⟩
  | .missed state buffer => some ⟨.debug, "<" ++ name state ++ "> missed " ++ Quoted.chars buffer⟩
  | .hardSet state target symbol =>
    some ⟨.debug, "<" ++ name state ++ "> hard-sets <" ++ name target ++ "> on " ++
      Quoted.char symbol⟩
  | .failed state failure =>
    some ⟨.warn, "<" ++ name state ++ "> callback failed: " ++ failure.message⟩
  | .entering .. | .leaving .. | .handled .. => none

/-- The entries of a log that is kept down to the given level. -/
def keepLevel (level : Level) (entries : List LogEntry) : List LogEntry :=
  entries.filter fun entry => entry.level.rank ≤ level.rank

namespace Machine

variable {Memory : Type}

def nameOf (machine : Machine Memory) (id : StateId) : String := (machine.stateAt id).name

def log (machine : Machine Memory) (journal : Journal) : List LogEntry :=
  journal.filterMap (Event.logged? machine.nameOf)

end Machine
end StateNest
