import StateNest.Options
import StateNest.Tracker

/-!
# Machines

A machine holds states, the chain of those that are active and the symbols
buffered since the last transition. Its states can be changed at any time;
after a change it has to be started again.
-/

set_option autoImplicit false

namespace StateNest

/-- What the last symbol led to. -/
inductive Status where
  | wait
  | branch
  | back
  | hardset
  | miss
  | error
  deriving DecidableEq, Repr

def Status.name : Status → String
  | .wait => "wait"
  | .branch => "branch"
  | .back => "back"
  | .hardset => "hardset"
  | .miss => "miss"
  | .error => "error"

/-- The first state that is registered. -/
def root : StateId := 0

structure Machine (Memory : Type) where
  states : List (State Memory) := []
  /-- The active states, the root first. -/
  chain : List StateId := []
  /-- Symbols since the last transition or miss, the oldest first. -/
  buffer : List Char := []
  tracker : Tracker := {}
  status : Status := .wait
  failure : Option Failure := none
  options : Options := {}
  started : Bool := false
  /-- What the callbacks remember. -/
  memory : Memory

namespace Machine

variable {Memory : Type}

def withOptions (options : Options) (memory : Memory) : Machine Memory where
  options := options
  memory := memory

def addState (machine : Machine Memory) (state : State Memory) : Machine Memory :=
  { machine with
    states := machine.states ++ [state]
    tracker := machine.tracker.track
    started := false }

/-- Changes a state, if there is one with this position. The machine stops in any case. -/
def modifyState (machine : Machine Memory) (id : StateId)
    (change : State Memory → State Memory) : Machine Memory :=
  { machine with
    states := machine.states.modify id change
    started := false }

def state? (machine : Machine Memory) (id : StateId) : Option (State Memory) :=
  machine.states[id]?

/-- The state at a position, or an empty state without a name if there is none. -/
def stateAt (machine : Machine Memory) (id : StateId) : State Memory :=
  Tracker.stateAt machine.states id

/-- The position of the first state of a name. -/
def stateIndex (machine : Machine Memory) (name : String) : Except Error StateId :=
  match machine.states.findIdx? (·.name = name) with
  | some id => .ok id
  | none => .error (.unknownState name)

def active (machine : Machine Memory) : StateId := machine.chain.getLast?.getD root

def currentState (machine : Machine Memory) : Option StateId := machine.chain.getLast?

def currentStateName (machine : Machine Memory) : Option String :=
  machine.currentState.map fun id => (machine.stateAt id).name

def progress (machine : Machine Memory) (id : StateId) : Option (Nat × Nat) :=
  machine.tracker.progress id

def reset (machine : Machine Memory) : Machine Memory :=
  { machine with buffer := [], tracker := machine.tracker.reset }

/-- The first state with a branch that leads nowhere, and the first such branch of it. -/
def unknownBranch? (machine : Machine Memory) : Option (String × StateId) :=
  machine.states.findSome? fun state =>
    (state.branches.find? (machine.states.length ≤ ·)).map fun branch => (state.name, branch)

/-- The machine at the start of a session: only the root is active and nothing is buffered. -/
def fresh (machine : Machine Memory) : Machine Memory :=
  { machine.reset with
    chain := [root]
    status := .wait
    failure := none
    started := true }

/-- Starts a session, if every branch leads to a state. -/
def prestart (machine : Machine Memory) : Except Error (Machine Memory) :=
  if machine.states.isEmpty then .error .noStates
  else match machine.unknownBranch? with
    | some (state, index) => .error (.unknownBranch state index)
    | none => .ok machine.fresh

end Machine
end StateNest
