import StateNest.Machine.Parse

/-!
# Histories

A machine is made and then called from outside, any number of times and in
any order. What it is at any moment is known from the history of these calls.
-/

set_option autoImplicit false

namespace StateNest

inductive Call (Memory : Type) where
  | addState (state : State Memory)
  | modifyState (id : StateId) (change : State Memory → State Memory)
  /-- What the callbacks remember is replaced. -/
  | remember (memory : Memory)
  | prestart
  | parse (symbol : Char)
  | parseAll (text : List Char)

/-- Whether a call changes the states, or might do so. -/
def Call.revises {Memory : Type} : Call Memory → Bool
  | .addState _ | .modifyState .. => true
  | _ => false

namespace Machine

variable {Memory : Type}

/-- The machine after a call. A start that is refused changes nothing. -/
def call (machine : Machine Memory) : Call Memory → Machine Memory
  | .addState state => machine.addState state
  | .modifyState id change => machine.modifyState id change
  | .remember memory => { machine with memory }
  | .prestart =>
    match machine.prestart with
    | .ok started => started
    | .error _ => machine
  | .parse symbol => (machine.parse symbol).machine
  | .parseAll text => (machine.parseAll text).machine

def calls (machine : Machine Memory) : List (Call Memory) → Machine Memory
  | [] => machine
  | call :: history => (machine.call call).calls history

/-- A machine that some history of a new machine leads to. -/
def Reachable (machine : Machine Memory) : Prop :=
  ∃ options memory history, machine = (withOptions options memory).calls history

/-- The machine after a text of which every symbol is taken, whatever became of those before. -/
def feed (machine : Machine Memory) : List Char → Machine Memory
  | [] => machine
  | symbol :: text => (machine.parse symbol).machine.feed text

/-- What is given back for each symbol of a text that is fed. -/
def outcomes (machine : Machine Memory) : List Char → List (Outcome Memory)
  | [] => []
  | symbol :: text => machine.parse symbol :: (machine.parse symbol).machine.outcomes text

end Machine
end StateNest
