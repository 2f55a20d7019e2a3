import StateNest.Tracker

/-!
# Events

A call of the machine leaves a journal: what became of each symbol, which
callbacks were called and what they answered, and which transitions were
made, in the order in which it happened.
-/

set_option autoImplicit false

namespace StateNest

inductive Event where
  /-- The active state ignores a symbol. -/
  | ignored (state : StateId) (symbol : Char)
  | classified (state : StateId) (symbol : Char) (verdict : Verdict)
  /-- The entry callback of a state was called. -/
  | entering (state : StateId) (buffer : List Char) (answer : Except Failure Unit)
  | branched (state : StateId) (buffer : List Char)
  /-- The leave callback of a state was called. -/
  | leaving (state : StateId) (buffer : List Char) (answer : Except Failure Unit)
  | returned (state : StateId) (buffer : List Char)
  | missed (state : StateId) (buffer : List Char)
  /-- The miss handler of a state was called. -/
  | handled (state : StateId) (symbol : Char) (answer : Except Failure (Option StateId))
  | hardSet (state target : StateId) (symbol : Char)
  /-- A callback failed while a state was active. -/
  | failed (state : StateId) (failure : Failure)

abbrev Journal := List Event

/-- Whether a callback was called. -/
def Event.isCall : Event → Bool
  | .entering .. | .leaving .. | .handled .. => true
  | _ => false

/-- The text that is handed to a callback. -/
@[simp] def Event.text : Event → List Char
  | .entering _ buffer _ | .leaving _ buffer _ => buffer
  | .handled _ symbol _ => [symbol]
  | _ => []

/-- The failure that a callback answers with. -/
@[simp] def Event.failure? : Event → Option Failure
  | .entering _ _ (.error failure) | .leaving _ _ (.error failure)
  | .handled _ _ (.error failure) => some failure
  | _ => none

/-- What a handler answers if it does not fail. -/
@[simp] def Event.answer? : Event → Option (Option StateId)
  | .handled _ _ (.ok answer) => some answer
  | _ => none

/-- The state that is pushed because a handler asked for it. -/
@[simp] def Event.pushed? : Event → Option StateId
  | .hardSet _ target _ => some target
  | _ => none

namespace Journal

def calls (journal : Journal) : Journal := journal.filter Event.isCall

/-- All that was handed to callbacks, in the order of the calls. -/
def text (journal : Journal) : List Char := journal.flatMap Event.text

def answers (journal : Journal) : List (Option StateId) := journal.filterMap Event.answer?

/-- The states that handlers asked for. -/
def targets (journal : Journal) : List StateId := journal.answers.filterMap id

def pushed (journal : Journal) : List StateId := journal.filterMap Event.pushed?

end Journal
end StateNest
