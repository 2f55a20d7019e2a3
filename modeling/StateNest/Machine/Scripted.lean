import StateNest.State

/-!
# Scripted callbacks

Callbacks whose answers are fixed beforehand, by the number of the call or by
what is handed over. The memory counts the calls of each callback, which is
known by a slot of its own.
-/

set_option autoImplicit false

namespace StateNest.Scripted

/-- The number of calls made so far, by slot. -/
abbrev Calls := Array Nat

/-- The number of the call that is being made, and the memory after it. -/
def count (calls : Calls) (slot : Nat) : Nat × Calls :=
  let call := calls.getD slot 0 + 1
  (call, calls.setIfInBounds slot call)

/-- Fails at some calls, or on some text. -/
structure Hook where
  failAt : List Nat := []
  failOn : Option String := none
  message : String := ""

def Hook.callback (hook : Hook) (slot : Nat) : Callback Calls (List Char) Unit :=
  fun calls buffer =>
    let (call, calls) := count calls slot
    let fails := hook.failAt.contains call || hook.failOn = some (String.ofList buffer)
    (if fails then .error ⟨hook.message⟩ else .ok (), calls)

abbrev Answer := Except Failure (Option StateId)

/-- Answers by the number of the call while the script lasts, then by symbol. -/
structure Handler where
  script : List Answer := []
  bySymbol : List (Char × Answer) := []
  default : Answer := .ok none

def Handler.callback (handler : Handler) (slot : Nat) : Callback Calls Char (Option StateId) :=
  fun calls symbol =>
    let (call, calls) := count calls slot
    ((handler.script[call - 1]?.or (handler.bySymbol.lookup symbol)).getD handler.default, calls)

end StateNest.Scripted
