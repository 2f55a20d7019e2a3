/-!
# Errors

What goes wrong between a machine and the program around it. A callback that
fails is no error of this kind; its failure is kept in the machine.
-/

set_option autoImplicit false

namespace StateNest

/-- States are known by their position in the order of registration. -/
abbrev StateId := Nat

/-- The reason that a callback gives for its failure. -/
structure Failure where
  message : String
  deriving DecidableEq, Repr, Inhabited

inductive Error where
  | noStates
  | notStarted
  | unknownState (name : String)
  | unknownBranch (state : String) (index : StateId)
  | invalidStateIndex (state : String) (index : StateId) (count : Nat)
  | invalidRegex (source reason : String)
  deriving DecidableEq, Repr

def Error.message : Error → String
  | .noStates => "machine has no registered states"
  | .notStarted => "machine is not started, call `prestart` before `parse`"
  | .unknownState name => "state <" ++ name ++ "> is not registered in the machine"
  | .unknownBranch state index =>
    "state <" ++ state ++ "> branches to unknown state index " ++ toString index
  | .invalidStateIndex state index count =>
    "miss handler of <" ++ state ++ "> returned state index " ++ toString index ++
      ", machine has " ++ toString count ++ " states"
  | .invalidRegex source reason =>
    "invalid regex pattern element `" ++ source ++ "`: " ++ reason

end StateNest
