import StateNest.Machine.Basic

/-!
# The listing of a machine

Each state by its name, with the names of its branches.
-/

set_option autoImplicit false

namespace StateNest

/-- The line for a branch, given the names of all states. -/
def branchLine (names : List String) (branch : StateId) : String :=
  match names[branch]? with
  | some name => "  " ++ name ++ "\n"
  | none => "  <unknown " ++ toString branch ++ ">\n"

def stateListing (name : String) (branches : List String) : String :=
  "\n** state: " ++ name ++ "\nbranches:\n" ++ String.join branches

def Machine.dump {Memory : Type} (machine : Machine Memory) : String :=
  let names := machine.states.map State.name
  "Parser states: " ++ toString machine.states.length ++ "\n" ++
    String.join (machine.states.map fun state =>
      stateListing state.name (state.branches.map (branchLine names)))

end StateNest
