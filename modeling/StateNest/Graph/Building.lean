import StateNest.Graph.Basic
import StateNest.Machine.Log

/-!
# Building a machine from a graph

Names become positions and sources become expressions. The machine that comes
out is started; its callbacks never fail and only leave entries in the log.
-/

set_option autoImplicit false

namespace StateNest

inductive BuildError where
  | declaredTwice (name : String)
  | badEntry (state : String) (cause : Error)
  | badLeave (state : String) (cause : Error)
  | unknownTarget (owner target : String)
  | machine (cause : Error)
  deriving DecidableEq, Repr

namespace BuildError

def message : BuildError → String
  | .declaredTwice name => "state <" ++ name ++ "> is declared twice"
  | .badEntry state _ => "bad entry of <" ++ state ++ ">"
  | .badLeave state _ => "bad leave of <" ++ state ++ ">"
  | .unknownTarget owner target =>
    "state <" ++ owner ++ "> refers to unknown state <" ++ target ++ ">"
  | .machine cause => cause.message

/-- What a bad pattern suffers from. -/
def cause? : BuildError → Option Error
  | .badEntry _ cause | .badLeave _ cause => some cause
  | _ => none

end BuildError

namespace Graph

def compile (engine : Engine) : ElementSpec → Except Error Element
  | .literal symbol => .ok (.literal symbol)
  | .regex source => Element.ofRegex engine source

def pattern (engine : Engine) (elements : List ElementSpec) : Except Error Pattern :=
  elements.mapM (compile engine)

/-- The first name that was given before, `seen` being the names so far. -/
def firstRepeated? (seen : List String) : List String → Option String
  | [] => none
  | name :: names => if seen.contains name then some name else firstRepeated? (name :: seen) names

def names (graph : Graph) : List String := graph.states.map StateSpec.name

/-- The position of the state that another one refers to by name. -/
def resolve (names : List String) (owner target : String) : Except BuildError StateId :=
  match names.findIdx? (· = target) with
  | some id => .ok id
  | none => .error (.unknownTarget owner target)

/-- Callbacks that agree to everything. They set the states that the symbols force. -/
def quiet : Callback Unit (List Char) Unit := fun memory _ => (.ok (), memory)

def forcing (targets : List (Char × StateId)) : Callback Unit Char (Option StateId) :=
  fun memory symbol => (.ok (targets.lookup symbol), memory)

def buildState (engine : Engine) (names : List String) (spec : StateSpec) :
    Except BuildError (State Unit) := do
  let entry ← (pattern engine spec.entry).mapError (.badEntry spec.name)
  let leave ← (pattern engine spec.leave).mapError (.badLeave spec.name)
  let branches ← spec.branches.mapM (resolve names spec.name)
  let targets ← spec.hardset.mapM fun (symbol, target) => do
    .ok (symbol, ← resolve names spec.name target)
  .ok {
    name := spec.name
    entry, leave, branches
    ignore := ⟨spec.ignore.all, spec.ignore.handler⟩
    onEnter := some quiet
    onLeave := some quiet
    onMiss := some (forcing targets) }

def build (engine : Engine) (graph : Graph) : Except BuildError (Machine Unit) :=
  match firstRepeated? [] graph.names with
  | some name => .error (.declaredTwice name)
  | none => do
    let states ← graph.states.mapM (buildState engine graph.names)
    let machine := states.foldl Machine.addState (.withOptions graph.options ())
    machine.prestart.mapError .machine

/-- The log entry for an event, calls of callbacks included. -/
def logged? (name : StateId → String) : Event → Option LogEntry
  | .entering state buffer _ =>
    some ⟨.info, "enter <" ++ name state ++ "> on " ++ Quoted.text (String.ofList buffer)⟩
  | .leaving state buffer _ =>
    some ⟨.info, "leave <" ++ name state ++ "> on " ++ Quoted.text (String.ofList buffer)⟩
  | .handled state symbol _ =>
    some ⟨.debug, "<" ++ name state ++ "> handles " ++ Quoted.char symbol⟩
  | event => event.logged? name

def log (machine : Machine Unit) (journal : Journal) : List LogEntry :=
  journal.filterMap (logged? machine.nameOf)

end Graph
end StateNest
