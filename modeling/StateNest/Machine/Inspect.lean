import StateNest.Machine.Basic
import StateNest.Text.Quoted

/-!
# Inspecting a machine

The whole of a machine in one line of text. Callbacks are shown by their
presence only, sets of symbols in the order of code points.
-/

set_option autoImplicit false

namespace StateNest
namespace Inspect

def record (name : String) (fields : List (String × String)) : String :=
  name ++ " \x7b " ++
    ", ".intercalate (fields.map fun field => field.1 ++ ": " ++ field.2) ++ " \x7d"

def symbolSet (symbols : List Char) : String :=
  "\x7b" ++ ", ".intercalate ((distinctSymbols symbols).map Quoted.char) ++ "\x7d"

def numbers (values : List Nat) : String := Quoted.list (values.map toString)

def element : Element → String
  | .literal symbol => "Literal(" ++ Quoted.char symbol ++ ")"
  | .regex expression => "Regex(Regex(" ++ Quoted.text expression.source ++ "))"

def pattern (pattern : Pattern) : String :=
  record "Pattern" [("elements", Quoted.list (pattern.map element))]

def ignoreSet (ignore : IgnoreSet) : String :=
  record "IgnoreSet" [("all", symbolSet ignore.all), ("handler", symbolSet ignore.handler)]

def state {Memory : Type} (state : State Memory) : String :=
  record "State" [("name", Quoted.text state.name),
    ("entry", pattern state.entry), ("leave", pattern state.leave),
    ("branches", numbers state.branches), ("ignore", ignoreSet state.ignore),
    ("on_enter", toString state.onEnter.isSome), ("on_leave", toString state.onLeave.isSome),
    ("on_miss", toString state.onMiss.isSome)]

def phase : Phase → String
  | .undetermined => "Undetermined"
  | .entering target => "Entering(" ++ toString target ++ ")"
  | .leaving => "Leaving"

def tracker (tracker : Tracker) : String :=
  record "Classifier" [("phase", phase tracker.phase), ("entry", numbers tracker.entry),
    ("leave", numbers tracker.leave)]

def status : Status → String
  | .wait => "Wait"
  | .branch => "Branch"
  | .back => "Back"
  | .hardset => "Hardset"
  | .miss => "Miss"
  | .error => "Error"

def failure : Option Failure → String
  | none => "None"
  | some failure =>
    "Some(" ++ record "HookError" [("message", Quoted.text failure.message)] ++ ")"

def ignorePolicy : IgnorePolicy → String
  | .bufferThenSkip => "BufferThenSkip"
  | .skipUnbuffered => "SkipUnbuffered"

def hardsetReplay : HardsetReplay → String
  | .stop => "Stop"
  | .continue => "Continue"

def options (options : Options) : String :=
  record "MachineOptions" [("ignore_policy", ignorePolicy options.ignorePolicy),
    ("hardset_replay", hardsetReplay options.hardsetReplay)]

end Inspect

def Machine.inspect {Memory : Type} (machine : Machine Memory) : String :=
  Inspect.record "Machine" [("states", Quoted.list (machine.states.map Inspect.state)),
    ("chain", Inspect.numbers machine.chain), ("buffer", Quoted.chars machine.buffer),
    ("classifier", Inspect.tracker machine.tracker), ("status", Inspect.status machine.status),
    ("failure", Inspect.failure machine.failure), ("options", Inspect.options machine.options),
    ("started", toString machine.started)]

end StateNest
