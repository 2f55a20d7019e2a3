import StateNest.Graph.Building
import StateNest.Graph.Demo
import StateNest.Graph.Reading
import StateNest.Machine.Dump
import StateNest.Session

/-!
# The command line

Arguments are read from left to right, and the first fault or request for help
or version settles the matter. The value of an option that stands apart from
it is checked only when the next option is met or the arguments end.
-/

set_option autoImplicit false

namespace StateNest

/-- What the arguments ask for. -/
inductive Request where
  | run (graph : Option String) (dump : Bool)
  | help
  | version
  | invalid
  deriving DecidableEq, Repr

namespace Arguments

/-- The arguments read so far. `pending` is an option `--graph` that is not checked yet, with
its value if that has been read. -/
structure Progress where
  graph : Option String := none
  dump : Bool := false
  pending : Option (Option String) := none
  /-- Whether `--` has been read, after which no options come. -/
  trailing : Bool := false

/-- The progress after one argument, or the request that is settled. -/
abbrev Step := Except Request Progress

def setGraph (progress : Progress) (path : String) : Step :=
  if path.isEmpty || progress.graph.isSome then .error .invalid
  else .ok { progress with graph := some path }

/-- Checks the option that is pending. -/
def settle (progress : Progress) : Step :=
  match progress.pending with
  | none => .ok progress
  | some none => .error .invalid
  | some (some path) => setGraph { progress with pending := none } path

def graphOption (progress : Progress) : Option String → Step
  | some path => do setGraph (← settle progress) path
  | none => do .ok { ← settle progress with pending := some none }

def dumpOption (progress : Progress) : Step := do
  let progress ← settle progress
  if progress.dump then .error .invalid else .ok { progress with dump := true }

def request (progress : Progress) (asked : Request) : Step := do
  let _ ← settle progress
  .error asked

/-- An option after two dashes, with the value after its equals sign if it has one. -/
def long (progress : Progress) (name : String) (value : Option String) : Step :=
  match name, value with
  | "graph", value => graphOption progress value
  | "dump", none => dumpOption progress
  | "verbose", none => settle progress
  | "help", none => request progress .help
  | "version", none => request progress .version
  | _, _ => .error .invalid

/-- Options of one letter after one dash. The rest after a `g` is its value. -/
def cluster (progress : Progress) : List Char → Step
  | [] => .ok progress
  | 'g' :: rest => graphOption progress (match rest with
    | [] => none
    | '=' :: path => some (String.ofList path)
    | path => some (String.ofList path))
  | 'v' :: rest => do cluster (← settle progress) rest
  | 'h' :: _ => request progress .help
  | 'V' :: _ => request progress .version
  | _ => .error .invalid

/-- An argument that is no option can only be the value of a pending one. -/
def value (progress : Progress) (argument : String) : Step :=
  match progress.pending with
  | some none => .ok { progress with pending := some (some argument) }
  | _ => .error .invalid

def step (progress : Progress) (argument : String) : Step :=
  if progress.trailing then .error .invalid
  else match argument.toList with
    | ['-', '-'] => .ok { progress with trailing := true }
    | '-' :: '-' :: rest =>
      long progress (String.ofList (rest.takeWhile (· ≠ '=')))
        (match rest.dropWhile (· ≠ '=') with
          | [] => none
          | _ :: value => some (String.ofList value))
    | '-' :: letter :: rest => cluster progress (letter :: rest)
    | _ => value progress argument

def read (arguments : List String) : Request :=
  match arguments.foldlM step {} >>= settle with
  | .ok progress => .run progress.graph progress.dump
  | .error request => request

end Arguments

structure Exit where
  code : Nat
  output : String
  deriving DecidableEq, Repr

namespace CommandLine

def versionText : String := "iparser-console 0.1.0\n"

def helpText : String :=
  "Interactive line-mode console for iparser state machines\n\n" ++
  "Usage: iparser-console [OPTIONS]\n\n" ++
  "Options:\n" ++
  "  -g, --graph <FILE>  JSON graph description, the built-in demo graph when omitted\n" ++
  "      --dump          Print every state with its branches and exit\n" ++
  "  -v, --verbose...    Raise the log level, once for debug and twice for trace\n" ++
  "  -h, --help          Print help\n" ++
  "  -V, --version       Print version\n"

/-- The graph of a path, or the demo graph. A file that cannot be read is absent. -/
def loadGraph? (files : String → Option String) : Option String → Option Graph
  | none => some .demo
  | some path => (files path).bind Graph.ofString?

def runMachine (machine : Machine Unit) (dump : Bool) (input : List UInt8) : Exit :=
  if dump then ⟨0, machine.dump⟩
  else
    let session := Session.run machine input
    ⟨if session.error?.isSome then 1 else 0, session.outputText⟩

def run (engine : Engine) (arguments : List String) (files : String → Option String)
    (input : List UInt8) : Exit :=
  match Arguments.read arguments with
  | .invalid => ⟨2, ""⟩
  | .help => ⟨0, helpText⟩
  | .version => ⟨0, versionText⟩
  | .run path dump => match (loadGraph? files path).map (Graph.build engine) with
    | some (.ok machine) => runMachine machine dump input
    | _ => ⟨1, ""⟩

end CommandLine
end StateNest
