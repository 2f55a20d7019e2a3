import StateNest.Graph.Basic
import StateNest.Json.Reader

/-!
# Graphs as JSON

A record is an object of its fields in any order, or an array of their values
in the order of declaration. A field with a default may be left out, in an
array only at the end; it may not be null. No field comes twice. Other members
are refused in a graph, a state and an ignore record; in the options they are
passed over, and in an expression too if they are sound and not nested too
deep.
-/

set_option autoImplicit false

namespace StateNest
namespace Graph

/-- The values of the known fields of a record, in order. -/
def fields? (known : List String) (strict : Bool) : Json → Option (List (Option Json))
  | .object members => do
    let named ← members.mapM fun member => member.1.map fun name => (name, member.2)
    let ours := named.filter fun member => known.contains member.1
    if (strict && ours.length < named.length) || ¬ (ours.map Prod.fst).Nodup then none
    else some (known.map (ours.lookup ·))
  | .array items =>
    if known.length < items.length then none
    else some (items.map some ++ List.replicate (known.length - items.length) none)
  | _ => none

/-- A value that is absent, or read. -/
def optional? {α : Type} (default : α) (read : Json → Option α) : Option Json → Option α
  | none => some default
  | some value => read value

def string? : Json → Option String
  | .string value => value
  | _ => none

def list? {α : Type} (read : Json → Option α) : Json → Option (List α)
  | .array items => items.mapM read
  | _ => none

def symbolOf? (text : String) : Option Char :=
  match text.toList with
  | [symbol] => some symbol
  | _ => none

def symbol? (value : Json) : Option Char := (string? value).bind symbolOf?

/-- One of several names, also as the single member of an object with the value null. -/
def choice? {α : Type} (choices : List (String × α)) : Json → Option α
  | .string value => value.bind (choices.lookup ·)
  | .object [(name, .null)] => name.bind (choices.lookup ·)
  | _ => none

def ignorePolicy? : Json → Option IgnorePolicy :=
  choice? [("buffer_then_skip", .bufferThenSkip), ("skip_unbuffered", .skipUnbuffered)]

def hardsetReplay? : Json → Option HardsetReplay :=
  choice? [("stop", .stop), ("continue", .continue)]

def options? (value : Json) : Option Options :=
  match fields? ["ignore_policy", "hardset_replay"] false value with
  | some [policy, replay] => do
    some ⟨← optional? .bufferThenSkip ignorePolicy? policy,
      ← optional? .stop hardsetReplay? replay⟩
  | _ => none

/-- The deepest nesting of a text, and the nesting of an element in it. -/
def nestingLimit : Nat := 127
def elementNesting : Nat := 4

def element? : Json → Option ElementSpec
  | .string value => (value.bind symbolOf?).map .literal
  | .object members =>
    if (Json.object members).isSound &&
        (Json.object members).depth + elementNesting ≤ nestingLimit then
      match members.filter fun member => member.1 = some "regex" with
      | [(_, value)] => (string? value).map .regex
      | _ => none
    else none
  | _ => none

def ignore? (value : Json) : Option IgnoreSpec :=
  match fields? ["all", "handler"] true value with
  | some [all, handler] => do
    some ⟨← optional? [] (list? symbol?) all, ← optional? [] (list? symbol?) handler⟩
  | _ => none

/-- Gives a symbol a target, in place of the one that it had. -/
def setTarget (targets : List (Char × String)) (symbol : Char) (target : String) :
    List (Char × String) :=
  if targets.any (·.1 = symbol) then
    targets.map fun entry => if entry.1 = symbol then (symbol, target) else entry
  else targets ++ [(symbol, target)]

def hardset? : Json → Option (List (Char × String))
  | .object members => do
    let entries ← members.mapM fun member => do
      some (← member.1.bind symbolOf?, ← string? member.2)
    some (entries.foldl (fun targets entry => setTarget targets entry.1 entry.2) [])
  | _ => none

def state? (value : Json) : Option StateSpec :=
  match fields? ["name", "entry", "leave", "branches", "ignore", "hardset"] true value with
  | some [some name, entry, leave, branches, ignore, hardset] => do
    some {
      name := ← string? name
      entry := ← optional? [] (list? element?) entry
      leave := ← optional? [] (list? element?) leave
      branches := ← optional? [] (list? string?) branches
      ignore := ← optional? {} ignore? ignore
      hardset := ← optional? [] hardset? hardset }
  | _ => none

def ofJson? (value : Json) : Option Graph :=
  match fields? ["options", "states"] true value with
  | some [options, some states] => do
    some ⟨← optional? {} options? options, ← list? state? states⟩
  | _ => none

def ofString? (text : String) : Option Graph := (Json.ofString? text).bind ofJson?

end Graph
end StateNest
