import StateNest.Machine.Basic
import StateNest.Machine.Event

/-!
# Parsing

The machine takes one symbol at a time. The symbol is ignored, or classified
and then waited on, or it completes the entry of a branch or the leave of the
active state, or nothing explains the buffer, which is then replayed to the
handler of the active state. A callback that fails stops this at once.
-/

set_option autoImplicit false

namespace StateNest

/-- What a call gives back: its result, the machine after it, and the journal of the call. The
result is `false` if a callback failed. -/
structure Outcome (Memory : Type) where
  result : Except Error Bool
  machine : Machine Memory
  journal : Journal

namespace Outcome

variable {Memory : Type}

/-- The same outcome with events that happened before it. -/
def after (outcome : Outcome Memory) (events : Journal) : Outcome Memory :=
  { outcome with journal := events ++ outcome.journal }

end Outcome

namespace Machine

variable {Memory : Type}

/-- Keeps the failure of a callback; the chain and the buffer stay as they are. -/
def fail (machine : Machine Memory) (failure : Failure) : Outcome Memory where
  result := .ok false
  machine := { machine with status := .error, failure := some failure }
  journal := [.failed machine.active failure]

/-- Calls a callback on the buffer, if there is one. -/
def callOnBuffer (machine : Machine Memory) (callback : Option (Callback Memory (List Char) Unit))
    (event : List Char → Except Failure Unit → Event) :
    Except Failure Unit × Machine Memory × Journal :=
  match callback with
  | none => (.ok (), machine, [])
  | some call =>
    let (answer, memory) := call machine.memory machine.buffer
    (answer, { machine with memory }, [event machine.buffer answer])

/-- Pushes a branch whose entry pattern is complete. -/
def enter (machine : Machine Memory) (target : StateId) : Outcome Memory :=
  let pushed := { machine with chain := machine.chain ++ [target] }
  match pushed.callOnBuffer (pushed.stateAt target).onEnter (.entering target) with
  | (.error failure, machine, events) => (machine.fail failure).after events
  | (.ok _, machine, events) =>
    { result := .ok true
      machine := { machine.reset with status := .branch }
      journal := events ++ [.branched target machine.buffer] }

/-- The chain without its last state. The root is never left. -/
def pop (chain : List StateId) : List StateId :=
  if 1 < chain.length then chain.dropLast else chain

/-- Leaves the active state, whose leave pattern is complete. -/
def leave (machine : Machine Memory) (active : StateId) : Outcome Memory :=
  match machine.callOnBuffer (machine.stateAt active).onLeave (.leaving active) with
  | (.error failure, machine, events) => (machine.fail failure).after events
  | (.ok _, machine, events) =>
    { result := .ok true
      machine := { machine.reset with chain := pop machine.chain, status := .back }
      journal := events ++ [.returned active machine.buffer] }

/-- Pushes the state that a handler asks for. -/
def hardSet (machine : Machine Memory) (target : StateId) : Machine Memory :=
  { machine.reset with chain := machine.chain ++ [target], status := .hardset }

/-- Hands missed symbols to a handler one by one. Once the handler sets a state, the rest goes
to the handler of that state or is dropped. -/
def replay (handler : StateId) : List Char → Machine Memory → Outcome Memory
  | [], machine => ⟨.ok true, machine, []⟩
  | symbol :: rest, machine =>
    let state := machine.stateAt handler
    if state.ignore.skipsInHandler symbol then replay handler rest machine
    else match state.onMiss with
      | none => replay handler rest machine
      | some call =>
        let (answer, memory) := call machine.memory symbol
        let machine := { machine with memory }
        let event := Event.handled handler symbol answer
        match answer with
        | .error failure => (machine.fail failure).after [event]
        | .ok none => (replay handler rest machine).after [event]
        | .ok (some target) =>
          if target < machine.states.length then
            let events := [event, .hardSet handler target symbol]
            match machine.options.hardsetReplay with
            | .stop => ⟨.ok true, machine.hardSet target, events⟩
            | .continue => (replay target rest (machine.hardSet target)).after events
          else
            ⟨.error (.invalidStateIndex state.name target machine.states.length), machine, [event]⟩

/-- Replays the buffer, which no pattern explains, to the handler of the active state. -/
def flush (machine : Machine Memory) : Outcome Memory :=
  (replay machine.active machine.buffer { machine with buffer := [], status := .miss }).after
    [.missed machine.active machine.buffer]

/-- The machine after a symbol that the active state ignores. -/
def ignore (machine : Machine Memory) (symbol : Char) : Machine Memory :=
  match machine.options.ignorePolicy with
  | .bufferThenSkip => { machine with buffer := machine.buffer ++ [symbol] }
  | .skipUnbuffered => machine

/-- Does what a verdict on the newest symbol asks for. -/
def act (machine : Machine Memory) : Verdict → Outcome Memory
  | .enter target => machine.enter target
  | .pop => machine.leave machine.active
  | .miss => machine.flush
  | .undecided => ⟨.ok true, machine, []⟩

def parse (machine : Machine Memory) (symbol : Char) : Outcome Memory :=
  if machine.started then
    let waiting := { machine with status := .wait }
    let active := machine.active
    if (machine.stateAt active).ignore.skips symbol then
      ⟨.ok true, waiting.ignore symbol, [.ignored active symbol]⟩
    else
      let (verdict, tracker) := machine.tracker.classify machine.states symbol active
      ({ waiting with buffer := machine.buffer ++ [symbol], tracker }.act verdict).after
        [.classified active symbol verdict]
  else ⟨.error .notStarted, machine, []⟩

/-- Takes symbols in order until a callback fails or a call is refused. -/
def parseAll (machine : Machine Memory) : List Char → Outcome Memory
  | [] => ⟨.ok true, machine, []⟩
  | symbol :: rest =>
    let outcome := machine.parse symbol
    match outcome.result with
    | .ok true => (outcome.machine.parseAll rest).after outcome.journal
    | _ => outcome

end Machine
end StateNest
