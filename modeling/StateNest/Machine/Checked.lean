import StateNest.Machine.Parse

/-!
# Checked look-ups

A machine looks up states and counters by their positions all the time. Here
each look-up fails where nothing stands at a position, and the whole call
fails with it. This includes the names that only the log needs.
-/

set_option autoImplicit false

namespace StateNest

namespace Tracker

variable {Memory : Type} (states : List (State Memory)) (symbol : Char)

def entryStep? (tracker : Tracker) (id : StateId) : Option (Step × Tracker) := do
  let state ← states[id]?
  let progress ← tracker.entry[id]?
  let (outcome, progress) := state.entry.step progress symbol
  some (outcome, { tracker with entry := tracker.entry.set id progress })

def leaveStep? (tracker : Tracker) (id : StateId) : Option (Step × Tracker) := do
  let state ← states[id]?
  let progress ← tracker.leave[id]?
  let (outcome, progress) := state.leave.step progress symbol
  some (outcome, { tracker with leave := tracker.leave.set id progress })

def branchSteps? :
    List StateId → Tracker → Nat → Option StateId → Option (Verdict × Tracker)
  | [], tracker, live, candidate => some (settle tracker live candidate)
  | branch :: branches, tracker, live, candidate =>
    match entryStep? states symbol tracker branch with
    | none => none
    | some (.complete, tracker) => some (.enter branch, tracker)
    | some (.lost, tracker) => branchSteps? branches tracker live candidate
    | some (_, tracker) => branchSteps? branches tracker (live + 1) (some branch)

def undetermined? (tracker : Tracker) (active : StateId) : Option (Verdict × Tracker) := do
  let state ← states[active]?
  match ← leaveStep? states symbol tracker active with
  | (.complete, tracker) => some (.pop, tracker)
  | (outcome, tracker) =>
    branchSteps? states symbol state.branches tracker (if outcome.isLive then 1 else 0) none

def classify? (tracker : Tracker) (active : StateId) : Option (Verdict × Tracker) :=
  match tracker.phase with
  | .undetermined => undetermined? states symbol tracker active
  | .entering target => (entryStep? states symbol tracker target).map (locked (.enter target))
  | .leaving => (leaveStep? states symbol tracker active).map (locked .pop)

end Tracker

namespace Machine

variable {Memory : Type}

def fail? (machine : Machine Memory) (failure : Failure) : Option (Outcome Memory) := do
  let _ ← machine.state? machine.active
  some (machine.fail failure)

def enter? (machine : Machine Memory) (target : StateId) : Option (Outcome Memory) := do
  let pushed := { machine with chain := machine.chain ++ [target] }
  let state ← pushed.state? target
  match pushed.callOnBuffer state.onEnter (.entering target) with
  | (.error failure, machine, events) => some ((← machine.fail? failure).after events)
  | (.ok _, machine, events) =>
    let _ ← machine.state? target
    some {
      result := .ok true
      machine := { machine.reset with status := .branch }
      journal := events ++ [.branched target machine.buffer] }

def leave? (machine : Machine Memory) (active : StateId) : Option (Outcome Memory) := do
  let state ← machine.state? active
  match machine.callOnBuffer state.onLeave (.leaving active) with
  | (.error failure, machine, events) => some ((← machine.fail? failure).after events)
  | (.ok _, machine, events) =>
    let _ ← machine.state? active
    some {
      result := .ok true
      machine := { machine.reset with chain := pop machine.chain, status := .back }
      journal := events ++ [.returned active machine.buffer] }

def replay? (handler : StateId) : List Char → Machine Memory → Option (Outcome Memory)
  | [], machine => some ⟨.ok true, machine, []⟩
  | symbol :: rest, machine => do
    let state ← machine.state? handler
    if state.ignore.skipsInHandler symbol then replay? handler rest machine
    else match state.onMiss with
      | none => replay? handler rest machine
      | some call =>
        let (answer, memory) := call machine.memory symbol
        let machine := { machine with memory }
        let event := Event.handled handler symbol answer
        match answer with
        | .error failure => some ((← machine.fail? failure).after [event])
        | .ok none => some ((← replay? handler rest machine).after [event])
        | .ok (some target) =>
          if target < machine.states.length then
            let _ ← machine.state? target
            let events := [event, .hardSet handler target symbol]
            match machine.options.hardsetReplay with
            | .stop => some ⟨.ok true, machine.hardSet target, events⟩
            | .continue =>
              some ((← replay? target rest (machine.hardSet target)).after events)
          else
            some ⟨.error (.invalidStateIndex state.name target machine.states.length), machine,
              [event]⟩

def flush? (machine : Machine Memory) : Option (Outcome Memory) := do
  let _ ← machine.state? machine.active
  let outcome ←
    replay? machine.active machine.buffer { machine with buffer := [], status := .miss }
  some (outcome.after [.missed machine.active machine.buffer])

def act? (machine : Machine Memory) : Verdict → Option (Outcome Memory)
  | .enter target => machine.enter? target
  | .pop => machine.leave? machine.active
  | .miss => machine.flush?
  | .undecided => some ⟨.ok true, machine, []⟩

def parse? (machine : Machine Memory) (symbol : Char) : Option (Outcome Memory) :=
  if machine.started then do
    let waiting := { machine with status := .wait }
    let active := machine.active
    let state ← machine.state? active
    if state.ignore.skips symbol then
      some ⟨.ok true, waiting.ignore symbol, [.ignored active symbol]⟩
    else
      let (verdict, tracker) ← machine.tracker.classify? machine.states symbol active
      let outcome ←
        act? { waiting with buffer := machine.buffer ++ [symbol], tracker } verdict
      some (outcome.after [.classified active symbol verdict])
  else some ⟨.error .notStarted, machine, []⟩

/-- The name of the innermost active state, if there is one. -/
def currentStateName? (machine : Machine Memory) : Option (Option String) :=
  match machine.currentState with
  | none => some none
  | some id => (machine.state? id).map fun state => some state.name

end Machine
end StateNest
