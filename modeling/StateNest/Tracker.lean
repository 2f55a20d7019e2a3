import StateNest.State

/-!
# Tracking patterns

The tracker keeps how far the entry and the leave pattern of each state have
been matched, and classifies one symbol at a time. While several patterns may
still complete, all of them are followed; once a single one is left, only
that one is.
-/

set_option autoImplicit false

namespace StateNest

inductive Phase where
  | undetermined
  | entering (target : StateId)
  | leaving
  deriving DecidableEq, Repr

/-- What a symbol has decided. -/
inductive Verdict where
  | enter (target : StateId)
  | pop
  | undecided
  | miss
  deriving DecidableEq, Repr

/-- How a symbol moved the progress through one pattern. -/
inductive Step where
  | complete
  | advanced
  | backtracked
  | lost
  deriving DecidableEq, Repr

def Step.isLive : Step → Bool
  | .advanced | .backtracked => true
  | .complete | .lost => false

/-- Moves the progress through a pattern by one symbol. A symbol that does not extend the match
falls back to the last position before it that it matches. -/
def Pattern.step (pattern : Pattern) (progress : Nat) (symbol : Char) : Step × Nat :=
  if pattern.matchesAt progress symbol then
    if pattern.length ≤ progress + 1 then (.complete, progress + 1) else (.advanced, progress + 1)
  else match pattern.checkback progress symbol with
    | some position => (.backtracked, position + 1)
    | none => (.lost, 0)

structure Tracker where
  phase : Phase := .undetermined
  entry : List Nat := []
  leave : List Nat := []
  deriving DecidableEq, Repr, Inhabited

namespace Tracker

/-- Follows one more state. -/
def track (tracker : Tracker) : Tracker :=
  { tracker with entry := tracker.entry ++ [0], leave := tracker.leave ++ [0] }

def reset (tracker : Tracker) : Tracker where
  phase := .undetermined
  entry := tracker.entry.map fun _ => 0
  leave := tracker.leave.map fun _ => 0

def progress (tracker : Tracker) (state : StateId) : Option (Nat × Nat) := do
  some (← tracker.entry[state]?, ← tracker.leave[state]?)

section Classify

variable {Memory : Type} (states : List (State Memory)) (symbol : Char)

def stateAt (id : StateId) : State Memory := states.getD id {}

def stepEntry (tracker : Tracker) (id : StateId) : Step × Tracker :=
  let (outcome, progress) := (stateAt states id).entry.step (tracker.entry.getD id 0) symbol
  (outcome, { tracker with entry := tracker.entry.set id progress })

def stepLeave (tracker : Tracker) (id : StateId) : Step × Tracker :=
  let (outcome, progress) := (stateAt states id).leave.step (tracker.leave.getD id 0) symbol
  (outcome, { tracker with leave := tracker.leave.set id progress })

/-- Follows only the last live pattern, if there is just one. -/
def settle (tracker : Tracker) : Nat → Option StateId → Verdict × Tracker
  | 0, _ => (.miss, tracker)
  | 1, some branch => (.undecided, { tracker with phase := .entering branch })
  | 1, none => (.undecided, { tracker with phase := .leaving })
  | _, _ => (.undecided, tracker)

/-- Moves the entries of the branches in order, until one is complete. Given are the number of
live patterns so far and the last branch among them. -/
def stepBranches : List StateId → Tracker → Nat → Option StateId → Verdict × Tracker
  | [], tracker, live, candidate => settle tracker live candidate
  | branch :: branches, tracker, live, candidate =>
    match stepEntry states symbol tracker branch with
    | (.complete, tracker) => (.enter branch, tracker)
    | (.lost, tracker) => stepBranches branches tracker live candidate
    | (_, tracker) => stepBranches branches tracker (live + 1) (some branch)

/-- Leaving the active state wins over entering a branch. -/
def undetermined (tracker : Tracker) (active : StateId) : Verdict × Tracker :=
  match stepLeave states symbol tracker active with
  | (.complete, tracker) => (.pop, tracker)
  | (outcome, tracker) =>
    stepBranches states symbol (stateAt states active).branches tracker
      (if outcome.isLive then 1 else 0) none

/-- The verdict on the one pattern that is followed; once it is decided, all are again. -/
def locked (complete : Verdict) : Step × Tracker → Verdict × Tracker
  | (.complete, tracker) => (complete, { tracker with phase := .undetermined })
  | (.lost, tracker) => (.miss, { tracker with phase := .undetermined })
  | (_, tracker) => (.undecided, tracker)

def classify (tracker : Tracker) (active : StateId) : Verdict × Tracker :=
  match tracker.phase with
  | .undetermined => undetermined states symbol tracker active
  | .entering target => locked (.enter target) (stepEntry states symbol tracker target)
  | .leaving => locked .pop (stepLeave states symbol tracker active)

end Classify

end Tracker
end StateNest
