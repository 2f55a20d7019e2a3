import Mathlib.Data.List.Forall2
import StateNest.Proofs.Invariant

/-!
# States with other branches

The branches of a state are only looked at while its patterns are followed. A step
through a pattern, a callback and a replay have no use for them, so that a machine
with other branches goes the same way as long as it decides the same.
-/

set_option autoImplicit false

namespace StateNest

def State.Rebranched {Memory : Type} (state other : State Memory) : Prop :=
  other = { state with branches := other.branches }

namespace Tracker

variable {Memory : Type}

theorem stateAt_rel {R : State Memory → State Memory → Prop} {states others : List (State Memory)}
    (h : List.Forall₂ R states others) (hempty : R {} {}) (id : StateId) :
    R (stateAt states id) (stateAt others id) := by
  by_cases hid : id < states.length
  · have hid' : id < others.length := h.length_eq ▸ hid
    rw [stateAt, stateAt, List.getD_eq_getElem?_getD, List.getD_eq_getElem?_getD,
      List.getElem?_eq_getElem hid, List.getElem?_eq_getElem hid']
    exact h.get hid hid'
  · have hle : states.length ≤ id := Nat.le_of_not_lt hid
    rw [Machine.stateAt_empty hle, Machine.stateAt_empty (h.length_eq ▸ hle)]
    exact hempty

section Rebranched

variable {states others : List (State Memory)} (h : List.Forall₂ State.Rebranched states others)
include h

theorem stateAt_rebranched (id : StateId) :
    stateAt others id = { stateAt states id with branches := (stateAt others id).branches } :=
  stateAt_rel (R := State.Rebranched) h rfl id

theorem stepEntry_rebranched (symbol : Char) (t : Tracker) (id : StateId) :
    stepEntry others symbol t id = stepEntry states symbol t id := by
  rw [stepEntry, stateAt_rebranched h id]
  rfl

theorem stepLeave_rebranched (symbol : Char) (t : Tracker) (id : StateId) :
    stepLeave others symbol t id = stepLeave states symbol t id := by
  rw [stepLeave, stateAt_rebranched h id]
  rfl

theorem stepBranches_rebranched (symbol : Char) (branches : List StateId) (t : Tracker)
    (live : Nat) (candidate : Option StateId) :
    stepBranches others symbol branches t live candidate =
      stepBranches states symbol branches t live candidate := by
  induction branches generalizing t live candidate with
  | nil => rfl
  | cons branch branches ih =>
    rw [stepBranches, stepBranches, stepEntry_rebranched h]
    simp only [ih]

end Rebranched

end Tracker

namespace Machine

variable {Memory : Type}

def withStates (m : Machine Memory) (states : List (State Memory)) : Machine Memory :=
  { m with states }

end Machine

def Outcome.withStates {Memory : Type} (outcome : Outcome Memory) (states : List (State Memory)) :
    Outcome Memory :=
  { outcome with machine := outcome.machine.withStates states }

namespace Machine

variable {Memory : Type}

section Act

variable {m : Machine Memory} {states : List (State Memory)}
  (h : List.Forall₂ State.Rebranched m.states states)
include h

theorem stateAt_withStates (id : StateId) : (m.withStates states).stateAt id =
    { m.stateAt id with branches := ((m.withStates states).stateAt id).branches } :=
  Tracker.stateAt_rebranched h id

theorem enter_withStates (target : StateId) :
    (m.withStates states).enter target = (m.enter target).withStates states := by
  have hs := stateAt_withStates h target
  rcases ha : answer (m.stateAt target).onEnter m.memory m.buffer with ⟨failure | ⟨⟩, memory⟩
  · rw [enter_failed m target memory failure ha,
      enter_failed (m.withStates states) target memory failure (by rw [hs]; exact ha)]
    rfl
  · rw [enter_ok m target memory ha,
      enter_ok (m.withStates states) target memory (by rw [hs]; exact ha), hs]
    rfl

theorem leave_withStates (id : StateId) :
    (m.withStates states).leave id = (m.leave id).withStates states := by
  have hs := stateAt_withStates h id
  rcases ha : answer (m.stateAt id).onLeave m.memory m.buffer with ⟨failure | ⟨⟩, memory⟩
  · rw [leave_failed m id memory failure ha,
      leave_failed (m.withStates states) id memory failure (by rw [hs]; exact ha)]
    rfl
  · rw [leave_ok m id memory ha,
      leave_ok (m.withStates states) id memory (by rw [hs]; exact ha), hs]
    rfl

end Act

theorem replay_withStates (handler : StateId) (text : List Char) (m : Machine Memory)
    {states : List (State Memory)} (h : List.Forall₂ State.Rebranched m.states states) :
    replay handler text (m.withStates states) = (replay handler text m).withStates states := by
  induction text generalizing handler m with
  | nil => rfl
  | cons symbol rest ih =>
    have hs := stateAt_withStates h handler
    have hlen : (m.withStates states).states.length = m.states.length := h.length_eq.symm
    have hskips : ((m.withStates states).stateAt handler).ignore = (m.stateAt handler).ignore := by
      rw [hs]
    have hcalls : ((m.withStates states).stateAt handler).onMiss = (m.stateAt handler).onMiss := by
      rw [hs]
    cases hskip : (m.stateAt handler).ignore.skipsInHandler symbol with
    | true =>
      rw [replay_skipped rest hskip, replay_skipped rest (by rw [hskips, hskip])]
      exact ih handler m h
    | false =>
      have hskip' := hskip
      rw [← hskips] at hskip'
      cases hcall : (m.stateAt handler).onMiss with
      | none =>
        rw [replay_unhandled rest hcall, replay_unhandled rest (hcalls.trans hcall)]
        exact ih handler m h
      | some call =>
        have hcall' := hcalls.trans hcall
        rcases hm : call m.memory symbol with ⟨failure | _ | target, memory⟩
        · rw [replay_failed rest hskip hcall hm, replay_failed rest hskip' hcall' hm]
          rfl
        · rw [replay_consumed rest hskip hcall hm, replay_consumed rest hskip' hcall' hm]
          exact congrArg (Outcome.after · _) (ih handler { m with memory } h)
        · by_cases ht : target < m.states.length
          · have ht' := ht
            rw [← hlen] at ht'
            cases hp : m.options.hardsetReplay with
            | stop =>
              rw [replay_stopped rest hskip hcall hm ht hp,
                replay_stopped rest hskip' hcall' hm ht' hp]
              rfl
            | «continue» =>
              rw [replay_continued rest hskip hcall hm ht hp,
                replay_continued rest hskip' hcall' hm ht' hp]
              exact congrArg (Outcome.after · _) (ih target (hardSet { m with memory } target) h)
          · rw [replay_refused rest hskip hcall hm ht,
              replay_refused rest hskip' hcall' hm (by rwa [hlen]), hlen, hs]
            rfl

theorem act_withStates {m : Machine Memory} {states : List (State Memory)}
    (h : List.Forall₂ State.Rebranched m.states states) (verdict : Verdict) :
    (m.withStates states).act verdict = (m.act verdict).withStates states := by
  cases verdict with
  | enter target => exact enter_withStates h target
  | pop => exact leave_withStates h m.active
  | undecided => rfl
  | miss =>
    have hr := replay_withStates m.active m.buffer { m with buffer := [], status := .miss } h
    exact congrArg (Outcome.after · _) hr

/-- A machine with other branches that decides the same does the same. -/
theorem parse_withStates {m : Machine Memory} {states : List (State Memory)}
    (h : List.Forall₂ State.Rebranched m.states states) (symbol : Char)
    (hd : m.started = true → (m.stateAt m.active).ignore.skips symbol = false →
      m.tracker.classify states symbol m.active = m.tracker.classify m.states symbol m.active) :
    (m.withStates states).parse symbol = (m.parse symbol).withStates states := by
  cases hs : m.started with
  | false =>
    rw [parse_refused symbol hs, parse_refused (m := m.withStates states) symbol hs]
    rfl
  | true =>
    have hskips : ((m.withStates states).stateAt m.active).ignore.skips symbol =
        (m.stateAt m.active).ignore.skips symbol := by rw [stateAt_withStates h]
    cases hi : (m.stateAt m.active).ignore.skips symbol with
    | true =>
      rw [parse_ignored m symbol hs hi,
        parse_ignored (m.withStates states) symbol hs (hskips.trans hi)]
      simp only [ignore, Outcome.withStates, withStates]
      split <;> rfl
    | false =>
      rcases hc : m.tracker.classify m.states symbol m.active with ⟨verdict, tracker⟩
      have hc' := (hd hs hi).trans hc
      rw [parse_classified m symbol hs hi verdict tracker hc,
        parse_classified (m.withStates states) symbol hs (hskips.trans hi) verdict tracker hc']
      exact congrArg (Outcome.after · _) (act_withStates
        (m := { m with buffer := m.buffer ++ [symbol], tracker, status := .wait }) h verdict)

end Machine
end StateNest
