import StateNest.Proofs.Building
import StateNest.Proofs.Conservation

/-!
# Machines that take every symbol

A started machine is reliable if no callback of its states ever fails and
handlers ask only for states that exist. Such a machine takes every symbol: it
never refuses one and never ends up in an error, and is as reliable as before.
The machine of a graph is reliable.
-/

set_option autoImplicit false

namespace StateNest

structure State.Reliable {Memory : Type} (count : Nat) (state : State Memory) : Prop where
  onEnter : ∀ call, state.onEnter = some call → ∀ memory text, (call memory text).1 = .ok ()
  onLeave : ∀ call, state.onLeave = some call → ∀ memory text, (call memory text).1 = .ok ()
  onMiss : ∀ call, state.onMiss = some call → ∀ memory symbol,
    ∃ answer, (call memory symbol).1 = .ok answer ∧ ∀ target ∈ answer, target < count

namespace Machine

variable {Memory : Type}

structure Reliable (m : Machine Memory) : Prop where
  started : m.started = true
  status : m.status ≠ .error
  failure : m.failure = none
  states : ∀ state ∈ m.states, state.Reliable m.states.length

structure Taken (outcome : Outcome Memory) : Prop where
  result : outcome.result = .ok true
  status : outcome.machine.status ≠ .error
  unfailed : ∀ event ∈ outcome.journal, event.failure? = none

theorem Reliable.stateAt {m : Machine Memory} (h : Reliable m) (id : StateId) :
    (m.stateAt id).Reliable m.states.length := by
  by_cases hid : id < m.states.length
  · exact h.states _ (stateAt_mem hid)
  · rw [Machine.stateAt, stateAt_empty (Nat.le_of_not_lt hid)]
    constructor <;> simp

theorem answer_unfailed {callback : Option (Callback Memory (List Char) Unit)}
    (h : ∀ call, callback = some call → ∀ memory text, (call memory text).1 = .ok ())
    {before after : Memory} {text : List Char} {failure : Failure} :
    answer callback before text ≠ (.error failure, after) := by
  intro ha
  cases callback with
  | none => simp [answer] at ha
  | some call =>
    have hok := h call rfl before text
    rw [show call before text = _ from ha] at hok
    simp at hok

theorem replay_granted (handler : StateId) (text : List Char) (m : Machine Memory)
    (h : ∀ id, (m.stateAt id).Reliable m.states.length) :
    ∀ event ∈ (replay handler text m).journal, event.Granted m.states.length := by
  fun_induction replay handler text m with
  | case1 handler m => simp
  | case2 handler symbol rest m state hskip ih => exact ih h
  | case3 handler symbol rest m state hskip hm ih => exact ih h
  | case4 handler symbol rest m state hskip call hcall memory n failure hm event =>
    obtain ⟨answer, ha, -⟩ := (h handler).onMiss call hcall m.memory symbol
    rw [hm] at ha
    simp at ha
  | case5 handler symbol rest m state hskip call hcall memory n hm event ih =>
    simpa [event, Event.Granted] using ih h
  | case6 handler symbol rest m state hskip call hcall memory n target ht hstop hm event events =>
    simpa [events, event, Event.Granted] using ht
  | case7 handler symbol rest m state hskip call hcall memory n target ht hcont hm event events ih =>
    have hlater := ih h
    simp only [Outcome.after_journal, List.forall_mem_append]
    exact ⟨by simpa [events, event, Event.Granted] using ht, hlater⟩
  | case8 handler symbol rest m state hskip call hcall memory n target ht hm event =>
    obtain ⟨answer, ha, hknown⟩ := (h handler).onMiss call hcall m.memory symbol
    rw [hm] at ha
    obtain rfl := Except.ok.inj ha
    exact absurd (hknown target rfl) ht

theorem Reliable.parse_taken {m : Machine Memory} (h : Reliable m) (symbol : Char) :
    Taken (m.parse symbol) := by
  have hm := parse_move m symbol h.started
  generalize m.parse symbol = outcome at hm
  cases hm with
  | ignored hi =>
    refine ⟨rfl, ?_, by simp⟩
    simp only [ignore]
    split <;> simp
  | waited tracker hi hc => exact ⟨rfl, by simp, by simp⟩
  | entered target tracker memory hi hc ha =>
    refine ⟨rfl, by simp, ?_⟩
    unfold called
    split <;> simp
  | enterFailed target tracker memory failure hi hc ha =>
    exact absurd ha (answer_unfailed (h.stateAt target).onEnter)
  | left tracker memory hi hc ha =>
    refine ⟨rfl, by simp, ?_⟩
    unfold called
    split <;> simp
  | leaveFailed tracker memory failure hi hc ha =>
    exact absurd ha (answer_unfailed (h.stateAt m.active).onLeave)
  | missed tracker events middle outcome hi hc hp he hs hr =>
    -- All that the handlers answer is granted, so the replay ends neither in a failure nor refused.
    have hg := replay_granted m.active (m.buffer ++ [symbol])
      { m with buffer := [], tracker, status := .miss } h.stateAt
    rw [← hr] at hg
    obtain rfl := he.finished_of_granted (by rw [hp.states]; exact hg)
    refine ⟨rfl, ?_, ?_⟩
    · rw [Outcome.after_machine, hp.status]
      split <;> simp
    · simpa using fun event hin => (hg event hin).1

theorem Reliable.parse {m : Machine Memory} (h : Reliable m) (symbol : Char) :
    Reliable (m.parse symbol).machine := by
  obtain ⟨hstates, -, hstarted⟩ := parse_setup m symbol
  have ht := h.parse_taken symbol
  have hfailure := move_failure (parse_move m symbol h.started) (by simp [ht.result])
  exact ⟨hstarted.trans h.started, ht.status, hfailure.trans h.failure,
    by rw [hstates]; exact h.states⟩

/-- Whatever text is fed to a reliable machine, each of its symbols is taken. -/
theorem Reliable.outcomes_taken {m : Machine Memory} (h : Reliable m) (text : List Char) :
    ∀ outcome ∈ m.outcomes text, Taken outcome := by
  induction text generalizing m with
  | nil => simp [outcomes]
  | cons symbol text ih =>
    rw [outcomes, List.forall_mem_cons]
    exact ⟨h.parse_taken symbol, ih (h.parse symbol)⟩

theorem Reliable.feed {m : Machine Memory} (h : Reliable m) (text : List Char) :
    Reliable (m.feed text) :=
  feed_keeps (fun _ symbol hm => hm.parse symbol) m text h

end Machine

/-- The callbacks of a described state agree to everything, and the names that its handler goes by
are those of states. -/
theorem Graph.Realizes.reliable {engine : Engine} {names : List String} {spec : StateSpec}
    {state : State Unit} (h : Realizes engine names spec state) : state.Reliable names.length where
  onEnter := by
    intro call hcall memory text
    obtain rfl := Option.some.inj (h.onEnter.symm.trans hcall)
    rfl
  onLeave := by
    intro call hcall memory text
    obtain rfl := Option.some.inj (h.onLeave.symm.trans hcall)
    rfl
  onMiss := by
    intro call hcall memory symbol
    obtain ⟨handler, hhandler, hanswers⟩ := h.onMiss
    obtain rfl := Option.some.inj (hhandler.symm.trans hcall)
    obtain ⟨answer, ha, hrel⟩ := hanswers memory symbol
    refine ⟨answer, by rw [ha], fun target ht => ?_⟩
    obtain rfl := Option.mem_def.mp ht
    generalize spec.hardset.lookup symbol = forced at hrel
    cases hrel with
    | some hname => exact (List.getElem?_eq_some_iff.mp hname).1

theorem Graph.build_reliable {engine : Engine} {graph : Graph} {machine : Machine Unit}
    (h : graph.build engine = .ok machine) : machine.Reliable := by
  have hr := build_realized h
  obtain ⟨-, -, states, -, rfl⟩ := build_ok_iff.mp h
  refine ⟨rfl, by simp [Machine.opened], rfl, fun state hin => ?_⟩
  obtain ⟨spec, -, hs⟩ := exists_of_mem_right hr.states hin
  rw [← length_names hr.states]
  exact hs.reliable

end StateNest
