import StateNest.Machine.Checked
import StateNest.Proofs.Invariant

/-!
# Safety of the calls

No look-up of a sound machine fails, so the checked calls agree with the plain
ones. Whether a machine takes symbols at all can be read off its history: a
start has succeeded, and no state has been touched since.
-/

set_option autoImplicit false

namespace StateNest

namespace Tracker

section Lookups

variable {Memory : Type} (states : List (State Memory)) (symbol : Char)

theorem getElem_stateAt {id : StateId} (h : id < states.length) :
    states[id]? = some (stateAt states id) := by
  rw [stateAt, List.getD_eq_getElem?_getD, List.getElem?_eq_getElem h, Option.getD_some]

theorem getElem_counter {l : List Nat} {count id : Nat} (hl : l.length = count)
    (h : id < count) : l[id]? = some (l.getD id 0) := by
  rw [List.getD_eq_getElem?_getD, List.getElem?_eq_getElem (hl ▸ h), Option.getD_some]

theorem entryStep_checked {t : Tracker} {id : StateId} (ht : t.Sized states.length)
    (h : id < states.length) :
    entryStep? states symbol t id = some (stepEntry states symbol t id) := by
  rw [entryStep?, getElem_stateAt states h, getElem_counter ht.1 h]
  rfl

theorem leaveStep_checked {t : Tracker} {id : StateId} (ht : t.Sized states.length)
    (h : id < states.length) :
    leaveStep? states symbol t id = some (stepLeave states symbol t id) := by
  rw [leaveStep?, getElem_stateAt states h, getElem_counter ht.2 h]
  rfl

theorem branchSteps_checked (branches : List StateId) (t : Tracker) (live : Nat)
    (candidate : Option StateId) (ht : t.Sized states.length)
    (hb : ∀ branch ∈ branches, branch < states.length) :
    branchSteps? states symbol branches t live candidate =
      some (stepBranches states symbol branches t live candidate) := by
  induction branches generalizing t live candidate with
  | nil => rfl
  | cons branch branches ih =>
    have hrest : ∀ b ∈ branches, b < states.length := fun b h => hb b (by simp [h])
    have hstep := stepEntry_sized states symbol t branch ht
    rw [branchSteps?, stepBranches, entryStep_checked states symbol ht (hb branch (by simp))]
    rcases hs : stepEntry states symbol t branch with ⟨outcome, stepped⟩
    rw [hs] at hstep
    cases outcome with
    | complete => rfl
    | lost => exact ih stepped live candidate hstep hrest
    | advanced => exact ih stepped (live + 1) (some branch) hstep hrest
    | backtracked => exact ih stepped (live + 1) (some branch) hstep hrest

theorem undetermined_checked {t : Tracker} {active : StateId} (ht : t.Sized states.length)
    (ha : active < states.length)
    (hb : ∀ branch ∈ (stateAt states active).branches, branch < states.length) :
    undetermined? states symbol t active = some (undetermined states symbol t active) := by
  have hstep := stepLeave_sized states symbol t active ht
  rw [undetermined?, undetermined, getElem_stateAt states ha,
    leaveStep_checked states symbol ht ha]
  rcases hs : stepLeave states symbol t active with ⟨outcome, stepped⟩
  rw [hs] at hstep
  cases outcome with
  | complete => rfl
  | _ => exact branchSteps_checked states symbol _ stepped _ none hstep hb

theorem classify_checked {t : Tracker} {active : StateId} (ht : t.Sized states.length)
    (ha : active < states.length)
    (hb : ∀ branch ∈ (stateAt states active).branches, branch < states.length)
    (hp : ∀ target, t.phase = .entering target → target < states.length) :
    classify? states symbol t active = some (classify states symbol t active) := by
  unfold classify? classify
  cases hph : t.phase with
  | undetermined => exact undetermined_checked states symbol ht ha hb
  | entering target =>
    exact congrArg (Option.map _) (entryStep_checked states symbol ht (hp target hph))
  | leaving => exact congrArg (Option.map _) (leaveStep_checked states symbol ht ha)

end Lookups

end Tracker

namespace Machine

variable {Memory : Type}

@[simp] theorem look_mk (m : Machine Memory) (chain : List StateId) (buffer : List Char)
    (tracker : Tracker) (status : Status) (failure : Option Failure) (options : Options)
    (started : Bool) (memory : Memory) (id : StateId) :
    state? ⟨m.states, chain, buffer, tracker, status, failure, options, started, memory⟩ id =
      m.state? id := rfl

theorem state_checked {m : Machine Memory} {id : StateId} (h : id < m.states.length) :
    m.state? id = some (m.stateAt id) :=
  Tracker.getElem_stateAt m.states h

theorem fail_checked {m : Machine Memory} (failure : Failure) (h : m.active < m.states.length) :
    m.fail? failure = some (m.fail failure) := by
  simp [fail?, state_checked h]

theorem enter_checked {m : Machine Memory} {target : StateId} (h : target < m.states.length) :
    m.enter? target = some (m.enter target) := by
  rcases ha : answer (m.stateAt target).onEnter m.memory m.buffer with ⟨failure | ⟨⟩, memory⟩
  · simp [enter?, enter, state_checked h, callOnBuffer_eq, ha, fail?, active]
  · simp [enter?, enter, state_checked h, callOnBuffer_eq, ha]

theorem leave_checked {m : Machine Memory} (h : m.active < m.states.length) :
    m.leave? m.active = some (m.leave m.active) := by
  rcases ha : answer (m.stateAt m.active).onLeave m.memory m.buffer with ⟨failure | ⟨⟩, memory⟩
  · have hf : active { m with memory } = m.active := rfl
    simp [leave?, leave, state_checked h, callOnBuffer_eq, ha, fail?, hf]
  · simp [leave?, leave, state_checked h, callOnBuffer_eq, ha]

theorem replay_checked (handler : StateId) (text : List Char) (m : Machine Memory)
    (hh : handler < m.states.length) (ha : m.active < m.states.length) :
    replay? handler text m = some (replay handler text m) := by
  induction text generalizing handler m with
  | nil => rfl
  | cons symbol rest ih =>
    have hrest := ih handler m hh ha
    cases hskip : (m.stateAt handler).ignore.skipsInHandler symbol with
    | true => simp [replay?, replay, state_checked hh, hskip, hrest]
    | false =>
      cases hmiss : (m.stateAt handler).onMiss with
      | none => simp [replay?, replay, state_checked hh, hskip, hmiss, hrest]
      | some call =>
        rcases hcall : call m.memory symbol with ⟨failure | _ | target, memory⟩
        · have hf := fail_checked (m := { m with memory }) failure ha
          simp [replay?, replay, state_checked hh, hskip, hmiss, hcall, hf]
        · have hnext := ih handler { m with memory } hh ha
          simp [replay?, replay, state_checked hh, hskip, hmiss, hcall, hnext]
        · by_cases ht : target < m.states.length
          · -- The next handler is the state that has just become active.
            have hnext := ih target (hardSet { m with memory } target) ht
              (by simpa [hardSet, reset, active] using ht)
            cases hp : m.options.hardsetReplay with
            | stop =>
              simp [replay?, replay, state_checked hh, state_checked ht, hskip, hmiss, hcall, ht,
                hp]
            | «continue» =>
              simp [replay?, replay, state_checked hh, state_checked ht, hskip, hmiss, hcall, ht,
                hp, hnext]
          · simp [replay?, replay, state_checked hh, hskip, hmiss, hcall, ht]

theorem flush_checked {m : Machine Memory} (h : m.active < m.states.length) :
    m.flush? = some m.flush := by
  have hr := replay_checked m.active m.buffer { m with buffer := [], status := .miss } h h
  simp [flush?, flush, state_checked h, hr]

theorem parse_checked {m : Machine Memory} (symbol : Char) (h : Sound m) :
    m.parse? symbol = some (m.parse symbol) := by
  cases hs : m.started with
  | false => simp [parse?, parse, hs]
  | true =>
    have hc := h.connected hs
    have ha := hc.active_lt
    cases hi : (m.stateAt m.active).ignore.skips symbol with
    | true => simp [parse?, parse, hs, state_checked ha, hi]
    | false =>
      rcases hv : m.tracker.classify m.states symbol m.active with ⟨verdict, tracker⟩
      have hk := Tracker.classify_checked m.states symbol h.sized ha (fun _ hb => hc.branch_lt hb)
        (fun target hp => hc.branch_lt (hc.target target hp))
      rw [hv] at hk
      rw [parse_classified m symbol hs hi verdict tracker hv]
      have hact : act? { m with buffer := m.buffer ++ [symbol], tracker, status := .wait } verdict =
          some (act { m with buffer := m.buffer ++ [symbol], tracker, status := .wait } verdict) := by
        cases verdict with
        | enter target => exact enter_checked (hc.branch_lt (hc.classified hv (Or.inl rfl)))
        | pop => exact leave_checked ha
        | undecided => rfl
        | miss => exact flush_checked ha
      simp only [parse?, if_pos hs, state_checked ha, hi, hk, hact, Option.bind_eq_bind,
        Option.bind_some, Bool.false_eq_true, if_false]

theorem currentStateName_checked {m : Machine Memory} (h : Sound m) :
    m.currentStateName? = some m.currentStateName := by
  unfold currentStateName? currentStateName currentState
  cases hl : m.chain.getLast? with
  | none => rfl
  | some id => simp [state_checked (h.chain id (List.mem_of_getLast? hl))]

/-- The rest of a history after one of the starts that have succeeded. -/
def StartedBefore (made : Machine Memory) (history later : List (Call Memory)) : Prop :=
  ∃ earlier started, history = earlier ++ .prestart :: later ∧
    (made.calls earlier).prestart = .ok started

/-- The last start that has succeeded is not followed by a change of the states. -/
def InSession (made : Machine Memory) (history : List (Call Memory)) : Prop :=
  ∃ later, StartedBefore made history later ∧ ∀ c ∈ later, c.revises = false

theorem startedBefore_cons (m : Machine Memory) (c : Call Memory)
    (history later : List (Call Memory)) :
    StartedBefore m (c :: history) later ↔
      (c = .prestart ∧ history = later ∧ ∃ started, m.prestart = .ok started) ∨
        StartedBefore (m.call c) history later := by
  constructor
  · rintro ⟨earlier, started, he, hs⟩
    cases earlier with
    | nil =>
      obtain ⟨rfl, rfl⟩ := List.cons.inj he
      exact Or.inl ⟨rfl, rfl, started, hs⟩
    | cons d earlier =>
      obtain ⟨rfl, rfl⟩ := List.cons.inj he
      exact Or.inr ⟨earlier, started, rfl, hs⟩
  · rintro (⟨rfl, rfl, started, hs⟩ | ⟨earlier, started, rfl, hs⟩)
    · exact ⟨[], started, rfl, hs⟩
    · exact ⟨c :: earlier, started, rfl, hs⟩

/-- A call starts a machine by a start that succeeds, or leaves it started. -/
theorem call_started (m : Machine Memory) (c : Call Memory) :
    (m.call c).started = true ↔
      (c = .prestart ∧ ∃ started, m.prestart = .ok started) ∨
        (m.started = true ∧ c.revises = false) := by
  cases c with
  | addState state => simp [call, addState, Call.revises]
  | modifyState id change => simp [call, modifyState, Call.revises]
  | remember memory => simp [call, Call.revises]
  | prestart =>
    cases hp : m.prestart with
    | error cause => simp [call, hp, Call.revises]
    | ok started =>
      obtain ⟨rfl, -⟩ := prestart_ok hp
      simp [call, hp, fresh]
  | parse symbol =>
    obtain ⟨-, -, hs⟩ := parse_setup m symbol
    simp [call, hs, Call.revises]
  | parseAll text =>
    have hs : (m.parseAll text).machine.started = m.started :=
      parseAll_keeps (P := fun n => n.started = m.started)
        (fun n symbol hn => (parse_setup n symbol).2.2.trans hn) m text rfl
    simp [call, hs, Call.revises]

theorem calls_started (m : Machine Memory) (history : List (Call Memory)) :
    (m.calls history).started = true ↔
      InSession m history ∨ (m.started = true ∧ ∀ c ∈ history, c.revises = false) := by
  induction history generalizing m with
  | nil => simp [calls, InSession, StartedBefore]
  | cons c history ih =>
    rw [calls, ih, call_started]
    constructor
    · rintro (⟨later, hb, hq⟩ | ⟨⟨rfl, hs⟩ | ⟨hs, hc⟩, hq⟩)
      · exact Or.inl ⟨later, (startedBefore_cons m c history later).mpr (Or.inr hb), hq⟩
      · exact Or.inl
          ⟨history, (startedBefore_cons m .prestart history history).mpr (Or.inl ⟨rfl, rfl, hs⟩), hq⟩
      · exact Or.inr ⟨hs, by simpa [hc] using hq⟩
    · rintro (⟨later, hb, hq⟩ | ⟨hs, hq⟩)
      · rcases (startedBefore_cons m c history later).mp hb with ⟨rfl, rfl, hs⟩ | hb
        · exact Or.inr ⟨Or.inl ⟨rfl, hs⟩, hq⟩
        · exact Or.inl ⟨later, hb, hq⟩
      · obtain ⟨hc, hq⟩ := List.forall_mem_cons.mp hq
        exact Or.inr ⟨Or.inr ⟨hs, hc⟩, hq⟩

def Rooted (m : Machine Memory) : Prop := ∃ rest, m.chain = root :: rest

theorem parse_rooted {m : Machine Memory} (symbol : Char) (h : Sound m ∧ Rooted m) :
    Sound (m.parse symbol).machine ∧ Rooted (m.parse symbol).machine := by
  refine ⟨parse_sound symbol h.1, ?_⟩
  cases hs : m.started with
  | true => exact (parse_connected symbol hs (h.1.connected hs)).rooted
  | false =>
    rw [parse_refused symbol hs]
    exact h.2

theorem call_rooted {m : Machine Memory} (c : Call Memory) (h : Sound m ∧ Rooted m) :
    Sound (m.call c) ∧ Rooted (m.call c) := by
  refine ⟨call_sound c h.1, ?_⟩
  cases c with
  | prestart =>
    rw [call]
    split
    · next started hok => exact (prestart_ok hok).2.rooted
    · exact h.2
  | parse symbol => exact (parse_rooted symbol h).2
  | parseAll text => exact (parseAll_keeps (P := fun n => Sound n ∧ Rooted n)
      (fun n symbol => parse_rooted symbol) m text h).2
  | _ => exact h.2

/-- The root stays at the bottom of the chain once a start has succeeded. -/
theorem calls_rooted {made : Machine Memory} (h : Sound made) {history later : List (Call Memory)}
    (hb : StartedBefore made history later) : Rooted (made.calls history) := by
  obtain ⟨earlier, started, rfl, hok⟩ := hb
  have he : Sound (made.calls earlier) := calls_keeps (fun m c => call_sound c) _ earlier h
  obtain ⟨rfl, hc⟩ := prestart_ok hok
  rw [calls_append, calls, call, hok]
  exact (calls_keeps (P := fun n => Sound n ∧ Rooted n)
    (fun m c => call_rooted c) _ later ⟨fresh_sound he hc, hc.rooted⟩).2

/-- Only a machine that is not started refuses a symbol in this way. -/
theorem parse_notStarted_iff (m : Machine Memory) (symbol : Char) :
    (m.parse symbol).result = .error .notStarted ↔ m.started = false := by
  constructor
  · intro hr
    cases hs : m.started with
    | false => rfl
    | true =>
      have hm := parse_move m symbol hs
      generalize m.parse symbol = outcome at hm hr
      cases hm with
      | missed tracker events middle outcome hi hc hp he hstop hrun =>
        rw [Outcome.after_result] at hr
        cases he <;> simp at hr
      | _ => simp at hr
  · intro hs
    rw [parse_refused symbol hs]

theorem state_eq (m : Machine Memory) (id : StateId) :
    m.state? id = if id < m.states.length then some (m.stateAt id) else none := by
  split
  · next hid => exact state_checked hid
  · next hid => exact List.getElem?_eq_none (Nat.le_of_not_lt hid)

theorem Sound.progress_isSome {m : Machine Memory} (h : Sound m) (id : StateId) :
    (m.progress id).isSome = true ↔ (m.state? id).isSome = true := by
  rw [progress, Tracker.progress_eq m.tracker h.sized, state_eq]
  split <;> simp

theorem Sound.progress_le {m : Machine Memory} (h : Sound m) (hs : m.started = true)
    (id : StateId) (state : State Memory) (hstate : m.state? id = some state) :
    ∃ entry leave, m.progress id = some (entry, leave) ∧
      entry ≤ state.entry.length ∧ leave ≤ state.leave.length := by
  rw [state_eq] at hstate
  split at hstate
  · next hid =>
    obtain rfl := Option.some.inj hstate
    exact ⟨_, _, Tracker.progress_of_lt h.sized hid, (h.within hs).1 id, (h.within hs).2 id⟩
  · simp at hstate

structure Safe (made : Machine Memory) (history : List (Call Memory)) (m : Machine Memory) :
    Prop where
  entry_length : m.tracker.entry.length = m.states.length
  leave_length : m.tracker.leave.length = m.states.length
  progress_iff : ∀ id, (m.progress id).isSome = true ↔ (m.state? id).isSome = true
  chain_lt : ∀ id ∈ m.chain, id < m.states.length
  /-- Whether or not the session of that start goes on. -/
  rooted : (∃ later, StartedBefore made history later) → ∃ rest, m.chain = root :: rest
  branches_lt : m.started = true →
    ∀ state ∈ m.states, ∀ branch ∈ state.branches, branch < m.states.length
  progress_le : m.started = true → ∀ id state, m.state? id = some state →
    ∃ entry leave, m.progress id = some (entry, leave) ∧
      entry ≤ state.entry.length ∧ leave ≤ state.leave.length
  refused_iff : ∀ symbol, (m.parse symbol).result = .error .notStarted ↔
    ¬ InSession made history
  refused_frame : ∀ symbol, (m.parse symbol).result = .error .notStarted →
    (m.parse symbol).machine = m ∧ (m.parse symbol).journal = []
  /-- The look-ups of a call, and so all those it makes on its way, find something. -/
  parse_found : ∀ symbol, m.parse? symbol = some (m.parse symbol)
  name_found : m.currentStateName? = some m.currentStateName

theorem history_safe (options : Options) (memory : Memory) (history : List (Call Memory)) :
    Safe (withOptions options memory) history ((withOptions options memory).calls history) := by
  have hmade := withOptions_sound options memory
  have hsession := calls_started (withOptions options memory) history
  have hroot : ∀ later, StartedBefore (withOptions options memory) history later →
      Rooted ((withOptions options memory).calls history) := fun _ hb => calls_rooted hmade hb
  have h := calls_keeps (fun m c => call_sound c) _ history hmade
  generalize (withOptions options memory).calls history = m at *
  have hrefused : ∀ symbol, (m.parse symbol).result = .error .notStarted ↔
      ¬ InSession (withOptions options memory) history := by
    intro symbol
    have hnew : (withOptions options memory).started = false := rfl
    rw [parse_notStarted_iff, ← Bool.not_eq_true, hsession]
    simp [hnew]
  constructor
  · exact h.sized.1
  · exact h.sized.2
  · exact h.progress_isSome
  · exact h.chain
  · rintro ⟨later, hb⟩
    exact hroot later hb
  · intro hs
    exact (h.connected hs).branches
  · exact h.progress_le
  · exact hrefused
  · intro symbol hr
    rw [parse_refused symbol ((parse_notStarted_iff m symbol).mp hr)]
    exact ⟨rfl, rfl⟩
  · intro symbol
    exact parse_checked symbol h
  · exact currentStateName_checked h

end Machine
end StateNest
