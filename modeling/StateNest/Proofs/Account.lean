import StateNest.Proofs.Invariant

/-!
# What a status tells

The status after a symbol tells which callbacks were called on what, how they
answered, and how the chain, the buffer and the progress have changed. Where a
replay ends early, this includes what its handlers had done before.
-/

set_option autoImplicit false

namespace StateNest

theorem Journal.targets_calls (journal : Journal) : journal.calls.targets = journal.targets := by
  induction journal with
  | nil => rfl
  | cons event journal ih =>
    rw [calls_cons, targets_cons]
    split
    · rw [targets_cons, ih]
    · next hc => cases event <;> simp_all [Event.isCall]

namespace Machine

variable {Memory : Type}

def Cleared (m : Machine Memory) : Prop := ∀ id < m.states.length, m.progress id = some (0, 0)

section Parts

variable (before : Machine Memory) (symbol : Char) (outcome : Outcome Memory)

structure Waiting : Prop where
  result : outcome.result = .ok true
  calls : outcome.journal.calls = []
  chain : outcome.machine.chain = before.chain
  buffer : outcome.machine.buffer =
    if (before.stateAt before.active).ignore.skips symbol = true ∧
        before.options.ignorePolicy = .skipUnbuffered then before.buffer
    else before.buffer ++ [symbol]

structure Branching (target : StateId) : Prop where
  result : outcome.result = .ok true
  branch : target ∈ (before.stateAt before.active).branches
  calls : outcome.journal.calls =
    called (before.stateAt target).onEnter
      (.entering target (before.buffer ++ [symbol]) (.ok ()))
  chain : outcome.machine.chain = before.chain ++ [target]
  buffer : outcome.machine.buffer = []
  cleared : Cleared outcome.machine

structure Returning : Prop where
  result : outcome.result = .ok true
  calls : outcome.journal.calls =
    called (before.stateAt before.active).onLeave
      (.leaving before.active (before.buffer ++ [symbol]) (.ok ()))
  chain : outcome.machine.chain =
    if before.chain.length = 1 then before.chain else before.chain.dropLast
  buffer : outcome.machine.buffer = []
  cleared : Cleared outcome.machine

structure Replayed (after : Machine Memory) (calls : Journal) : Prop where
  handled : ∀ call ∈ calls, ∃ handler symbol answer, call = .handled handler symbol (.ok answer)
  known : ∀ id ∈ calls.targets, id < before.states.length
  chain : after.chain = before.chain ++ calls.targets
  buffer : after.buffer = []
  cleared : calls.targets ≠ [] → Cleared after

/-- The last handler asked for a state that does not exist. -/
structure Refusing (earlier : Journal) (handler : StateId) (missed : Char) (index : StateId) :
    Prop where
  result : outcome.result =
    .error (.invalidStateIndex (before.stateAt handler).name index before.states.length)
  unknown : before.states.length ≤ index
  calls : outcome.journal.calls = earlier ++ [.handled handler missed (.ok (some index))]
  replayed : Replayed before outcome.machine earlier
  stopped : before.options.hardsetReplay = .stop → earlier.targets = []

/-- The last callback that was called failed. What it was called for is not undone. -/
inductive Failing (failure : Failure) : Prop
  | entering (target : StateId) (hb : target ∈ (before.stateAt before.active).branches)
      (hc : outcome.journal.calls =
        [.entering target (before.buffer ++ [symbol]) (.error failure)])
      (hchain : outcome.machine.chain = before.chain ++ [target])
      (hbuffer : outcome.machine.buffer = before.buffer ++ [symbol])
  | leaving
      (hc : outcome.journal.calls =
        [.leaving before.active (before.buffer ++ [symbol]) (.error failure)])
      (hchain : outcome.machine.chain = before.chain)
      (hbuffer : outcome.machine.buffer = before.buffer ++ [symbol])
  | handling (earlier : Journal) (handler : StateId) (missed : Char)
      (hc : outcome.journal.calls = earlier ++ [.handled handler missed (.error failure)])
      (hr : Replayed before outcome.machine earlier)
      (hstop : before.options.hardsetReplay = .stop → earlier.targets = [])

def Account : Status → Prop
  | .wait => Waiting before symbol outcome
  | .branch => ∃ target, Branching before symbol outcome target
  | .back => Returning before symbol outcome
  | .miss =>
    outcome.machine.chain = before.chain ∧ outcome.machine.buffer = [] ∧
    ((outcome.result = .ok true ∧ ∀ call ∈ outcome.journal.calls,
        ∃ handler missed, call = .handled handler missed (.ok none)) ∨
      ∃ earlier handler missed index, earlier.targets = [] ∧
        Refusing before outcome earlier handler missed index)
  | .hardset =>
    (outcome.result = .ok true ∧ outcome.journal.targets ≠ [] ∧
      (before.options.hardsetReplay = .stop → outcome.journal.targets.length = 1) ∧
      Replayed before outcome.machine outcome.journal.calls) ∨
    ∃ earlier handler missed index, earlier.targets ≠ [] ∧
      Refusing before outcome earlier handler missed index
  | .error => outcome.result = .ok false ∧
    ∃ failure, outcome.machine.failure = some failure ∧
      Failing before symbol outcome failure

end Parts

theorem cleared_of_reset {m : Machine Memory} {t : Tracker}
    (hs : m.tracker.Sized m.states.length) (ht : m.tracker = t.reset) : Cleared m := by
  intro id hid
  have hblank : m.tracker = Tracker.blank m.states.length := by
    rw [ht, ← reset_reset, ← ht]
    exact Tracker.reset_blank _ hs
  rw [progress, hblank]
  exact Tracker.blank_progress id hid

theorem answered_none {events : Journal} (ht : events.targets = [])
    (hh : ∀ call ∈ events.calls, ∃ handler symbol answer,
      call = .handled handler symbol (.ok answer)) :
    ∀ call ∈ events.calls, ∃ handler symbol, call = .handled handler symbol (.ok none) := by
  intro call hc
  obtain ⟨handler, symbol, answer, rfl⟩ := hh call hc
  cases answer with
  | none => exact ⟨handler, symbol, rfl⟩
  | some target =>
    have hm : target ∈ events.targets := by
      rw [← Journal.targets_calls, Journal.targets, List.mem_filterMap]
      refine ⟨some target, ?_, rfl⟩
      rw [Journal.answers, List.mem_filterMap]
      exact ⟨_, hc, rfl⟩
    simp [ht] at hm

theorem Passed.replayed {m middle after : Machine Memory} {tracker : Tracker} {events : Journal}
    (hp : Passed { m with buffer := [], tracker, status := .miss } events middle)
    (hs : middle.tracker.Sized middle.states.length) (hc : after.chain = middle.chain)
    (hb : after.buffer = middle.buffer) (ht : after.tracker = middle.tracker)
    (hn : after.states = middle.states) : Replayed m after events.calls where
  handled := hp.handled
  known := by
    intro id hid
    rw [Journal.targets_calls, hp.asked] at hid
    exact hp.known id hid
  chain := by rw [hc, hp.chain, Journal.targets_calls, hp.asked]
  buffer := by rw [hb, hp.buffer, ite_self]
  cleared := by
    intro hne
    rw [Journal.targets_calls, hp.asked] at hne
    refine cleared_of_reset (t := tracker) (by rwa [ht, hn]) ?_
    rw [ht, hp.tracker, if_neg hne]

section Missed

variable {m middle : Machine Memory} {symbol : Char} {tracker : Tracker} {events : Journal}
  {status : Status} (hp : Passed { m with buffer := [], tracker, status := .miss } events middle)
  (hz : middle.tracker.Sized middle.states.length) (text : List Char)
include hp

theorem Passed.miss_or_hardset (hs : middle.status = status) :
    status = .miss ∧ events.pushed = [] ∨ status = .hardset ∧ events.pushed ≠ [] := by
  rw [hp.status] at hs
  by_cases hpushed : events.pushed = []
  · rw [if_pos hpushed] at hs
    exact Or.inl ⟨hs.symm, hpushed⟩
  · rw [if_neg hpushed] at hs
    exact Or.inr ⟨hs.symm, hpushed⟩

theorem Passed.targets : events.calls.targets = events.pushed := by
  rw [Journal.targets_calls, hp.asked]

theorem Passed.chain_kept (hpushed : events.pushed = []) : middle.chain = m.chain := by
  simpa [hpushed] using hp.chain

include hz

theorem finished_account (hl : m.options.hardsetReplay = .stop → events.pushed.length ≤ 1)
    (hs : middle.status = status) :
    Account m symbol (Outcome.after ⟨.ok true, middle, events⟩
      [.classified m.active symbol .miss, .missed m.active text]) status := by
  have hr : Replayed m middle events.calls := hp.replayed hz rfl rfl rfl rfl
  rcases hp.miss_or_hardset hs with ⟨rfl, hpushed⟩ | ⟨rfl, hpushed⟩
  · have hn := answered_none (hp.asked.trans hpushed) hp.handled
    exact ⟨hp.chain_kept hpushed, hr.buffer, Or.inl ⟨rfl, by simpa [Event.isCall] using hn⟩⟩
  · have hone : m.options.hardsetReplay = .stop → events.pushed.length = 1 := by
      intro hstop
      exact Nat.le_antisymm (hl hstop) (List.length_pos_iff.mpr hpushed)
    refine Or.inl ⟨rfl, ?_, ?_, ?_⟩
    · simpa [hp.asked] using hpushed
    · simpa [hp.asked] using hone
    · simpa [Event.isCall] using hr

theorem refused_account (memory : Memory) (handler : StateId) (missed : Char) (index : StateId)
    (hu : middle.states.length ≤ index)
    (hl : m.options.hardsetReplay = .stop → events.pushed = []) (hs : middle.status = status) :
    Account m symbol (Outcome.after ⟨.error (.invalidStateIndex (middle.stateAt handler).name
        index middle.states.length),
        { middle with memory }, events ++ [.handled handler missed (.ok (some index))]⟩
      [.classified m.active symbol .miss, .missed m.active text]) status := by
  have hstates : middle.states = m.states := hp.states
  have hrefusing : Refusing m (Outcome.after ⟨.error (.invalidStateIndex
        (middle.stateAt handler).name index middle.states.length),
        { middle with memory }, events ++ [.handled handler missed (.ok (some index))]⟩
      [.classified m.active symbol .miss, .missed m.active text])
      events.calls handler missed index := by
    constructor
    · rw [Outcome.after_result, stateAt, hstates]
      rfl
    · rwa [← hstates]
    · simp [Event.isCall]
    · exact hp.replayed hz rfl rfl rfl rfl
    · rwa [hp.targets]
  rcases hp.miss_or_hardset hs with ⟨rfl, hpushed⟩ | ⟨rfl, hpushed⟩
  · refine ⟨hp.chain_kept hpushed, hrefusing.replayed.buffer, Or.inr ?_⟩
    exact ⟨_, _, _, _, hp.targets.trans hpushed, hrefusing⟩
  · exact Or.inr ⟨_, _, _, _, by rwa [hp.targets], hrefusing⟩

theorem missed_account {outcome : Outcome Memory} (he : Ending middle events outcome)
    (hl : m.options.hardsetReplay = .stop → events.pushed.length ≤ 1 ∧
      (events.pushed ≠ [] → outcome.result = .ok true)) :
    Account m symbol
      (outcome.after [.classified m.active symbol .miss, .missed m.active text])
      outcome.machine.status := by
  have hnone : m.options.hardsetReplay = .stop → outcome.result ≠ .ok true →
      events.pushed = [] := by
    intro hstop hne
    by_cases hpushed : events.pushed = []
    · exact hpushed
    · exact absurd ((hl hstop).2 hpushed) hne
  cases he with
  | finished => exact finished_account hp hz text (fun hstop => (hl hstop).1) rfl
  | failed memory handler missed failure =>
    refine ⟨rfl, failure, rfl, ?_⟩
    apply Failing.handling events.calls handler missed
    · simp [Event.isCall]
    · exact hp.replayed hz rfl rfl rfl rfl
    · intro hstop
      rw [hp.targets]
      exact hnone hstop (by simp)
  | refused memory handler missed index hu =>
    exact refused_account hp hz text memory handler missed index hu
      (fun hstop => hnone hstop (by simp)) rfl

end Missed

/-- What a symbol did can be read off the status after it. -/
theorem move_account {m : Machine Memory} {symbol : Char} {outcome : Outcome Memory}
    (hm : Move m symbol outcome) (hl : m.chain ≠ [])
    (hc : Connected m) (hz : m.tracker.Sized m.states.length) :
    Account m symbol outcome outcome.machine.status := by
  have hsized {verdict : Verdict} {tracker : Tracker}
      (he : m.tracker.classify m.states symbol m.active = (verdict, tracker)) :
      tracker.Sized m.states.length := by
    have hk := Tracker.classify_sized m.states symbol m.tracker m.active hz
    rwa [he] at hk
  cases hm with
  | ignored hi =>
    cases hpolicy : m.options.ignorePolicy with
    | bufferThenSkip =>
      simp only [ignore, hpolicy]
      exact ⟨rfl, rfl, rfl, by simp [hpolicy]⟩
    | skipUnbuffered =>
      simp only [ignore, hpolicy]
      exact ⟨rfl, rfl, rfl, by simp [hpolicy, hi]⟩
  | waited tracker hi he => exact ⟨rfl, rfl, rfl, by simp [hi]⟩
  | entered target tracker memory hi he ha =>
    refine ⟨target, rfl, hc.classified he (Or.inl rfl), ?_, rfl, rfl, ?_⟩
    · exact calls_of_transition rfl rfl rfl
    · exact cleared_of_reset (Tracker.reset_sized _ (hsized he)) rfl
  | enterFailed target tracker memory failure hi he ha =>
    exact ⟨rfl, failure, rfl,
      Failing.entering target (hc.classified he (Or.inl rfl)) (by simp [Event.isCall]) rfl rfl⟩
  | left tracker memory hi he ha =>
    refine ⟨rfl, ?_, ?_, rfl, ?_⟩
    · exact calls_of_transition rfl rfl rfl
    · have hpos : 0 < m.chain.length := List.length_pos_iff.mpr hl
      unfold pop
      by_cases hone : m.chain.length = 1
      · simp [hone]
      · rw [if_pos (by omega), if_neg hone]
    · exact cleared_of_reset (Tracker.reset_sized _ (hsized he)) rfl
  | leaveFailed tracker memory failure hi he ha =>
    exact ⟨rfl, failure, rfl, Failing.leaving (by simp [Event.isCall]) rfl rfl⟩
  | missed tracker events middle outcome hi he hp hend hs hr =>
    refine missed_account hp ?_ _ hend hs
    rw [hp.tracker, hp.states]
    split
    · exact hsized he
    · exact Tracker.reset_sized _ (hsized he)

theorem Account.error_iff {before : Machine Memory} {symbol : Char} {outcome : Outcome Memory}
    {status : Status} (h : Account before symbol outcome status) :
    status = .error ↔ outcome.result = .ok false := by
  cases status with
  | wait => simp [h.result]
  | branch =>
    obtain ⟨target, hb⟩ := h
    simp [hb.result]
  | back => simp [h.result]
  | miss =>
    obtain ⟨-, -, ⟨hr, -⟩ | ⟨_, _, _, _, -, hr⟩⟩ := h
    · simp [hr]
    · simp [hr.result]
  | hardset =>
    obtain ⟨hr, -⟩ | ⟨_, _, _, _, -, hr⟩ := h
    · simp [hr]
    · simp [hr.result]
  | error => simp [h.1]

theorem parse_account {m : Machine Memory} (h : Reachable m) (hs : m.started = true)
    (symbol : Char) :
    Account m symbol (m.parse symbol) (m.parse symbol).machine.status ∧
      ((m.parse symbol).machine.status = .error ↔ (m.parse symbol).result = .ok false) ∧
      ((m.parse symbol).result ≠ .ok false → (m.parse symbol).machine.failure = m.failure) := by
  have hm := parse_move m symbol hs
  have hc := h.sound.connected hs
  have hl : m.chain ≠ [] := by
    obtain ⟨rest, hr⟩ := hc.rooted
    simp [hr]
  have ha := move_account hm hl hc h.sound.sized
  exact ⟨ha, ha.error_iff, move_failure hm⟩

def torn : Machine Unit :=
  (withOptions { hardsetReplay := .continue } ()).calls
    [.addState {
        name := "root", leave := [.literal 'a', .literal 'b']
        onMiss := some fun memory _ => (.ok (some 1), memory) },
      .addState {
        name := "next"
        onMiss := some fun memory _ => (.error ⟨"broken"⟩, memory) },
      .prestart, .parse 'a']

theorem torn_account : Reachable torn ∧ torn.started = true ∧
    (torn.parse 'c').result = .ok false ∧ (torn.parse 'c').machine.chain = [0, 1] ∧
    Account torn 'c' (torn.parse 'c') .error :=
  have hr : Reachable torn := ⟨_, (), _, rfl⟩
  ⟨hr, rfl, rfl, rfl, (parse_account hr rfl 'c').1⟩

def stray : Machine Unit :=
  (withOptions {} ()).calls
    [.addState { name := "r", onMiss := some fun memory _ => (.ok (some 7), memory) }, .prestart]

/-- A miss does not tell that the call was taken. -/
theorem miss_refused : Reachable stray ∧ stray.started = true ∧
    (stray.parse 'x').machine.status = .miss ∧
    (stray.parse 'x').result = .error (.invalidStateIndex "r" 7 1) ∧
    ¬ (stray.parse 'x').result = .ok true ∧
    ¬ ∀ call ∈ (stray.parse 'x').journal.calls,
      ∃ handler symbol, call = .handled handler symbol (.ok none) := by
  have hresult : (stray.parse 'x').result = .error (.invalidStateIndex "r" 7 1) := rfl
  refine ⟨⟨_, (), _, rfl⟩, rfl, rfl, hresult, by simp [hresult], ?_⟩
  intro hall
  have hmem : Event.handled 0 'x' (.ok (some 7)) ∈ (stray.parse 'x').journal.calls :=
    List.mem_singleton.mpr rfl
  obtain ⟨handler, symbol, hc⟩ := hall _ hmem
  simp at hc

end Machine
end StateNest
