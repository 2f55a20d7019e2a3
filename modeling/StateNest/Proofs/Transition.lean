import StateNest.Machine.History
import StateNest.Proofs.Classification

/-!
# What one call can do

A started machine answers a symbol by one of seven moves, each known by its
condition, the machine after it and its journal. The last one replays what no
pattern explains; how a replay can end is told apart, since a failure or a
refused answer leaves behind what was done before it.
-/

set_option autoImplicit false

namespace StateNest

namespace Journal

@[simp] theorem calls_nil : calls [] = [] := rfl

@[simp] theorem calls_cons (event : Event) (journal : Journal) :
    calls (event :: journal) = if event.isCall then event :: calls journal else calls journal :=
  List.filter_cons

@[simp] theorem calls_append (a b : Journal) : calls (a ++ b) = calls a ++ calls b :=
  List.filter_append a b

@[simp] theorem text_nil : text [] = [] := rfl

@[simp] theorem text_cons (event : Event) (journal : Journal) :
    text (event :: journal) = event.text ++ text journal :=
  List.flatMap_cons

@[simp] theorem text_append (a b : Journal) : text (a ++ b) = text a ++ text b :=
  List.flatMap_append

@[simp] theorem answers_nil : answers [] = [] := rfl

@[simp] theorem answers_cons (event : Event) (journal : Journal) :
    answers (event :: journal) = event.answer?.toList ++ answers journal := by
  rw [answers, List.filterMap_cons]
  cases event.answer? <;> rfl

@[simp] theorem answers_append (a b : Journal) : answers (a ++ b) = answers a ++ answers b :=
  List.filterMap_append

@[simp] theorem pushed_nil : pushed [] = [] := rfl

@[simp] theorem pushed_cons (event : Event) (journal : Journal) :
    pushed (event :: journal) = event.pushed?.toList ++ pushed journal := by
  rw [pushed, List.filterMap_cons]
  cases event.pushed? <;> rfl

@[simp] theorem pushed_append (a b : Journal) : pushed (a ++ b) = pushed a ++ pushed b :=
  List.filterMap_append

@[simp] theorem targets_nil : targets [] = [] := rfl

@[simp] theorem targets_cons (event : Event) (journal : Journal) :
    targets (event :: journal) = event.answer?.toList.filterMap id ++ targets journal := by
  simp [targets]

@[simp] theorem targets_append (a b : Journal) : targets (a ++ b) = targets a ++ targets b := by
  simp [targets]

end Journal

@[simp] def Event.isReplay : Event → Bool
  | .handled .. | .hardSet .. | .failed .. => true
  | _ => false

namespace Outcome

variable {Memory : Type} (outcome : Outcome Memory) (events : Journal)

@[simp] theorem after_result : (outcome.after events).result = outcome.result := rfl

@[simp] theorem after_machine : (outcome.after events).machine = outcome.machine := rfl

@[simp] theorem after_journal : (outcome.after events).journal = events ++ outcome.journal := rfl

end Outcome

namespace Machine

variable {Memory : Type}

def answer (callback : Option (Callback Memory (List Char) Unit)) (memory : Memory)
    (text : List Char) : Except Failure Unit × Memory :=
  match callback with
  | none => (.ok (), memory)
  | some call => call memory text

def called (callback : Option (Callback Memory (List Char) Unit)) (event : Event) : Journal :=
  if callback.isSome then [event] else []

theorem calls_of_transition {callback : Option (Callback Memory (List Char) Unit)}
    {first call last : Event} (hf : first.isCall = false) (hc : call.isCall = true)
    (hl : last.isCall = false) :
    Journal.calls (first :: (called callback call ++ [last])) = called callback call := by
  unfold called
  split <;> simp [hf, hc, hl]

theorem callOnBuffer_eq (m : Machine Memory)
    (callback : Option (Callback Memory (List Char) Unit))
    (event : List Char → Except Failure Unit → Event) :
    m.callOnBuffer callback event =
      ((answer callback m.memory m.buffer).1,
        { m with memory := (answer callback m.memory m.buffer).2 },
        called callback (event m.buffer (answer callback m.memory m.buffer).1)) := by
  cases callback <;> rfl

theorem called_of_error {callback : Option (Callback Memory (List Char) Unit)} {memory : Memory}
    {text : List Char} {failure : Failure}
    (h : (answer callback memory text).1 = .error failure) (event : Event) :
    called callback event = [event] := by
  cases callback with
  | none => simp [answer] at h
  | some call => rfl

theorem parse_ignored (m : Machine Memory) (symbol : Char) (hs : m.started = true)
    (hi : (m.stateAt m.active).ignore.skips symbol = true) :
    m.parse symbol =
      ⟨.ok true, { m with status := .wait }.ignore symbol, [.ignored m.active symbol]⟩ := by
  simp [parse, hs, hi]

theorem parse_classified (m : Machine Memory) (symbol : Char) (hs : m.started = true)
    (hi : (m.stateAt m.active).ignore.skips symbol = false) (verdict : Verdict)
    (tracker : Tracker)
    (hc : m.tracker.classify m.states symbol m.active = (verdict, tracker)) :
    m.parse symbol =
      (act { m with buffer := m.buffer ++ [symbol], tracker, status := .wait } verdict).after
        [.classified m.active symbol verdict] := by
  simp [parse, hs, hi, hc]

@[simp] theorem stateAt_mk (m : Machine Memory) (chain : List StateId) (buffer : List Char)
    (tracker : Tracker) (status : Status) (failure : Option Failure) (options : Options)
    (started : Bool) (memory : Memory) (id : StateId) :
    stateAt ⟨m.states, chain, buffer, tracker, status, failure, options, started, memory⟩ id =
      m.stateAt id := rfl

theorem enter_ok (m : Machine Memory) (target : StateId) (memory : Memory)
    (ha : answer (m.stateAt target).onEnter m.memory m.buffer = (.ok (), memory)) :
    m.enter target =
      ⟨.ok true,
        { m with
          chain := m.chain ++ [target], buffer := [], tracker := m.tracker.reset
          status := .branch, memory },
        called (m.stateAt target).onEnter (.entering target m.buffer (.ok ())) ++
          [.branched target m.buffer]⟩ := by
  simp only [enter, callOnBuffer_eq, stateAt_mk, ha, reset]

theorem enter_failed (m : Machine Memory) (target : StateId) (memory : Memory)
    (failure : Failure)
    (ha : answer (m.stateAt target).onEnter m.memory m.buffer = (.error failure, memory)) :
    m.enter target =
      ⟨.ok false,
        { m with
          chain := m.chain ++ [target], status := .error, failure := some failure, memory },
        [.entering target m.buffer (.error failure), .failed target failure]⟩ := by
  have hn := called_of_error (congrArg Prod.fst ha) (.entering target m.buffer (.error failure))
  simp [enter, callOnBuffer_eq, ha, hn, fail, Outcome.after, active]

theorem leave_ok (m : Machine Memory) (id : StateId) (memory : Memory)
    (ha : answer (m.stateAt id).onLeave m.memory m.buffer = (.ok (), memory)) :
    m.leave id =
      ⟨.ok true,
        { m with
          chain := pop m.chain, buffer := [], tracker := m.tracker.reset
          status := .back, memory },
        called (m.stateAt id).onLeave (.leaving id m.buffer (.ok ())) ++
          [.returned id m.buffer]⟩ := by
  simp only [leave, callOnBuffer_eq, ha, reset]

theorem leave_failed (m : Machine Memory) (id : StateId) (memory : Memory) (failure : Failure)
    (ha : answer (m.stateAt id).onLeave m.memory m.buffer = (.error failure, memory)) :
    m.leave id =
      ⟨.ok false, { m with status := .error, failure := some failure, memory },
        [.leaving id m.buffer (.error failure), .failed m.active failure]⟩ := by
  have hn := called_of_error (congrArg Prod.fst ha) (.leaving id m.buffer (.error failure))
  simp [leave, callOnBuffer_eq, ha, hn, fail, Outcome.after, active]

theorem enter_unfailed {m : Machine Memory} {target : StateId}
    (h : ∀ event ∈ (m.enter target).journal, event.failure? = none) :
    ∃ memory, answer (m.stateAt target).onEnter m.memory m.buffer = (.ok (), memory) := by
  rcases ha : answer (m.stateAt target).onEnter m.memory m.buffer with ⟨failure | ⟨⟩, memory⟩
  · rw [enter_failed m target memory failure ha] at h
    have hf := h (.entering target m.buffer (.error failure)) List.mem_cons_self
    simp at hf
  · exact ⟨memory, rfl⟩

theorem leave_unfailed {m : Machine Memory} {id : StateId}
    (h : ∀ event ∈ (m.leave id).journal, event.failure? = none) :
    ∃ memory, answer (m.stateAt id).onLeave m.memory m.buffer = (.ok (), memory) := by
  rcases ha : answer (m.stateAt id).onLeave m.memory m.buffer with ⟨failure | ⟨⟩, memory⟩
  · rw [leave_failed m id memory failure ha] at h
    have hf := h (.leaving id m.buffer (.error failure)) List.mem_cons_self
    simp at hf
  · exact ⟨memory, rfl⟩

section Replay

variable {m : Machine Memory} {handler : StateId} {symbol : Char}

theorem replay_skipped (rest : List Char)
    (hskip : (m.stateAt handler).ignore.skipsInHandler symbol = true) :
    replay handler (symbol :: rest) m = replay handler rest m := by
  simp [replay, hskip]

theorem replay_unhandled (rest : List Char) (hcall : (m.stateAt handler).onMiss = none) :
    replay handler (symbol :: rest) m = replay handler rest m := by
  simp [replay, hcall]

variable {call : Callback Memory Char (Option StateId)} {memory : Memory} (rest : List Char)
  (hskip : (m.stateAt handler).ignore.skipsInHandler symbol = false)
  (hcall : (m.stateAt handler).onMiss = some call)
include hskip hcall

theorem replay_failed {failure : Failure} (hm : call m.memory symbol = (.error failure, memory)) :
    replay handler (symbol :: rest) m =
      (fail { m with memory } failure).after [.handled handler symbol (.error failure)] := by
  simp [replay, hskip, hcall, hm]

theorem replay_consumed (hm : call m.memory symbol = (.ok none, memory)) :
    replay handler (symbol :: rest) m =
      (replay handler rest { m with memory }).after [.handled handler symbol (.ok none)] := by
  simp [replay, hskip, hcall, hm]

theorem replay_refused {target : StateId}
    (hm : call m.memory symbol = (.ok (some target), memory)) (ht : ¬ target < m.states.length) :
    replay handler (symbol :: rest) m =
      ⟨.error (.invalidStateIndex (m.stateAt handler).name target m.states.length),
        { m with memory }, [.handled handler symbol (.ok (some target))]⟩ := by
  simp [replay, hskip, hcall, hm, ht]

theorem replay_stopped {target : StateId}
    (hm : call m.memory symbol = (.ok (some target), memory)) (ht : target < m.states.length)
    (hp : m.options.hardsetReplay = .stop) :
    replay handler (symbol :: rest) m =
      ⟨.ok true, hardSet { m with memory } target,
        [.handled handler symbol (.ok (some target)), .hardSet handler target symbol]⟩ := by
  simp [replay, hskip, hcall, hm, ht, hp]

theorem replay_continued {target : StateId}
    (hm : call m.memory symbol = (.ok (some target), memory)) (ht : target < m.states.length)
    (hp : m.options.hardsetReplay = .continue) :
    replay handler (symbol :: rest) m =
      (replay target rest (hardSet { m with memory } target)).after
        [.handled handler symbol (.ok (some target)), .hardSet handler target symbol] := by
  simp [replay, hskip, hcall, hm, ht, hp]

theorem replay_called {given : Except Failure (Option StateId)}
    (hm : call m.memory symbol = (given, memory)) : ∃ later,
    (replay handler (symbol :: rest) m).journal = .handled handler symbol given :: later := by
  rcases given with failure | ⟨⟩ | target
  · exact ⟨_, by rw [replay_failed rest hskip hcall hm]; rfl⟩
  · exact ⟨_, by rw [replay_consumed rest hskip hcall hm]; rfl⟩
  · by_cases ht : target < m.states.length
    · cases hp : m.options.hardsetReplay with
      | stop => exact ⟨_, by rw [replay_stopped rest hskip hcall hm ht hp]⟩
      | «continue» => exact ⟨_, by rw [replay_continued rest hskip hcall hm ht hp]; rfl⟩
    · exact ⟨_, by rw [replay_refused rest hskip hcall hm ht]⟩

end Replay

/-- A replay hands symbols over, and neither enters nor leaves a state by its pattern. -/
theorem replay_events (handler : StateId) (text : List Char) (m : Machine Memory) :
    ∀ event ∈ (replay handler text m).journal, event.isReplay = true := by
  fun_induction replay handler text m with
  | case1 handler m => simp
  | case2 _ _ _ _ _ _ ih => exact ih
  | case3 _ _ _ _ _ _ _ ih => exact ih
  | case4 handler symbol rest m state hskip call hm memory n failure hcall event =>
    simp [event, fail]
  | case5 handler symbol rest m state hskip call hm memory n hcall event ih =>
    simpa [event] using ih
  | case6 handler symbol rest m state hskip call hm memory n target ht hstop hcall event events =>
    simp [events, event]
  | case7 handler symbol rest m state hskip call hm memory n target ht hcont hcall event events ih =>
    simpa [events, event] using ih
  | case8 handler symbol rest m state hskip call hm memory n target ht hcall event =>
    simp [event]

/-- The part of a replay in which handlers answered and their answers were taken. Each state
that is asked for is pushed, and the first of them clears the machine. -/
structure Passed (before : Machine Memory) (events : Journal) (middle : Machine Memory) :
    Prop where
  states : middle.states = before.states
  options : middle.options = before.options
  started : middle.started = before.started
  failure : middle.failure = before.failure
  chain : middle.chain = before.chain ++ events.pushed
  buffer : middle.buffer = if events.pushed = [] then before.buffer else []
  tracker : middle.tracker = if events.pushed = [] then before.tracker else before.tracker.reset
  status : middle.status = if events.pushed = [] then before.status else .hardset
  known : ∀ id ∈ events.pushed, id < before.states.length
  asked : events.targets = events.pushed
  handled : ∀ call ∈ events.calls, ∃ handler symbol answer,
    call = .handled handler symbol (.ok answer)

theorem reset_reset (t : Tracker) : t.reset.reset = t.reset := by
  simp [Tracker.reset]

namespace Passed

theorem refl (m : Machine Memory) : Passed m [] m := by
  constructor <;> simp

theorem trans {a b c : Machine Memory} {first second : Journal} (hf : Passed a first b)
    (hs : Passed b second c) : Passed a (first ++ second) c where
  states := hs.states.trans hf.states
  options := hs.options.trans hf.options
  started := hs.started.trans hf.started
  failure := hs.failure.trans hf.failure
  chain := by rw [hs.chain, hf.chain, Journal.pushed_append, List.append_assoc]
  buffer := by
    rw [hs.buffer, hf.buffer, Journal.pushed_append]
    by_cases h : second.pushed = [] <;> simp [h]
  tracker := by
    rw [hs.tracker, hf.tracker, Journal.pushed_append]
    by_cases h : second.pushed = [] <;> by_cases h' : first.pushed = [] <;>
      simp [h, h', reset_reset]
  status := by
    rw [hs.status, hf.status, Journal.pushed_append]
    by_cases h : second.pushed = [] <;> simp [h]
  known := by
    intro id hid
    rw [Journal.pushed_append, List.mem_append] at hid
    rcases hid with hid | hid
    · exact hf.known id hid
    · exact hf.states ▸ hs.known id hid
  asked := by rw [Journal.targets_append, Journal.pushed_append, hf.asked, hs.asked]
  handled := by
    intro call hc
    rw [Journal.calls_append, List.mem_append] at hc
    exact hc.elim (hf.handled call) (hs.handled call)

theorem consumed (m : Machine Memory) (memory : Memory) (handler : StateId) (symbol : Char) :
    Passed m [.handled handler symbol (.ok none)] { m with memory } := by
  constructor <;> simp [Event.isCall]

theorem hardSet (m : Machine Memory) (memory : Memory) (handler target : StateId) (symbol : Char)
    (ht : target < m.states.length) :
    Passed m [.handled handler symbol (.ok (some target)), .hardSet handler target symbol]
      (Machine.hardSet { m with memory } target) := by
  constructor <;> simp [Event.isCall, Machine.hardSet, reset, ht]

end Passed

/-- How a replay ends after some events: all symbols are handed over or dropped, a handler fails,
or it asks for a state that does not exist. -/
inductive Ending (middle : Machine Memory) (events : Journal) : Outcome Memory → Prop
  | finished : Ending middle events ⟨.ok true, middle, events⟩
  | failed (memory : Memory) (handler : StateId) (symbol : Char) (failure : Failure) :
      Ending middle events ⟨.ok false,
        { middle with status := .error, failure := some failure, memory },
        events ++ [.handled handler symbol (.error failure), .failed middle.active failure]⟩
  | refused (memory : Memory) (handler : StateId) (symbol : Char) (index : StateId)
      (hu : middle.states.length ≤ index) :
      Ending middle events ⟨.error (.invalidStateIndex (middle.stateAt handler).name index
          middle.states.length),
        { middle with memory }, events ++ [.handled handler symbol (.ok (some index))]⟩

theorem Ending.after {middle : Machine Memory} {events : Journal} {outcome : Outcome Memory}
    (h : Ending middle events outcome) (earlier : Journal) :
    Ending middle (earlier ++ events) (outcome.after earlier) := by
  cases h with
  | finished => exact Ending.finished
  | failed memory handler symbol failure =>
    rw [Outcome.after, ← List.append_assoc]
    exact Ending.failed memory handler symbol failure
  | refused memory handler symbol index hu =>
    rw [Outcome.after, ← List.append_assoc]
    exact Ending.refused memory handler symbol index hu

/-- Every replay is a part that passed and an ending. If the first answer that sets a state stops
it, nothing can go wrong afterwards. -/
theorem replay_cases (handler : StateId) (text : List Char) (m : Machine Memory) :
    ∃ events middle, Passed m events middle ∧
      Ending middle events (replay handler text m) ∧
      (m.options.hardsetReplay = .stop → events.pushed.length ≤ 1 ∧
        (events.pushed ≠ [] → (replay handler text m).result = .ok true)) := by
  fun_induction replay handler text m with
  | case1 handler m => exact ⟨[], m, Passed.refl m, Ending.finished, by simp⟩
  | case2 _ _ _ _ _ _ ih => exact ih
  | case3 _ _ _ _ _ _ _ ih => exact ih
  | case4 handler symbol rest m state hskip call hm memory n failure hcall event =>
    exact ⟨[], m, Passed.refl m, Ending.failed memory handler symbol failure,
      by simp⟩
  | case5 handler symbol rest m state hskip call hm memory n hcall event ih =>
    obtain ⟨events, middle, hp, he, hs⟩ := ih
    refine ⟨_, middle, (Passed.consumed m memory handler symbol).trans hp, he.after _, ?_⟩
    simpa using hs
  | case6 handler symbol rest m state hskip call hm memory n target ht hstop hcall event events =>
    exact ⟨_, _, Passed.hardSet m memory handler target symbol ht, Ending.finished,
      by simp⟩
  | case7 handler symbol rest m state hskip call hm memory n target ht hcont hcall event events ih =>
    obtain ⟨events, middle, hp, he, _⟩ := ih
    refine ⟨_, middle, (Passed.hardSet m memory handler target symbol ht).trans hp,
      he.after _, fun hstop => ?_⟩
    rw [show m.options.hardsetReplay = .continue from hcont] at hstop
    simp at hstop
  | case8 handler symbol rest m state hskip call hm memory n target ht hcall event =>
    exact ⟨[], m, Passed.refl m,
      Ending.refused memory handler symbol target (Nat.le_of_not_lt ht), by simp⟩

/-- Every move of a machine on a symbol, with what is left behind. -/
inductive Move (m : Machine Memory) (symbol : Char) : Outcome Memory → Prop
  | ignored (hi : (m.stateAt m.active).ignore.skips symbol = true) :
      Move m symbol ⟨.ok true, { m with status := .wait }.ignore symbol,
        [.ignored m.active symbol]⟩
  | waited (tracker : Tracker) (hi : (m.stateAt m.active).ignore.skips symbol = false)
      (hc : m.tracker.classify m.states symbol m.active = (.undecided, tracker)) :
      Move m symbol ⟨.ok true,
        { m with buffer := m.buffer ++ [symbol], tracker, status := .wait },
        [.classified m.active symbol .undecided]⟩
  | entered (target : StateId) (tracker : Tracker) (memory : Memory)
      (hi : (m.stateAt m.active).ignore.skips symbol = false)
      (hc : m.tracker.classify m.states symbol m.active = (.enter target, tracker))
      (ha : answer (m.stateAt target).onEnter m.memory (m.buffer ++ [symbol]) =
        (.ok (), memory)) :
      Move m symbol ⟨.ok true,
        { m with
          chain := m.chain ++ [target], buffer := [], tracker := tracker.reset
          status := .branch, memory },
        .classified m.active symbol (.enter target) ::
          (called (m.stateAt target).onEnter
            (.entering target (m.buffer ++ [symbol]) (.ok ())) ++
          [.branched target (m.buffer ++ [symbol])])⟩
  | enterFailed (target : StateId) (tracker : Tracker) (memory : Memory) (failure : Failure)
      (hi : (m.stateAt m.active).ignore.skips symbol = false)
      (hc : m.tracker.classify m.states symbol m.active = (.enter target, tracker))
      (ha : answer (m.stateAt target).onEnter m.memory (m.buffer ++ [symbol]) =
        (.error failure, memory)) :
      Move m symbol ⟨.ok false,
        { m with
          chain := m.chain ++ [target], buffer := m.buffer ++ [symbol], tracker
          status := .error, failure := some failure, memory },
        [.classified m.active symbol (.enter target),
          .entering target (m.buffer ++ [symbol]) (.error failure), .failed target failure]⟩
  | left (tracker : Tracker) (memory : Memory)
      (hi : (m.stateAt m.active).ignore.skips symbol = false)
      (hc : m.tracker.classify m.states symbol m.active = (.pop, tracker))
      (ha : answer (m.stateAt m.active).onLeave m.memory (m.buffer ++ [symbol]) =
        (.ok (), memory)) :
      Move m symbol ⟨.ok true,
        { m with
          chain := pop m.chain, buffer := [], tracker := tracker.reset
          status := .back, memory },
        .classified m.active symbol .pop ::
          (called (m.stateAt m.active).onLeave
            (.leaving m.active (m.buffer ++ [symbol]) (.ok ())) ++
          [.returned m.active (m.buffer ++ [symbol])])⟩
  | leaveFailed (tracker : Tracker) (memory : Memory) (failure : Failure)
      (hi : (m.stateAt m.active).ignore.skips symbol = false)
      (hc : m.tracker.classify m.states symbol m.active = (.pop, tracker))
      (ha : answer (m.stateAt m.active).onLeave m.memory (m.buffer ++ [symbol]) =
        (.error failure, memory)) :
      Move m symbol ⟨.ok false,
        { m with
          buffer := m.buffer ++ [symbol], tracker
          status := .error, failure := some failure, memory },
        [.classified m.active symbol .pop,
          .leaving m.active (m.buffer ++ [symbol]) (.error failure), .failed m.active failure]⟩
  | missed (tracker : Tracker) (events : Journal) (middle : Machine Memory)
      (outcome : Outcome Memory) (hi : (m.stateAt m.active).ignore.skips symbol = false)
      (hc : m.tracker.classify m.states symbol m.active = (.miss, tracker))
      (hp : Passed { m with buffer := [], tracker, status := .miss } events middle)
      (he : Ending middle events outcome)
      (hs : m.options.hardsetReplay = .stop → events.pushed.length ≤ 1 ∧
        (events.pushed ≠ [] → outcome.result = .ok true))
      (hr : outcome = replay m.active (m.buffer ++ [symbol])
        { m with buffer := [], tracker, status := .miss }) :
      Move m symbol (outcome.after
        [.classified m.active symbol .miss, .missed m.active (m.buffer ++ [symbol])])

theorem parse_move (m : Machine Memory) (symbol : Char) (hs : m.started = true) :
    Move m symbol (m.parse symbol) := by
  cases hi : (m.stateAt m.active).ignore.skips symbol with
  | true =>
    rw [parse_ignored m symbol hs hi]
    exact Move.ignored hi
  | false =>
    rcases hc : m.tracker.classify m.states symbol m.active with ⟨verdict, tracker⟩
    rw [parse_classified m symbol hs hi verdict tracker hc]
    cases verdict with
    | enter target =>
      rcases ha : answer (m.stateAt target).onEnter m.memory (m.buffer ++ [symbol]) with
        ⟨failure | ⟨⟩, memory⟩
      · rw [act, enter_failed _ target memory failure ha]
        exact Move.enterFailed target tracker memory failure hi hc ha
      · rw [act, enter_ok _ target memory ha]
        exact Move.entered target tracker memory hi hc ha
    | pop =>
      rcases ha : answer (m.stateAt m.active).onLeave m.memory (m.buffer ++ [symbol]) with
        ⟨failure | ⟨⟩, memory⟩
      · rw [act, leave_failed _ _ memory failure ha]
        exact Move.leaveFailed tracker memory failure hi hc ha
      · rw [act, leave_ok _ _ memory ha]
        exact Move.left tracker memory hi hc ha
    | undecided => exact Move.waited tracker hi hc
    | miss =>
      obtain ⟨events, middle, hp, he, hs⟩ := replay_cases m.active (m.buffer ++ [symbol])
        { m with buffer := [], tracker, status := .miss }
      exact Move.missed tracker events middle _ hi hc hp he hs rfl

end Machine
end StateNest
