import StateNest.Proofs.Matching
import StateNest.Proofs.Restart

/-!
# Ignored symbols are only text

Whether ignored symbols are buffered has no influence on what a session does, as
long as no callback fails and no handler asks for a state. Without them a buffer
holds the symbols that the active state does not skip, and so does a text that is
handed to a callback; a handler is not called on the others.
-/

set_option autoImplicit false

namespace StateNest

def IgnoreSet.kept (ignore : IgnoreSet) (text : List Char) : List Char :=
  text.filter fun symbol => !ignore.skips symbol

namespace Event

def Consents (event : Event) : Prop := event.failure? = none ∧ event.answer?.join = none

instance (event : Event) : Decidable event.Consents := inferInstanceAs (Decidable (_ ∧ _))

/-- A call as it would be if ignored symbols were not buffered. -/
def thinned? (ignore : IgnoreSet) : Event → Option Event
  | .entering state buffer answer => some (.entering state (ignore.kept buffer) answer)
  | .leaving state buffer answer => some (.leaving state (ignore.kept buffer) answer)
  | .handled state symbol answer =>
    if ignore.skips symbol then none else some (.handled state symbol answer)
  | event => some event

theorem Consents.answer_none {handler : StateId} {symbol : Char}
    {answer : Except Failure (Option StateId)}
    (h : Consents (.handled handler symbol answer)) : answer = .ok none := by
  obtain ⟨hf, ha⟩ := h
  rcases answer with failure | ⟨⟩ | target
  · simp at hf
  · rfl
  · simp at ha

end Event

namespace Machine

variable {Memory : Type}

def withPolicy (m : Machine Memory) (policy : IgnorePolicy) : Machine Memory :=
  { m with options := { m.options with ignorePolicy := policy } }

/-- The calls of a run as they would be if ignored symbols were not buffered. What is ignored in
the text of a call is known from the state that is active until then. -/
def thinnedCalls (m : Machine Memory) : List Char → Journal
  | [] => []
  | symbol :: text =>
    (m.parse symbol).journal.calls.filterMap (Event.thinned? (m.stateAt m.active).ignore) ++
      (m.parse symbol).machine.thinnedCalls text

/-- Two sessions that do the same. One has buffered all symbols, the other only those that the
active state does not skip. -/
structure Alike (full thin : Machine Memory) : Prop where
  buffers : full.options.ignorePolicy = .bufferThenSkip
  drops : thin.options.ignorePolicy = .skipUnbuffered
  states : thin.states = full.states
  started : thin.started = full.started
  status : thin.status = full.status
  chain : thin.chain = full.chain
  tracker : thin.tracker = full.tracker
  buffer : thin.buffer = full.heard

/-- What one symbol leads to in two such sessions, `ignore` being what was ignored before it. -/
structure Thinned (ignore : IgnoreSet) (full thin : Outcome Memory) : Prop where
  result : thin.result = full.result
  calls : thin.journal.calls = full.journal.calls.filterMap (Event.thinned? ignore)
  machine : Alike full.machine thin.machine

section Consent

def takings (state : State Memory) (handler : StateId) (text : List Char) : Journal :=
  if state.onMiss.isSome then
    (text.filter fun symbol => !state.ignore.skipsInHandler symbol).map fun symbol =>
      .handled handler symbol (.ok none)
  else []

theorem takings_skipped {state : State Memory} {symbol : Char}
    (hskip : state.ignore.skipsInHandler symbol = true) (handler : StateId) (text : List Char) :
    takings state handler (symbol :: text) = takings state handler text := by
  simp [takings, hskip]

theorem takings_taken {state : State Memory} {symbol : Char}
    (hskip : state.ignore.skipsInHandler symbol = false) (hcall : state.onMiss.isSome = true)
    (handler : StateId) (text : List Char) :
    takings state handler (symbol :: text) =
      .handled handler symbol (.ok none) :: takings state handler text := by
  simp [takings, hskip, hcall]

theorem takings_calls (state : State Memory) (handler : StateId) (text : List Char) :
    (takings state handler text).calls = takings state handler text := by
  unfold takings
  split
  · apply List.filter_eq_self.mpr
    intro event he
    obtain ⟨symbol, -, rfl⟩ := List.mem_map.mp he
    rfl
  · rfl

/-- A handler is not called on what is ignored. -/
theorem takings_thinned (ignore : IgnoreSet) (state : State Memory) (handler : StateId)
    (text : List Char) :
    takings state handler (ignore.kept text) =
      (takings state handler text).filterMap (Event.thinned? ignore) := by
  cases hcall : state.onMiss.isSome with
  | false => simp [takings, hcall]
  | true =>
    induction text with
    | nil => simp [takings, hcall, IgnoreSet.kept]
    | cons symbol text ih =>
      cases hskip : state.ignore.skipsInHandler symbol <;>
        cases hi : ignore.skips symbol <;>
        simp_all [takings, IgnoreSet.kept, Event.thinned?]

theorem replay_consented (handler : StateId) (text : List Char) (m : Machine Memory)
    (h : ∀ event ∈ (replay handler text m).journal, event.Consents) :
    ∃ memory, replay handler text m =
      ⟨.ok true, { m with memory }, takings (m.stateAt handler) handler text⟩ := by
  induction text generalizing m with
  | nil => exact ⟨m.memory, by simp [replay, takings]⟩
  | cons symbol text ih =>
    cases hskip : (m.stateAt handler).ignore.skipsInHandler symbol with
    | true =>
      rw [replay_skipped text hskip] at h ⊢
      rw [takings_skipped hskip]
      exact ih m h
    | false =>
      cases hcall : (m.stateAt handler).onMiss with
      | none =>
        rw [replay_unhandled text hcall] at h ⊢
        obtain ⟨memory, he⟩ := ih m h
        exact ⟨memory, by simp [he, takings, hcall]⟩
      | some call =>
        rcases hm : call m.memory symbol with ⟨given, memory⟩
        obtain ⟨later, hj⟩ := replay_called text hskip hcall hm
        obtain rfl : given = .ok none :=
          (h (.handled handler symbol given) (by simp [hj])).answer_none
        have hr := replay_consumed text hskip hcall hm
        rw [hr] at h ⊢
        obtain ⟨last, he⟩ := ih { m with memory } fun event hin =>
          h event (List.mem_append_right _ hin)
        refine ⟨last, ?_⟩
        rw [he, takings_taken hskip (by rw [hcall]; rfl)]
        rfl

end Consent

theorem calls_of_made {callback : Option (Callback Memory (List Char) Unit)} {call last : Event}
    (hc : call.isCall = true) (hl : last.isCall = false) :
    Journal.calls (called callback call ++ [last]) = called callback call := by
  unfold called
  split <;> simp [hc, hl]

theorem called_thinned {ignore : IgnoreSet} {event other : Event}
    {callback : Option (Callback Memory (List Char) Unit)}
    (h : event.thinned? ignore = some other) :
    (called callback event).filterMap (Event.thinned? ignore) = called callback other := by
  unfold called
  split <;> simp [h]

section Step

variable {full thin : Machine Memory} (h : Alike full thin)
include h

theorem Alike.active : thin.active = full.active := by
  rw [Machine.active, Machine.active, h.chain]

theorem Alike.stateAt (id : StateId) : thin.stateAt id = full.stateAt id := by
  rw [Machine.stateAt, Machine.stateAt, h.states]

theorem Alike.pushed (symbol : Char) (tracker : Tracker)
    (hi : (full.stateAt full.active).ignore.skips symbol = false) :
    Alike { full with buffer := full.buffer ++ [symbol], tracker, status := .wait }
      { thin with buffer := thin.buffer ++ [symbol], tracker, status := .wait } := by
  refine ⟨h.buffers, h.drops, h.states, h.started, rfl, h.chain, rfl, ?_⟩
  change thin.buffer ++ [symbol] = _
  rw [h.buffer]
  symm
  exact heard_classified rfl rfl rfl hi

theorem Alike.emptied {chain : List StateId} {tracker : Tracker} {status : Status}
    {memory memory' : Memory} :
    Alike { full with chain, buffer := [], tracker, status, memory }
      { thin with chain, buffer := [], tracker, status, memory := memory' } :=
  ⟨h.buffers, h.drops, h.states, h.started, rfl, rfl, rfl, rfl⟩

theorem Alike.entered (target : StateId)
    (hf : ∀ event ∈ (full.enter target).journal, event.Consents)
    (ht : ∀ event ∈ (thin.enter target).journal, event.Consents) :
    Thinned (full.stateAt full.active).ignore (full.enter target) (thin.enter target) := by
  obtain ⟨memory, ha⟩ := enter_unfailed fun event hin => (hf event hin).1
  obtain ⟨memory', ha'⟩ := enter_unfailed fun event hin => (ht event hin).1
  rw [enter_ok full target memory ha, enter_ok thin target memory' ha', h.chain, h.tracker,
    h.stateAt, h.buffer]
  refine ⟨rfl, ?_, h.emptied⟩
  rw [calls_of_made rfl rfl, calls_of_made rfl rfl, called_thinned rfl]
  rfl

theorem Alike.left
    (hf : ∀ event ∈ (full.leave full.active).journal, event.Consents)
    (ht : ∀ event ∈ (thin.leave thin.active).journal, event.Consents) :
    Thinned (full.stateAt full.active).ignore (full.leave full.active)
      (thin.leave thin.active) := by
  obtain ⟨memory, ha⟩ := leave_unfailed fun event hin => (hf event hin).1
  obtain ⟨memory', ha'⟩ := leave_unfailed fun event hin => (ht event hin).1
  rw [leave_ok full _ memory ha, leave_ok thin _ memory' ha', h.active, h.chain, h.tracker,
    h.stateAt, h.buffer]
  refine ⟨rfl, ?_, h.emptied⟩
  rw [calls_of_made rfl rfl, calls_of_made rfl rfl, called_thinned rfl]
  rfl

theorem Alike.missed (hf : ∀ event ∈ full.flush.journal, event.Consents)
    (ht : ∀ event ∈ thin.flush.journal, event.Consents) :
    Thinned (full.stateAt full.active).ignore full.flush thin.flush := by
  obtain ⟨memory, hr⟩ := replay_consented full.active full.buffer
    { full with buffer := [], status := .miss } fun event hin =>
      hf event (List.mem_append_right _ hin)
  obtain ⟨memory', hr'⟩ := replay_consented thin.active thin.buffer
    { thin with buffer := [], status := .miss } fun event hin =>
      ht event (List.mem_append_right _ hin)
  rw [flush, flush, hr, hr']
  refine ⟨rfl, ?_, ?_⟩
  · simp only [Outcome.after_journal, Journal.calls_append, stateAt_mk, takings_calls]
    rw [h.active, h.stateAt, h.buffer]
    exact takings_thinned _ _ _ _
  · simp only [Outcome.after_machine]
    rw [h.chain, h.tracker]
    exact h.emptied

theorem Alike.acted (verdict : Verdict)
    (hf : ∀ event ∈ (full.act verdict).journal, event.Consents)
    (ht : ∀ event ∈ (thin.act verdict).journal, event.Consents) :
    Thinned (full.stateAt full.active).ignore (full.act verdict) (thin.act verdict) := by
  cases verdict with
  | enter target => exact h.entered target hf ht
  | pop => exact h.left hf ht
  | miss => exact h.missed hf ht
  | undecided => exact ⟨rfl, rfl, h⟩

/-- An ignored symbol is no more than a part of the one buffer. -/
theorem Alike.ignored (symbol : Char)
    (hi : (full.stateAt full.active).ignore.skips symbol = true) :
    Alike ({ full with status := .wait }.ignore symbol)
      ({ thin with status := .wait }.ignore symbol) := by
  simp only [ignore, h.buffers, h.drops]
  refine ⟨h.buffers, h.drops, h.states, h.started, rfl, h.chain, h.tracker, ?_⟩
  change thin.buffer = _
  rw [h.buffer]
  symm
  exact heard_skipped rfl rfl rfl hi

theorem Alike.parse (symbol : Char)
    (hf : ∀ event ∈ (full.parse symbol).journal, event.Consents)
    (ht : ∀ event ∈ (thin.parse symbol).journal, event.Consents) :
    Thinned (full.stateAt full.active).ignore (full.parse symbol) (thin.parse symbol) := by
  cases hs : full.started with
  | false =>
    rw [parse_refused symbol hs, parse_refused symbol (h.started.trans hs)]
    exact ⟨rfl, rfl, h⟩
  | true =>
    have hs' : thin.started = true := h.started.trans hs
    have hskips : (thin.stateAt thin.active).ignore.skips symbol =
        (full.stateAt full.active).ignore.skips symbol := by rw [h.active, h.stateAt]
    cases hi : (full.stateAt full.active).ignore.skips symbol with
    | true =>
      rw [parse_ignored full symbol hs hi, parse_ignored thin symbol hs' (hskips.trans hi)]
      exact ⟨rfl, rfl, h.ignored symbol hi⟩
    | false =>
      rcases hc : full.tracker.classify full.states symbol full.active with ⟨verdict, tracker⟩
      have hc' : thin.tracker.classify thin.states symbol thin.active = (verdict, tracker) := by
        rw [h.tracker, h.states, h.active, hc]
      have hr := parse_classified full symbol hs hi verdict tracker hc
      have hr' := parse_classified thin symbol hs' (hskips.trans hi) verdict tracker hc'
      rw [hr] at hf ⊢
      rw [hr'] at ht ⊢
      obtain ⟨hresult, hcalls, hmachine⟩ := (h.pushed symbol tracker hi).acted verdict
        (fun event hin => hf event (List.mem_append_right _ hin))
        (fun event hin => ht event (List.mem_append_right _ hin))
      exact ⟨hresult, hcalls, hmachine⟩

end Step

section Run

variable {full thin : Machine Memory} (h : Alike full thin) (text : List Char)
  (hf : ∀ outcome ∈ full.outcomes text, ∀ event ∈ outcome.journal, event.Consents)
  (ht : ∀ outcome ∈ thin.outcomes text, ∀ event ∈ outcome.journal, event.Consents)
include h hf ht

/-- Each symbol of a text leads to the same in two such sessions. -/
theorem Alike.everywhere (before : List Char) (symbol : Char) (after : List Char)
    (hs : text = before ++ symbol :: after) :
    Thinned ((full.feed before).stateAt (full.feed before).active).ignore
      ((full.feed before).parse symbol) ((thin.feed before).parse symbol) := by
  induction before generalizing full thin text with
  | nil =>
    obtain rfl : text = symbol :: after := hs
    exact h.parse symbol (hf _ List.mem_cons_self) (ht _ List.mem_cons_self)
  | cons first before ih =>
    obtain rfl : text = first :: (before ++ symbol :: after) := hs
    obtain ⟨hnow, hlater⟩ := List.forall_mem_cons.mp hf
    obtain ⟨hnow', hlater'⟩ := List.forall_mem_cons.mp ht
    exact ih (h.parse first hnow hnow').machine _ hlater hlater' rfl

theorem Alike.thinnedCalls :
    ((thin.outcomes text).flatMap fun outcome => outcome.journal.calls) =
      full.thinnedCalls text := by
  induction text generalizing full thin with
  | nil => rfl
  | cons symbol text ih =>
    obtain ⟨hnow, hlater⟩ := List.forall_mem_cons.mp hf
    obtain ⟨hnow', hlater'⟩ := List.forall_mem_cons.mp ht
    have hstep := h.parse symbol hnow hnow'
    rw [outcomes, List.flatMap_cons, hstep.calls, ih hstep.machine hlater hlater']
    rfl

end Run

theorem prestart_withPolicy {m started : Machine Memory} (hok : m.prestart = .ok started)
    (policy : IgnorePolicy) :
    (m.withPolicy policy).prestart = .ok (started.withPolicy policy) := by
  obtain ⟨rfl, hne, hlt⟩ := prestart_ok_iff.mp hok
  exact prestart_ok_iff.mpr ⟨rfl, hne, hlt⟩

/-- While no callback fails and no handler asks for a state, the ignore policy decides only on
the ignored symbols in the buffer and in the calls. -/
theorem policies_differ_in_text {m started : Machine Memory} (hok : m.prestart = .ok started) :
    (∀ policy, (m.withPolicy policy).prestart = .ok (started.withPolicy policy)) ∧
    ∀ text, (∀ policy, ∀ outcome ∈ (started.withPolicy policy).outcomes text,
        ∀ event ∈ outcome.journal, event.Consents) →
      (∀ before symbol after, text = before ++ symbol :: after →
        Thinned
          (((started.withPolicy .bufferThenSkip).feed before).stateAt
            ((started.withPolicy .bufferThenSkip).feed before).active).ignore
          (((started.withPolicy .bufferThenSkip).feed before).parse symbol)
          (((started.withPolicy .skipUnbuffered).feed before).parse symbol)) ∧
      (((started.withPolicy .skipUnbuffered).outcomes text).flatMap fun outcome =>
          outcome.journal.calls) =
        (started.withPolicy .bufferThenSkip).thinnedCalls text := by
  refine ⟨prestart_withPolicy hok, ?_⟩
  intro text hg
  obtain ⟨rfl, -⟩ := prestart_ok hok
  have h : Alike (m.fresh.withPolicy .bufferThenSkip) (m.fresh.withPolicy .skipUnbuffered) :=
    ⟨rfl, rfl, rfl, rfl, rfl, rfl, rfl, rfl⟩
  exact ⟨h.everywhere text (hg _) (hg _), h.thinnedCalls text (hg _) (hg _)⟩

def spaced : Machine Nat :=
  (withOptions {} 0).calls
    [.addState {
        name := "root", branches := [1], ignore := { all := [' '] }
        onMiss := some fun memory _ => (.ok none, memory + 1) },
      .addState {
        name := "next", entry := ['a', 'b'].map .literal, leave := ['c', 'd'].map .literal
        ignore := { all := ['-'] }
        onEnter := some fun memory text => (.ok (), memory + text.length)
        onLeave := some fun memory text => (.ok (), memory + text.length) }]

theorem spaced_differ_in_text :
    (((spaced.fresh.withPolicy .bufferThenSkip).outcomes
        [' ', 'x', 'a', ' ', 'b', '-', 'c', '-', 'd']).flatMap fun outcome =>
          outcome.journal.calls) =
      [.handled 0 ' ' (.ok none), .handled 0 'x' (.ok none),
        .entering 1 ['a', ' ', 'b'] (.ok ()), .leaving 1 ['-', 'c', '-', 'd'] (.ok ())] ∧
    (((spaced.fresh.withPolicy .skipUnbuffered).outcomes
        [' ', 'x', 'a', ' ', 'b', '-', 'c', '-', 'd']).flatMap fun outcome =>
          outcome.journal.calls) =
      [.handled 0 'x' (.ok none), .entering 1 ['a', 'b'] (.ok ()),
        .leaving 1 ['c', 'd'] (.ok ())] := by
  have hall := (policies_differ_in_text (m := spaced) rfl).2
    [' ', 'x', 'a', ' ', 'b', '-', 'c', '-', 'd'] (by intro policy; cases policy <;> decide)
  exact ⟨rfl, hall.2⟩

end Machine
end StateNest
