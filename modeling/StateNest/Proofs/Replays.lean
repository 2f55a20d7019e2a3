import StateNest.Proofs.Account
import StateNest.Proofs.Policies

/-!
# The rest of a miss

Once a handler sets a state, the rest of the miss is dropped or goes to the handler
of that state. Up to there the two runs are the same. The run that goes on can only
push more states, and it leaves nothing buffered and nothing matched either, however
it ends.
-/

set_option autoImplicit false

namespace StateNest

namespace Machine

variable {Memory : Type}

def withReplay (m : Machine Memory) (policy : HardsetReplay) : Machine Memory :=
  { m with options := { m.options with hardsetReplay := policy } }

end Machine

def Outcome.withReplay {Memory : Type} (outcome : Outcome Memory) (policy : HardsetReplay) :
    Outcome Memory :=
  { outcome with machine := outcome.machine.withReplay policy }

namespace Machine

variable {Memory : Type}

/-- The handler of a replay takes the symbols of `first` and sets a state on the next one. Only
what becomes of the symbols after it depends on the policy. -/
structure Parting (m : Machine Memory) (handler : StateId) (text first : List Char)
    (missed : Char) (rest : List Char) (target : StateId) (memory : Memory) : Prop where
  split : text = first ++ missed :: rest
  known : target < m.states.length
  stopped : replay handler text (m.withReplay .stop) =
    ⟨.ok true, (hardSet { m with memory } target).withReplay .stop,
      takings (m.stateAt handler) handler first ++
        [.handled handler missed (.ok (some target)), .hardSet handler target missed]⟩
  continued : replay handler text (m.withReplay .continue) =
    (replay target rest ((hardSet { m with memory } target).withReplay .continue)).after
      (takings (m.stateAt handler) handler first ++
        [.handled handler missed (.ok (some target)), .hardSet handler target missed])

section Replay

variable {m : Machine Memory} {handler : StateId} {symbol missed : Char} {rest later : List Char}
  {first : List Char} {target : StateId} {memory last : Memory}

/-- A symbol that no handler hears can be put before it all. -/
theorem Parting.passed (h : Parting m handler rest first missed later target memory)
    (hr : ∀ policy, replay handler (symbol :: rest) (m.withReplay policy) =
      replay handler rest (m.withReplay policy))
    (ht : takings (m.stateAt handler) handler (symbol :: first) =
      takings (m.stateAt handler) handler first) :
    Parting m handler (symbol :: rest) (symbol :: first) missed later target memory where
  split := congrArg (symbol :: ·) h.split
  known := h.known
  stopped := by rw [hr, ht, h.stopped]
  continued := by rw [hr, ht, h.continued]

/-- So can one that the handler takes. -/
theorem Parting.taken
    (h : Parting { m with memory := last } handler rest first missed later target memory)
    (hr : ∀ policy, replay handler (symbol :: rest) (m.withReplay policy) =
      (replay handler rest ({ m with memory := last }.withReplay policy)).after
        [.handled handler symbol (.ok none)])
    (ht : takings (m.stateAt handler) handler (symbol :: first) =
      .handled handler symbol (.ok none) :: takings (m.stateAt handler) handler first) :
    Parting m handler (symbol :: rest) (symbol :: first) missed later target memory where
  split := congrArg (symbol :: ·) h.split
  known := h.known
  stopped := by
    rw [hr, ht, h.stopped]
    rfl
  continued := by
    rw [hr, ht, h.continued]
    rfl

end Replay

/-- Two replays under both policies are the same, unless a handler sets a state. -/
theorem replay_parting (handler : StateId) (text : List Char) (m : Machine Memory) :
    (replay handler text (m.withReplay .continue) =
        (replay handler text (m.withReplay .stop)).withReplay .continue ∧
      (replay handler text (m.withReplay .stop)).journal.pushed = []) ∨
    ∃ first missed rest target memory,
      Parting m handler text first missed rest target memory := by
  induction text generalizing m with
  | nil => exact Or.inl ⟨rfl, rfl⟩
  | cons symbol text ih =>
    cases hskip : (m.stateAt handler).ignore.skipsInHandler symbol with
    | true =>
      have hr (policy : HardsetReplay) : replay handler (symbol :: text) (m.withReplay policy) =
          replay handler text (m.withReplay policy) := replay_skipped text hskip
      rcases ih m with hsame | ⟨first, missed, rest, target, memory, hp⟩
      · rw [hr, hr]
        exact Or.inl hsame
      · exact Or.inr ⟨_, _, _, _, _, hp.passed hr (takings_skipped hskip handler first)⟩
    | false =>
      cases hcall : (m.stateAt handler).onMiss with
      | none =>
        have hr (policy : HardsetReplay) : replay handler (symbol :: text) (m.withReplay policy) =
            replay handler text (m.withReplay policy) := replay_unhandled text hcall
        rcases ih m with hsame | ⟨first, missed, rest, target, memory, hp⟩
        · rw [hr, hr]
          exact Or.inl hsame
        · exact Or.inr ⟨_, _, _, _, _, hp.passed hr (by simp [takings, hcall])⟩
      | some call =>
        rcases hm : call m.memory symbol with ⟨failure | _ | target, last⟩
        · have hr (policy : HardsetReplay) :=
            replay_failed (m := m.withReplay policy) text hskip hcall hm
          refine Or.inl ⟨?_, by rw [hr]; rfl⟩
          rw [hr, hr]
          rfl
        · have hr (policy : HardsetReplay) :=
            replay_consumed (m := m.withReplay policy) text hskip hcall hm
          rcases ih { m with memory := last } with
            ⟨hsame, hnone⟩ | ⟨first, missed, rest, target, memory, hp⟩
          · refine Or.inl ⟨?_, ?_⟩
            · rw [hr, hr]
              exact congrArg (Outcome.after · _) hsame
            · rw [hr]
              exact hnone
          · have ht := takings_taken hskip (by rw [hcall]; rfl) handler first
            exact Or.inr ⟨_, _, _, _, _, hp.taken hr ht⟩
        · by_cases hk : target < m.states.length
          · refine Or.inr ⟨[], symbol, text, target, last, rfl, hk, ?_, ?_⟩
            · rw [replay_stopped (m := m.withReplay .stop) text hskip hcall hm hk rfl]
              simp [takings]
              rfl
            · rw [replay_continued (m := m.withReplay .continue) text hskip hcall hm hk rfl]
              simp [takings]
              rfl
          · have hr (policy : HardsetReplay) :=
              replay_refused (m := m.withReplay policy) text hskip hcall hm hk
            refine Or.inl ⟨?_, by rw [hr]; rfl⟩
            rw [hr, hr]
            rfl

theorem replay_unheard {m : Machine Memory} {handler : StateId} {text : List Char}
    (h : ∀ symbol ∈ text, (m.stateAt handler).ignore.skipsInHandler symbol = true) :
    replay handler text m = ⟨.ok true, m, []⟩ := by
  induction text with
  | nil => rfl
  | cons symbol text ih =>
    obtain ⟨hskip, hrest⟩ := List.forall_mem_cons.mp h
    rw [replay_skipped text hskip, ih hrest]

/-- What two runs of a symbol have to do with each other if one of them is stopped by the first
state that is set, on the symbol `missed`, and the other is not. -/
structure Shortened (before : Machine Memory) (symbol : Char) (stopped continued : Outcome Memory)
    (first : List Char) (missed : Char) (rest : List Char) (target : StateId) : Prop where
  split : before.buffer ++ [symbol] = first ++ missed :: rest
  known : target < before.states.length
  calls : stopped.journal.calls =
    takings (before.stateAt before.active) before.active first ++
      [.handled before.active missed (.ok (some target))]
  more : stopped.journal.calls <+: continued.journal.calls
  result : stopped.result = .ok true
  status : stopped.machine.status = .hardset
  chain : stopped.machine.chain = before.chain ++ [target]
  longer : stopped.machine.chain <+: continued.machine.chain
  buffer : stopped.machine.buffer = [] ∧ continued.machine.buffer = []
  cleared : Cleared stopped.machine ∧ Cleared continued.machine
  phase : stopped.machine.tracker.phase = .undetermined ∧
    continued.machine.tracker.phase = .undetermined
  ended : continued.result = .ok true ∨ continued.result = .ok false ∨
    ∃ state index count, continued.result = .error (.invalidStateIndex state index count)
  resumed : continued =
    (replay target rest (stopped.machine.withReplay .continue)).after stopped.journal
  /-- If nobody hears the rest, the policy makes no difference. -/
  quiet : (∀ other ∈ rest, (before.stateAt target).ignore.skipsInHandler other = true) →
    continued = stopped.withReplay .continue

theorem replay_cleared (handler : StateId) (text : List Char) {m : Machine Memory}
    {t : Tracker} (ht : m.tracker = t.reset) (hs : m.tracker.Sized m.states.length)
    (hb : m.buffer = []) :
    m.chain <+: (replay handler text m).machine.chain ∧
      (replay handler text m).machine.buffer = [] ∧
      Cleared (replay handler text m).machine ∧
      (replay handler text m).machine.tracker.phase = .undetermined := by
  obtain ⟨events, middle, hp, he, -⟩ := replay_cases handler text m
  have hchain : m.chain <+: middle.chain := ⟨events.pushed, hp.chain.symm⟩
  have hbuffer : middle.buffer = [] := by rw [hp.buffer, hb, ite_self]
  have htracker : middle.tracker = t.reset := by rw [hp.tracker, ht, reset_reset, ite_self]
  have hsized : middle.tracker.Sized middle.states.length := by rwa [htracker, ← ht, hp.states]
  have hphase : middle.tracker.phase = .undetermined := by rw [htracker]; rfl
  generalize replay handler text m = outcome at he ⊢
  cases he with
  | finished => exact ⟨hchain, hbuffer, cleared_of_reset hsized htracker, hphase⟩
  | failed => exact ⟨hchain, hbuffer, cleared_of_reset hsized htracker, hphase⟩
  | refused => exact ⟨hchain, hbuffer, cleared_of_reset hsized htracker, hphase⟩

theorem replay_ended (handler : StateId) (text : List Char) (m : Machine Memory) :
    (replay handler text m).result = .ok true ∨ (replay handler text m).result = .ok false ∨
      ∃ state index count,
        (replay handler text m).result = .error (.invalidStateIndex state index count) := by
  obtain ⟨events, middle, -, he, -⟩ := replay_cases handler text m
  generalize replay handler text m = outcome at he ⊢
  cases he with
  | finished => exact Or.inl rfl
  | failed => exact Or.inr (Or.inl rfl)
  | refused => exact Or.inr (Or.inr ⟨_, _, _, rfl⟩)

section Parse

variable (m : Machine Memory)

theorem called_pushed {callback : Option (Callback Memory (List Char) Unit)} {event : Event}
    (h : event.pushed? = none) : (called callback event).pushed = [] := by
  unfold called
  split
  · rw [Journal.pushed_cons, h]
    rfl
  · rfl

theorem enter_withReplay (target : StateId) (policy : HardsetReplay) :
    (m.withReplay policy).enter target = (m.enter target).withReplay policy ∧
      (m.enter target).journal.pushed = [] := by
  rcases ha : answer (m.stateAt target).onEnter m.memory m.buffer with ⟨failure | ⟨⟩, memory⟩
  · rw [enter_failed m target memory failure ha]
    exact ⟨enter_failed (m.withReplay policy) target memory failure ha, rfl⟩
  · rw [enter_ok m target memory ha]
    refine ⟨enter_ok (m.withReplay policy) target memory ha, ?_⟩
    rw [Journal.pushed_append, called_pushed rfl]
    rfl

theorem leave_withReplay (id : StateId) (policy : HardsetReplay) :
    (m.withReplay policy).leave id = (m.leave id).withReplay policy ∧
      (m.leave id).journal.pushed = [] := by
  rcases ha : answer (m.stateAt id).onLeave m.memory m.buffer with ⟨failure | ⟨⟩, memory⟩
  · rw [leave_failed m id memory failure ha]
    exact ⟨leave_failed (m.withReplay policy) id memory failure ha, rfl⟩
  · rw [leave_ok m id memory ha]
    refine ⟨leave_ok (m.withReplay policy) id memory ha, ?_⟩
    rw [Journal.pushed_append, called_pushed rfl]
    rfl

theorem act_withReplay {verdict : Verdict} (hv : verdict ≠ .miss) (policy : HardsetReplay) :
    (m.withReplay policy).act verdict = (m.act verdict).withReplay policy ∧
      (m.act verdict).journal.pushed = [] := by
  cases verdict with
  | enter target => exact enter_withReplay m target policy
  | pop => exact leave_withReplay m m.active policy
  | undecided => exact ⟨rfl, rfl⟩
  | miss => exact absurd rfl hv

def Misses (symbol : Char) (tracker : Tracker) : Prop :=
  m.started = true ∧ (m.stateAt m.active).ignore.skips symbol = false ∧
    m.tracker.classify m.states symbol m.active = (.miss, tracker)

theorem parse_withReplay (symbol : Char) (policy : HardsetReplay)
    (h : ∀ tracker, ¬ m.Misses symbol tracker) :
    (m.withReplay policy).parse symbol = (m.parse symbol).withReplay policy ∧
      (m.parse symbol).journal.pushed = [] := by
  cases hs : m.started with
  | false =>
    rw [parse_refused symbol hs, parse_refused (m := m.withReplay policy) symbol hs]
    exact ⟨rfl, rfl⟩
  | true =>
    cases hi : (m.stateAt m.active).ignore.skips symbol with
    | true =>
      rw [parse_ignored m symbol hs hi, parse_ignored (m.withReplay policy) symbol hs hi]
      refine ⟨?_, rfl⟩
      simp only [ignore, withReplay, Outcome.withReplay]
      split <;> rfl
    | false =>
      rcases hc : m.tracker.classify m.states symbol m.active with ⟨verdict, tracker⟩
      have hv : verdict ≠ .miss := fun hmiss => h tracker ⟨hs, hi, hmiss ▸ hc⟩
      obtain ⟨hact, hnone⟩ := act_withReplay
        { m with buffer := m.buffer ++ [symbol], tracker, status := .wait } hv policy
      rw [parse_classified m symbol hs hi verdict tracker hc,
        parse_classified (m.withReplay policy) symbol hs hi verdict tracker hc]
      exact ⟨congrArg (Outcome.after · _) hact, hnone⟩

theorem parse_missed {symbol : Char} {tracker : Tracker} (h : m.Misses symbol tracker)
    (policy : HardsetReplay) :
    (m.withReplay policy).parse symbol =
      (replay m.active (m.buffer ++ [symbol])
        ({ m with buffer := [], tracker, status := .miss }.withReplay policy)).after
          [.classified m.active symbol .miss, .missed m.active (m.buffer ++ [symbol])] := by
  obtain ⟨hs, hi, hc⟩ := h
  rw [parse_classified (m.withReplay policy) symbol hs hi .miss tracker hc]
  rfl

/-- Under both policies a symbol leads to the same, unless it is missed and a handler sets a
state. -/
theorem parse_parting (symbol : Char) :
    ((m.withReplay .continue).parse symbol =
        ((m.withReplay .stop).parse symbol).withReplay .continue ∧
      ((m.withReplay .stop).parse symbol).journal.pushed = []) ∨
    ∃ tracker first missed rest target memory, m.Misses symbol tracker ∧
      Parting { m with buffer := [], tracker, status := .miss } m.active (m.buffer ++ [symbol])
        first missed rest target memory := by
  by_cases h : ∃ tracker, m.Misses symbol tracker
  · obtain ⟨tracker, h⟩ := h
    have hparse := parse_missed m h
    rcases replay_parting m.active (m.buffer ++ [symbol])
        { m with buffer := [], tracker, status := .miss } with ⟨hsame, hnone⟩ | hp
    · refine Or.inl ⟨?_, ?_⟩
      · rw [hparse, hparse]
        exact congrArg (Outcome.after · _) hsame
      · rw [hparse]
        exact hnone
    · obtain ⟨first, missed, rest, target, memory, hp⟩ := hp
      exact Or.inr ⟨tracker, first, missed, rest, target, memory, h, hp⟩
  · have hnever := not_exists.mp h
    obtain ⟨hstop, hnone⟩ := parse_withReplay m symbol .stop hnever
    rw [hstop, (parse_withReplay m symbol .continue hnever).1]
    exact Or.inl ⟨rfl, hnone⟩

end Parse

theorem Parting.shortened {m : Machine Memory} {symbol missed : Char} {tracker : Tracker}
    {first rest : List Char} {target : StateId} {memory : Memory}
    (hz : m.tracker.Sized m.states.length) (hm : m.Misses symbol tracker)
    (hp : Parting { m with buffer := [], tracker, status := .miss } m.active
      (m.buffer ++ [symbol]) first missed rest target memory) :
    ((m.withReplay .stop).parse symbol).journal.pushed ≠ [] ∧
      ((m.withReplay .continue).parse symbol).journal.pushed ≠ [] ∧
      Shortened m symbol ((m.withReplay .stop).parse symbol)
        ((m.withReplay .continue).parse symbol) first missed rest target := by
  have hsized : tracker.Sized m.states.length := by
    have hk := Tracker.classify_sized m.states symbol m.tracker m.active hz
    rwa [hm.2.2] at hk
  have hstopped := hp.stopped
  have hcontinued := hp.continued
  -- What the state that is set leaves behind is all that the rest of the replay sees.
  generalize hset : hardSet { ({ m with buffer := [], tracker, status := .miss } : Machine Memory)
    with memory } target = set at hstopped hcontinued
  have hchain : set.chain = m.chain ++ [target] := by rw [← hset]; rfl
  have hbuffer : set.buffer = [] := by rw [← hset]; rfl
  have htracker : set.tracker = tracker.reset := by rw [← hset]; rfl
  have hstates : set.states = m.states := by rw [← hset]; rfl
  have hstatus : set.status = .hardset := by rw [← hset]; rfl
  have hreset : set.tracker.Sized set.states.length := by
    rw [htracker, hstates]
    exact Tracker.reset_sized _ hsized
  obtain ⟨hlonger, hempty, hcleared, hphase⟩ := replay_cleared target rest
    (m := set.withReplay .continue) htracker hreset hbuffer
  have hended := replay_ended target rest (set.withReplay .continue)
  have hcalls := takings_calls (m.stateAt m.active) m.active first
  rw [parse_missed m hm, parse_missed m hm, hstopped, hcontinued]
  refine ⟨by simp, by simp, ?_⟩
  constructor
  · exact hp.split
  · exact hp.known
  · simp [Event.isCall, hcalls]
  · simp [Event.isCall, hcalls]
  · rfl
  · exact hstatus
  · exact hchain
  · exact hlonger
  · exact ⟨hbuffer, hempty⟩
  · exact ⟨cleared_of_reset hreset htracker, hcleared⟩
  · refine ⟨?_, hphase⟩
    change set.tracker.phase = .undetermined
    rw [htracker]
    rfl
  · exact hended
  · rfl
  · intro hquiet
    rw [stateAt, ← hstates] at hquiet
    rw [replay_unheard (m := set.withReplay .continue) hquiet]
    simp [Outcome.after, Outcome.withReplay, withReplay]

/-- Stopping a replay at the first state that is set cuts a run short, and changes nothing else. -/
theorem stop_shortens_continue {m : Machine Memory} (h : Reachable m) (symbol : Char) :
    ((m.tracker.classify m.states symbol m.active).1 ≠ .miss ∨
        ((m.withReplay .stop).parse symbol).journal.pushed = [] ∨
        ((m.withReplay .continue).parse symbol).journal.pushed = [] →
      (m.withReplay .continue).parse symbol =
        ((m.withReplay .stop).parse symbol).withReplay .continue) ∧
    (((m.withReplay .stop).parse symbol).journal.pushed ≠ [] ∨
        ((m.withReplay .continue).parse symbol).journal.pushed ≠ [] →
      ∃ first missed rest target, Shortened m symbol ((m.withReplay .stop).parse symbol)
        ((m.withReplay .continue).parse symbol) first missed rest target) := by
  rcases parse_parting m symbol with
    ⟨hsame, hnone⟩ | ⟨tracker, first, missed, rest, target, memory, hm, hp⟩
  · refine ⟨fun _ => hsame, fun hsome => ?_⟩
    rw [hsame] at hsome
    exact absurd hnone (hsome.elim id id)
  · obtain ⟨hstop, hcontinue, hshort⟩ := hp.shortened h.sound.sized hm
    refine ⟨?_, fun _ => ⟨first, missed, rest, target, hshort⟩⟩
    rintro (hv | hnone | hnone)
    · exact absurd (congrArg Prod.fst hm.2.2) hv
    · exact absurd hnone hstop
    · exact absurd hnone hcontinue

/-- The handler of the next state fails, so that only the run that goes on is broken. -/
theorem torn_shortened : Reachable torn ∧
    ((torn.withReplay .continue).parse 'c').result = .ok false ∧
    ∃ first missed rest target, Shortened torn 'c' ((torn.withReplay .stop).parse 'c')
      ((torn.withReplay .continue).parse 'c') first missed rest target := by
  have hr : Reachable torn := ⟨_, (), _, rfl⟩
  have hpushed : ((torn.withReplay .stop).parse 'c').journal.pushed ≠ [] := by decide
  exact ⟨hr, rfl, (stop_shortens_continue hr 'c').2 (Or.inl hpushed)⟩

end Machine
end StateNest
