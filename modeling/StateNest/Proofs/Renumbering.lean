import Mathlib.Data.List.Forall2
import StateNest.Proofs.Restart

/-!
# Positions are no more than names

What a machine does depends on its states and not on where they stand. Given is
which position of one machine stands for which of another. If the states at such
positions say the same, each in its own numbering, then so do the two machines,
symbol after symbol. Positions that stand for none are never looked at.
-/

set_option autoImplicit false

namespace StateNest

variable {Memory : Type} {R : StateId → StateId → Prop}

inductive Answered (R : StateId → StateId → Prop) :
    Except Failure (Option StateId) → Except Failure (Option StateId) → Prop
  | failed (failure : Failure) : Answered R (.error failure) (.error failure)
  | consumed : Answered R (.ok none) (.ok none)
  | asked (target other : StateId) (hr : R target other) :
      Answered R (.ok (some target)) (.ok (some other))

inductive Verdict.Renumbered (R : StateId → StateId → Prop) : Verdict → Verdict → Prop
  | enter (target other : StateId) (hr : R target other) :
      Verdict.Renumbered R (.enter target) (.enter other)
  | pop : Verdict.Renumbered R .pop .pop
  | undecided : Verdict.Renumbered R .undecided .undecided
  | miss : Verdict.Renumbered R .miss .miss

inductive Phase.Renumbered (R : StateId → StateId → Prop) : Phase → Phase → Prop
  | undetermined : Phase.Renumbered R .undetermined .undetermined
  | entering (target other : StateId) (hr : R target other) :
      Phase.Renumbered R (.entering target) (.entering other)
  | leaving : Phase.Renumbered R .leaving .leaving

structure State.Renumbered (R : StateId → StateId → Prop) (state other : State Memory) : Prop where
  name : other.name = state.name
  entry : other.entry = state.entry
  leave : other.leave = state.leave
  branches : List.Forall₂ R state.branches other.branches
  skips : ∀ symbol, other.ignore.skips symbol = state.ignore.skips symbol
  skipsInHandler : ∀ symbol, other.ignore.skipsInHandler symbol = state.ignore.skipsInHandler symbol
  onEnter : other.onEnter = state.onEnter
  onLeave : other.onLeave = state.onLeave
  onMiss : Option.Rel (fun call call' => ∀ memory symbol, Answered R (call memory symbol).1
    (call' memory symbol).1 ∧ (call' memory symbol).2 = (call memory symbol).2)
    state.onMiss other.onMiss

/-- Positions of known states stand for each other one to one, and so do the states there. -/
structure Renumbering (R : StateId → StateId → Prop) (states others : List (State Memory)) :
    Prop where
  root : R root root
  unique : ∀ {id other id' other'}, R id other → R id' other' → (id = id' ↔ other = other')
  known : ∀ {id other}, R id other → id < states.length ∧ other < others.length
  states : ∀ {id other}, R id other →
    (Tracker.stateAt states id).Renumbered R (Tracker.stateAt others other)

namespace Tracker

structure Renumbered (R : StateId → StateId → Prop) (t u : Tracker) : Prop where
  phase : t.phase.Renumbered R u.phase
  entry : ∀ {id other}, R id other → u.entry[other]? = t.entry[id]?
  leave : ∀ {id other}, R id other → u.leave[other]? = t.leave[id]?

theorem Renumbered.progress {t u : Tracker} (h : Renumbered R t u) {id other : StateId}
    (hr : R id other) : u.progress other = t.progress id := by
  rw [Tracker.progress, Tracker.progress, h.entry hr, h.leave hr]

theorem Renumbered.reset {t u : Tracker} (h : Renumbered R t u) :
    Renumbered R t.reset u.reset where
  phase := Phase.Renumbered.undetermined
  entry := fun hr => by simp only [Tracker.reset, List.getElem?_map, h.entry hr]
  leave := fun hr => by simp only [Tracker.reset, List.getElem?_map, h.leave hr]

structure Decided (R : StateId → StateId → Prop) (decided other : Verdict × Tracker) : Prop where
  verdict : decided.1.Renumbered R other.1
  tracker : Renumbered R decided.2 other.2

section Classify

variable {states others : List (State Memory)} (hs : Renumbering R states others) (symbol : Char)
include hs

/-- A counter is written where its state stands. -/
theorem set_renumbered {l k : List Nat}
    (h : ∀ {id other}, R id other → k[other]? = l[id]?) {id other : StateId} (hr : R id other)
    (value : Nat) {id' other' : StateId} (hr' : R id' other') :
    (k.set other value)[other']? = (l.set id value)[id']? := by
  have hlength : other < k.length ↔ id < l.length := by
    rw [← Nat.not_le, ← List.getElem?_eq_none_iff, h hr, List.getElem?_eq_none_iff, Nat.not_le]
  simp only [List.getElem?_set, ← hs.unique hr hr', hlength, h hr']

theorem stepEntry_renumbered {t u : Tracker} (h : Renumbered R t u) {id other : StateId}
    (hr : R id other) : ∃ outcome stepped stepped',
      stepEntry states symbol t id = (outcome, stepped) ∧
      stepEntry others symbol u other = (outcome, stepped') ∧ Renumbered R stepped stepped' := by
  have hcounter : u.entry.getD other 0 = t.entry.getD id 0 := by
    rw [List.getD_eq_getElem?_getD, h.entry hr, ← List.getD_eq_getElem?_getD]
  rcases hp : (stateAt states id).entry.step (t.entry.getD id 0) symbol with ⟨outcome, progress⟩
  have hother : stepEntry others symbol u other =
      (outcome, { u with entry := u.entry.set other progress }) := by
    rw [stepEntry, (hs.states hr).entry, hcounter, hp]
  refine ⟨outcome, _, _, by rw [stepEntry, hp], hother, ?_⟩
  exact ⟨h.phase, set_renumbered hs h.entry hr progress, h.leave⟩

theorem stepLeave_renumbered {t u : Tracker} (h : Renumbered R t u) {id other : StateId}
    (hr : R id other) : ∃ outcome stepped stepped',
      stepLeave states symbol t id = (outcome, stepped) ∧
      stepLeave others symbol u other = (outcome, stepped') ∧ Renumbered R stepped stepped' := by
  have hcounter : u.leave.getD other 0 = t.leave.getD id 0 := by
    rw [List.getD_eq_getElem?_getD, h.leave hr, ← List.getD_eq_getElem?_getD]
  rcases hp : (stateAt states id).leave.step (t.leave.getD id 0) symbol with ⟨outcome, progress⟩
  have hother : stepLeave others symbol u other =
      (outcome, { u with leave := u.leave.set other progress }) := by
    rw [stepLeave, (hs.states hr).leave, hcounter, hp]
  refine ⟨outcome, _, _, by rw [stepLeave, hp], hother, ?_⟩
  exact ⟨h.phase, h.entry, set_renumbered hs h.leave hr progress⟩

omit hs in
theorem settle_renumbered {t u : Tracker} (h : Renumbered R t u) (live : Nat)
    {candidate candidate' : Option StateId} (hc : Option.Rel R candidate candidate') :
    Decided R (settle t live candidate) (settle u live candidate') := by
  match live, hc with
  | 0, _ => exact ⟨Verdict.Renumbered.miss, h⟩
  | 1, .none => exact ⟨Verdict.Renumbered.undecided, Phase.Renumbered.leaving, h.entry, h.leave⟩
  | 1, .some hr =>
    exact ⟨Verdict.Renumbered.undecided, Phase.Renumbered.entering _ _ hr, h.entry, h.leave⟩
  | live + 2, _ => exact ⟨Verdict.Renumbered.undecided, h⟩

theorem stepBranches_renumbered {branches branches' : List StateId}
    (hb : List.Forall₂ R branches branches') {t u : Tracker} (h : Renumbered R t u) (live : Nat)
    {candidate candidate' : Option StateId} (hc : Option.Rel R candidate candidate') :
    Decided R (stepBranches states symbol branches t live candidate)
      (stepBranches others symbol branches' u live candidate') := by
  induction hb generalizing t u live candidate candidate' with
  | nil => exact settle_renumbered h live hc
  | @cons branch branch' branches branches' hr _ ih =>
    obtain ⟨outcome, stepped, stepped', he, he', hn⟩ := stepEntry_renumbered hs symbol h hr
    rw [stepBranches, stepBranches, he, he']
    cases outcome with
    | complete => exact ⟨Verdict.Renumbered.enter _ _ hr, hn⟩
    | lost => exact ih hn live hc
    | advanced => exact ih hn (live + 1) (Option.Rel.some hr)
    | backtracked => exact ih hn (live + 1) (Option.Rel.some hr)

theorem undetermined_renumbered {t u : Tracker} (h : Renumbered R t u) {active active' : StateId}
    (hr : R active active') :
    Decided R (undetermined states symbol t active) (undetermined others symbol u active') := by
  obtain ⟨outcome, stepped, stepped', he, he', hn⟩ := stepLeave_renumbered hs symbol h hr
  have hrest := stepBranches_renumbered hs symbol (hs.states hr).branches hn
  rw [undetermined, undetermined, he, he']
  cases outcome with
  | complete => exact ⟨Verdict.Renumbered.pop, hn⟩
  | _ => exact hrest _ Option.Rel.none

omit hs in
theorem locked_renumbered {complete complete' : Verdict} (hv : complete.Renumbered R complete')
    (outcome : Step) {t u : Tracker} (h : Renumbered R t u) :
    Decided R (locked complete (outcome, t)) (locked complete' (outcome, u)) := by
  cases outcome with
  | complete => exact ⟨hv, Phase.Renumbered.undetermined, h.entry, h.leave⟩
  | lost => exact ⟨Verdict.Renumbered.miss, Phase.Renumbered.undetermined, h.entry, h.leave⟩
  | advanced => exact ⟨Verdict.Renumbered.undecided, h⟩
  | backtracked => exact ⟨Verdict.Renumbered.undecided, h⟩

theorem classify_renumbered {t u : Tracker} (h : Renumbered R t u) {active active' : StateId}
    (hr : R active active') :
    Decided R (classify states symbol t active) (classify others symbol u active') := by
  have hphase := h.phase
  unfold classify
  generalize t.phase = phase, u.phase = phase' at hphase
  cases hphase with
  | undetermined => exact undetermined_renumbered hs symbol h hr
  | entering target other hcandidate =>
    obtain ⟨outcome, stepped, stepped', he, he', hn⟩ := stepEntry_renumbered hs symbol h hcandidate
    simp only [he, he']
    exact locked_renumbered (Verdict.Renumbered.enter _ _ hcandidate) outcome hn
  | leaving =>
    obtain ⟨outcome, stepped, stepped', he, he', hn⟩ := stepLeave_renumbered hs symbol h hr
    simp only [he, he']
    exact locked_renumbered Verdict.Renumbered.pop outcome hn

end Classify

end Tracker

namespace Machine

structure Renumbered (R : StateId → StateId → Prop) (m other : Machine Memory) : Prop where
  states : Renumbering R m.states other.states
  chain : List.Forall₂ R m.chain other.chain
  tracker : Tracker.Renumbered R m.tracker other.tracker
  buffer : other.buffer = m.buffer
  status : other.status = m.status
  failure : other.failure = m.failure
  options : other.options = m.options
  started : other.started = m.started
  memory : other.memory = m.memory

structure Matched (R : StateId → StateId → Prop) (outcome other : Outcome Memory) : Prop where
  result : other.result = outcome.result
  machine : Renumbered R outcome.machine other.machine

theorem last_renumbered {chain chain' : List StateId} (h : List.Forall₂ R chain chain')
    {id other : StateId} (hr : R id other) :
    R (chain.getLast?.getD id) (chain'.getLast?.getD other) := by
  induction h generalizing id other with
  | nil => exact hr
  | cons hnow _ ih =>
    rw [List.getLast?_cons, List.getLast?_cons]
    exact ih hnow

theorem pop_renumbered {chain chain' : List StateId} (h : List.Forall₂ R chain chain') :
    List.Forall₂ R (pop chain) (pop chain') := by
  rw [pop, pop, ← h.length_eq, List.dropLast_eq_take, List.dropLast_eq_take, ← h.length_eq]
  split
  · exact List.forall₂_take _ h
  · exact h

section Act

variable {m other : Machine Memory} (h : Renumbered R m other)
include h

theorem Renumbered.active : R m.active other.active := last_renumbered h.chain h.states.root

theorem Renumbered.stateAt {id id' : StateId} (hr : R id id') :
    (m.stateAt id).Renumbered R (other.stateAt id') := h.states.states hr

theorem Renumbered.enter {target target' : StateId} (hr : R target target') :
    Matched R (m.enter target) (other.enter target') := by
  have hchain : List.Forall₂ R (m.chain ++ [target]) (other.chain ++ [target']) :=
    List.rel_append h.chain (List.Forall₂.cons hr List.Forall₂.nil)
  have hsame : answer (other.stateAt target').onEnter other.memory other.buffer =
      answer (m.stateAt target).onEnter m.memory m.buffer := by
    rw [(h.stateAt hr).onEnter, h.memory, h.buffer]
  rcases ha : answer (m.stateAt target).onEnter m.memory m.buffer with ⟨failure | ⟨⟩, memory⟩
  · rw [enter_failed m target memory failure ha,
      enter_failed other target' memory failure (hsame.trans ha)]
    exact ⟨rfl, h.states, hchain, h.tracker, h.buffer, rfl, rfl, h.options, h.started, rfl⟩
  · rw [enter_ok m target memory ha, enter_ok other target' memory (hsame.trans ha)]
    exact ⟨rfl, h.states, hchain, h.tracker.reset, rfl, rfl, h.failure, h.options, h.started, rfl⟩

theorem Renumbered.leave {id id' : StateId} (hr : R id id') :
    Matched R (m.leave id) (other.leave id') := by
  have hsame : answer (other.stateAt id').onLeave other.memory other.buffer =
      answer (m.stateAt id).onLeave m.memory m.buffer := by
    rw [(h.stateAt hr).onLeave, h.memory, h.buffer]
  rcases ha : answer (m.stateAt id).onLeave m.memory m.buffer with ⟨failure | ⟨⟩, memory⟩
  · rw [leave_failed m id memory failure ha,
      leave_failed other id' memory failure (hsame.trans ha)]
    exact ⟨rfl, h.states, h.chain, h.tracker, h.buffer, rfl, rfl, h.options, h.started, rfl⟩
  · rw [leave_ok m id memory ha, leave_ok other id' memory (hsame.trans ha)]
    exact ⟨rfl, h.states, pop_renumbered h.chain, h.tracker.reset, rfl, rfl, h.failure, h.options,
      h.started, rfl⟩

theorem Renumbered.remember (memory : Memory) :
    Renumbered R { m with memory } { other with memory } :=
  ⟨h.states, h.chain, h.tracker, h.buffer, h.status, h.failure, h.options, h.started, rfl⟩

theorem Renumbered.hardSet {target target' : StateId} (hr : R target target') :
    Renumbered R (m.hardSet target) (other.hardSet target') :=
  ⟨h.states, List.rel_append h.chain (List.Forall₂.cons hr List.Forall₂.nil), h.tracker.reset, rfl,
    rfl, h.failure, h.options, h.started, h.memory⟩

theorem Renumbered.fail (failure : Failure) :
    Matched R (m.fail failure) (other.fail failure) :=
  ⟨rfl, h.states, h.chain, h.tracker, h.buffer, rfl, rfl, h.options, h.started, h.memory⟩

end Act

/-- Handlers are called on the same symbols, and each goes on with the state that it asked for. -/
theorem replay_renumbered (text : List Char) {m other : Machine Memory} (h : Renumbered R m other)
    {handler handler' : StateId} (hr : R handler handler') :
    Matched R (replay handler text m) (replay handler' text other) := by
  induction text generalizing m other handler handler' with
  | nil => exact ⟨rfl, h⟩
  | cons symbol rest ih =>
    have hs := h.stateAt hr
    cases hskip : (m.stateAt handler).ignore.skipsInHandler symbol with
    | true =>
      rw [replay_skipped rest hskip,
        replay_skipped rest ((hs.skipsInHandler symbol).trans hskip)]
      exact ih h hr
    | false =>
      have hskip' := (hs.skipsInHandler symbol).trans hskip
      have hmiss := hs.onMiss
      generalize hcall : (m.stateAt handler).onMiss = callback,
        hcall' : (other.stateAt handler').onMiss = callback' at hmiss
      cases hmiss with
      | none =>
        rw [replay_unhandled rest hcall, replay_unhandled rest hcall']
        exact ih h hr
      | @some call call' hcalls =>
        obtain ⟨hanswer, hmemory⟩ := hcalls m.memory symbol
        rcases hm : call m.memory symbol with ⟨given, memory⟩
        rcases hm' : call' other.memory symbol with ⟨given', memory'⟩
        rw [← h.memory, hm'] at hanswer hmemory
        rw [h.memory, hm] at hanswer hmemory
        obtain rfl : memory' = memory := hmemory
        have hn := h.remember memory'
        cases hanswer with
        | failed failure =>
          rw [replay_failed rest hskip hcall hm, replay_failed rest hskip' hcall' hm']
          exact ⟨rfl, (hn.fail failure).machine⟩
        | consumed =>
          rw [replay_consumed rest hskip hcall hm, replay_consumed rest hskip' hcall' hm']
          exact ⟨(ih hn hr).result, (ih hn hr).machine⟩
        | asked target target' htarget =>
          obtain ⟨ht, ht'⟩ := h.states.known htarget
          have hset := hn.hardSet htarget
          cases hp : m.options.hardsetReplay with
          | stop =>
            have hp' : other.options.hardsetReplay = .stop := by rw [h.options, hp]
            rw [replay_stopped rest hskip hcall hm ht hp,
              replay_stopped rest hskip' hcall' hm' ht' hp']
            exact ⟨rfl, hset⟩
          | «continue» =>
            have hp' : other.options.hardsetReplay = .continue := by rw [h.options, hp]
            rw [replay_continued rest hskip hcall hm ht hp,
              replay_continued rest hskip' hcall' hm' ht' hp']
            exact ⟨(ih hset htarget).result, (ih hset htarget).machine⟩

theorem Renumbered.act {m other : Machine Memory} (h : Renumbered R m other)
    {verdict verdict' : Verdict} (hv : verdict.Renumbered R verdict') :
    Matched R (m.act verdict) (other.act verdict') := by
  cases hv with
  | enter target target' hr => exact h.enter hr
  | pop => exact h.leave h.active
  | undecided => exact ⟨rfl, h⟩
  | miss =>
    have hn : Renumbered R { m with buffer := [], status := .miss }
        { other with buffer := [], status := .miss } :=
      ⟨h.states, h.chain, h.tracker, rfl, rfl, h.failure, h.options, h.started, h.memory⟩
    have hreplay := replay_renumbered m.buffer hn h.active
    rw [Machine.act, Machine.act, flush, flush, h.buffer]
    exact ⟨hreplay.result, hreplay.machine⟩

theorem Renumbered.ignore {m other : Machine Memory} (h : Renumbered R m other) (symbol : Char) :
    Renumbered R ({ m with status := .wait }.ignore symbol)
      ({ other with status := .wait }.ignore symbol) := by
  simp only [Machine.ignore, h.options, h.buffer]
  split <;>
    exact ⟨h.states, h.chain, h.tracker, rfl, rfl, h.failure, rfl, h.started, h.memory⟩

theorem Renumbered.parse {m other : Machine Memory} (h : Renumbered R m other) (symbol : Char) :
    Matched R (m.parse symbol) (other.parse symbol) := by
  cases hs : m.started with
  | false =>
    rw [parse_refused symbol hs, parse_refused symbol (h.started.trans hs)]
    exact ⟨rfl, h⟩
  | true =>
    have hs' := h.started.trans hs
    have hskips := (h.stateAt h.active).skips symbol
    cases hi : (m.stateAt m.active).ignore.skips symbol with
    | true =>
      rw [parse_ignored m symbol hs hi, parse_ignored other symbol hs' (hskips.trans hi)]
      exact ⟨rfl, h.ignore symbol⟩
    | false =>
      obtain ⟨hverdict, htracker⟩ :=
        Tracker.classify_renumbered h.states symbol h.tracker h.active
      rw [parse_classified m symbol hs hi _ _ rfl,
        parse_classified other symbol hs' (hskips.trans hi) _ _ rfl, h.buffer]
      have hn : Renumbered R
          { m with
            buffer := m.buffer ++ [symbol]
            tracker := (m.tracker.classify m.states symbol m.active).2, status := .wait }
          { other with
            buffer := m.buffer ++ [symbol]
            tracker := (other.tracker.classify other.states symbol other.active).2
            status := .wait } :=
        ⟨h.states, h.chain, htracker, rfl, rfl, h.failure, h.options, h.started, h.memory⟩
      have hact := hn.act hverdict
      exact ⟨hact.result, hact.machine⟩

theorem Renumbered.feed {m other : Machine Memory} (h : Renumbered R m other) (text : List Char) :
    Renumbered R (m.feed text) (other.feed text) := by
  induction text generalizing m other with
  | nil => exact h
  | cons symbol text ih => exact ih (h.parse symbol).machine

theorem opened_renumbered {states others : List (State Memory)} (h : Renumbering R states others)
    (options : Options) (memory : Memory) :
    Renumbered R (opened states options memory) (opened others options memory) := by
  have hblank {id other : StateId} (hr : R id other) :
      (List.replicate others.length 0)[other]? = (List.replicate states.length 0)[id]? := by
    obtain ⟨hid, hother⟩ := h.known hr
    rw [List.getElem?_replicate_of_lt hid, List.getElem?_replicate_of_lt hother]
  refine ⟨h, List.Forall₂.cons h.root List.Forall₂.nil, ?_, rfl, rfl, rfl, rfl, rfl, rfl⟩
  exact ⟨Phase.Renumbered.undetermined, hblank, hblank⟩

end Machine

end StateNest
