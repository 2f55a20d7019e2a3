import StateNest.Proofs.Decision

/-!
# Search for a single pattern

While a single pattern can be completed and misses are not handed on, a session
searches its input for that pattern. It never takes longer than to the end of
consecutive symbols that match. It may be earlier, since symbols that match in order with
others in between are enough.
-/

set_option autoImplicit false

namespace StateNest

/-- The first element of a kind, by its place counted from one. -/
def FirstAt {α : Type} (kind : α → Prop) (list : List α) (count : Nat) : Prop :=
  ∃ before x rest, list = before ++ x :: rest ∧ count = before.length + 1 ∧ kind x ∧
    ∀ y ∈ before, ¬ kind y

section First

variable {α : Type} {kind : α → Prop} {x : α} {list : List α} {count : Nat}

theorem not_firstAt_nil : ¬ FirstAt kind [] count := by
  rintro ⟨before, x, rest, he, -⟩
  simp at he

theorem firstAt_here (hx : kind x) : FirstAt kind (x :: list) count ↔ count = 1 := by
  constructor
  · rintro ⟨before, y, rest, he, rfl, -, hn⟩
    cases before with
    | nil => rfl
    | cons z before =>
      obtain ⟨rfl, -⟩ := List.cons.inj he
      exact absurd hx (hn x List.mem_cons_self)
  · rintro rfl
    exact ⟨[], x, list, rfl, rfl, hx, by simp⟩

theorem firstAt_later (hx : ¬ kind x) :
    FirstAt kind (x :: list) count ↔ ∃ later, count = later + 1 ∧ FirstAt kind list later := by
  constructor
  · rintro ⟨before, y, rest, he, rfl, hy, hn⟩
    cases before with
    | nil =>
      obtain ⟨rfl, -⟩ := List.cons.inj he
      exact absurd hy hx
    | cons z before =>
      obtain ⟨rfl, rfl⟩ := List.cons.inj he
      exact ⟨_, rfl, before, y, rest, rfl, rfl, hy, fun w hw => hn w (List.mem_cons_of_mem _ hw)⟩
  · rintro ⟨later, rfl, before, y, rest, rfl, rfl, hy, hn⟩
    exact ⟨x :: before, y, rest, rfl, rfl, hy, List.forall_mem_cons.mpr ⟨hx, hn⟩⟩

end First

def State.Quiet {Memory : Type} (state : State Memory) : Prop :=
  ∀ call, state.onMiss = some call → ∀ memory symbol, (call memory symbol).1 = .ok none

namespace Machine

open Candidate

variable {Memory : Type}

theorem replay_quiet (handler : StateId) (text : List Char) (m : Machine Memory)
    (hq : (m.stateAt handler).Quiet) :
    ∃ memory events, replay handler text m = ⟨.ok true, { m with memory }, events⟩ := by
  induction text generalizing m with
  | nil => exact ⟨m.memory, [], rfl⟩
  | cons symbol text ih =>
    cases hskip : (m.stateAt handler).ignore.skipsInHandler symbol with
    | true =>
      rw [replay_skipped text hskip]
      exact ih m hq
    | false =>
      cases hcall : (m.stateAt handler).onMiss with
      | none =>
        obtain ⟨memory, events, he⟩ := ih m hq
        exact ⟨memory, events, by simp [replay, hskip, hcall, he]⟩
      | some call =>
        have hanswer := hq call hcall m.memory symbol
        rcases hm : call m.memory symbol with ⟨given, memory⟩
        rw [hm] at hanswer
        change given = .ok none at hanswer
        subst hanswer
        obtain ⟨later, events, he⟩ := ih { m with memory } hq
        exact ⟨later, _, by rw [replay_consumed text hskip hcall hm, he]; rfl⟩

/-- Only one pattern can be completed, and nothing else leads out of the active state. -/
structure Lone (states : List (State Memory)) (active : StateId) (c : Candidate) : Prop where
  nodup : (Tracker.stateAt states active).branches.Nodup
  heeds : ∀ symbol, (Tracker.stateAt states active).ignore.skips symbol = false
  quiet : (Tracker.stateAt states active).Quiet
  nonempty : c.pattern states ≠ []
  grants : ∀ memory text, (answer (c.callback states) memory text).1 = .ok ()
  others : ∀ d ∈ followed states active .undetermined, d ≠ c → d.pattern states = []

structure Searching (m : Machine Memory) (c : Candidate) (seen : List Char) : Prop where
  started : m.started = true
  sound : Sound m
  lone : Lone m.states m.active c
  followed : c ∈ followed m.states m.active m.tracker.phase
  unfinished : (c.pattern m.states).Unfinished (c.progress m.tracker)
  trail : (c.pattern m.states).Trail seen (c.progress m.tracker)
  ahead : (c.pattern m.states).Ahead seen (c.progress m.tracker)

def Ends (c : Candidate) (outcome : Outcome Memory) : Prop :=
  match c with
  | .leave _ => outcome.machine.status = .back
  | .entry id => outcome.machine.status = .branch ∧ outcome.machine.currentState = some id

theorem ends_of_answered {c : Candidate} {outcome : Outcome Memory} {before : List StateId}
    {calls : Journal} (h : Answered outcome c.status (c.chain before) calls) : Ends c outcome := by
  cases c with
  | leave id => exact h.status
  | entry id =>
    refine ⟨h.status, ?_⟩
    rw [currentState, h.chain]
    exact List.getLast?_concat

section Step

variable {m : Machine Memory} {c : Candidate} {seen : List Char} (h : Searching m c seen)
  (symbol : Char)
include h

theorem Searching.connected : Connected m := h.sound.connected h.started

/-- A pattern that can be moved at all is the one that is searched. -/
theorem Searching.eq_of_moved {d : Candidate}
    (hd : d ∈ Candidate.followed m.states m.active m.tracker.phase)
    (hl : (d.moved m.states symbol m.tracker).1 ≠ .lost) : d = c := by
  by_contra hne
  have hempty := h.lone.others d (h.connected.followed_open hd) hne
  exact hl (by rw [moved_empty hempty])

theorem Searching.classified :
    ((m.tracker.classify m.states symbol m.active).1 = c.verdict ∧
      (c.moved m.states symbol m.tracker).1 = .complete) ∨
    (((m.tracker.classify m.states symbol m.active).1 = .undecided ∨
        (m.tracker.classify m.states symbol m.active).1 = .miss) ∧
      (c.moved m.states symbol m.tracker).1 ≠ .complete ∧
      c.progress (m.tracker.classify m.states symbol m.active).2 =
        (c.moved m.states symbol m.tracker).2 ∧
      c ∈ Candidate.followed m.states m.active
        (m.tracker.classify m.states symbol m.active).2.phase) := by
  have hopen := h.connected.followed_open h.followed
  have hd := h.connected.decided h.sound.sized h.lone.nodup symbol
  generalize m.tracker.classify m.states symbol m.active = decided at hd
  cases hd with
  | completed d after first free =>
    obtain ⟨before, rest, hsplit, hcomplete, -⟩ := first
    have hin : d ∈ Candidate.followed m.states m.active m.tracker.phase := by simp [hsplit]
    obtain rfl := h.eq_of_moved symbol hin (by simp [hcomplete])
    exact Or.inl ⟨rfl, hcomplete⟩
  | undecided d after once listed live phase =>
    obtain rfl := h.eq_of_moved symbol listed fun hl => by simp [hl, Step.isLive] at live
    refine Or.inr ⟨Or.inl rfl, once.incomplete d listed, ?_, ?_⟩
    · rw [once.progress, if_pos listed]
    · rcases phase with hp | ⟨hp, -⟩
      · rw [hp]
        exact listed
      · rw [hp, followed_lock hopen]
        exact List.mem_singleton_self d
  | missed after once lost free =>
    refine Or.inr ⟨Or.inr rfl, once.incomplete c h.followed, ?_, ?_⟩
    · rw [once.progress, if_pos h.followed]
    · rw [free]
      exact hopen

variable {symbol}

theorem Searching.next {n : Machine Memory} (hs : n.states = m.states) (hc : n.chain = m.chain)
    (hstarted : n.started = true) (hsound : Sound n)
    (hincomplete : (c.moved m.states symbol m.tracker).1 ≠ .complete)
    (hp : c.progress n.tracker = (c.moved m.states symbol m.tracker).2)
    (hf : c ∈ Candidate.followed m.states m.active n.tracker.phase) :
    Searching n c (seen ++ [symbol]) := by
  have ha : n.active = m.active := by rw [active, hc, active]
  constructor
  · exact hstarted
  · exact hsound
  · rw [hs, ha]
    exact h.lone
  · rwa [hs, ha]
  · rw [hs, hp]
    exact h.unfinished.step hincomplete
  · rw [hs, hp]
    exact h.trail.step h.unfinished
  · rw [hs, hp]
    exact h.ahead.step

variable (symbol)

/-- A symbol completes the pattern, or the search goes on in the same place. -/
theorem Searching.parse :
    (Ends c (m.parse symbol) ∧ (m.parse symbol).machine.chain = c.chain m.chain ∧
      (c.pattern m.states).Trail (seen ++ [symbol]) (c.pattern m.states).length) ∨
    (¬ Ends c (m.parse symbol) ∧ (m.parse symbol).machine.states = m.states ∧
      (m.parse symbol).machine.chain = m.chain ∧
      Searching (m.parse symbol).machine c (seen ++ [symbol])) := by
  have hi : (m.stateAt m.active).ignore.skips symbol = false := h.lone.heeds symbol
  rcases h.classified symbol with ⟨hv, hcomplete⟩ | ⟨hv, hincomplete, hp, hf⟩
  · have ha := parse_granted h.started hi hv (eq_leave_of_verdict m.states h.followed)
      (h.lone.grants _ _)
    exact Or.inl ⟨ends_of_answered ha, ha.chain, h.trail.completed h.unfinished hcomplete⟩
  · right
    have hstarted : (m.parse symbol).machine.started = true := by
      rw [(parse_setup m symbol).2.2, h.started]
    have hsound := parse_sound symbol h.sound
    have hm := parse_move m symbol h.started
    generalize m.parse symbol = outcome at hm hstarted hsound ⊢
    cases hm with
    | ignored hskip => simp [hi] at hskip
    | waited tracker hi hc =>
      rw [hc] at hp hf
      refine ⟨?_, rfl, rfl, h.next rfl rfl hstarted hsound hincomplete hp hf⟩
      cases c <;> simp [Ends]
    | entered target tracker memory hi hc ha => simp [hc] at hv
    | enterFailed target tracker memory failure hi hc ha => simp [hc] at hv
    | left tracker memory hi hc ha => simp [hc] at hv
    | leaveFailed tracker memory failure hi hc ha => simp [hc] at hv
    | missed tracker events middle outcome hi hc hpassed he hs hr =>
      rw [hc] at hp hf
      obtain ⟨memory, handled, hquiet⟩ := replay_quiet m.active (m.buffer ++ [symbol])
        { m with buffer := [], tracker, status := .miss } h.lone.quiet
      rw [hquiet] at hr
      subst hr
      refine ⟨?_, rfl, rfl, h.next rfl rfl hstarted hsound hincomplete hp hf⟩
      cases c <;> simp [Ends]

end Step

section Run

variable {m : Machine Memory} {c : Candidate} {seen : List Char}

theorem Searching.not_yet (h : Searching m c seen) {occurrence : List Char}
    (ho : occurrence <:+ seen) : ¬ (c.pattern m.states).Spells occurrence := by
  intro hs
  have hle := h.ahead _ (Nat.le_refl _) occurrence ho (by rwa [List.take_length])
  have hpos : 0 < (c.pattern m.states).length := List.length_pos_iff.mpr h.lone.nonempty
  rcases h.unfinished with hu | hu <;> omega

theorem Searching.found (h : Searching m c seen) (text : List Char) {count : Nat}
    (hc : count ≤ text.length) {occurrence : List Char}
    (ho : occurrence <:+ seen ++ text.take count)
    (hs : (c.pattern m.states).Spells occurrence) :
    ∃ first ≤ count, FirstAt (Ends c) (m.outcomes text) first := by
  induction text generalizing m seen count with
  | nil =>
    rw [List.take_nil, List.append_nil] at ho
    exact absurd hs (h.not_yet ho)
  | cons symbol text ih =>
    cases count with
    | zero =>
      rw [List.take_zero, List.append_nil] at ho
      exact absurd hs (h.not_yet ho)
    | succ count =>
      rw [outcomes]
      rcases h.parse symbol with ⟨ht, -⟩ | ⟨ht, hstates, hchain, hnext⟩
      · exact ⟨1, by omega, (firstAt_here ht).mpr rfl⟩
      · rw [List.take_succ_cons, ← List.singleton_append, ← List.append_assoc] at ho
        obtain ⟨first, hle, hfirst⟩ :=
          ih hnext (Nat.le_of_succ_le_succ hc) ho (by rwa [hstates])
        exact ⟨first + 1, by omega, (firstAt_later ht).mpr ⟨first, rfl, hfirst⟩⟩

/-- When the search ends, the symbols seen leave a trail through the whole pattern. -/
theorem Searching.trailed (h : Searching m c seen) (text : List Char) {first : Nat}
    (hf : FirstAt (Ends c) (m.outcomes text) first) :
    (∃ before last, text.take first = before ++ [last] ∧ before.length + 1 = first) ∧
      (c.pattern m.states).Trail (seen ++ text.take first) (c.pattern m.states).length ∧
      (m.feed (text.take first)).chain = c.chain m.chain := by
  induction text generalizing m seen first with
  | nil => exact absurd hf not_firstAt_nil
  | cons symbol text ih =>
    rw [outcomes] at hf
    rcases h.parse symbol with ⟨ht, hchain, htrail⟩ | ⟨ht, hstates, hchain, hnext⟩
    · obtain rfl := (firstAt_here ht).mp hf
      exact ⟨⟨[], symbol, rfl, rfl⟩, htrail, hchain⟩
    · obtain ⟨later, rfl, hlater⟩ := (firstAt_later ht).mp hf
      obtain ⟨⟨before, last, hlast, hlength⟩, htrail, hend⟩ := ih hnext hlater
      rw [List.take_succ_cons]
      refine ⟨⟨symbol :: before, last, by rw [hlast]; rfl, by rw [List.length_cons, hlength]⟩,
        ?_, ?_⟩
      · rw [hstates] at htrail
        rwa [← List.singleton_append, ← List.append_assoc]
      · rw [feed, hend, hchain]

end Run

structure Searched (m : Machine Memory) (c : Candidate) (text : List Char) : Prop where
  /-- It is not after consecutive symbols that match. -/
  complete : ∀ count ≤ text.length,
    (∃ occurrence, occurrence <:+ text.take count ∧ (c.pattern m.states).Spells occurrence) →
      ∃ first ≤ count, FirstAt (Ends c) (m.outcomes text) first
  /-- It is the last of some symbols that match in order. -/
  sound : ∀ first, FirstAt (Ends c) (m.outcomes text) first →
    (∃ before last, text.take first = before ++ [last] ∧
      (c.pattern m.states).ScatteredUpTo before last) ∧ (c.pattern m.states).length ≤ first
  /-- Only then the chain changes. -/
  chain : ∀ first, FirstAt (Ends c) (m.outcomes text) first →
    (m.feed (text.take first)).chain = c.chain m.chain

theorem Searching.searched {m : Machine Memory} {c : Candidate} (h : Searching m c [])
    (text : List Char) : Searched m c text where
  complete := by
    rintro count hc ⟨occurrence, ho, hs⟩
    exact h.found text hc ho hs
  sound := by
    intro first hf
    obtain ⟨⟨before, last, hlast, hlength⟩, htrail, -⟩ := h.trailed text hf
    rw [List.nil_append, hlast] at htrail
    have hscattered := htrail.scatteredUpTo h.lone.nonempty
    exact ⟨⟨before, last, hlast, hscattered⟩, hlength ▸ hscattered.length_le⟩
  chain := fun _ hf => (h.trailed text hf).2.2

structure OnlyEntry (states : List (State Memory)) (active branch : StateId) : Prop where
  leave : (Tracker.stateAt states active).leave = []
  ignore : (Tracker.stateAt states active).ignore.all = []
  branches : (Tracker.stateAt states active).branches = [branch]
  entry : (Tracker.stateAt states branch).entry ≠ []
  grants : ∀ memory text,
    (answer (Tracker.stateAt states branch).onEnter memory text).1 = .ok ()
  quiet : (Tracker.stateAt states active).Quiet

structure OnlyLeave (states : List (State Memory)) (active : StateId) : Prop where
  branches : (Tracker.stateAt states active).branches = []
  ignore : (Tracker.stateAt states active).ignore.all = []
  leave : (Tracker.stateAt states active).leave ≠ []
  grants : ∀ memory text, (answer (Tracker.stateAt states active).onLeave memory text).1 = .ok ()
  quiet : (Tracker.stateAt states active).Quiet

section Only

variable {states : List (State Memory)} {active : StateId}

theorem heeds_of_ignore (h : (Tracker.stateAt states active).ignore.all = []) (symbol : Char) :
    (Tracker.stateAt states active).ignore.skips symbol = false := by
  simp [IgnoreSet.skips, h]

theorem OnlyEntry.lone {branch : StateId} (h : OnlyEntry states active branch) :
    Lone states active (.entry branch) where
  nodup := by simp [h.branches]
  heeds := heeds_of_ignore h.ignore
  quiet := h.quiet
  nonempty := h.entry
  grants := h.grants
  others := by
    intro d hd hne
    rw [followed, h.branches, List.map_singleton, List.mem_pair] at hd
    rcases hd with rfl | rfl
    · exact h.leave
    · exact absurd rfl hne

theorem OnlyLeave.lone (h : OnlyLeave states active) : Lone states active (.leave active) where
  nodup := by simp [h.branches]
  heeds := heeds_of_ignore h.ignore
  quiet := h.quiet
  nonempty := h.leave
  grants := h.grants
  others := by
    intro d hd hne
    rw [followed, h.branches, List.map_nil, List.mem_singleton] at hd
    exact absurd hd hne

end Only

theorem searching_of_cleared {m : Machine Memory} {c : Candidate} (hs : m.started = true)
    (hsound : Sound m) (hl : Lone m.states m.active c)
    (hf : c ∈ followed m.states m.active m.tracker.phase) (hp : c.progress m.tracker = 0) :
    Searching m c [] where
  started := hs
  sound := hsound
  lone := hl
  followed := hf
  unfinished := Or.inl hp
  trail := by
    rw [hp]
    exact Pattern.Trail.start []
  ahead := by
    rw [hp]
    exact Pattern.ahead_nil _

theorem OnlyLeave.followed {m : Machine Memory} (h : OnlyLeave m.states m.active)
    (hc : Connected m) :
    Candidate.leave m.active ∈ Candidate.followed m.states m.active m.tracker.phase := by
  cases hp : m.tracker.phase with
  | undetermined => exact List.mem_cons_self
  | entering target =>
    have hb := hc.target target hp
    rw [stateAt, h.branches] at hb
    exact absurd hb List.not_mem_nil
  | leaving => exact List.mem_cons_self

/-- From the start of a session whose root has a single way out, and from any point without
progress where the active state can only be left, the input is searched for the pattern. -/
theorem lone_pattern_searched :
    (∀ (before started : Machine Memory) (branch : StateId), Reachable before →
      before.prestart = .ok started → OnlyEntry started.states root branch →
      ∀ text, Searched started (.entry branch) text) ∧
    ∀ m : Machine Memory, Reachable m → m.started = true → Cleared m →
      OnlyLeave m.states m.active → ∀ text, Searched m (.leave m.active) text := by
  constructor
  · intro before started branch hreach hok honly text
    obtain ⟨rfl, hc⟩ := prestart_ok hok
    have hsound := fresh_sound hreach.sound hc
    have hfollowed : Candidate.entry branch ∈ Candidate.followed before.fresh.states
        before.fresh.active before.fresh.tracker.phase := by
      change Candidate.entry branch ∈ Candidate.followed before.fresh.states root .undetermined
      rw [Candidate.followed, honly.branches]
      simp
    have hzero := progress_reset before.tracker (.entry branch)
    exact (searching_of_cleared rfl hsound honly.lone hfollowed hzero).searched text
  · intro m hreach hs hcleared honly text
    have hsound := hreach.sound
    have hc := hsound.connected hs
    have hzero := hcleared.progress_eq_zero hsound.sized (c := .leave m.active) hc.active_lt
    exact (searching_of_cleared hs hsound honly.lone (honly.followed hc) hzero).searched text

def nested : Machine Unit :=
  (withOptions {} ()).calls
    [.addState { name := "outer", branches := [1] },
      .addState {
        name := "inner", entry := ['a', 'a', 'b'].map .literal
        leave := ['a', 'b', 'a', 'c'].map .literal
        onMiss := some fun memory _ => (.ok none, memory) }]

theorem nested_searched :
    (∃ first ≤ 6, FirstAt (Ends (.entry 1))
      (nested.fresh.outcomes ['x', 'a', 'a', 'a', 'a', 'b', 'b']) first) ∧
    ∃ first ≤ 6, FirstAt (Ends (.leave 1))
      ((nested.fresh.feed ['a', 'a', 'b']).outcomes ['a', 'b', 'a', 'b', 'a', 'c']) first := by
  have hr : Reachable nested := ⟨_, (), _, rfl⟩
  have hentry : OnlyEntry nested.fresh.states root 1 :=
    ⟨rfl, rfl, rfl, by decide, fun _ _ => rfl, fun _ hcall => nomatch hcall⟩
  have hleave : OnlyLeave (nested.fresh.feed ['a', 'a', 'b']).states 1 := by
    refine ⟨rfl, rfl, by decide, fun _ _ => rfl, ?_⟩
    intro call hcall memory symbol
    obtain rfl := Option.some.inj hcall
    rfl
  have hfed : Reachable (nested.fresh.feed ['a', 'a', 'b']) := (hr.started rfl).feed _
  have hcleared : Cleared (nested.fresh.feed ['a', 'a', 'b']) := by
    change ∀ id < 2, _
    decide
  constructor
  · exact (lone_pattern_searched.1 nested nested.fresh 1 hr rfl hentry _).complete 6 (by decide)
      ⟨['a', 'a', 'b'], by decide, by decide⟩
  · exact (lone_pattern_searched.2 _ hfed rfl hcleared hleave _).complete 6 (by decide)
      ⟨['a', 'b', 'a', 'c'], by decide, by decide⟩

end Machine
end StateNest
