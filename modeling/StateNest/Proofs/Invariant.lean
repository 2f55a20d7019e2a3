import StateNest.Proofs.Transition

/-!
# What every history keeps

A started machine is connected: its chain begins at the root, and whatever it
can follow from there is a state. Each move keeps this, also one that ends in
a failure or a refused answer. Over a whole history the counters and the chain
stay in step with the states, although states change while a machine stands.
-/

set_option autoImplicit false

namespace StateNest.Machine

variable {Memory : Type}

/-- Every position that a session can follow is that of a state. -/
structure Connected (m : Machine Memory) : Prop where
  branches : ∀ state ∈ m.states, ∀ branch ∈ state.branches, branch < m.states.length
  chain : ∀ id ∈ m.chain, id < m.states.length
  rooted : ∃ rest, m.chain = root :: rest
  target : ∀ target, m.tracker.phase = .entering target →
    target ∈ (m.stateAt m.active).branches

theorem active_mem {m : Machine Memory} (h : m.chain ≠ []) : m.active ∈ m.chain := by
  rw [active, List.getLast?_eq_some_getLast h]
  exact List.getLast_mem h

theorem Connected.active_lt {m : Machine Memory} (h : Connected m) :
    m.active < m.states.length := by
  obtain ⟨rest, hr⟩ := h.rooted
  exact h.chain _ (active_mem (by simp [hr]))

theorem stateAt_mem {m : Machine Memory} {id : StateId} (h : id < m.states.length) :
    m.stateAt id ∈ m.states := by
  rw [stateAt, Tracker.stateAt, List.getD_eq_getElem?_getD, List.getElem?_eq_getElem h]
  exact List.getElem_mem h

theorem stateAt_empty {states : List (State Memory)} {id : StateId} (h : states.length ≤ id) :
    Tracker.stateAt states id = {} := by
  rw [Tracker.stateAt, List.getD_eq_getElem?_getD, List.getElem?_eq_none h, Option.getD_none]

/-- Only a state that exists has branches. -/
theorem stateAt_mem_of_branch {m : Machine Memory} {id branch : StateId}
    (h : branch ∈ (m.stateAt id).branches) : m.stateAt id ∈ m.states := by
  rcases Nat.lt_or_ge id m.states.length with hid | hid
  · exact stateAt_mem hid
  · rw [stateAt, stateAt_empty hid] at h
    exact absurd h List.not_mem_nil

theorem Connected.branch_lt {m : Machine Memory} (h : Connected m) {branch : StateId}
    (hb : branch ∈ (m.stateAt m.active).branches) : branch < m.states.length :=
  h.branches _ (stateAt_mem h.active_lt) branch hb

/-- What a symbol enters, and what it keeps as a candidate, is a branch of the active state. -/
theorem Connected.classified {m : Machine Memory} (h : Connected m) {symbol : Char}
    {verdict : Verdict} {tracker : Tracker} {target : StateId}
    (hc : m.tracker.classify m.states symbol m.active = (verdict, tracker))
    (ht : verdict = .enter target ∨ tracker.phase = .entering target) :
    target ∈ (m.stateAt m.active).branches := by
  have hk := Tracker.classify_target m.states symbol m.tracker m.active target (by rwa [hc])
  exact hk.elim (h.target target) id

theorem pop_subset {chain : List StateId} {id : StateId} (h : id ∈ pop chain) : id ∈ chain := by
  unfold pop at h
  split at h
  · exact List.dropLast_subset _ h
  · exact h

theorem pop_rooted (rest : List StateId) : ∃ left, pop (root :: rest) = root :: left := by
  cases rest with
  | nil => exact ⟨[], rfl⟩
  | cons id rest => exact ⟨(id :: rest).dropLast, by simp [pop]⟩

theorem Connected.replayed {m middle : Machine Memory} {events : Journal} (h : Connected m)
    (hp : Passed m events middle) (hu : m.tracker.phase = .undetermined) : Connected middle where
  branches := by rw [hp.states]; exact h.branches
  chain := by
    intro id hid
    rw [hp.chain, List.mem_append] at hid
    rw [hp.states]
    exact hid.elim (h.chain id) (hp.known id)
  rooted := by
    obtain ⟨rest, hr⟩ := h.rooted
    exact ⟨rest ++ events.pushed, by rw [hp.chain, hr, List.cons_append]⟩
  target := by
    intro target ht
    rw [hp.tracker] at ht
    split at ht
    · simp [hu] at ht
    · simp [Tracker.reset] at ht

/-- A change of the counters alone: the candidate has to stay a branch of the active state. -/
theorem Connected.tracked {m n : Machine Memory} (h : Connected m) (hs : n.states = m.states)
    (hc : n.chain = m.chain)
    (ht : ∀ target, n.tracker.phase = .entering target →
      target ∈ (m.stateAt m.active).branches) : Connected n where
  branches := by rw [hs]; exact h.branches
  chain := by rw [hs, hc]; exact h.chain
  rooted := by rw [hc]; exact h.rooted
  target := by
    intro target hp
    have hm := ht target hp
    rwa [stateAt, active, hs, hc]

/-- A new chain, while no candidate is kept. -/
theorem Connected.moved {m n : Machine Memory} (h : Connected m) (hs : n.states = m.states)
    (hc : ∀ id ∈ n.chain, id < m.states.length) (hr : ∃ rest, n.chain = root :: rest)
    (hu : n.tracker.phase = .undetermined) : Connected n where
  branches := by rw [hs]; exact h.branches
  chain := by rw [hs]; exact hc
  rooted := hr
  target := by
    intro target hp
    simp [hu] at hp

theorem Connected.pushed {m : Machine Memory} (h : Connected m) {target : StateId}
    (ht : target ∈ (m.stateAt m.active).branches) :
    (∀ id ∈ m.chain ++ [target], id < m.states.length) ∧
      ∃ rest, m.chain ++ [target] = root :: rest := by
  constructor
  · intro id hid
    rcases List.mem_append.mp hid with hid | hid
    · exact h.chain id hid
    · rw [List.mem_singleton.mp hid]
      exact h.branch_lt ht
  · obtain ⟨rest, hr⟩ := h.rooted
    exact ⟨rest ++ [target], by rw [hr, List.cons_append]⟩

theorem move_connected {m : Machine Memory} {symbol : Char} {outcome : Outcome Memory}
    (hm : Move m symbol outcome) (h : Connected m) : Connected outcome.machine := by
  -- Once a verdict is a decision no candidate is kept, so that the chain is free to change.
  cases hm with
  | ignored hi =>
    simp only [ignore]
    split <;> exact h.tracked rfl rfl h.target
  | waited tracker hi hc => exact h.tracked rfl rfl fun target hp => h.classified hc (Or.inr hp)
  | entered target tracker memory hi hc ha =>
    obtain ⟨hl, hr⟩ := h.pushed (h.classified hc (Or.inl rfl))
    exact h.moved rfl hl hr rfl
  | enterFailed target tracker memory failure hi hc ha =>
    obtain ⟨hl, hr⟩ := h.pushed (h.classified hc (Or.inl rfl))
    exact h.moved rfl hl hr (Tracker.phase_of_decided hc (by simp))
  | left tracker memory hi hc ha =>
    obtain ⟨rest, hr⟩ := h.rooted
    exact h.moved rfl (fun id hid => h.chain id (pop_subset hid))
      (by rw [hr]; exact pop_rooted rest) rfl
  | leaveFailed tracker memory failure hi hc ha =>
    exact h.moved rfl h.chain h.rooted (Tracker.phase_of_decided hc (by simp))
  | missed tracker events middle outcome hi hc hp he hs hr =>
    have hu := Tracker.phase_of_decided hc (by simp)
    have hn : Connected { m with buffer := [], tracker, status := .miss } :=
      h.moved rfl h.chain h.rooted hu
    have hd := hn.replayed hp hu
    rw [Outcome.after_machine]
    cases he with
    | finished => exact hd
    | failed memory handler symbol failure => exact hd.tracked rfl rfl hd.target
    | refused memory handler symbol index hx => exact hd.tracked rfl rfl hd.target

theorem parse_connected {m : Machine Memory} (symbol : Char) (hs : m.started = true)
    (h : Connected m) : Connected (m.parse symbol).machine :=
  move_connected (parse_move m symbol hs) h

theorem parse_refused {m : Machine Memory} (symbol : Char) (hs : m.started = false) :
    m.parse symbol = ⟨.error .notStarted, m, []⟩ := by
  simp [parse, hs]

theorem move_setup {m : Machine Memory} {symbol : Char} {outcome : Outcome Memory}
    (hm : Move m symbol outcome) :
    outcome.machine.states = m.states ∧ outcome.machine.options = m.options ∧
      outcome.machine.started = m.started := by
  cases hm with
  | ignored hi =>
    simp only [ignore]
    split <;> exact ⟨rfl, rfl, rfl⟩
  | missed tracker events middle outcome hi hc hp he hs hr =>
    rw [Outcome.after_machine]
    cases he <;> exact ⟨hp.states, hp.options, hp.started⟩
  | _ => exact ⟨rfl, rfl, rfl⟩

theorem parse_setup (m : Machine Memory) (symbol : Char) :
    (m.parse symbol).machine.states = m.states ∧
      (m.parse symbol).machine.options = m.options ∧
      (m.parse symbol).machine.started = m.started := by
  cases hs : m.started with
  | true => exact hs ▸ move_setup (parse_move m symbol hs)
  | false =>
    rw [parse_refused symbol hs]
    exact ⟨rfl, rfl, hs⟩

/-- A failure is kept until the next one. -/
theorem move_failure {m : Machine Memory} {symbol : Char} {outcome : Outcome Memory}
    (hm : Move m symbol outcome) (hr : outcome.result ≠ .ok false) :
    outcome.machine.failure = m.failure := by
  cases hm with
  | ignored hi =>
    simp only [ignore]
    split <;> rfl
  | enterFailed target tracker memory failure hi he ha => simp at hr
  | leaveFailed tracker memory failure hi he ha => simp at hr
  | missed tracker events middle outcome hi he hp hend hs hr' =>
    rw [Outcome.after_result] at hr
    rw [Outcome.after_machine]
    cases hend with
    | finished => exact hp.failure
    | failed memory handler missed failure => simp at hr
    | refused memory handler missed index hu => exact hp.failure
  | _ => rfl

/-- What classifying, unless the symbol is skipped, and clearing keep of the counters, a move
keeps. -/
theorem move_tracker {P : Tracker → Prop} {m : Machine Memory} {symbol : Char}
    {outcome : Outcome Memory} (hm : Move m symbol outcome)
    (hc : (m.stateAt m.active).ignore.skips symbol = false →
      P (m.tracker.classify m.states symbol m.active).2)
    (hr : ∀ t, P t → P t.reset) (h : P m.tracker) : P outcome.machine.tracker := by
  have classified {verdict : Verdict} {tracker : Tracker}
      (hi : (m.stateAt m.active).ignore.skips symbol = false)
      (he : m.tracker.classify m.states symbol m.active = (verdict, tracker)) : P tracker := by
    have hk := hc hi
    rwa [he] at hk
  cases hm with
  | ignored hi =>
    simp only [ignore]
    split <;> exact h
  | waited tracker hi he => exact classified hi he
  | entered target tracker memory hi he ha => exact hr _ (classified hi he)
  | enterFailed target tracker memory failure hi he ha => exact classified hi he
  | left tracker memory hi he ha => exact hr _ (classified hi he)
  | leaveFailed tracker memory failure hi he ha => exact classified hi he
  | missed tracker events middle outcome hi he hp hend hs hr' =>
    have hd : P middle.tracker := by
      rw [hp.tracker]
      split
      · exact classified hi he
      · exact hr _ (classified hi he)
    rw [Outcome.after_machine]
    cases hend <;> exact hd

structure Sound (m : Machine Memory) : Prop where
  sized : m.tracker.Sized m.states.length
  chain : ∀ id ∈ m.chain, id < m.states.length
  connected : m.started = true → Connected m
  within : m.started = true → Tracker.Within m.states m.tracker

theorem parse_sound {m : Machine Memory} (symbol : Char) (h : Sound m) :
    Sound (m.parse symbol).machine := by
  cases hs : m.started with
  | false => rwa [parse_refused symbol hs]
  | true =>
    have hm := parse_move m symbol hs
    obtain ⟨hstates, -, -⟩ := move_setup hm
    have hc := move_connected hm (h.connected hs)
    have hsized := move_tracker (P := fun t => t.Sized m.states.length) hm
      (fun _ => Tracker.classify_sized _ _ _ _ h.sized) Tracker.reset_sized h.sized
    have hwithin := move_tracker (P := Tracker.Within m.states) hm
      (fun _ => Tracker.classify_within _ _ _ _ (h.within hs))
      (fun t _ => Tracker.reset_within m.states t) (h.within hs)
    exact ⟨by rwa [hstates], hc.chain, fun _ => hc, fun _ => by rwa [hstates]⟩

theorem unknownBranch_none_iff {m : Machine Memory} : m.unknownBranch? = none ↔
    ∀ state ∈ m.states, ∀ branch ∈ state.branches, branch < m.states.length := by
  simp [unknownBranch?]

theorem prestart_ok {m started : Machine Memory} (h : m.prestart = .ok started) :
    started = m.fresh ∧ Connected started := by
  unfold prestart at h
  split at h
  · simp at h
  · next hne =>
    split at h
    · simp at h
    · next hu =>
      obtain rfl : m.fresh = started := Except.ok.inj h
      have hpos : root < m.states.length := by
        rw [root, List.length_pos_iff]
        simpa using hne
      refine ⟨rfl, unknownBranch_none_iff.mp hu, ?_, ⟨[], rfl⟩, ?_⟩
      · intro id hid
        rwa [List.mem_singleton.mp hid]
      · intro target ht
        simp [fresh, reset, Tracker.reset] at ht

theorem fresh_sound {m : Machine Memory} (h : Sound m) (hc : Connected m.fresh) :
    Sound m.fresh where
  sized := Tracker.reset_sized _ h.sized
  chain := hc.chain
  connected := fun _ => hc
  within := fun _ => Tracker.reset_within _ _

theorem parseAll_keeps {P : Machine Memory → Prop}
    (hp : ∀ m symbol, P m → P (m.parse symbol).machine) (m : Machine Memory) (text : List Char)
    (h : P m) : P (m.parseAll text).machine := by
  induction text generalizing m with
  | nil => exact h
  | cons symbol rest ih =>
    rw [parseAll]
    split
    · exact ih _ (hp m symbol h)
    · exact hp m symbol h

theorem feed_keeps {P : Machine Memory → Prop}
    (hp : ∀ m symbol, P m → P (m.parse symbol).machine) (m : Machine Memory) (text : List Char)
    (h : P m) : P (m.feed text) := by
  induction text generalizing m with
  | nil => exact h
  | cons symbol text ih => exact ih _ (hp m symbol h)

theorem call_sound {m : Machine Memory} (c : Call Memory) (h : Sound m) : Sound (m.call c) := by
  cases c with
  | addState state =>
    refine ⟨?_, ?_, by simp [call, addState], by simp [call, addState]⟩
    · simpa [call, addState] using Tracker.track_sized _ h.sized
    · intro id hid
      rw [call, addState, List.length_append]
      exact Nat.lt_add_right _ (h.chain id hid)
  | modifyState id change =>
    refine ⟨?_, ?_, by simp [call, modifyState], by simp [call, modifyState]⟩
    · simpa [call, modifyState] using h.sized
    · simpa [call, modifyState] using h.chain
  | remember memory =>
    exact ⟨h.sized, h.chain, fun hs => (h.connected hs).tracked rfl rfl (h.connected hs).target,
      h.within⟩
  | prestart =>
    rw [call]
    split
    · next started hok =>
      obtain ⟨rfl, hc⟩ := prestart_ok hok
      exact fresh_sound h hc
    · exact h
  | parse symbol => exact parse_sound symbol h
  | parseAll text => exact parseAll_keeps (fun m symbol => parse_sound symbol) m text h

theorem calls_keeps {P : Machine Memory → Prop} (hc : ∀ m c, P m → P (call m c))
    (m : Machine Memory) (history : List (Call Memory)) (h : P m) : P (m.calls history) := by
  induction history generalizing m with
  | nil => exact h
  | cons c history ih => exact ih _ (hc m c h)

theorem calls_append (m : Machine Memory) (first second : List (Call Memory)) :
    m.calls (first ++ second) = (m.calls first).calls second := by
  induction first generalizing m with
  | nil => rfl
  | cons c first ih => exact ih _

theorem withOptions_sound (options : Options) (memory : Memory) :
    Sound (withOptions options memory) where
  sized := ⟨rfl, rfl⟩
  chain := by simp [withOptions]
  connected := by simp [withOptions]
  within := by simp [withOptions]

theorem Reachable.calls {m : Machine Memory} (h : Reachable m) (history : List (Call Memory)) :
    Reachable (m.calls history) := by
  obtain ⟨options, memory, earlier, rfl⟩ := h
  exact ⟨options, memory, earlier ++ history, (calls_append _ _ _).symm⟩

theorem Reachable.started {m started : Machine Memory} (h : Reachable m)
    (hok : m.prestart = .ok started) : Reachable started := by
  have hc := h.calls [.prestart]
  rwa [Machine.calls, Machine.calls, call, hok] at hc

/-- A text that is fed is one of the ways to call a machine. -/
theorem feed_eq_calls (m : Machine Memory) (text : List Char) :
    m.feed text = m.calls (text.map .parse) := by
  induction text generalizing m with
  | nil => rfl
  | cons symbol text ih => exact ih _

theorem feed_append (m : Machine Memory) (first second : List Char) :
    m.feed (first ++ second) = (m.feed first).feed second := by
  simp only [feed_eq_calls, List.map_append, calls_append]

theorem feed_setup (m : Machine Memory) (text : List Char) :
    (m.feed text).states = m.states ∧ (m.feed text).options = m.options ∧
      (m.feed text).started = m.started := by
  apply feed_keeps (P := fun n => n.states = m.states ∧ n.options = m.options ∧
    n.started = m.started) _ m text ⟨rfl, rfl, rfl⟩
  rintro n symbol ⟨hs, ho, hp⟩
  obtain ⟨hs', ho', hp'⟩ := parse_setup n symbol
  exact ⟨hs'.trans hs, ho'.trans ho, hp'.trans hp⟩

theorem feed_connected {m : Machine Memory} (text : List Char) (hs : m.started = true)
    (hc : Connected m) : Connected (m.feed text) := by
  refine (feed_keeps (P := fun n => n.started = true ∧ Connected n) ?_ m text ⟨hs, hc⟩).2
  rintro n symbol ⟨hs, hc⟩
  exact ⟨(parse_setup n symbol).2.2.trans hs, parse_connected symbol hs hc⟩

theorem Reachable.feed {m : Machine Memory} (h : Reachable m) (text : List Char) :
    Reachable (m.feed text) := by
  rw [feed_eq_calls]
  exact h.calls _

theorem Reachable.sound {m : Machine Memory} (h : Reachable m) : Sound m := by
  obtain ⟨options, memory, history, rfl⟩ := h
  exact calls_keeps (fun m c => call_sound c) _ history (withOptions_sound options memory)

/-- What holds at the start of a session, and what each of its symbols keeps, holds as long as it
lasts. -/
theorem Reachable.session {P : Machine Memory → Prop} (hf : ∀ n : Machine Memory, P n.fresh)
    (hr : ∀ (n : Machine Memory) (memory : Memory), P n → P { n with memory })
    (hp : ∀ (n : Machine Memory) (symbol : Char), Sound n → n.started = true → P n →
      P (n.parse symbol).machine)
    {m : Machine Memory} (h : Reachable m) (hs : m.started = true) : P m := by
  have hparse (n : Machine Memory) (symbol : Char) (hn : Sound n ∧ (n.started = true → P n)) :
      Sound (n.parse symbol).machine ∧
        ((n.parse symbol).machine.started = true → P (n.parse symbol).machine) := by
    refine ⟨parse_sound symbol hn.1, fun hstarted => ?_⟩
    rw [(parse_setup n symbol).2.2] at hstarted
    exact hp n symbol hn.1 hstarted (hn.2 hstarted)
  have hcall (n : Machine Memory) (c : Call Memory) (hn : Sound n ∧ (n.started = true → P n)) :
      Sound (n.call c) ∧ ((n.call c).started = true → P (n.call c)) := by
    refine ⟨call_sound c hn.1, ?_⟩
    cases c with
    | addState state => exact nofun
    | modifyState id change => exact nofun
    | remember memory => exact fun hstarted => hr n memory (hn.2 hstarted)
    | prestart =>
      rw [call]
      split
      · next started hok =>
        obtain ⟨rfl, -⟩ := prestart_ok hok
        exact fun _ => hf n
      · exact hn.2
    | parse symbol => exact (hparse n symbol hn).2
    | parseAll text => exact (parseAll_keeps hparse n text hn).2
  obtain ⟨options, memory, history, rfl⟩ := h
  exact (calls_keeps hcall _ history ⟨withOptions_sound options memory, nofun⟩).2 hs

end StateNest.Machine
