import StateNest.Proofs.Account
import StateNest.Proofs.Candidate

/-!
# From a complete pattern to its transition

A transition is made, or tried, only at a symbol that completes its pattern. If
the callback does not fail, the transition is all that such a symbol leads to.
-/

set_option autoImplicit false

namespace StateNest

/-- The pattern that led to a transition, also to one that failed, and the text it takes. -/
@[simp] def Event.transition? : Event → Option (Candidate × List Char)
  | .entering id buffer _ | .branched id buffer => some (.entry id, buffer)
  | .leaving id buffer _ | .returned id buffer => some (.leave id, buffer)
  | _ => none

theorem Event.transition_of_isReplay {event : Event} (h : event.isReplay = true) :
    event.transition? = none := by
  cases event <;> simp_all

namespace Candidate

variable {Memory : Type} (states : List (State Memory))

def callback : Candidate → Option (Callback Memory (List Char) Unit)
  | .leave id => (Tracker.stateAt states id).onLeave
  | .entry id => (Tracker.stateAt states id).onEnter

def status : Candidate → Status
  | .leave _ => .back
  | .entry _ => .branch

theorem ne_status {other : Status} (c : Candidate) (hback : other ≠ .back)
    (hbranch : other ≠ .branch) : other ≠ c.status := by
  cases c with
  | leave id => exact hback
  | entry id => exact hbranch

def event (c : Candidate) (buffer : List Char) : Event :=
  match c with
  | .leave id => .leaving id buffer (.ok ())
  | .entry id => .entering id buffer (.ok ())

def chain (c : Candidate) (before : List StateId) : List StateId :=
  match c with
  | .leave _ => Machine.pop before
  | .entry id => before ++ [id]

end Candidate

namespace Machine

variable {Memory : Type} {m : Machine Memory}

theorem move_transition {symbol : Char} {outcome : Outcome Memory} (hm : Move m symbol outcome)
    {event : Event} (he : event ∈ outcome.journal) {c : Candidate} {buffer : List Char}
    (ht : event.transition? = some (c, buffer)) :
    buffer = m.buffer ++ [symbol] ∧ (m.stateAt m.active).ignore.skips symbol = false ∧
      (m.tracker.classify m.states symbol m.active).1 = c.verdict ∧
      (c.verdict = .pop → c = .leave m.active) := by
  have hone {d : Candidate} {rest : Journal} (hd : event ∈ rest)
      (hall : ∀ other ∈ rest, other.transition? = none ∨
        other.transition? = some (d, m.buffer ++ [symbol])) :
      c = d ∧ buffer = m.buffer ++ [symbol] := by
    rcases hall event hd with hn | hs
    · exact nomatch hn.symm.trans ht
    · obtain ⟨rfl, rfl⟩ := Prod.mk.inj (Option.some.inj (hs.symm.trans ht))
      exact ⟨rfl, rfl⟩
  cases hm with
  | ignored hi =>
    obtain rfl := List.mem_singleton.mp he
    simp at ht
  | waited tracker hi hc =>
    obtain rfl := List.mem_singleton.mp he
    simp at ht
  | entered target tracker memory hi hc ha =>
    obtain ⟨rfl, rfl⟩ := hone (d := .entry target) he (by unfold called; split <;> simp)
    exact ⟨rfl, hi, by rw [hc]; rfl, nofun⟩
  | enterFailed target tracker memory failure hi hc ha =>
    obtain ⟨rfl, rfl⟩ := hone (d := .entry target) he (by simp)
    exact ⟨rfl, hi, by rw [hc]; rfl, nofun⟩
  | left tracker memory hi hc ha =>
    obtain ⟨rfl, rfl⟩ := hone (d := .leave m.active) he (by unfold called; split <;> simp)
    exact ⟨rfl, hi, by rw [hc]; rfl, fun _ => rfl⟩
  | leaveFailed tracker memory failure hi hc ha =>
    obtain ⟨rfl, rfl⟩ := hone (d := .leave m.active) he (by simp)
    exact ⟨rfl, hi, by rw [hc]; rfl, fun _ => rfl⟩
  | missed tracker events middle outcome hi hc hp hend hs hr =>
    rw [Outcome.after_journal] at he
    rcases List.mem_append.mp he with he | he
    · rcases List.mem_pair.mp he with rfl | rfl <;> simp at ht
    · rw [hr] at he
      rw [Event.transition_of_isReplay (replay_events _ _ _ event he)] at ht
      simp at ht

/-- The status after a transition is that of no other move. -/
theorem move_status {symbol : Char} {outcome : Outcome Memory} (hm : Move m symbol outcome)
    {c : Candidate} (hs : outcome.machine.status = c.status) :
    (m.stateAt m.active).ignore.skips symbol = false ∧ ∃ d : Candidate, d.status = c.status ∧
      (m.tracker.classify m.states symbol m.active).1 = d.verdict ∧
      outcome.machine.chain = d.chain m.chain := by
  have hwait : Status.wait ≠ c.status := c.ne_status (by decide) (by decide)
  have herror : Status.error ≠ c.status := c.ne_status (by decide) (by decide)
  cases hm with
  | ignored hi =>
    refine absurd ?_ hwait
    rw [← hs]
    simp only [ignore]
    split <;> rfl
  | waited tracker hi hc => exact absurd hs hwait
  | entered target tracker memory hi hc ha =>
    exact ⟨hi, .entry target, hs, by rw [hc]; rfl, rfl⟩
  | enterFailed target tracker memory failure hi hc ha => exact absurd hs herror
  | left tracker memory hi hc ha => exact ⟨hi, .leave m.active, hs, by rw [hc]; rfl, rfl⟩
  | leaveFailed tracker memory failure hi hc ha => exact absurd hs herror
  | missed tracker events middle outcome hi hc hp hend hstop hr =>
    have hmiddle : middle.status ≠ c.status := by
      rcases hp.miss_or_hardset rfl with ⟨hmiss, -⟩ | ⟨hhardset, -⟩
      · rw [hmiss]
        exact c.ne_status (by decide) (by decide)
      · rw [hhardset]
        exact c.ne_status (by decide) (by decide)
    rw [Outcome.after_machine] at hs
    cases hend with
    | finished => exact absurd hs hmiddle
    | failed memory handler missed failure => exact absurd hs herror
    | refused memory handler missed index hu => exact absurd hs hmiddle

/-- What a symbol is answered by, as far as it is seen from outside. -/
structure Answered (outcome : Outcome Memory) (status : Status) (chain : List StateId)
    (calls : Journal) : Prop where
  result : outcome.result = .ok true
  status : outcome.machine.status = status
  chain : outcome.machine.chain = chain
  calls : outcome.journal.calls = calls

/-- A pattern that is decided for leads to its transition unless the callback fails. -/
theorem parse_granted {symbol : Char} {c : Candidate} (hs : m.started = true)
    (hi : (m.stateAt m.active).ignore.skips symbol = false)
    (hv : (m.tracker.classify m.states symbol m.active).1 = c.verdict)
    (hl : c.verdict = .pop → c = .leave m.active)
    (hg : (answer (c.callback m.states) m.memory (m.buffer ++ [symbol])).1 = .ok ()) :
    Answered (m.parse symbol) c.status (c.chain m.chain)
      (called (c.callback m.states) (c.event (m.buffer ++ [symbol]))) := by
  rcases hc : m.tracker.classify m.states symbol m.active with ⟨verdict, tracker⟩
  rw [hc] at hv
  obtain rfl : verdict = c.verdict := hv
  have ha : answer (c.callback m.states) m.memory (m.buffer ++ [symbol]) =
      (.ok (), (answer (c.callback m.states) m.memory (m.buffer ++ [symbol])).2) :=
    Prod.ext hg rfl
  rw [parse_classified m symbol hs hi _ _ hc]
  cases c with
  | entry target =>
    have he := enter_ok { m with buffer := m.buffer ++ [symbol], tracker, status := .wait } target
      _ ha
    rw [Candidate.verdict, act, he]
    exact ⟨rfl, rfl, rfl, calls_of_transition rfl rfl rfl⟩
  | leave id =>
    obtain rfl : id = m.active := Candidate.leave.inj (hl rfl)
    have he := leave_ok { m with buffer := m.buffer ++ [symbol], tracker, status := .wait }
      m.active _ ha
    rw [Candidate.verdict, act]
    change Answered ((Machine.leave _ m.active).after _) _ _ _
    rw [he]
    exact ⟨rfl, rfl, rfl, calls_of_transition rfl rfl rfl⟩

/-- A pattern that is followed alone is one of those that all are followed of. -/
theorem Connected.followed_open (h : Connected m) {c : Candidate}
    (hc : c ∈ Candidate.followed m.states m.active m.tracker.phase) :
    c ∈ Candidate.followed m.states m.active .undetermined := by
  cases hp : m.tracker.phase with
  | undetermined => rwa [hp] at hc
  | entering target =>
    rw [hp, Candidate.followed, List.mem_singleton] at hc
    rw [hc]
    exact List.mem_cons_of_mem _ (List.mem_map_of_mem (h.target target hp))
  | leaving =>
    rw [hp, Candidate.followed, List.mem_singleton] at hc
    rw [hc]
    exact List.mem_cons_self

theorem Connected.followed_of_verdict (h : Connected m) {symbol : Char} {c : Candidate}
    (hv : (m.tracker.classify m.states symbol m.active).1 = c.verdict)
    (hl : c.verdict = .pop → c = .leave m.active) :
    c ∈ Candidate.followed m.states m.active .undetermined := by
  cases c with
  | leave id =>
    rw [hl rfl]
    exact List.mem_cons_self
  | entry target =>
    have hb := h.classified (Prod.ext hv rfl) (Or.inl rfl)
    exact List.mem_cons_of_mem _ (List.mem_map_of_mem hb)

theorem Connected.followed_lt (h : Connected m) {c : Candidate}
    (hc : c ∈ Candidate.followed m.states m.active m.tracker.phase) :
    c.state < m.states.length := by
  rcases List.mem_cons.mp (h.followed_open hc) with rfl | hb
  · exact h.active_lt
  · obtain ⟨branch, hlisted, rfl⟩ := List.mem_map.mp hb
    exact h.branch_lt hlisted

theorem Cleared.progress_eq_zero (h : Cleared m) (hs : m.tracker.Sized m.states.length)
    {c : Candidate} (hc : c.state < m.states.length) : c.progress m.tracker = 0 := by
  have hp := h c.state hc
  rw [progress, Tracker.progress_of_lt hs hc] at hp
  obtain ⟨hentry, hleave⟩ := Prod.mk.inj (Option.some.inj hp)
  cases c with
  | leave id => exact hleave
  | entry id => exact hentry

theorem Connected.decided (h : Connected m) (hs : m.tracker.Sized m.states.length)
    (hn : (m.stateAt m.active).branches.Nodup) (symbol : Char) :
    Candidate.Decided m.states symbol m.tracker m.active
      (m.tracker.classify m.states symbol m.active) :=
  Candidate.classify_decided m.states symbol hs (fun _ hc => h.followed_lt hc) hn

theorem Connected.completes (h : Connected m) (hs : m.tracker.Sized m.states.length)
    (hn : (m.stateAt m.active).branches.Nodup) {symbol : Char} {c : Candidate}
    (hv : (m.tracker.classify m.states symbol m.active).1 = c.verdict)
    (hl : c.verdict = .pop → c = .leave m.active) :
    Candidate.FirstComplete m.states symbol m.tracker
      (Candidate.followed m.states m.active m.tracker.phase) c := by
  have hd := h.decided hs hn symbol
  generalize m.tracker.classify m.states symbol m.active = decided at hd hv
  cases hd with
  | completed d after first free =>
    have hin : d ∈ Candidate.followed m.states m.active m.tracker.phase := by
      obtain ⟨before, rest, hlist, -⟩ := first
      simp [hlist]
    have heq : d = c := by
      cases c with
      | entry target => exact Candidate.eq_entry_of_verdict hv
      | leave id => rw [hl rfl, Candidate.eq_leave_of_verdict m.states hin hv]
    exact heq ▸ first
  | undecided => cases c <;> simp [Candidate.verdict] at hv
  | missed => cases c <;> simp [Candidate.verdict] at hv

end Machine
end StateNest
