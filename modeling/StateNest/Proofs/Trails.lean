import StateNest.Proofs.Decision
import StateNest.Proofs.Matching

/-!
# A transition comes at the end of a trail

While no callback fails, the progress through each pattern is where the symbols
that arrived since the last transition or miss lead, those that are skipped left
out. So a state is entered or left at the end of a trail through its pattern:
some of these symbols match it in order, and the latest of them is the last. That
they are consecutive is certain for overlapping patterns only.
-/

set_option autoImplicit false

namespace StateNest

/-- The symbols to be matched after an event. A symbol that is skipped is none of them, and a
transition or a miss is done with those so far. -/
def Event.arrive (arrived : List Char) : Event → List Char
  | .classified _ symbol _ => arrived ++ [symbol]
  | .branched .. | .returned .. | .missed .. => []
  | _ => arrived

namespace Journal

def arrive (arrived : List Char) (journal : Journal) : List Char :=
  journal.foldl Event.arrive arrived

def arrived (journal : Journal) : List Char := arrive [] journal

@[simp] theorem arrive_nil (arrived : List Char) : arrive arrived [] = arrived := rfl

@[simp] theorem arrive_cons (arrived : List Char) (event : Event) (journal : Journal) :
    arrive arrived (event :: journal) = arrive (event.arrive arrived) journal := rfl

@[simp] theorem arrive_append (arrived : List Char) (first second : Journal) :
    arrive arrived (first ++ second) = arrive (arrive arrived first) second :=
  List.foldl_append

theorem arrive_replay (arrived : List Char) (journal : Journal)
    (h : ∀ event ∈ journal, event.isReplay = true) : arrive arrived journal = arrived := by
  induction journal with
  | nil => rfl
  | cons event journal ih =>
    obtain ⟨hevent, hrest⟩ := List.forall_mem_cons.mp h
    have hkept : event.arrive arrived = arrived := by
      cases event <;> simp_all [Event.arrive]
    rw [arrive_cons, hkept, ih hrest]

end Journal

namespace Tracker

open Candidate

theorem Focused.progress_eq_zero {Memory : Type} {states : List (State Memory)}
    {active : StateId} {t : Tracker} (h : Focused states active t) {c : Candidate}
    (hc : c ∉ followed states active t.phase) : c.progress t = 0 := by
  cases c with
  | leave id =>
    apply h.leave id
    cases hp : t.phase <;> simp_all [followed, leaves]
  | entry id =>
    apply h.entry id
    cases hp : t.phase <;> simp_all [followed, entries]

end Tracker

namespace Pattern

variable {pattern : Pattern} {arrived : List Char}

structure Counted (pattern : Pattern) (arrived : List Char) (progress : Nat) : Prop where
  trail : pattern.Trail arrived progress
  scattered : ScatteredIn (pattern.take progress) arrived
  consecutive : pattern.Overlapping →
    ∃ latest, latest <:+ arrived ∧ Spells (pattern.take progress) latest

structure Fired (pattern : Pattern) (arrived : List Char) (last : Char) : Prop where
  trail : pattern.Trail (arrived ++ [last]) pattern.length
  scattered : pattern.ScatteredUpTo arrived last
  consecutive : pattern.Overlapping → ∃ latest, latest <:+ arrived ++ [last] ∧ pattern.Spells latest
  short : pattern.length ≤ 2 → ∃ latest, latest <:+ arrived ++ [last] ∧ pattern.Spells latest

theorem Trail.counted {progress : Nat} (h : pattern.Trail arrived progress) :
    pattern.Counted arrived progress where
  trail := h
  scattered := h.scattered (Nat.le_refl progress)
  consecutive := fun ho => overlapping_iff.mp ho _ _ h

theorem Trail.fired {last : Char} (h : pattern.Trail (arrived ++ [last]) pattern.length)
    (hne : pattern ≠ []) : pattern.Fired arrived last := by
  have hlatest (ho : pattern.Overlapping) :
      ∃ latest, latest <:+ arrived ++ [last] ∧ pattern.Spells latest := by
    simpa only [List.take_length] using h.counted.consecutive ho
  exact ⟨h, h.scatteredUpTo hne, hlatest, fun hl => hlatest (overlapping_of_length_le_two hl)⟩

end Pattern

namespace Machine

open Candidate

variable {Memory : Type}

def record (m : Machine Memory) (text : List Char) : Journal :=
  (m.outcomes text).flatMap Outcome.journal

theorem record_cons (m : Machine Memory) (symbol : Char) (text : List Char) :
    m.record (symbol :: text) =
      (m.parse symbol).journal ++ (m.parse symbol).machine.record text :=
  List.flatMap_cons

structure Trailing (m : Machine Memory) (arrived : List Char) : Prop where
  heard : m.heard = arrived
  trail : ∀ c : Candidate, (c.pattern m.states).Trail arrived (c.progress m.tracker)
  unfinished : ∀ c : Candidate, (c.pattern m.states).Unfinished (c.progress m.tracker)

theorem trailing_of_progress {m : Machine Memory} {arrived : List Char} (hh : m.heard = arrived)
    (hp : ∀ c : Candidate, c.progress m.tracker = 0) : Trailing m arrived where
  heard := hh
  trail := by
    intro c
    rw [hp c]
    exact Pattern.Trail.start arrived
  unfinished := fun c => Or.inl (hp c)

theorem blank_progress_eq_zero (count : Nat) (c : Candidate) :
    c.progress (Tracker.blank count) = 0 := by
  cases c <;> exact Tracker.getD_zeros count _

/-- With nothing buffered there is no progress. -/
theorem Determined.trailing {m : Machine Memory} (h : Determined m) (hb : m.buffer = []) :
    Trailing m [] := by
  have hh : m.heard = [] := by rw [heard, hb, List.filter_nil]
  apply trailing_of_progress hh
  intro c
  rw [h.tracker, rebuilt, hh]
  exact blank_progress_eq_zero _ c

structure Orderly (m : Machine Memory) (arrived : List Char) : Prop where
  started : m.started = true
  sound : Sound m
  nodup : ∀ state ∈ m.states, state.branches.Nodup
  determined : Determined m
  trailing : Trailing m arrived

section Step

variable {m : Machine Memory} {arrived : List Char} {symbol : Char} {outcome : Outcome Memory}

theorem Orderly.active_nodup (h : Orderly m arrived) : (m.stateAt m.active).branches.Nodup :=
  h.nodup _ (stateAt_mem (h.sound.connected h.started).active_lt)

theorem Trailing.waited {n : Machine Memory} (h : Trailing m arrived)
    (hf : Tracker.Focused m.states m.active m.tracker) (hs : n.states = m.states)
    (hh : n.heard = m.heard ++ [symbol])
    (ho : MovedOnce m.states symbol m.tracker (followed m.states m.active m.tracker.phase)
      n.tracker) : Trailing n (arrived ++ [symbol]) := by
  have hzero {c : Candidate} (hc : c ∉ followed m.states m.active m.tracker.phase) :
      c.progress n.tracker = 0 := by
    rw [ho.progress, if_neg hc, hf.progress_eq_zero hc]
  constructor
  · rw [hh, h.heard]
  · intro c
    rw [hs]
    by_cases hc : c ∈ followed m.states m.active m.tracker.phase
    · rw [ho.progress, if_pos hc]
      exact (h.trail c).step (h.unfinished c)
    · rw [hzero hc]
      exact Pattern.Trail.start _
  · intro c
    rw [hs]
    by_cases hc : c ∈ followed m.states m.active m.tracker.phase
    · rw [ho.progress, if_pos hc]
      exact (h.unfinished c).step (ho.incomplete c hc)
    · exact Or.inl (hzero hc)

theorem move_trailing (hm : Move m symbol outcome) (hr : outcome.result ≠ .ok false)
    (h : Orderly m arrived) : Trailing outcome.machine (outcome.journal.arrive arrived) := by
  have hnext := move_determined hm hr h.determined
  have hd := (h.sound.connected h.started).decided h.sound.sized h.active_nodup symbol
  cases hm with
  | ignored hi =>
    simp only [ignore]
    split
    · refine ⟨Eq.trans ?_ h.trailing.heard, h.trailing.trail, h.trailing.unfinished⟩
      exact heard_skipped rfl rfl rfl hi
    · exact ⟨h.trailing.heard, h.trailing.trail, h.trailing.unfinished⟩
  | waited tracker hi hc =>
    rw [hc] at hd
    generalize hv : Verdict.undecided = verdict at hd
    cases hd with
    | completed c after first free => cases c <;> simp [verdict] at hv
    | undecided c after once listed live phase =>
      exact h.trailing.waited h.determined.focused rfl (heard_classified rfl rfl rfl hi) once
    | missed => simp at hv
  -- From here on nothing is left buffered, and the buffer determines the progress.
  | entered target tracker memory hi hc ha =>
    have hj (events : Journal) : Journal.arrive arrived
        (events ++ [.branched target (m.buffer ++ [symbol])]) = [] := by simp [Event.arrive]
    rw [← List.cons_append, hj]
    exact hnext.trailing rfl
  | enterFailed target tracker memory failure hi hc ha => simp at hr
  | left tracker memory hi hc ha =>
    have hj (events : Journal) : Journal.arrive arrived
        (events ++ [.returned m.active (m.buffer ++ [symbol])]) = [] := by simp [Event.arrive]
    rw [← List.cons_append, hj]
    exact hnext.trailing rfl
  | leaveFailed tracker memory failure hi hc ha => simp at hr
  | missed tracker events middle outcome hi hc hp he hs hrun =>
    have hreplay : Journal.arrive [] outcome.journal = [] := by
      rw [hrun]
      exact Journal.arrive_replay _ _ (replay_events _ _ _)
    have hj : (outcome.after [.classified m.active symbol .miss,
        .missed m.active (m.buffer ++ [symbol])]).journal.arrive arrived = [] := by
      rw [Outcome.after_journal, Journal.arrive_append]
      exact hreplay
    have hbuffer : middle.buffer = [] := by rw [hp.buffer, ite_self]
    rw [hj]
    apply hnext.trailing
    rw [Outcome.after_result] at hr
    rw [Outcome.after_machine]
    cases he with
    | finished => exact hbuffer
    | failed memory handler missed failure => simp at hr
    | refused memory handler missed index hu => exact hbuffer

theorem Orderly.parse (h : Orderly m arrived)
    (hn : ∀ event ∈ (m.parse symbol).journal, event.failure? = none) :
    Orderly (m.parse symbol).machine ((m.parse symbol).journal.arrive arrived) := by
  have hm := parse_move m symbol h.started
  have hr := move_unfailed hm hn
  obtain ⟨hstates, -, hstarted⟩ := parse_setup m symbol
  constructor
  · rw [hstarted, h.started]
  · exact parse_sound symbol h.sound
  · rw [hstates]
    exact h.nodup
  · exact move_determined hm hr h.determined
  · exact move_trailing hm hr h

/-- A pattern is completed at the end of a trail. -/
theorem Orderly.fired (h : Orderly m arrived) {c : Candidate}
    (hc : (c.moved m.states symbol m.tracker).1 = .complete) :
    (c.pattern m.states).Fired arrived symbol := by
  apply ((h.trailing.trail c).completed (h.trailing.unfinished c) hc).fired
  intro hempty
  rw [moved_empty hempty] at hc
  simp at hc

theorem Orderly.transition (h : Orderly m arrived) {event : Event}
    (he : event ∈ (m.parse symbol).journal) {c : Candidate} {buffer : List Char}
    (ht : event.transition? = some (c, buffer)) :
    (buffer.filter fun symbol => !(m.stateAt m.active).ignore.skips symbol) =
        arrived ++ [symbol] ∧
      (c.pattern m.states).Fired arrived symbol := by
  have hconnected := h.sound.connected h.started
  obtain ⟨rfl, hi, hv, hleave⟩ := move_transition (parse_move m symbol h.started) he ht
  constructor
  · rw [List.filter_append, ← heard, h.trailing.heard]
    simp [hi]
  · obtain ⟨before, rest, -, hcomplete, -⟩ :=
      hconnected.completes h.sound.sized h.active_nodup hv hleave
    exact h.fired hcomplete

end Step

theorem Orderly.feed {m : Machine Memory} {arrived : List Char} (h : Orderly m arrived)
    (text : List Char)
    (hn : ∀ outcome ∈ m.outcomes text, ∀ event ∈ outcome.journal, event.failure? = none) :
    Orderly (m.feed text) ((m.record text).arrive arrived) := by
  induction text generalizing m arrived with
  | nil => exact h
  | cons symbol text ih =>
    rw [outcomes, List.forall_mem_cons] at hn
    rw [record_cons, Journal.arrive_append]
    exact ih (h.parse hn.1) hn.2

theorem fresh_orderly {m : Machine Memory} (hm : Reachable m) (hc : Connected m.fresh)
    (hn : ∀ state ∈ m.states, state.branches.Nodup) : Orderly m.fresh [] := by
  have hd : Determined m.fresh := determined_of_reset rfl hm.sound.sized rfl
  exact ⟨rfl, fresh_sound hm.sound hc, hn, hd, hd.trailing rfl⟩

/-- As long as no callback fails, the symbols to be matched lead to the progress through each
pattern, and at a transition to the end of its pattern. -/
theorem transition_fired {before started : Machine Memory} (hreach : Reachable before)
    (hok : before.prestart = .ok started)
    (hn : ∀ state ∈ started.states, state.branches.Nodup) (text : List Char)
    (hf : ∀ outcome ∈ started.outcomes text, ∀ event ∈ outcome.journal,
      event.failure? = none) :
    (∀ c : Candidate, (c.pattern (started.feed text).states).Counted
      (started.record text).arrived (c.progress (started.feed text).tracker)) ∧
    ∀ symbol, ∀ event ∈ ((started.feed text).parse symbol).journal, ∀ c buffer,
      event.transition? = some (c, buffer) →
      (buffer.filter fun symbol =>
          !((started.feed text).stateAt (started.feed text).active).ignore.skips symbol) =
        (started.record text).arrived ++ [symbol] ∧
      (c.pattern (started.feed text).states).Fired (started.record text).arrived symbol := by
  obtain ⟨rfl, hc⟩ := prestart_ok hok
  have h := (fresh_orderly hreach hc hn).feed text hf
  exact ⟨fun c => (h.trailing.trail c).counted,
    fun symbol event he c buffer ht => h.transition he ht⟩

def stutter : Machine Unit :=
  (withOptions {} ()).calls
    [.addState { name := "root", branches := [1, 2], ignore := { all := [' '] } },
      .addState {
        name := "first", entry := ['a', 'b', 'c'].map .literal
        onEnter := some fun memory _ => (.ok (), memory) },
      .addState { name := "second", entry := ['a', 'b', 'd'].map .literal }]

theorem stutter_fired :
    ((stutter.fresh.feed ['a', 'b', ' ', 'a', 'b']).parse 'c').journal.calls =
      [.entering 1 ['a', 'b', ' ', 'a', 'b', 'c'] (.ok ())] ∧
    (stutter.fresh.record ['a', 'b', ' ', 'a', 'b']).arrived = ['a', 'b', 'a', 'b'] ∧
    (Pattern.ofText "abc").Fired ['a', 'b', 'a', 'b'] 'c' := by
  have hr : Reachable stutter := ⟨_, (), _, rfl⟩
  have hall := (transition_fired hr rfl (by decide) ['a', 'b', ' ', 'a', 'b'] (by decide)).2
  have hfired := hall 'c' (.entering 1 ['a', 'b', ' ', 'a', 'b', 'c'] (.ok ()))
    (List.Mem.tail _ (List.Mem.head _)) (.entry 1) _ rfl
  exact ⟨rfl, rfl, hfired.2⟩

/-- A repeated symbol is taken at the element that it has matched before, so that the symbols at
the end of a trail need not be consecutive. -/
theorem stutter_scattered :
    Reachable stutter ∧ stutter.prestart = .ok stutter.fresh ∧
    (∀ state ∈ stutter.fresh.states, state.branches.Nodup) ∧
    (∀ outcome ∈ stutter.fresh.outcomes ['a', 'b', 'b', 'c'], ∀ event ∈ outcome.journal,
      event.failure? = none) ∧
    (stutter.fresh.record ['a', 'b', 'b', 'c']).calls =
      [.entering 1 ['a', 'b', 'b', 'c'] (.ok ())] ∧
    (stutter.fresh.record ['a', 'b', 'b']).arrived = ['a', 'b', 'b'] ∧
    ¬ ∃ latest, latest <:+ ['a', 'b', 'b', 'c'] ∧
      ((Candidate.entry 1).pattern stutter.fresh.states).Spells latest := by
  refine ⟨⟨_, (), _, rfl⟩, rfl, by decide, by decide, rfl, rfl, ?_⟩
  rintro ⟨latest, hs, hm⟩
  have hl : latest.length = 3 := hm.length_eq.symm
  have hlatest : latest = ['b', 'b', 'c'] := by
    rw [List.suffix_iff_eq_drop.mp hs, hl]
    rfl
  subst hlatest
  exact absurd hm (by decide)

end Machine
end StateNest
