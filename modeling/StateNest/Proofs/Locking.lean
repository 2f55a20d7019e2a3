import Mathlib.Data.List.Count
import Mathlib.Data.List.Induction
import StateNest.Proofs.Decision
import StateNest.Proofs.Rounds

/-!
# The pattern that is followed alone

A pattern is followed alone once it alone is live. It is then listed once, and of all
that the active state may follow it alone has progress. This stays so until it is
complete or lost, and neither an ignored symbol nor one that is waited on changes the
chain. Whatever else happens, every pattern is followed again, also where a failure
keeps the counters. So a lock belongs to the state that is active, as long as it lasts.
-/

set_option autoImplicit false

namespace StateNest

namespace Candidate

open Tracker

variable {Memory : Type} {states : List (State Memory)} {active : StateId} {symbol : Char}

/-- Of the patterns of the active state, this one is listed once, and it alone has progress. -/
structure Alone (states : List (State Memory)) (active : StateId) (t : Tracker) (c : Candidate) :
    Prop where
  once : (followed states active .undetermined).count c = 1
  progress : ∀ d ∈ followed states active .undetermined, 0 < d.progress t ↔ d = c

def Narrowed (states : List (State Memory)) (active : StateId) (t : Tracker) : Prop :=
  t.phase = .undetermined ∨ ∃ c : Candidate, t.phase = c.lock ∧ Alone states active t c

variable {t : Tracker} {c : Candidate}

theorem count_entry {branch : StateId} :
    (followed states active .undetermined).count (.entry branch) =
      (stateAt states active).branches.count branch := by
  rw [followed, List.count_cons_of_ne (by simp)]
  exact List.count_map_of_injective _ _ (fun _ _ h => Candidate.entry.inj h) branch

theorem eq_of_lock {c d : Candidate} (hc : c ∈ followed states active .undetermined)
    (hd : d ∈ followed states active .undetermined) (h : c.lock = d.lock) : c = d := by
  have hone := followed_lock hc
  rw [h, followed_lock hd] at hone
  exact (List.singleton_inj.mp hone).symm

theorem Alone.mem (h : Alone states active t c) : c ∈ followed states active .undetermined :=
  List.count_pos_iff.mp (by rw [h.once]; exact Nat.one_pos)

theorem Alone.pos (h : Alone states active t c) : 0 < c.progress t :=
  (h.progress c h.mem).mpr rfl

theorem Alone.zero (h : Alone states active t c) {d : Candidate}
    (hd : d ∈ followed states active .undetermined) (hne : d ≠ c) : d.progress t = 0 :=
  Nat.eq_zero_of_not_pos (mt (h.progress d hd).mp hne)

theorem Narrowed.alone (h : Narrowed states active t)
    (hc : c ∈ followed states active .undetermined) (hp : t.phase = c.lock) :
    Alone states active t c := by
  rcases h with hfree | ⟨d, hd, halone⟩
  · rw [hp] at hfree
    cases c <;> simp [lock] at hfree
  · rwa [eq_of_lock hc halone.mem (hp.symm.trans hd)]

/-- A pattern that alone is live is alone from then on. -/
theorem undetermined_narrowed (ht : t.phase = .undetermined) (hz : t.Sized states.length)
    (hr : ∀ d ∈ followed states active .undetermined, d.state < states.length)
    (hp : Passes states symbol t (followed states active .undetermined)) :
    Narrowed states active
      (settled (round states symbol t (followed states active .undetermined))
        (liveIn states symbol t (followed states active .undetermined))).2 := by
  have hlive (d : Candidate) (hd : d ∈ followed states active .undetermined) :=
    hp.mem_liveIn_iff hz hr hd
  have hcount (d : Candidate) := hp.count_liveIn hz hr (d := d)
  generalize liveIn states symbol t (followed states active .undetermined) = live
    at hlive hcount ⊢
  match live with
  | [] => exact Or.inl rfl
  | [c] =>
    refine Or.inr ⟨c, rfl, ?_, fun d hd => ?_⟩
    · rw [← hcount c (List.mem_singleton_self c)]
      exact List.count_singleton_self
    · rw [settled_progress, ← hlive d hd]
      exact List.mem_singleton
  | _ :: _ :: _ => exact Or.inl ((round_phase states symbol t _).trans ht)

/-- A pattern that is followed alone stays alone while it is live. -/
theorem Alone.narrowed (h : Alone states active t c) (hz : t.Sized states.length)
    (hr : ∀ d ∈ [c], d.state < states.length) (hp : Passes states symbol t [c]) :
    Narrowed states active
      (settled (round states symbol t [c]) (liveIn states symbol t [c])).2 := by
  rw [hp.liveIn_eq_filter hz hr, List.filter_singleton]
  by_cases hpos : 0 < c.progress (round states symbol t [c])
  · rw [decide_eq_true hpos]
    refine Or.inr ⟨c, rfl, h.once, fun d hd => ?_⟩
    rw [cond_true, settled_progress]
    by_cases hdc : d = c
    · rw [hdc]
      exact iff_of_true hpos rfl
    · rw [round_unmoved states symbol t (by simpa using hdc)]
      exact h.progress d hd
  · rw [decide_eq_false hpos]
    exact Or.inl rfl

theorem classify_narrowed (hz : t.Sized states.length)
    (hr : ∀ d ∈ followed states active t.phase, d.state < states.length)
    (h : Narrowed states active t) :
    Narrowed states active (classify states symbol t active).2 := by
  rcases classify_round states symbol t active with ⟨before, d, rest, -, -, -, he⟩ | ⟨hp, he⟩
  · rw [he]
    exact Or.inl rfl
  · rw [he]
    rcases h with ht | ⟨c, ht, halone⟩
    · have hf : followed states active t.phase = followed states active .undetermined := by rw [ht]
      rw [hf] at hr hp ⊢
      exact undetermined_narrowed ht hz hr hp
    · have hf : followed states active t.phase = [c] := by rw [ht, followed_lock halone.mem]
      rw [hf] at hr hp ⊢
      exact halone.narrowed hz hr hp

theorem locked_phase (complete : Verdict) (stepped : Step × Tracker) :
    (locked complete stepped).2.phase = .undetermined ∨
      (locked complete stepped).2.phase = stepped.2.phase := by
  rcases stepped with ⟨outcome, moved⟩
  cases outcome with
  | complete => exact Or.inl rfl
  | lost => exact Or.inl rfl
  | advanced => exact Or.inr rfl
  | backtracked => exact Or.inr rfl

/-- A symbol may take a lock or end it, but does not change it. -/
theorem classify_phase (ht : t.phase ≠ .undetermined) :
    (classify states symbol t active).2.phase = .undetermined ∨
      (classify states symbol t active).2.phase = t.phase := by
  unfold classify
  split
  · next hp => exact absurd hp ht
  · exact locked_phase _ _
  · exact locked_phase _ _

end Candidate

namespace Machine

open Candidate

variable {Memory : Type} {m : Machine Memory} {symbol : Char} {outcome : Outcome Memory}

structure Stays (m : Machine Memory) (symbol : Char) (outcome : Outcome Memory) : Prop where
  states : outcome.machine.states = m.states
  chain : outcome.machine.chain = m.chain
  undecided : ∀ id verdict, .classified id symbol verdict ∈ outcome.journal →
    verdict = .undecided
  tracker : outcome.machine.tracker = m.tracker ∨
    outcome.machine.tracker = (m.tracker.classify m.states symbol m.active).2

/-- Every other symbol leaves all patterns followed. -/
theorem move_released (hm : Move m symbol outcome) :
    outcome.machine.tracker.phase = .undetermined ∨ Stays m symbol outcome := by
  cases hm with
  | ignored hi =>
    right
    simp only [ignore]
    split <;> exact ⟨rfl, rfl, by simp, Or.inl rfl⟩
  | waited tracker hi hc => exact Or.inr ⟨rfl, rfl, by simp, Or.inr (by rw [hc])⟩
  | entered target tracker memory hi hc ha => exact Or.inl rfl
  | enterFailed target tracker memory failure hi hc ha =>
    exact Or.inl (Tracker.phase_of_decided hc (by simp))
  | left tracker memory hi hc ha => exact Or.inl rfl
  | leaveFailed tracker memory failure hi hc ha =>
    exact Or.inl (Tracker.phase_of_decided hc (by simp))
  | missed tracker events middle outcome hi hc hp he hs hr =>
    left
    have hmiddle : middle.tracker.phase = .undetermined := by
      rw [hp.tracker]
      split
      · exact Tracker.phase_of_decided hc (by simp)
      · rfl
    rw [Outcome.after_machine]
    cases he <;> exact hmiddle

theorem Stays.active (h : Stays m symbol outcome) : outcome.machine.active = m.active := by
  rw [Machine.active, h.chain, Machine.active]

theorem move_narrowed (hm : Move m symbol outcome) (hz : m.tracker.Sized m.states.length)
    (hc : Connected m) (h : Narrowed m.states m.active m.tracker) :
    Narrowed outcome.machine.states outcome.machine.active outcome.machine.tracker := by
  rcases move_released hm with hreleased | hstays
  · exact Or.inl hreleased
  · rw [hstays.states, hstays.active]
    rcases hstays.tracker with ht | ht
    · rwa [ht]
    · rw [ht]
      exact classify_narrowed hz (fun d hd => hc.followed_lt hd) h

theorem Reachable.narrowed (hr : Reachable m) (hs : m.started = true) :
    Narrowed m.states m.active m.tracker := by
  apply hr.session (P := fun n => Narrowed n.states n.active n.tracker) _ _ _ hs
  · exact fun n => Or.inl rfl
  · exact fun n memory h => h
  · exact fun n symbol hn hstarted h =>
      move_narrowed (parse_move n symbol hstarted) hn.sized (hn.connected hstarted) h

/-- The lock after a text was taken at one of its symbols. Since then neither the lock nor the
chain has changed. -/
def LockTaken (m : Machine Memory) (text : List Char) : Prop :=
  ∃ before symbol since, text = before ++ symbol :: since ∧
    (m.feed before).tracker.phase = .undetermined ∧
    ∀ part, part <+: since →
      (m.feed (before ++ symbol :: part)).tracker.phase = (m.feed text).tracker.phase ∧
      (m.feed (before ++ symbol :: part)).chain = (m.feed before).chain

theorem parse_locked (hs : m.started = true)
    (hl : (m.parse symbol).machine.tracker.phase ≠ .undetermined) :
    (m.parse symbol).machine.chain = m.chain ∧ (m.tracker.phase ≠ .undetermined →
      (m.parse symbol).machine.tracker.phase = m.tracker.phase) := by
  have hstays := (move_released (parse_move m symbol hs)).resolve_left hl
  refine ⟨hstays.chain, fun hlocked => ?_⟩
  rcases hstays.tracker with ht | ht
  · rw [ht]
  · rw [ht] at hl ⊢
    exact (classify_phase hlocked).resolve_left hl

theorem feed_snoc (m : Machine Memory) (text : List Char) (symbol : Char) :
    m.feed (text ++ [symbol]) = ((m.feed text).parse symbol).machine :=
  feed_append m text [symbol]

theorem feed_lockTaken (hs : m.started = true) (hm : m.tracker.phase = .undetermined)
    (text : List Char) (hl : (m.feed text).tracker.phase ≠ .undetermined) : m.LockTaken text := by
  induction text using List.reverseRecOn with
  | nil => exact absurd hm hl
  | append_singleton text symbol ih =>
    have hstarted : (m.feed text).started = true := (feed_setup m text).2.2.trans hs
    rw [feed_snoc] at hl
    obtain ⟨hchain, hphase⟩ := parse_locked hstarted hl
    by_cases hfree : (m.feed text).tracker.phase = .undetermined
    · -- The lock is taken at this symbol.
      refine ⟨text, symbol, [], rfl, hfree, fun part hpart => ?_⟩
      rw [List.prefix_nil.mp hpart, feed_snoc]
      exact ⟨rfl, hchain⟩
    · obtain ⟨before, first, since, rfl, hbefore, hsince⟩ := ih hfree
      refine ⟨before, first, since ++ [symbol], by simp, hbefore, fun part hpart => ?_⟩
      rcases List.prefix_concat_iff.mp hpart with rfl | hpart
      · obtain ⟨-, hkept⟩ := hsince since (List.prefix_refl since)
        rw [← List.cons_append, ← List.append_assoc, feed_snoc]
        exact ⟨rfl, hchain.trans hkept⟩
      · rw [feed_snoc, hphase hfree]
        exact hsince part hpart

structure Locking (m : Machine Memory) : Prop where
  entering : ∀ target, m.tracker.phase = .entering target →
    (m.stateAt m.active).branches.count target = 1 ∧
    (∃ entry leave, m.progress target = some (entry, leave) ∧ 1 ≤ entry) ∧
    (∃ entry, m.progress m.active = some (entry, 0)) ∧
    ∀ branch ∈ (m.stateAt m.active).branches, branch ≠ target →
      ∃ leave, m.progress branch = some (0, leave)
  leaving : m.tracker.phase = .leaving →
    (∃ entry leave, m.progress m.active = some (entry, leave) ∧ 1 ≤ leave) ∧
    ∀ branch ∈ (m.stateAt m.active).branches, ∃ leave, m.progress branch = some (0, leave)
  released : ∀ symbol, ((m.parse symbol).machine.chain ≠ m.chain ∨
      ∃ id verdict, .classified id symbol verdict ∈ (m.parse symbol).journal ∧
        verdict ≠ .undecided) →
    (m.parse symbol).machine.tracker.phase = .undetermined
  taken : m.tracker.phase = .undetermined → ∀ text,
    (m.feed text).tracker.phase ≠ .undetermined → m.LockTaken text

/-- A pattern is followed alone on behalf of the active state only, and as long as it is active. -/
theorem lock_belongs_to_active (hr : Reachable m) (hs : m.started = true) : Locking m := by
  have hnarrowed := hr.narrowed hs
  have hconnected := hr.sound.connected hs
  have hprogress {id : StateId} (hid : id < m.states.length) :
      m.progress id = some ((Candidate.entry id).progress m.tracker,
        (Candidate.leave id).progress m.tracker) := Tracker.progress_of_lt hr.sound.sized hid
  have hactive := hprogress hconnected.active_lt
  have hbranch {branch : StateId} (hb : branch ∈ (m.stateAt m.active).branches) :
      Candidate.entry branch ∈ followed m.states m.active .undetermined :=
    List.mem_cons_of_mem _ (List.mem_map_of_mem hb)
  constructor
  · intro target hp
    have htarget := hconnected.target target hp
    have halone := hnarrowed.alone (hbranch htarget) hp
    refine ⟨count_entry.symm.trans halone.once,
      ⟨_, _, hprogress (hconnected.branch_lt htarget), halone.pos⟩, ?_, ?_⟩
    · rw [halone.zero List.mem_cons_self (by simp)] at hactive
      exact ⟨_, hactive⟩
    · intro branch hb hne
      have hother := hprogress (hconnected.branch_lt hb)
      rw [halone.zero (hbranch hb) (by simpa using hne)] at hother
      exact ⟨_, hother⟩
  · intro hp
    have halone := hnarrowed.alone (c := .leave m.active) List.mem_cons_self hp
    refine ⟨⟨_, _, hactive, halone.pos⟩, fun branch hb => ?_⟩
    have hother := hprogress (hconnected.branch_lt hb)
    rw [halone.zero (hbranch hb) (by simp)] at hother
    exact ⟨_, hother⟩
  · intro symbol h
    refine (move_released (parse_move m symbol hs)).resolve_right fun hstays => ?_
    rcases h with hchain | ⟨id, verdict, he, hv⟩
    · exact hchain hstays.chain
    · exact hv (hstays.undecided id verdict he)
  · exact fun hm text hl => feed_lockTaken hs hm text hl

def unopened : Machine Nat :=
  (withOptions {} 0).calls
    [.addState { name := "text", branches := [1] },
      .addState {
        name := "tag", entry := Pattern.ofText "<", leave := Pattern.ofText ">", branches := [2, 1]
        onEnter := some fun memory _ =>
          (if memory = 0 then .error ⟨"unopened"⟩ else .ok (), memory + 1) },
      .addState { name := "name", entry := Pattern.ofText "ab" },
      .prestart, .parse '<']

/-- The failure has left the entry of the tag complete, which is a branch of the tag itself. The
next symbol loses it before the entry of the name is followed alone. -/
theorem unopened_lock : Reachable unopened ∧ unopened.failure = some ⟨"unopened"⟩ ∧
    unopened.chain = [0, 1] ∧ unopened.progress 1 = some (1, 0) ∧
    (unopened.feed ['a']).tracker.phase = .entering 2 ∧
    ((unopened.feed ['a']).stateAt (unopened.feed ['a']).active).branches.count 2 = 1 ∧
    (∃ leave, (unopened.feed ['a']).progress 1 = some (0, leave)) ∧
    ((unopened.feed ['a']).parse 'b').machine.chain = [0, 1, 2] ∧
    ((unopened.feed ['a']).parse 'b').machine.tracker.phase = .undetermined ∧
    unopened.LockTaken ['a'] := by
  have hr : Reachable unopened := ⟨_, 0, _, rfl⟩
  have hall := lock_belongs_to_active (hr.feed ['a']) rfl
  obtain ⟨hcount, -, -, hothers⟩ := hall.entering 2 rfl
  refine ⟨hr, rfl, rfl, rfl, rfl, hcount, hothers 1 (by decide) (by decide), rfl, ?_, ?_⟩
  · exact hall.released 'b' (Or.inl (by decide))
  · exact (lock_belongs_to_active hr rfl).taken rfl ['a'] (by decide)

end Machine
end StateNest
