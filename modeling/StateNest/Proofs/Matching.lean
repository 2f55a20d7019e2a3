import StateNest.Proofs.Invariant

/-!
# Matching is determined by the buffer

A tracker has progress only in the patterns that its phase follows. So nothing
is left of it after a miss, although a miss does not clear it, and as long as no
callback fails it is what a new tracker learns from the buffer. Two runs with
the same chain, buffer and memory then have the same future.
-/

set_option autoImplicit false

namespace StateNest

namespace Tracker

section Follow

variable {Memory : Type} (states : List (State Memory))

def follow (active : StateId) : List Char → Tracker → Tracker
  | [], tracker => tracker
  | symbol :: text, tracker => follow active text (classify states symbol tracker active).2

theorem follow_append (active : StateId) (first second : List Char) (t : Tracker) :
    follow states active (first ++ second) t =
      follow states active second (follow states active first t) := by
  induction first generalizing t with
  | nil => rfl
  | cons symbol first ih => exact ih _

def entries (active : StateId) : Phase → List StateId
  | .undetermined => (stateAt states active).branches
  | .entering target => [target]
  | .leaving => []

def leaves (active : StateId) : Phase → List StateId
  | .undetermined | .leaving => [active]
  | .entering _ => []

/-- What is not followed has no progress. -/
structure Focused (active : StateId) (t : Tracker) : Prop where
  sized : t.Sized states.length
  entry : ∀ id, id ∉ entries states active t.phase → t.entry.getD id 0 = 0
  leave : ∀ id, id ∉ leaves active t.phase → t.leave.getD id 0 = 0

theorem getD_zeros (count id : Nat) : (List.replicate count 0).getD id 0 = 0 := by
  rw [List.getD_eq_getElem?_getD, List.getElem?_replicate]
  split <;> rfl

theorem zeros_of_getD {l : List Nat} {count : Nat} (hl : l.length = count)
    (hz : ∀ id, l.getD id 0 = 0) : l = List.replicate count 0 := by
  apply List.eq_replicate_iff.mpr
  constructor
  · exact hl
  · intro n hn
    obtain ⟨id, hid, he⟩ := List.getElem_of_mem hn
    have h := hz id
    rw [List.getD_eq_getElem?_getD, List.getElem?_eq_getElem hid, he] at h
    exact h

theorem eq_blank {count : Nat} {t : Tracker} (hs : t.Sized count)
    (hp : t.phase = .undetermined) (he : ∀ id, t.entry.getD id 0 = 0)
    (hl : ∀ id, t.leave.getD id 0 = 0) : t = blank count := by
  have hentry := zeros_of_getD hs.1 he
  have hleave := zeros_of_getD hs.2 hl
  cases t
  simp only at hp hentry hleave
  rw [hp, hentry, hleave, blank]

theorem blank_focused (active : StateId) : Focused states active (blank states.length) := by
  constructor
  · simp [Sized, blank]
  · exact fun id _ => getD_zeros _ id
  · exact fun id _ => getD_zeros _ id

/-- What is known of a tracker after one symbol: it is still focused while undecided, and blank
again after a miss. -/
def Kept (active : StateId) (decided : Verdict × Tracker) : Prop :=
  (decided.1 = .undecided → Focused states active decided.2) ∧
    (decided.1 = .miss → decided.2 = blank states.length)

theorem kept_of_decided {active : StateId} {decided : Verdict × Tracker}
    (hu : decided.1 ≠ .undecided) (hm : decided.1 ≠ .miss) : Kept states active decided :=
  ⟨fun h => absurd h hu, fun h => absurd h hm⟩

theorem kept_of_undecided {active : StateId} {decided : Verdict × Tracker}
    (hu : decided.1 = .undecided) (hf : Focused states active decided.2) :
    Kept states active decided :=
  ⟨fun _ => hf, fun h => by simp [hu] at h⟩

theorem kept_of_missed {active : StateId} {decided : Verdict × Tracker}
    (hm : decided.1 = .miss) (hb : decided.2 = blank states.length) :
    Kept states active decided :=
  ⟨fun h => by simp [hm] at h, fun _ => hb⟩

/-- Once all patterns have been moved, `ids` are the live entries and `left` tells whether the
leave is live. -/
theorem settle_kept (active : StateId) (moved : Tracker) (ids : List StateId) (left : Nat)
    (hs : moved.Sized states.length) (hp : moved.phase = .undetermined)
    (hi : ∀ id ∈ ids, id ∈ (stateAt states active).branches)
    (he : ∀ id, id ∉ ids → moved.entry.getD id 0 = 0)
    (hl : ∀ id, id ≠ active → moved.leave.getD id 0 = 0)
    (hz : left = 0 → moved.leave.getD active 0 = 0) :
    Kept states active (settle moved (left + ids.length) ids.getLast?) := by
  have hleave (h : left = 0) (id : StateId) : moved.leave.getD id 0 = 0 := by
    by_cases hid : id = active
    · rw [hid, hz h]
    · exact hl id hid
  have hopen : Focused states active moved := by
    constructor
    · exact hs
    · intro id hid
      rw [hp] at hid
      exact he id fun hm => hid (hi id hm)
    · intro id hid
      rw [hp] at hid
      exact hl id (List.ne_of_not_mem_cons hid)
  match ids, left with
  | [], 0 =>
    apply kept_of_missed states rfl
    exact eq_blank hs hp (fun id => he id List.not_mem_nil) (hleave rfl)
  | [], 1 =>
    apply kept_of_undecided states rfl
    constructor
    · exact hs
    · intro id _
      exact he id List.not_mem_nil
    · intro id hid
      exact hl id (List.ne_of_not_mem_cons hid)
  | [], n + 2 => exact kept_of_undecided states rfl hopen
  | [branch], 0 =>
    apply kept_of_undecided states rfl
    constructor
    · exact hs
    · intro id hid
      exact he id hid
    · intro id _
      exact hleave rfl id
  | [branch], n + 1 =>
    have hlive : n + 1 + [branch].length = n + 2 := rfl
    rw [hlive]
    exact kept_of_undecided states rfl hopen
  | _ :: _ :: rest, n => exact kept_of_undecided states rfl hopen

theorem undetermined_kept (symbol : Char) (active : StateId) (t : Tracker)
    (h : Focused states active t) (hp : t.phase = .undetermined) :
    Kept states active (undetermined states symbol t active) := by
  have hsized := classify_sized states symbol t active h.sized
  simp only [classify, hp] at hsized
  rcases undetermined_cases states symbol t active with
    ⟨hv, -⟩ | ⟨branch, -, hv, -⟩ | ⟨moved, ids, left, he, hph, hi, hout, hzero, hf, hl⟩
  · exact kept_of_decided states (by simp [hv]) (by simp [hv])
  · exact kept_of_decided states (by simp [hv]) (by simp [hv])
  · have hentry : ∀ id, id ∉ ids → moved.entry.getD id 0 = 0 := by
      intro id hid
      by_cases hb : id ∈ (stateAt states active).branches
      · exact hzero id hb hid
      · rw [hout id hb]
        exact h.entry id (by rwa [hp])
    have hleave : ∀ id, id ≠ active → moved.leave.getD id 0 = 0 := by
      intro id hid
      rw [hf id hid]
      exact h.leave id (by simpa [hp, leaves] using hid)
    have hmoved : moved.Sized states.length := by
      rw [he] at hsized
      unfold settle at hsized
      split at hsized <;> exact hsized
    rw [he]
    exact settle_kept states active moved ids left hmoved (hph.trans hp) hi hentry hleave hl

theorem locked_kept (active : StateId) (complete : Verdict) (stepped : Step × Tracker)
    (hc : complete ≠ .undecided ∧ complete ≠ .miss) (hf : Focused states active stepped.2)
    (hl : stepped.1 = .lost → { stepped.2 with phase := .undetermined } = blank states.length) :
    Kept states active (locked complete stepped) := by
  rcases stepped with ⟨outcome, moved⟩
  cases outcome with
  | complete => exact kept_of_decided states hc.1 hc.2
  | lost => exact kept_of_missed states rfl (hl rfl)
  | advanced => exact kept_of_undecided states rfl hf
  | backtracked => exact kept_of_undecided states rfl hf

theorem entering_kept (symbol : Char) (active target : StateId) (t : Tracker)
    (h : Focused states active t) (hp : t.phase = .entering target) :
    Kept states active (locked (.enter target) (stepEntry states symbol t target)) := by
  have hleave : ∀ id, t.leave.getD id 0 = 0 := by
    intro id
    exact h.leave id (by simp [hp, leaves])
  have hrest : ∀ id, id ≠ target →
      (stepEntry states symbol t target).2.entry.getD id 0 = 0 := by
    intro id hid
    rw [stepEntry_frame states symbol t target id hid]
    exact h.entry id (by simpa [hp, entries] using hid)
  have hsized := stepEntry_sized states symbol t target h.sized
  apply locked_kept
  · simp
  · refine ⟨hsized, fun id hid => hrest id ?_, fun id _ => hleave id⟩
    simpa [hp, entries] using hid
  · intro hlost
    refine eq_blank hsized rfl (fun id => ?_) hleave
    by_cases hid : id = target
    · rw [hid]
      exact stepEntry_lost states symbol t target hlost
    · exact hrest id hid

theorem leaving_kept (symbol : Char) (active : StateId) (t : Tracker)
    (h : Focused states active t) (hp : t.phase = .leaving) :
    Kept states active (locked .pop (stepLeave states symbol t active)) := by
  have hentry : ∀ id, t.entry.getD id 0 = 0 := by
    intro id
    exact h.entry id (by simp [hp, entries])
  have hrest : ∀ id, id ≠ active →
      (stepLeave states symbol t active).2.leave.getD id 0 = 0 := by
    intro id hid
    rw [stepLeave_frame states symbol t active id hid]
    exact h.leave id (by simpa [hp, leaves] using hid)
  have hsized := stepLeave_sized states symbol t active h.sized
  apply locked_kept
  · simp
  · refine ⟨hsized, fun id _ => hentry id, fun id hid => hrest id ?_⟩
    simpa [hp, leaves] using hid
  · intro hlost
    refine eq_blank hsized rfl hentry fun id => ?_
    by_cases hid : id = active
    · rw [hid]
      exact stepLeave_lost states symbol t active hlost
    · exact hrest id hid

theorem classify_kept (symbol : Char) (active : StateId) (t : Tracker)
    (h : Focused states active t) : Kept states active (classify states symbol t active) := by
  unfold classify
  split
  · next hp => exact undetermined_kept states symbol active t h hp
  · next target hp => exact entering_kept states symbol active target t h hp
  · next hp => exact leaving_kept states symbol active t h hp

end Follow

end Tracker
namespace Machine

variable {Memory : Type}

def heard (m : Machine Memory) : List Char :=
  m.buffer.filter fun symbol => !(m.stateAt m.active).ignore.skips symbol

def rebuilt (m : Machine Memory) : Tracker :=
  Tracker.follow m.states m.active m.heard (Tracker.blank m.states.length)

theorem rebuilt_congr {m n : Machine Memory} (hs : n.states = m.states) (hc : n.chain = m.chain)
    (hb : n.buffer = m.buffer) : n.rebuilt = m.rebuilt := by
  simp only [rebuilt, heard, stateAt, active, hs, hc, hb]

structure Determined (m : Machine Memory) : Prop where
  focused : Tracker.Focused m.states m.active m.tracker
  tracker : m.tracker = m.rebuilt

theorem determined_of_blank {m : Machine Memory} (hb : m.buffer = [])
    (ht : m.tracker = Tracker.blank m.states.length) : Determined m := by
  constructor
  · rw [ht]
    exact Tracker.blank_focused m.states m.active
  · rw [ht, rebuilt, heard, hb]
    rfl

theorem determined_of_reset {m : Machine Memory} {t : Tracker} (hb : m.buffer = [])
    (hs : t.Sized m.states.length) (ht : m.tracker = t.reset) : Determined m :=
  determined_of_blank hb (ht.trans (Tracker.reset_blank t hs))

section Push

variable {m n : Machine Memory} {symbol : Char} (hs : n.states = m.states)
  (hc : n.chain = m.chain) (hb : n.buffer = m.buffer ++ [symbol])
include hs hc hb

theorem heard_skipped (hi : (m.stateAt m.active).ignore.skips symbol = true) :
    n.heard = m.heard := by
  simp only [heard, stateAt, active, hs, hc, hb, List.filter_append]
  simpa [stateAt, active] using hi

theorem heard_classified (hi : (m.stateAt m.active).ignore.skips symbol = false) :
    n.heard = m.heard ++ [symbol] := by
  simp only [heard, stateAt, active, hs, hc, hb, List.filter_append]
  simpa [stateAt, active] using hi

theorem rebuilt_skipped (hi : (m.stateAt m.active).ignore.skips symbol = true) :
    n.rebuilt = m.rebuilt := by
  rw [rebuilt, heard_skipped hs hc hb hi, active, hs, hc]
  rfl

theorem rebuilt_classified (hi : (m.stateAt m.active).ignore.skips symbol = false) :
    n.rebuilt = (Tracker.classify m.states symbol m.rebuilt m.active).2 := by
  rw [rebuilt, heard_classified hs hc hb hi, active, hs, hc, Tracker.follow_append]
  rfl

end Push

/-- A move that does not fail leaves nothing to be known of the tracker but the buffer. -/
theorem move_determined {m : Machine Memory} {symbol : Char} {outcome : Outcome Memory}
    (hm : Move m symbol outcome) (hr : outcome.result ≠ .ok false) (h : Determined m) :
    Determined outcome.machine := by
  have hkept := Tracker.classify_kept m.states symbol m.active m.tracker h.focused
  have hsized := Tracker.classify_sized m.states symbol m.tracker m.active h.focused.sized
  cases hm with
  | ignored hi =>
    simp only [ignore]
    split
    · refine ⟨h.focused, ?_⟩
      change m.tracker = _
      rw [h.tracker]
      symm
      exact rebuilt_skipped rfl rfl rfl hi
    · exact ⟨h.focused, h.tracker⟩
  | waited tracker hi hc =>
    rw [hc] at hkept
    refine ⟨hkept.1 rfl, ?_⟩
    have hnext : tracker = (Tracker.classify m.states symbol m.rebuilt m.active).2 := by
      rw [← h.tracker, hc]
    change tracker = _
    rw [hnext]
    symm
    exact rebuilt_classified rfl rfl rfl hi
  | entered target tracker memory hi hc ha =>
    rw [hc] at hsized
    exact determined_of_reset rfl hsized rfl
  | enterFailed target tracker memory failure hi hc ha => simp at hr
  | left tracker memory hi hc ha =>
    rw [hc] at hsized
    exact determined_of_reset rfl hsized rfl
  | leaveFailed tracker memory failure hi hc ha => simp at hr
  | missed tracker events middle outcome hi hc hp he hs hrun =>
    rw [hc] at hkept hsized
    have hblank : tracker = Tracker.blank m.states.length := hkept.2 rfl
    have hbuffer : middle.buffer = [] := by rw [hp.buffer, ite_self]
    have htracker : middle.tracker = Tracker.blank middle.states.length := by
      rw [hp.tracker, hp.states]
      split
      · exact hblank
      · exact Tracker.reset_blank _ hsized
    rw [Outcome.after_result] at hr
    rw [Outcome.after_machine]
    cases he with
    | finished => exact determined_of_blank hbuffer htracker
    | failed memory handler missed failure => simp at hr
    | refused memory handler missed index hu => exact determined_of_blank hbuffer htracker

/-- A call that gives back `false` has called a callback that failed. -/
theorem move_unfailed {m : Machine Memory} {symbol : Char} {outcome : Outcome Memory}
    (hm : Move m symbol outcome) (hn : ∀ event ∈ outcome.journal, event.failure? = none) :
    outcome.result ≠ .ok false := by
  cases hm with
  | enterFailed target tracker memory failure hi hc ha => simp at hn
  | leaveFailed tracker memory failure hi hc ha => simp at hn
  | missed tracker events middle outcome hi hc hp he hs hr =>
    cases he with
    | failed memory handler missed failure =>
      have hf := hn (.handled handler missed (.error failure)) (by simp)
      simp at hf
    | _ => simp
  | _ => simp

def Unfailed (m : Machine Memory) : Prop :=
  ∃ (before started : Machine Memory) (text : List Char), Reachable before ∧
    before.prestart = .ok started ∧
    (∀ outcome ∈ started.outcomes text, ∀ event ∈ outcome.journal, event.failure? = none) ∧
    m = started.feed text

theorem feed_determined (m : Machine Memory) (text : List Char) (hs : m.started = true)
    (hf : m.failure = none) (h : Determined m)
    (hn : ∀ outcome ∈ m.outcomes text, ∀ event ∈ outcome.journal, event.failure? = none) :
    Determined (m.feed text) ∧ (m.feed text).started = true ∧ (m.feed text).failure = none := by
  induction text generalizing m with
  | nil => exact ⟨h, hs, hf⟩
  | cons symbol text ih =>
    rw [outcomes, List.forall_mem_cons] at hn
    have hm := parse_move m symbol hs
    have hr := move_unfailed hm hn.1
    apply ih
    · rw [(parse_setup m symbol).2.2, hs]
    · rw [move_failure hm hr, hf]
    · exact move_determined hm hr h
    · exact hn.2

theorem Unfailed.determined {m : Machine Memory} (h : Unfailed m) :
    Determined m ∧ m.started = true ∧ m.failure = none := by
  obtain ⟨before, started, text, hreach, hok, hn, rfl⟩ := h
  obtain ⟨rfl, -⟩ := prestart_ok hok
  have hd : Determined before.fresh := determined_of_reset rfl hreach.sound.sized rfl
  exact feed_determined before.fresh text rfl rfl hd hn

theorem parse_status (m : Machine Memory) (status : Status) (symbol : Char)
    (hs : m.started = true) : parse { m with status } symbol = m.parse symbol := by
  simp only [parse, hs]
  rfl

theorem outcomes_status (m : Machine Memory) (status : Status) (text : List Char)
    (hs : m.started = true) : outcomes { m with status } text = m.outcomes text := by
  cases text with
  | nil => rfl
  | cons symbol text => rw [outcomes, outcomes, parse_status m status symbol hs]

/-- The tracker of a session without failures is known from the buffer. The future is known from
the chain, the buffer and the memory. -/
theorem unfailed_future {m : Machine Memory} (h : Unfailed m) :
    m.tracker = m.rebuilt ∧
      ∀ n : Machine Memory, Unfailed n → n.states = m.states → n.options = m.options →
        n.chain = m.chain → n.buffer = m.buffer → n.memory = m.memory →
        n.tracker = m.tracker ∧ ∀ text, n.outcomes text = m.outcomes text := by
  obtain ⟨hd, hs, hf⟩ := h.determined
  refine ⟨hd.tracker, ?_⟩
  intro n hn hstates hoptions hchain hbuffer hmemory
  obtain ⟨hd', hs', hf'⟩ := hn.determined
  have htracker : n.tracker = m.tracker := by
    rw [hd'.tracker, hd.tracker, rebuilt_congr hstates hchain hbuffer]
  refine ⟨htracker, ?_⟩
  intro text
  have he : n = { m with status := n.status } := by
    cases n
    simp_all
  rw [he]
  exact outcomes_status m n.status text hs

def forked : Machine Nat :=
  (withOptions {} 0).calls
    [.addState {
        name := "root", branches := [1, 2], ignore := { all := [' '] }
        onMiss := some fun memory _ => (.ok none, memory + 1) },
      .addState { name := "first", entry := [.literal 'a', .literal 'b'] },
      .addState { name := "second", entry := [.literal 'a', .literal 'c'] }]

theorem forked_future :
    Unfailed (forked.fresh.feed ['x', 'y', 'a', ' ']) ∧
      Unfailed (forked.fresh.feed ['a', 'y', 'a', ' ']) ∧
      (forked.fresh.feed ['x', 'y', 'a', ' ']).tracker.entry = [0, 1, 1] ∧
      ∀ text, (forked.fresh.feed ['a', 'y', 'a', ' ']).outcomes text =
        (forked.fresh.feed ['x', 'y', 'a', ' ']).outcomes text := by
  have hr : Reachable forked := ⟨_, 0, _, rfl⟩
  have hm : Unfailed (forked.fresh.feed ['x', 'y', 'a', ' ']) :=
    ⟨forked, forked.fresh, _, hr, rfl, by decide, rfl⟩
  have hn : Unfailed (forked.fresh.feed ['a', 'y', 'a', ' ']) :=
    ⟨forked, forked.fresh, _, hr, rfl, by decide, rfl⟩
  have hfuture := (unfailed_future hm).2 _ hn rfl rfl rfl rfl rfl
  exact ⟨hm, hn, rfl, hfuture.2⟩

end Machine
end StateNest
