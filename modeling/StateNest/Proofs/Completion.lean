import StateNest.Proofs.Decision
import StateNest.Proofs.Matching
import StateNest.Proofs.Rounds

/-!
# What can still be completed

A pattern whose last element is matched is decided for on that symbol, so that none
that waits for more symbols is complete. Only a failure changes this, since it keeps
what classification has left. A pattern that is complete then stays so on each symbol
that its last element matches again, and is followed as any other once one does not.
-/

set_option autoImplicit false

namespace StateNest

namespace Pattern

variable {pattern : Pattern} {progress : Nat} {symbol : Char}

def MatchesLast (pattern : Pattern) (symbol : Char) : Prop :=
  pattern.matchesAt (pattern.length - 1) symbol = true

instance (pattern : Pattern) (symbol : Char) : Decidable (pattern.MatchesLast symbol) :=
  inferInstanceAs (Decidable (_ = true))

/-- There is more to match, or the last element has been matched again. -/
def Held (pattern : Pattern) (symbol : Char) (progress : Nat) : Prop :=
  progress < pattern.length ∨ progress = pattern.length ∧ pattern.MatchesLast symbol

theorem Held.le (h : pattern.Held symbol progress) : progress ≤ pattern.length := by
  rcases h with h | ⟨h, -⟩ <;> omega

theorem step_open (h : progress < pattern.length)
    (hc : (pattern.step progress symbol).1 ≠ .complete) :
    (pattern.step progress symbol).2 < pattern.length := by
  rcases Unfinished.step (Or.inr h) hc with hzero | hlt <;> omega

/-- Only the last element keeps a complete pattern where it is. -/
theorem step_held (hne : pattern ≠ []) (h : progress ≤ pattern.length)
    (hc : (pattern.step progress symbol).1 ≠ .complete) :
    pattern.Held symbol (pattern.step progress symbol).2 := by
  have hpos : 0 < pattern.length := List.length_pos_iff.mpr hne
  have hm := step_moved pattern progress symbol
  generalize pattern.step progress symbol = moved at hm hc
  cases hm with
  | completed found last => simp at hc
  | advanced found more => exact Or.inl more
  | lost nowhere => exact Or.inl hpos
  | backtracked position lt found closest =>
    by_cases hlast : position + 1 = pattern.length
    · refine Or.inr ⟨hlast, ?_⟩
      rwa [MatchesLast, ← hlast, Nat.add_sub_cancel]
    · left
      change position + 1 < pattern.length
      omega

theorem step_filled (h : (pattern.step progress symbol).1 = .complete) :
    (pattern.step progress symbol).2 = pattern.length := by
  have hm := step_moved pattern progress symbol
  generalize pattern.step progress symbol = moved at hm h
  cases hm with
  | completed found last => exact last.symm
  | _ => simp at h

theorem step_full (hp : progress = pattern.length) (hl : pattern.MatchesLast symbol) :
    (pattern.step progress symbol).2 = pattern.length := by
  have hpast : pattern.matchesAt progress symbol = false := matchesAt_past (Nat.le_of_eq hp.symm)
  have hlast := lt_length_of_matchesAt hl
  have hm := step_moved pattern progress symbol
  generalize pattern.step progress symbol = moved at hm
  cases hm with
  | completed found last => simp [hpast] at found
  | advanced found more => simp [hpast] at found
  | lost nowhere =>
    have hnone := nowhere (pattern.length - 1) (by omega)
    rw [hl] at hnone
    exact absurd hnone (by simp)
  | backtracked position lt found closest =>
    by_contra hne
    change position + 1 ≠ pattern.length at hne
    have hnone := closest (pattern.length - 1) (by omega) (by omega)
    rw [hl] at hnone
    exact absurd hnone (by simp)

/-- A symbol that matches an element up to the progress is not lost, and leads past it. -/
theorem step_past {position : Nat} (hm : pattern.matchesAt position symbol = true)
    (hp : position ≤ progress) :
    ((pattern.step progress symbol).1 = .complete ∨
      (pattern.step progress symbol).1.isLive = true) ∧
      position < (pattern.step progress symbol).2 := by
  have hmoved := step_moved pattern progress symbol
  generalize pattern.step progress symbol = moved at hmoved
  cases hmoved with
  | completed found last => exact ⟨Or.inl rfl, Nat.lt_succ_of_le hp⟩
  | advanced found more => exact ⟨Or.inr rfl, Nat.lt_succ_of_le hp⟩
  | lost nowhere =>
    rw [nowhere position hp] at hm
    exact absurd hm (by simp)
  | backtracked other lt found closest =>
    refine ⟨Or.inr rfl, Nat.lt_succ_of_le ?_⟩
    by_contra hbehind
    rw [closest position (by omega) hp] at hm
    exact absurd hm (by simp)

end Pattern

namespace Machine

open Candidate

variable {Memory : Type} {m : Machine Memory}

theorem Sound.counter_le (h : Sound m) (hs : m.started = true) (c : Candidate) :
    c.progress m.tracker ≤ (c.pattern m.states).length := by
  cases c with
  | leave id => exact (h.within hs).2 id
  | entry id => exact (h.within hs).1 id

/-- What the steps through a pattern keep of its counter, a symbol keeps, unless the pattern is
decided for. -/
theorem Sound.counter_kept (h : Sound m) (hs : m.started = true) (symbol : Char) {c : Candidate}
    {R : Nat → Prop}
    (hstep : ∀ progress, R progress → ((c.pattern m.states).step progress symbol).1 ≠ .complete →
      R ((c.pattern m.states).step progress symbol).2)
    (hc : R (c.progress m.tracker)) :
    R (c.progress (m.tracker.classify m.states symbol m.active).2) ∨
      c ∈ followed m.states m.active m.tracker.phase ∧
        (m.tracker.classify m.states symbol m.active).1 = c.verdict := by
  have hkept {list : List Candidate} (hl : list ⊆ followed m.states m.active m.tracker.phase)
      (hp : Passes m.states symbol m.tracker list) :=
    hp.keeps h.sized (fun d hd => (h.connected hs).followed_lt (hl hd)) c hstep hc
  rcases classify_round m.states symbol m.tracker m.active with
    ⟨before, d, rest, hl, hp, -, he⟩ | ⟨hp, he⟩
  · rw [he]
    have hin : d ∈ followed m.states m.active m.tracker.phase := by simp [hl]
    by_cases hd : c = d
    · exact Or.inr ⟨hd ▸ hin, by rw [hd]⟩
    · change R (c.progress (d.stepped m.states symbol _)) ∨ _
      rw [stepped_unmoved m.states symbol _ hd]
      exact Or.inl (hkept (by simp [hl]) hp)
  · rw [he, settled_progress]
    exact Or.inl (hkept (List.Subset.refl _) hp)

theorem Sound.reported (h : Sound m) (hs : m.started = true) (symbol : Char) (c : Candidate)
    (hopen : c.progress m.tracker < (c.pattern m.states).length)
    (hfull : c.progress (m.tracker.classify m.states symbol m.active).2 =
      (c.pattern m.states).length) :
    c ∈ followed m.states m.active m.tracker.phase ∧
      (m.tracker.classify m.states symbol m.active).1 = c.verdict :=
  (h.counter_kept hs symbol (fun _ => Pattern.step_open) hopen).resolve_left
    (Nat.not_lt.mpr (Nat.le_of_eq hfull.symm))

theorem Sound.unfinished (h : Sound m) (hs : m.started = true) (symbol : Char) {c : Candidate}
    (hc : (c.pattern m.states).Unfinished (c.progress m.tracker))
    (hv : (m.tracker.classify m.states symbol m.active).1 ≠ c.verdict) :
    (c.pattern m.states).Unfinished
      (c.progress (m.tracker.classify m.states symbol m.active).2) :=
  (h.counter_kept hs symbol (fun _ => Pattern.Unfinished.step) hc).resolve_right
    fun hdecided => hv hdecided.2

/-- A pattern that is waited for has more to match, unless it was complete before. -/
theorem Sound.held (h : Sound m) (hs : m.started = true) {symbol : Char}
    (hv : (m.tracker.classify m.states symbol m.active).1 = .undecided) {c : Candidate}
    (hc : c ∈ followed m.states m.active m.tracker.phase) (hne : c.pattern m.states ≠ []) :
    (c.pattern m.states).Held symbol
      (c.progress (m.tracker.classify m.states symbol m.active).2) := by
  have hp := passes_of_undecided m.states symbol hv
  rw [classify_passed m.states symbol hp, settled_progress]
  apply hp.brings (R := (· ≤ (c.pattern m.states).length)) h.sized
    (fun d hd => (h.connected hs).followed_lt hd) c hc
  · exact fun _ _ _ => Pattern.step_le _ _ _
  · intro progress hle hincomplete
    exact Pattern.step_held hne (hle.elim id Pattern.Held.le) hincomplete
  · exact h.counter_le hs c

/-- A pattern with more to match has more after a move, unless it is decided for and the callback
fails. -/
theorem move_unfinished {symbol : Char} {outcome : Outcome Memory} (hm : Move m symbol outcome)
    (hs : Sound m) (hstarted : m.started = true) {c : Candidate}
    (hc : (c.pattern m.states).Unfinished (c.progress m.tracker))
    (hr : outcome.result = .ok false →
      (m.tracker.classify m.states symbol m.active).1 ≠ c.verdict) :
    (c.pattern outcome.machine.states).Unfinished (c.progress outcome.machine.tracker) := by
  have hreset (t : Tracker) : (c.pattern m.states).Unfinished (c.progress t.reset) :=
    Or.inl (progress_reset t c)
  have hkept {verdict : Verdict} {tracker : Tracker}
      (he : m.tracker.classify m.states symbol m.active = (verdict, tracker))
      (hv : verdict ≠ c.verdict) : (c.pattern m.states).Unfinished (c.progress tracker) := by
    have h := hs.unfinished hstarted symbol hc (by rwa [he])
    rwa [he] at h
  cases hm with
  | ignored hi =>
    simp only [ignore]
    split <;> exact hc
  | waited tracker hi he => exact hkept he (by cases c <;> simp [verdict])
  | entered target tracker memory hi he ha => exact hreset tracker
  | enterFailed target tracker memory failure hi he ha =>
    rw [he] at hr
    exact hkept he (hr rfl)
  | left tracker memory hi he ha => exact hreset tracker
  | leaveFailed tracker memory failure hi he ha =>
    rw [he] at hr
    exact hkept he (hr rfl)
  | missed tracker events middle outcome hi he hp hend hstop hrun =>
    have hmiddle : (c.pattern middle.states).Unfinished (c.progress middle.tracker) := by
      rw [hp.states, hp.tracker]
      split
      · exact hkept he (by cases c <;> simp [verdict])
      · exact hreset tracker
    rw [Outcome.after_machine]
    cases hend <;> exact hmiddle

/-- A callback that fails leaves the counters to what was done before it was called. -/
theorem move_failed {symbol : Char} {outcome : Outcome Memory} (hm : Move m symbol outcome)
    (hr : outcome.result = .ok false) :
    outcome.machine.tracker =
      if outcome.journal.pushed = [] then (m.tracker.classify m.states symbol m.active).2
      else (m.tracker.classify m.states symbol m.active).2.reset := by
  cases hm with
  | ignored hi => simp at hr
  | waited tracker hi he => simp at hr
  | entered target tracker memory hi he ha => simp at hr
  | enterFailed target tracker memory failure hi he ha => simp [he]
  | left tracker memory hi he ha => simp at hr
  | leaveFailed tracker memory failure hi he ha => simp [he]
  | missed tracker events middle outcome hi he hp hend hstop hrun =>
    rw [Outcome.after_machine, Outcome.after_journal, Journal.pushed_append, he]
    cases hend with
    | finished => simp at hr
    | failed memory handler missed failure => simp [hp.tracker]
    | refused memory handler missed index hu => simp at hr

def Pending (m : Machine Memory) : Prop :=
  ∀ c : Candidate, (c.pattern m.states).Unfinished (c.progress m.tracker)

theorem feed_pending (text : List Char) (hs : Sound m) (hstarted : m.started = true)
    (h : Pending m)
    (hn : ∀ outcome ∈ m.outcomes text, ∀ event ∈ outcome.journal, event.failure? = none) :
    Pending (m.feed text) := by
  induction text generalizing m with
  | nil => exact h
  | cons symbol text ih =>
    obtain ⟨hnow, hlater⟩ := List.forall_mem_cons.mp hn
    have hm := parse_move m symbol hstarted
    exact ih (parse_sound symbol hs) ((parse_setup m symbol).2.2.trans hstarted)
      (fun c => move_unfinished hm hs hstarted (h c) fun hf => absurd hf (move_unfailed hm hnow))
      hlater

theorem followed_leave {states : List (State Memory)} {active : StateId} {phase : Phase}
    (h : Candidate.leave active ∈ followed states active phase) :
    ∃ entries : List Candidate, followed states active phase = .leave active :: entries ∧
      ∀ c ∈ entries, ∃ branch ∈ (Tracker.stateAt states active).branches, c = .entry branch := by
  cases phase with
  | undetermined =>
    refine ⟨_, rfl, fun c hc => ?_⟩
    obtain ⟨branch, hb, rfl⟩ := List.mem_map.mp hc
    exact ⟨branch, hb, rfl⟩
  | entering target => simp [followed] at h
  | leaving => exact ⟨[], rfl, List.forall_mem_nil _⟩

/-- What can be decided while the leave of the active state is not lost. -/
theorem Sound.classified_leave (h : Sound m) (hs : m.started = true) {symbol : Char}
    (hin : Candidate.leave m.active ∈ followed m.states m.active m.tracker.phase)
    (hl : ((Candidate.leave m.active).moved m.states symbol m.tracker).1 = .complete ∨
      ((Candidate.leave m.active).moved m.states symbol m.tracker).1.isLive = true) :
    ((m.tracker.classify m.states symbol m.active).1 = .pop ∧
      ((Candidate.leave m.active).moved m.states symbol m.tracker).1 = .complete) ∨
    (∃ branch ∈ (m.stateAt m.active).branches,
      (m.tracker.classify m.states symbol m.active).1 = .enter branch) ∨
    ((m.tracker.classify m.states symbol m.active).1 = .undecided ∧
      ((Candidate.leave m.active).moved m.states symbol m.tracker).1 ≠ .complete ∧
      (Candidate.leave m.active).progress (m.tracker.classify m.states symbol m.active).2 =
        ((Candidate.leave m.active).moved m.states symbol m.tracker).2 ∧
      Candidate.leave m.active ∈ followed m.states m.active
        (m.tracker.classify m.states symbol m.active).2.phase) := by
  obtain ⟨entries, hlist, hentries⟩ := followed_leave hin
  have hother : Candidate.leave m.active ∉ entries := by
    intro hm
    obtain ⟨branch, -, he⟩ := hentries _ hm
    simp at he
  rcases classify_round m.states symbol m.tracker m.active with
    ⟨before, c, rest, hsplit, hp, hc, he⟩ | ⟨hp, he⟩
  · rw [he]
    rw [hlist] at hsplit
    cases before with
    | nil =>
      obtain ⟨rfl, -⟩ := List.cons.inj hsplit
      exact Or.inl ⟨rfl, hc⟩
    | cons d before =>
      obtain ⟨-, hrest⟩ := List.cons.inj hsplit
      obtain ⟨branch, hb, rfl⟩ := hentries c (by rw [hrest]; simp)
      exact Or.inr (Or.inl ⟨branch, hb, rfl⟩)
  · rw [he]
    rw [hlist] at hp ⊢
    obtain ⟨hincomplete, hp⟩ := hp
    have hlive := hl.resolve_left hincomplete
    have hlives : liveIn m.states symbol m.tracker (.leave m.active :: entries) =
        .leave m.active :: liveIn m.states symbol
          ((Candidate.leave m.active).stepped m.states symbol m.tracker) entries := by
      rw [liveIn, if_pos hlive]
    refine Or.inr (Or.inr ⟨?_, hincomplete, ?_, ?_⟩)
    · rw [settled_verdict, hlives, if_neg (by simp)]
    · rw [settled_progress]
      exact (round_unmoved m.states symbol _ hother).trans
        (stepped_progress m.states symbol h.sized (h.connected hs).active_lt)
    · rw [hlives]
      cases liveIn m.states symbol ((Candidate.leave m.active).stepped m.states symbol m.tracker)
          entries with
      | nil => exact List.mem_singleton_self _
      | cons d others =>
        have hphase := round_phase m.states symbol m.tracker (.leave m.active :: entries)
        rw [settled, hphase]
        exact hin

def Waits (m : Machine Memory) (text : List Char) : Prop :=
  ∀ outcome ∈ m.outcomes text, Answered outcome .wait m.chain []

theorem waits_nil (m : Machine Memory) : Waits m [] := List.forall_mem_nil _

def StaysComplete (m : Machine Memory) (text : List Char) : Prop :=
  ∀ first later, text = first ++ later →
    (Candidate.leave m.active).progress (m.feed first).tracker = (m.stateAt m.active).leave.length

theorem staysComplete_nil
    (h : (Candidate.leave m.active).progress m.tracker = (m.stateAt m.active).leave.length) :
    StaysComplete m [] := by
  intro first later hsplit
  obtain ⟨rfl, -⟩ := List.append_eq_nil_iff.mp hsplit.symm
  exact h

/-- Some symbols of a text that spells the leave pattern have been waited on, since it was complete
and the callback for it failed. -/
structure Retrying (m : Machine Memory) (seen : List Char) : Prop where
  started : m.started = true
  sound : Sound m
  followed : Candidate.leave m.active ∈ Candidate.followed m.states m.active m.tracker.phase
  ahead : seen.length ≤ (Candidate.leave m.active).progress m.tracker
  full : (Candidate.leave m.active).progress m.tracker = (m.stateAt m.active).leave.length ↔
    ∀ symbol ∈ seen, (m.stateAt m.active).leave.MatchesLast symbol

section Retry

variable {seen : List Char} {symbol : Char} (h : Retrying m seen)
  (hi : (m.stateAt m.active).ignore.skips symbol = false)
  (hm : (m.stateAt m.active).leave.matchesAt seen.length symbol = true)
include h hi hm

theorem Retrying.waited {tracker : Tracker}
    (hc : m.tracker.classify m.states symbol m.active = (.undecided, tracker))
    (hincomplete : ((Candidate.leave m.active).moved m.states symbol m.tracker).1 ≠ .complete)
    (hp : (Candidate.leave m.active).progress tracker =
      ((Candidate.leave m.active).moved m.states symbol m.tracker).2)
    (hf : Candidate.leave m.active ∈ Candidate.followed m.states m.active tracker.phase) :
    Retrying (m.parse symbol).machine (seen ++ [symbol]) := by
  have hsound := parse_sound symbol h.sound
  have hstarted := (parse_setup m symbol).2.2.trans h.started
  have hle := h.sound.counter_le h.started (.leave m.active)
  rw [parse_classified m symbol h.started hi _ _ hc] at hsound hstarted ⊢
  refine ⟨hstarted, hsound, hf, ?_, ?_⟩
  · change _ ≤ (Candidate.leave m.active).progress tracker
    rw [hp, List.length_append, List.length_singleton]
    exact (Pattern.step_past hm h.ahead).2
  · change (Candidate.leave m.active).progress tracker = (m.stateAt m.active).leave.length ↔
      ∀ other ∈ seen ++ [symbol], (m.stateAt m.active).leave.MatchesLast other
    have hne : (m.stateAt m.active).leave ≠ [] := by
      intro hempty
      rw [hempty, Pattern.matchesAt_nil] at hm
      exact absurd hm (by simp)
    rw [hp, List.forall_mem_append, ← h.full, List.forall_mem_singleton]
    constructor
    · intro hfull
      constructor
      · by_contra hopen
        have hstill := Pattern.step_open (Nat.lt_of_le_of_ne hle hopen) hincomplete
        exact Nat.ne_of_lt hstill hfull
      · rcases Pattern.step_held hne hle hincomplete with hlt | ⟨-, hlast⟩
        · exact absurd hfull (Nat.ne_of_lt hlt)
        · exact hlast
    · rintro ⟨hfull, hlast⟩
      exact Pattern.step_full hfull hlast

theorem Retrying.parse
    (hg : ∀ text, (answer (m.stateAt m.active).onLeave m.memory text).1 = .ok ()) :
    (Answered (m.parse symbol) .wait m.chain [] ∧ (m.parse symbol).machine.memory = m.memory ∧
      Retrying (m.parse symbol).machine (seen ++ [symbol])) ∨
    ((∃ earlier ∈ seen, ¬ (m.stateAt m.active).leave.MatchesLast earlier) ∧
      Answered (m.parse symbol) .back (pop m.chain) (called (m.stateAt m.active).onLeave
        (.leaving m.active (m.buffer ++ [symbol]) (.ok ())))) ∨
    ∃ branch ∈ (m.stateAt m.active).branches,
      (m.tracker.classify m.states symbol m.active).1 = .enter branch := by
  rcases h.sound.classified_leave h.started h.followed (Pattern.step_past hm h.ahead).1 with
    ⟨hv, hc⟩ | hentered | ⟨hv, hincomplete, hp, hf⟩
  · refine Or.inr (Or.inl ⟨?_, ?_⟩)
    · have hopen : (Candidate.leave m.active).progress m.tracker <
          (m.stateAt m.active).leave.length := by
        have hlength := (Pattern.step_complete hc).1
        change (m.stateAt m.active).leave.length = _ at hlength
        omega
      by_contra hall
      push Not at hall
      exact Nat.ne_of_lt hopen (h.full.mpr hall)
    · exact parse_granted (c := .leave m.active) h.started hi hv (fun _ => rfl) (hg _)
  · exact Or.inr (Or.inr hentered)
  · rcases hc : m.tracker.classify m.states symbol m.active with ⟨verdict, tracker⟩
    rw [hc] at hv hp hf
    obtain rfl : verdict = .undecided := hv
    refine Or.inl ⟨?_, ?_, h.waited hi hm hc hincomplete hp hf⟩
    · rw [parse_classified m symbol h.started hi _ _ hc]
      exact ⟨rfl, rfl, rfl, rfl⟩
    · rw [parse_classified m symbol h.started hi _ _ hc]
      rfl

end Retry

/-- The first symbol of a text that is not waited on leads out of the active state: into a branch,
or back if the symbols before it are of a certain kind. -/
inductive Departs (m : Machine Memory) (text : List Char) (kind : List Char → Prop) : Prop
  | left (first later : List Char) (symbol : Char) (split : text = first ++ symbol :: later)
      (waits : Waits m first) (earlier : kind first)
      (back : Answered ((m.feed first).parse symbol) .back (pop m.chain)
        (called (m.stateAt m.active).onLeave
          (.leaving m.active ((m.feed first).buffer ++ [symbol]) (.ok ()))))
  | entered (first later : List Char) (symbol : Char) (split : text = first ++ symbol :: later)
      (waits : Waits m first) (branch : StateId)
      (listed : branch ∈ (m.stateAt m.active).branches)
      (verdict : ((m.feed first).tracker.classify m.states symbol m.active).1 = .enter branch)

section Later

variable {symbol : Char} (ha : Answered (m.parse symbol) .wait m.chain [])
include ha

theorem Answered.active_kept : (m.parse symbol).machine.active = m.active := by
  rw [active, ha.chain, active]

theorem Answered.state_kept :
    (m.parse symbol).machine.stateAt (m.parse symbol).machine.active = m.stateAt m.active := by
  rw [ha.active_kept, stateAt, (parse_setup m symbol).1, stateAt]

theorem Waits.cons {text : List Char} (h : Waits (m.parse symbol).machine text) :
    Waits m (symbol :: text) := by
  rw [Waits, ha.chain] at h
  exact List.forall_mem_cons.mpr ⟨ha, h⟩

theorem StaysComplete.cons {text : List Char}
    (hfull : (Candidate.leave m.active).progress m.tracker = (m.stateAt m.active).leave.length)
    (h : StaysComplete (m.parse symbol).machine text) : StaysComplete m (symbol :: text) := by
  intro first later hsplit
  cases first with
  | nil => exact hfull
  | cons next first =>
    obtain ⟨rfl, hrest⟩ := List.cons.inj hsplit
    have hafter := h first later hrest
    rwa [ha.state_kept, ha.active_kept] at hafter

theorem Departs.cons {text : List Char} {kind other : List Char → Prop}
    (hk : ∀ first, kind first → other (symbol :: first))
    (h : Departs (m.parse symbol).machine text kind) : Departs m (symbol :: text) other := by
  cases h with
  | left first later next split waits earlier back =>
    rw [ha.chain, ha.state_kept, ha.active_kept] at back
    exact Departs.left (symbol :: first) later next (by rw [split]; rfl) (Waits.cons ha waits)
      (hk first earlier) back
  | entered first later next split waits branch listed verdict =>
    rw [ha.state_kept] at listed
    rw [(parse_setup m symbol).1, ha.active_kept] at verdict
    exact Departs.entered (symbol :: first) later next (by rw [split]; rfl) (Waits.cons ha waits)
      branch listed verdict

end Later

/-- The state is left within a text that spells its leave pattern, unless a branch is entered, or
all symbols match the last element of the pattern. -/
theorem Retrying.run {seen : List Char} (h : Retrying m seen)
    (hg : ∀ text, (answer (m.stateAt m.active).onLeave m.memory text).1 = .ok ())
    (text : List Char)
    (hi : ∀ symbol ∈ text, (m.stateAt m.active).ignore.skips symbol = false)
    (hs : (m.stateAt m.active).leave.Spells (seen ++ text)) :
    (Waits m text ∧ StaysComplete m text ∧
        ∀ symbol ∈ seen ++ text, (m.stateAt m.active).leave.MatchesLast symbol) ∨
      Departs m text fun first =>
        ∃ earlier ∈ seen ++ first, ¬ (m.stateAt m.active).leave.MatchesLast earlier := by
  induction text generalizing m seen with
  | nil =>
    rw [List.append_nil] at hs ⊢
    have hlength := hs.length_eq
    have hle := h.sound.counter_le h.started (.leave m.active)
    have hfull : (Candidate.leave m.active).progress m.tracker =
        (m.stateAt m.active).leave.length := by
      refine Nat.le_antisymm hle ?_
      rw [hlength]
      exact h.ahead
    exact Or.inl ⟨waits_nil m, staysComplete_nil hfull, h.full.mp hfull⟩
  | cons symbol text ih =>
    obtain ⟨hnow, hlater⟩ := List.forall_mem_cons.mp hi
    rcases h.parse hnow hs.matchesAt hg with ⟨ha, hmemory, hnext⟩ | ⟨hearlier, hback⟩ | hentered
    · have hrest := ih hnext
      rw [ha.state_kept, hmemory, List.append_assoc] at hrest
      rcases hrest hg hlater hs with ⟨hwaits, hstays, hlast⟩ | hdeparts
      · have hfull := h.full.mpr (List.forall_mem_append.mp hlast).1
        exact Or.inl ⟨Waits.cons ha hwaits, StaysComplete.cons ha hfull hstays, hlast⟩
      · refine Or.inr (Departs.cons ha (fun first hfirst => ?_) hdeparts)
        rwa [List.append_assoc] at hfirst
    · refine Or.inr (Departs.left [] text symbol rfl (waits_nil m) ?_ hback)
      rwa [List.append_nil]
    · obtain ⟨branch, hb, hv⟩ := hentered
      exact Or.inr (Departs.entered [] text symbol rfl (waits_nil m) branch hb hv)

theorem move_leaveFailed {symbol : Char} {outcome : Outcome Memory} (hm : Move m symbol outcome)
    {id : StateId} {buffer : List Char} {failure : Failure}
    (he : .leaving id buffer (.error failure) ∈ outcome.journal) :
    (m.tracker.classify m.states symbol m.active).1 = .pop ∧
      outcome.machine.tracker = (m.tracker.classify m.states symbol m.active).2 ∧
      outcome.machine.chain = m.chain := by
  cases hm with
  | ignored hi => simp at he
  | waited tracker hi hc => simp at he
  | entered target tracker memory hi hc ha =>
    unfold called at he
    split at he <;> simp at he
  | enterFailed target tracker memory failure hi hc ha => simp at he
  | left tracker memory hi hc ha =>
    unfold called at he
    split at he <;> simp at he
  | leaveFailed tracker memory failure hi hc ha =>
    rw [hc]
    exact ⟨rfl, rfl, rfl⟩
  | missed tracker events middle outcome hi hc hp hend hstop hr =>
    rw [Outcome.after_journal, hr] at he
    rcases List.mem_append.mp he with he | he
    · simp at he
    · have hreplay := replay_events m.active (m.buffer ++ [symbol])
        { m with buffer := [], tracker, status := .miss } _ he
      simp at hreplay

theorem Sound.popped (h : Sound m) (hs : m.started = true) {symbol : Char}
    (hv : (m.tracker.classify m.states symbol m.active).1 = .pop) :
    (Candidate.leave m.active).progress (m.tracker.classify m.states symbol m.active).2 =
      (m.stateAt m.active).leave.length := by
  rcases classify_round m.states symbol m.tracker m.active with
    ⟨before, c, rest, hl, hp, hc, he⟩ | ⟨hp, he⟩
  · rw [he] at hv ⊢
    have hin : c ∈ followed m.states m.active m.tracker.phase := by simp [hl]
    obtain rfl := eq_leave_of_verdict m.states hin hv
    have hsized := round_sized m.states symbol h.sized before
    have hmoved := stepped_progress m.states symbol hsized (c := .leave m.active)
      (h.connected hs).active_lt
    exact hmoved.trans (Pattern.step_filled hc)
  · rw [he, settled_verdict] at hv
    split at hv <;> simp at hv

theorem Sound.retrying (h : Sound m) (hs : m.started = true) {symbol : Char} {id : StateId}
    {buffer : List Char} {failure : Failure}
    (he : .leaving id buffer (.error failure) ∈ (m.parse symbol).journal) :
    Retrying (m.parse symbol).machine [] := by
  obtain ⟨hv, htracker, hchain⟩ := move_leaveFailed (parse_move m symbol hs) he
  obtain ⟨hstates, -, hstarted⟩ := parse_setup m symbol
  have hactive : (m.parse symbol).machine.active = m.active := by rw [active, hchain, active]
  have hphase : (m.parse symbol).machine.tracker.phase = .undetermined := by
    rw [htracker]
    exact Tracker.classify_released m.states symbol m.tracker m.active (by rw [hv]; simp)
  have hfull : (Candidate.leave (m.parse symbol).machine.active).progress
      (m.parse symbol).machine.tracker =
        ((m.parse symbol).machine.stateAt (m.parse symbol).machine.active).leave.length := by
    rw [htracker, hactive, stateAt, hstates]
    exact h.popped hs hv
  refine ⟨hstarted.trans hs, parse_sound symbol h, ?_, Nat.zero_le _, ?_⟩
  · rw [hphase]
    exact List.mem_cons_self
  · exact iff_of_true hfull (List.forall_mem_nil _)

structure Completing (m : Machine Memory) (symbol : Char) : Prop where
  /-- What is waited for is not complete, unless it was and the symbol is its last again. -/
  held : (m.tracker.classify m.states symbol m.active).1 = .undecided →
    ∀ c ∈ followed m.states m.active m.tracker.phase, c.pattern m.states ≠ [] →
      c.progress (m.tracker.classify m.states symbol m.active).2 < (c.pattern m.states).length ∨
      c.progress m.tracker = (c.pattern m.states).length ∧
        c.progress (m.tracker.classify m.states symbol m.active).2 = (c.pattern m.states).length ∧
        (c.pattern m.states).MatchesLast symbol
  /-- What becomes complete is decided for. -/
  reported : ∀ c : Candidate, c.progress m.tracker < (c.pattern m.states).length →
    c.progress (m.tracker.classify m.states symbol m.active).2 = (c.pattern m.states).length →
      c ∈ followed m.states m.active m.tracker.phase ∧
        (m.tracker.classify m.states symbol m.active).1 = c.verdict
  /-- A callback that fails leaves the counters as classification has left them, or cleared if a
  handler has set a state before it. -/
  kept : (m.parse symbol).result = .ok false →
    (m.parse symbol).machine.tracker =
      if (m.parse symbol).journal.pushed = [] then
        (m.tracker.classify m.states symbol m.active).2
      else (m.tracker.classify m.states symbol m.active).2.reset
  /-- A state whose leave callback has failed can be left if the callback does not fail again. -/
  retried : ∀ id buffer failure,
    .leaving id buffer (.error failure) ∈ (m.parse symbol).journal →
    ∀ failed, failed = (m.parse symbol).machine →
    (∀ text, (answer (failed.stateAt failed.active).onLeave failed.memory text).1 = .ok ()) →
    ∀ text, (failed.stateAt failed.active).leave.Spells text →
      (∀ other ∈ text, (failed.stateAt failed.active).ignore.skips other = false) →
      (Waits failed text ∧ StaysComplete failed text ∧
          ∀ other ∈ text, (failed.stateAt failed.active).leave.MatchesLast other) ∨
        Departs failed text fun first =>
          ∃ earlier ∈ first, ¬ (failed.stateAt failed.active).leave.MatchesLast earlier

theorem Sound.completing (h : Sound m) (hs : m.started = true) (symbol : Char) :
    Completing m symbol where
  held := by
    intro hv c hc hne
    rcases h.held hs hv hc hne with hopen | ⟨hfull, hlast⟩
    · exact Or.inl hopen
    · refine Or.inr ⟨?_, hfull, hlast⟩
      by_contra hopen
      have hlt := Nat.lt_of_le_of_ne (h.counter_le hs c) hopen
      have hverdict := (h.reported hs symbol c hlt hfull).2
      rw [hv] at hverdict
      cases c <;> simp [verdict] at hverdict
  reported := h.reported hs symbol
  kept := move_failed (parse_move m symbol hs)
  retried := by
    rintro id buffer failure he failed rfl hg text hspells hi
    exact (h.retrying hs he).run hg text hi hspells

/-- Whatever happens in a session, only a failure leaves a complete pattern to be waited for, and
only while its last element matches. -/
theorem complete_patterns_decide {before started : Machine Memory} (hreach : Reachable before)
    (hok : before.prestart = .ok started) (text : List Char) (symbol : Char) :
    Completing (started.feed text) symbol ∧
    ((∀ outcome ∈ started.outcomes text, ∀ event ∈ outcome.journal, event.failure? = none) →
      ((started.feed text).tracker.classify (started.feed text).states symbol
        (started.feed text).active).1 = .undecided →
      ∀ c : Candidate, c.pattern (started.feed text).states ≠ [] →
        c.progress ((started.feed text).tracker.classify (started.feed text).states symbol
            (started.feed text).active).2 <
          (c.pattern (started.feed text).states).length) := by
  obtain ⟨rfl, hc⟩ := prestart_ok hok
  have hsound := fresh_sound hreach.sound hc
  have hfed : Sound (before.fresh.feed text) :=
    feed_keeps (fun m symbol => parse_sound symbol) _ text hsound
  have hstarted : (before.fresh.feed text).started = true := (feed_setup before.fresh text).2.2
  refine ⟨hfed.completing hstarted symbol, ?_⟩
  intro hn hv c hne
  have hfresh : Pending before.fresh := fun c => Or.inl (progress_reset before.tracker c)
  have hpending := feed_pending text hsound rfl hfresh hn
  have hpos : 0 < (c.pattern (before.fresh.feed text).states).length := List.length_pos_iff.mpr hne
  have hundecided : ((before.fresh.feed text).tracker.classify (before.fresh.feed text).states
      symbol (before.fresh.feed text).active).1 ≠ c.verdict := by
    rw [hv]
    cases c <;> simp [verdict]
  rcases hfed.unfinished hstarted symbol (hpending c) hundecided with hzero | hopen <;> omega

def tag (leave : Pattern) : Machine Nat :=
  (withOptions {} 0).calls
    [.addState { name := "text", branches := [1] },
      .addState {
        name := "tag", entry := [.literal '<'], leave
        onLeave := some fun memory _ =>
          (if memory = 0 then .error ⟨"unterminated"⟩ else .ok (), memory + 1) }]

/-- The first letter of the leave pattern is not the last, so that the tag is left on it again. -/
theorem tag_left : Reachable (tag (Pattern.ofText "/>")) ∧
    ((tag (Pattern.ofText "/>")).fresh.feed ['<', '/', '>']).status = .error ∧
    Departs ((tag (Pattern.ofText "/>")).fresh.feed ['<', '/', '>']) ['/', '>'] fun first =>
      ∃ earlier ∈ first, ¬ (Pattern.ofText "/>").MatchesLast earlier := by
  have hr : Reachable (tag (Pattern.ofText "/>")) := ⟨_, 0, _, rfl⟩
  have hall := (complete_patterns_decide hr rfl ['<', '/'] '>').1.retried 1 ['/', '>']
    ⟨"unterminated"⟩ (List.Mem.tail _ (List.Mem.head _)) _ rfl (fun _ => rfl) ['/', '>']
    (by decide) (List.forall_mem_cons.mpr ⟨rfl, List.forall_mem_singleton.mpr rfl⟩)
  refine ⟨hr, rfl, hall.resolve_left ?_⟩
  rintro ⟨-, -, hlast⟩
  exact absurd (hlast '/' (by simp)) (by decide)

/-- A tag that is closed by a single letter is never left again. -/
theorem tag_stuck : Reachable (tag (Pattern.ofText ">")) ∧
    (tag (Pattern.ofText ">")).prestart = .ok (tag (Pattern.ofText ">")).fresh ∧
    ∃ m, m = (tag (Pattern.ofText ">")).fresh.feed ['<', '>'] ∧
      Candidate.leave 1 ∈ followed m.states m.active m.tracker.phase ∧
      (Candidate.leave 1).pattern m.states = [.literal '>'] ∧
      (m.tracker.classify m.states '>' m.active).1 = .undecided ∧
      ¬ (Candidate.leave 1).progress (m.tracker.classify m.states '>' m.active).2 <
        ((Candidate.leave 1).pattern m.states).length ∧
      (∀ text, (answer (m.stateAt 1).onLeave m.memory text).1 = .ok ()) ∧
      (m.parse '>').machine.status = .wait ∧ (m.parse '>').machine.chain = [0, 1] :=
  ⟨⟨_, 0, _, rfl⟩, rfl, _, rfl, List.mem_cons_self, rfl, rfl, by decide, fun _ => rfl, rfl, rfl⟩

end Machine
end StateNest
