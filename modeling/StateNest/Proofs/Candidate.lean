import StateNest.Proofs.Classification
import StateNest.Proofs.Progress

/-!
# The patterns that a symbol may complete

A session follows the leave of the active state and the entries of its branches,
or a single one of them. If no branch is listed twice, a symbol moves each
followed pattern once, in this order, until one is complete. If none is, it goes
on while one is live, and a pattern that alone is live may become the only one
that is followed.
-/

set_option autoImplicit false

namespace StateNest

inductive Candidate where
  | leave (id : StateId)
  | entry (id : StateId)
  deriving DecidableEq

namespace Candidate

open Tracker

variable {Memory : Type} (states : List (State Memory)) (symbol : Char)

def state : Candidate → StateId
  | .leave id | .entry id => id

def pattern : Candidate → Pattern
  | .leave id => (stateAt states id).leave
  | .entry id => (stateAt states id).entry

def progress (t : Tracker) : Candidate → Nat
  | .leave id => t.leave.getD id 0
  | .entry id => t.entry.getD id 0

def verdict : Candidate → Verdict
  | .leave _ => .pop
  | .entry id => .enter id

/-- The phase in which nothing else is followed. -/
def lock : Candidate → Phase
  | .leave _ => .leaving
  | .entry id => .entering id

def moved (t : Tracker) (c : Candidate) : Step × Nat :=
  (c.pattern states).step (c.progress t) symbol

/-- The patterns that are followed, in the order in which a symbol is tried on them. -/
def followed (active : StateId) : Phase → List Candidate
  | .undetermined => .leave active :: (stateAt states active).branches.map .entry
  | .entering target => [.entry target]
  | .leaving => [.leave active]

theorem eq_entry_of_verdict {c : Candidate} {target : StateId} (h : c.verdict = .enter target) :
    c = .entry target := by
  cases c <;> simp_all [verdict]

theorem eq_leave_of_verdict {active : StateId} {phase : Phase} {c : Candidate}
    (hc : c ∈ followed states active phase) (h : c.verdict = .pop) : c = .leave active := by
  cases c with
  | entry id => simp [verdict] at h
  | leave id => cases phase <;> simp_all [followed]

variable {states} in
theorem followed_lock {active : StateId} {c : Candidate}
    (hc : c ∈ followed states active .undetermined) : followed states active c.lock = [c] := by
  rcases List.mem_cons.mp hc with rfl | hb
  · rfl
  · obtain ⟨branch, -, rfl⟩ := List.mem_map.mp hb
    rfl

theorem progress_reset (t : Tracker) (c : Candidate) : c.progress t.reset = 0 := by
  cases c with
  | leave id => exact getD_map_zero t.leave id
  | entry id => exact getD_map_zero t.entry id

theorem moved_congr {t u : Tracker} {c : Candidate} (h : c.progress u = c.progress t) :
    c.moved states symbol u = c.moved states symbol t := by
  rw [moved, h, moved]

variable {states symbol} in
theorem moved_empty {t : Tracker} {c : Candidate} (h : c.pattern states = []) :
    c.moved states symbol t = (.lost, 0) := by
  simp [moved, h, Pattern.step, Pattern.matchesAt_nil, Pattern.checkback, Pattern.lastMatch]

theorem stepEntry_unmoved (t : Tracker) (id : StateId) {c : Candidate} (h : c ≠ .entry id) :
    c.progress (stepEntry states symbol t id).2 = c.progress t := by
  cases c with
  | leave other => rfl
  | entry other => exact stepEntry_frame states symbol t id other (by simpa using h)

theorem stepLeave_unmoved (t : Tracker) (id : StateId) {c : Candidate} (h : c ≠ .leave id) :
    c.progress (stepLeave states symbol t id).2 = c.progress t := by
  cases c with
  | entry other => rfl
  | leave other => exact stepLeave_frame states symbol t id other (by simpa using h)

theorem stepEntry_progress {t : Tracker} {id : StateId} (hid : id < t.entry.length)
    (c : Candidate) :
    c.progress (stepEntry states symbol t id).2 =
      if c = .entry id then (c.moved states symbol t).2 else c.progress t := by
  split
  · next h =>
    subst h
    change (t.entry.set id ((entry id).moved states symbol t).2).getD id 0 = _
    rw [getD_set, if_pos ⟨rfl, hid⟩]
  · next h => exact stepEntry_unmoved states symbol t id h

theorem stepLeave_progress {t : Tracker} {id : StateId} (hid : id < t.leave.length)
    (c : Candidate) :
    c.progress (stepLeave states symbol t id).2 =
      if c = .leave id then (c.moved states symbol t).2 else c.progress t := by
  split
  · next h =>
    subst h
    change (t.leave.set id ((leave id).moved states symbol t).2).getD id 0 = _
    rw [getD_set, if_pos ⟨rfl, hid⟩]
  · next h => exact stepLeave_unmoved states symbol t id h

structure MovedOnce (t : Tracker) (list : List Candidate) (after : Tracker) : Prop where
  incomplete : ∀ c ∈ list, (c.moved states symbol t).1 ≠ .complete
  progress : ∀ c : Candidate, c.progress after =
    if c ∈ list then (c.moved states symbol t).2 else c.progress t

variable {states symbol} in
theorem MovedOnce.withPhase {t after : Tracker} {list : List Candidate} (phase : Phase)
    (h : MovedOnce states symbol t list after) :
    MovedOnce states symbol t list { after with phase } where
  incomplete := h.incomplete
  progress := h.progress

def FirstComplete (t : Tracker) (list : List Candidate) (c : Candidate) : Prop :=
  ∃ before rest, list = before ++ c :: rest ∧ (c.moved states symbol t).1 = .complete ∧
    ∀ d ∈ before, (d.moved states symbol t).1 ≠ .complete

variable {states symbol} in
theorem FirstComplete.eq_leave {t : Tracker} {active : StateId} {phase : Phase} {c : Candidate}
    (h : FirstComplete states symbol t (followed states active phase) c)
    (hin : leave active ∈ followed states active phase)
    (hl : ((leave active).moved states symbol t).1 = .complete) : c = .leave active := by
  obtain ⟨before, rest, hlist, -, hbefore⟩ := h
  have hhead : (followed states active phase).head? = some (.leave active) := by
    cases phase with
    | undetermined => rfl
    | entering target => simp [followed] at hin
    | leaving => rfl
  rw [hlist] at hhead
  cases before with
  | nil => exact Option.some.inj hhead
  | cons d before =>
    obtain rfl : d = .leave active := Option.some.inj hhead
    exact absurd hl (hbefore _ List.mem_cons_self)

section Cons

variable {states symbol} {t stepped : Tracker} {c : Candidate} {list : List Candidate}
  (hc : (c.moved states symbol t).1 ≠ .complete) (hn : c ∉ list)
  (hf : ∀ d : Candidate, d ≠ c → d.progress stepped = d.progress t)
include hn hf

/-- What is not listed moves nothing that is. -/
theorem moved_stepped {d : Candidate} (hd : d ∈ list) :
    d.moved states symbol stepped = d.moved states symbol t := by
  apply moved_congr
  apply hf d
  rintro rfl
  exact hn hd

include hc

theorem MovedOnce.cons {after : Tracker} (hm : c.progress stepped = (c.moved states symbol t).2)
    (h : MovedOnce states symbol stepped list after) :
    MovedOnce states symbol t (c :: list) after := by
  constructor
  · intro d hd
    rcases List.mem_cons.mp hd with rfl | hd
    · exact hc
    · rw [← moved_stepped hn hf hd]
      exact h.incomplete d hd
  · intro d
    rw [h.progress d]
    by_cases hd : d ∈ list
    · simp [hd, moved_stepped hn hf hd]
    · by_cases hdc : d = c
      · subst hdc
        simp [hd, hm]
      · simp [hd, hdc, hf d hdc]

theorem FirstComplete.cons {d : Candidate} (h : FirstComplete states symbol stepped list d) :
    FirstComplete states symbol t (c :: list) d := by
  obtain ⟨before, rest, rfl, hd, hbefore⟩ := h
  have hin : ∀ e ∈ before, e ∈ before ++ d :: rest := fun e he => List.mem_append_left _ he
  refine ⟨c :: before, rest, rfl, ?_, ?_⟩
  · rwa [← moved_stepped hn hf (by simp)]
  · intro e he
    rcases List.mem_cons.mp he with rfl | he
    · exact hc
    · rw [← moved_stepped hn hf (hin e he)]
      exact hbefore e he

end Cons

theorem stepBranches_next {t stepped : Tracker} {outcome : Step} {branch : StateId}
    (hs : stepEntry states symbol t branch = (outcome, stepped)) (hc : outcome ≠ .complete)
    (branches : List StateId) (live : Nat) (candidate : Option StateId) :
    stepBranches states symbol (branch :: branches) t live candidate =
      stepBranches states symbol branches stepped (if outcome.isLive then live + 1 else live)
        (if outcome.isLive then some branch else candidate) := by
  rw [stepBranches, hs]
  cases outcome with
  | complete => exact absurd rfl hc
  | _ => rfl

theorem undetermined_next {t stepped : Tracker} {outcome : Step} {active : StateId}
    (hs : stepLeave states symbol t active = (outcome, stepped)) (hc : outcome ≠ .complete) :
    undetermined states symbol t active =
      stepBranches states symbol (stateAt states active).branches stepped
        (if outcome.isLive then 1 else 0) none := by
  rw [undetermined, hs]
  cases outcome with
  | complete => exact absurd rfl hc
  | _ => rfl

def liveBranches (t : Tracker) (branches : List StateId) : List StateId :=
  branches.filter fun branch => ((entry branch).moved states symbol t).1.isLive

theorem mem_liveBranches {t : Tracker} {branch : StateId} {branches : List StateId} :
    branch ∈ liveBranches states symbol t branches ↔
      branch ∈ branches ∧ ((entry branch).moved states symbol t).1.isLive = true :=
  List.mem_filter

variable {states symbol} in
theorem liveBranches_stepped {t stepped : Tracker} {c : Candidate} {branches : List StateId}
    (hn : c ∉ branches.map .entry)
    (hf : ∀ d : Candidate, d ≠ c → d.progress stepped = d.progress t) :
    liveBranches states symbol stepped branches = liveBranches states symbol t branches := by
  apply List.filter_congr
  intro branch hb
  rw [moved_stepped hn hf (List.mem_map_of_mem hb)]

theorem liveBranches_cons (t : Tracker) (branch : StateId) (branches : List StateId) :
    liveBranches states symbol t (branch :: branches) =
      if ((entry branch).moved states symbol t).1.isLive
      then branch :: liveBranches states symbol t branches
      else liveBranches states symbol t branches :=
  List.filter_cons

def stepEntries (t : Tracker) (branches : List StateId) : Tracker :=
  branches.foldl (fun t branch => (stepEntry states symbol t branch).2) t

theorem stepEntries_phase (t : Tracker) (branches : List StateId) :
    (stepEntries states symbol t branches).phase = t.phase := by
  induction branches generalizing t with
  | nil => rfl
  | cons branch branches ih => exact ih _

theorem stepEntries_once (branches : List StateId) (t : Tracker) (hn : branches.Nodup)
    (hr : ∀ branch ∈ branches, branch < t.entry.length)
    (hc : ∀ branch ∈ branches, ((entry branch).moved states symbol t).1 ≠ .complete) :
    MovedOnce states symbol t (branches.map .entry) (stepEntries states symbol t branches) := by
  induction branches generalizing t with
  | nil => exact ⟨by simp, by simp [stepEntries]⟩
  | cons branch branches ih =>
    obtain ⟨hnot, hrest⟩ := List.nodup_cons.mp hn
    have hlisted : Candidate.entry branch ∉ branches.map .entry := by simpa using hnot
    have hunmoved (d : Candidate) := stepEntry_unmoved states symbol t branch (c := d)
    have hprogress := stepEntry_progress states symbol (hr branch List.mem_cons_self)
    apply MovedOnce.cons (hc branch List.mem_cons_self) hlisted hunmoved
    · rw [hprogress, if_pos rfl]
    · apply ih _ hrest
      · intro other ho
        rw [stepEntry, List.length_set]
        exact hr other (List.mem_cons_of_mem _ ho)
      · intro other ho
        rw [moved_stepped hlisted hunmoved (List.mem_map_of_mem ho)]
        exact hc other (List.mem_cons_of_mem _ ho)

/-- The first branch that is complete is entered; if there is none all have been moved. -/
theorem stepBranches_once (branches : List StateId) (t : Tracker) (live : Nat)
    (candidate : Option StateId) (hn : branches.Nodup) :
    (∃ branch after, FirstComplete states symbol t (branches.map .entry) (.entry branch) ∧
      after.phase = t.phase ∧
      stepBranches states symbol branches t live candidate = (.enter branch, after)) ∨
    (∀ branch ∈ branches, ((entry branch).moved states symbol t).1 ≠ .complete) ∧
      stepBranches states symbol branches t live candidate =
        settle (stepEntries states symbol t branches)
          (live + (liveBranches states symbol t branches).length)
          ((liveBranches states symbol t branches).getLast?.or candidate) := by
  induction branches generalizing t live candidate with
  | nil => exact Or.inr ⟨by simp, by simp [stepBranches, liveBranches, stepEntries]⟩
  | cons branch branches ih =>
    obtain ⟨hnot, hrest⟩ := List.nodup_cons.mp hn
    have hlisted : Candidate.entry branch ∉ branches.map .entry := by simpa using hnot
    have hunmoved (d : Candidate) := stepEntry_unmoved states symbol t branch (c := d)
    have hphase := stepEntry_phase states symbol t branch
    have hnext : stepEntries states symbol t (branch :: branches) =
        stepEntries states symbol (stepEntry states symbol t branch).2 branches := rfl
    rcases hs : stepEntry states symbol t branch with ⟨outcome, stepped⟩
    rw [hs] at hunmoved hphase hnext
    have hout : ((entry branch).moved states symbol t).1 = outcome := congrArg Prod.fst hs
    by_cases hc : outcome = .complete
    · subst hc
      exact Or.inl ⟨branch, stepped, ⟨[], _, rfl, hout, by simp⟩, hphase,
        by rw [stepBranches, hs]⟩
    · -- No later branch is this one, so that its step changes nothing for them.
      have hincomplete : ((entry branch).moved states symbol t).1 ≠ .complete := by rwa [hout]
      rw [stepBranches_next states symbol hs hc]
      rcases ih stepped _ _ hrest with ⟨other, after, hfirst, hph, he⟩ | ⟨hall, he⟩
      · exact Or.inl ⟨other, after, hfirst.cons hincomplete hlisted hunmoved,
          hph.trans hphase, he⟩
      · refine Or.inr ⟨List.forall_mem_cons.mpr ⟨hincomplete, ?_⟩, ?_⟩
        · intro other ho
          rw [← moved_stepped hlisted hunmoved (List.mem_map_of_mem ho)]
          exact hall other ho
        · rw [he, liveBranches_stepped hlisted hunmoved, liveBranches_cons, hout, hnext]
          cases outcome.isLive with
          | false => rfl
          | true =>
            rw [if_pos rfl, if_pos rfl, if_pos rfl, List.length_cons, List.getLast?_cons]
            congr 1
            · omega
            · cases (liveBranches states symbol t branches).getLast? <;> rfl

/-- All that a symbol can do while no branch is listed twice: a pattern is complete; or all have
been moved and one is live, which may then be followed alone if no other is; or all are lost. -/
inductive Decided (t : Tracker) (active : StateId) : Verdict × Tracker → Prop
  | completed (c : Candidate) (after : Tracker)
      (first : FirstComplete states symbol t (followed states active t.phase) c)
      (free : after.phase = .undetermined) : Decided t active (c.verdict, after)
  | undecided (c : Candidate) (after : Tracker)
      (once : MovedOnce states symbol t (followed states active t.phase) after)
      (listed : c ∈ followed states active t.phase)
      (live : (c.moved states symbol t).1.isLive = true)
      (phase : after.phase = t.phase ∨ after.phase = c.lock ∧
        ∀ d ∈ followed states active t.phase, (d.moved states symbol t).1.isLive = true → d = c) :
      Decided t active (.undecided, after)
  | missed (after : Tracker)
      (once : MovedOnce states symbol t (followed states active t.phase) after)
      (lost : ∀ c ∈ followed states active t.phase, (c.moved states symbol t).1 = .lost)
      (free : after.phase = .undetermined) : Decided t active (.miss, after)

theorem lost_of_not_live {outcome : Step} (hc : outcome ≠ .complete) (hl : ¬ outcome.isLive) :
    outcome = .lost := by
  cases outcome <;> simp_all [Step.isLive]

theorem locked_decided {t stepped : Tracker} {active : StateId} {outcome : Step} (c : Candidate)
    (hf : followed states active t.phase = [c])
    (hout : (c.moved states symbol t).1 = outcome)
    (hp : ∀ d : Candidate, d.progress stepped =
      if d = c then (d.moved states symbol t).2 else d.progress t)
    (hph : stepped.phase = t.phase) :
    Decided states symbol t active (locked c.verdict (outcome, stepped)) := by
  have hlisted : c ∈ followed states active t.phase := by simp [hf]
  by_cases hc : outcome = .complete
  · subst hc
    apply Decided.completed c _ _ rfl
    rw [hf]
    exact ⟨[], [], rfl, hout, by simp⟩
  · have honce : MovedOnce states symbol t (followed states active t.phase) stepped := by
      rw [hf]
      constructor
      · simpa [hout] using hc
      · intro d
        rw [hp d]
        simp
    cases outcome with
    | complete => exact absurd rfl hc
    | lost => exact Decided.missed _ (honce.withPhase .undetermined) (by simpa [hf] using hout) rfl
    | advanced => exact Decided.undecided c stepped honce hlisted (by rw [hout]; rfl) (Or.inl hph)
    | backtracked =>
      exact Decided.undecided c stepped honce hlisted (by rw [hout]; rfl) (Or.inl hph)

/-- All patterns have been moved. The live ones are `ids` and, if it is live, the leave. -/
theorem settle_decided {t after : Tracker} {active : StateId} {outcome : Step}
    (hp : t.phase = .undetermined)
    (hout : ((leave active).moved states symbol t).1 = outcome)
    (honce : MovedOnce states symbol t (followed states active t.phase) after)
    (hph : after.phase = .undetermined) :
    Decided states symbol t active
      (settle after ((if outcome.isLive then 1 else 0) +
          (liveBranches states symbol t (stateAt states active).branches).length)
        (liveBranches states symbol t (stateAt states active).branches).getLast?) := by
  have hfollowed : followed states active t.phase =
      .leave active :: (stateAt states active).branches.map .entry := by rw [hp, followed]
  have hfirst : Candidate.leave active ∈ followed states active t.phase := by simp [hfollowed]
  have hentry {branch : StateId}
      (hb : branch ∈ liveBranches states symbol t (stateAt states active).branches) :
      Candidate.entry branch ∈ followed states active t.phase ∧
        ((entry branch).moved states symbol t).1.isLive = true := by
    obtain ⟨hin, hlive⟩ := (mem_liveBranches states symbol).mp hb
    exact ⟨by simp [hfollowed, hin], hlive⟩
  have hlive {d : Candidate} (hd : d ∈ followed states active t.phase)
      (hl : (d.moved states symbol t).1.isLive = true) :
      d = .leave active ∧ outcome.isLive = true ∨ ∃ branch, d = .entry branch ∧
        branch ∈ liveBranches states symbol t (stateAt states active).branches := by
    rw [hfollowed] at hd
    rcases List.mem_cons.mp hd with rfl | hd
    · exact Or.inl ⟨rfl, hout ▸ hl⟩
    · obtain ⟨branch, hb, rfl⟩ := List.mem_map.mp hd
      exact Or.inr ⟨branch, rfl, (mem_liveBranches states symbol).mpr ⟨hb, hl⟩⟩
  generalize liveBranches states symbol t (stateAt states active).branches = ids at hentry hlive ⊢
  match ids, hleft : outcome.isLive with
  | [], false =>
    apply Decided.missed after honce _ hph
    intro d hd
    apply lost_of_not_live (honce.incomplete d hd)
    intro hl
    simpa [hleft] using hlive hd hl
  | [], true =>
    have hdecided := Decided.undecided (.leave active) _ (honce.withPhase .leaving) hfirst
      (by rw [hout, hleft])
    refine hdecided (Or.inr ⟨rfl, fun d hd hl => ?_⟩)
    simpa [hleft] using hlive hd hl
  | [branch], false =>
    obtain ⟨hin, hl⟩ := hentry List.mem_cons_self
    have hdecided := Decided.undecided (.entry branch) _ (honce.withPhase (.entering branch)) hin hl
    refine hdecided (Or.inr ⟨rfl, fun d hd hl => ?_⟩)
    simpa [hleft] using hlive hd hl
  | [branch], true =>
    obtain ⟨hin, hl⟩ := hentry List.mem_cons_self
    exact Decided.undecided (.entry branch) after honce hin hl (Or.inl (hph.trans hp.symm))
  | branch :: other :: rest, left =>
    obtain ⟨hin, hl⟩ := hentry List.mem_cons_self
    have hs : settle after ((if left = true then 1 else 0) + (branch :: other :: rest).length)
        (branch :: other :: rest).getLast? = (.undecided, after) := by
      cases left <;> simp [settle, Nat.add_comm]
    rw [hs]
    exact Decided.undecided (.entry branch) after honce hin hl (Or.inl (hph.trans hp.symm))

theorem undetermined_decided {t : Tracker} {active : StateId} (hp : t.phase = .undetermined)
    (hl : active < t.leave.length)
    (hr : ∀ branch ∈ (stateAt states active).branches, branch < t.entry.length)
    (hn : (stateAt states active).branches.Nodup) :
    Decided states symbol t active (undetermined states symbol t active) := by
  have hfollowed : followed states active t.phase =
      .leave active :: (stateAt states active).branches.map .entry := by rw [hp, followed]
  have hnot : Candidate.leave active ∉ (stateAt states active).branches.map .entry := by simp
  have hunmoved (d : Candidate) := stepLeave_unmoved states symbol t active (c := d)
  have hmoved := (stepLeave_progress states symbol hl (.leave active)).trans (if_pos rfl)
  have hphase := stepLeave_phase states symbol t active
  have hentry := stepLeave_entry states symbol t active
  rcases hs : stepLeave states symbol t active with ⟨outcome, stepped⟩
  rw [hs] at hunmoved hmoved hphase hentry
  have hout : ((leave active).moved states symbol t).1 = outcome := congrArg Prod.fst hs
  by_cases hc : outcome = .complete
  · subst hc
    have hpop : undetermined states symbol t active = (.pop, stepped) := by rw [undetermined, hs]
    rw [hpop]
    apply Decided.completed (.leave active) stepped _ (hphase.trans hp)
    rw [hfollowed]
    exact ⟨[], _, rfl, hout, by simp⟩
  · have hincomplete : ((leave active).moved states symbol t).1 ≠ .complete := by rwa [hout]
    rw [undetermined_next states symbol hs hc]
    rcases stepBranches_once states symbol (stateAt states active).branches stepped
        (if outcome.isLive then 1 else 0) none hn with
      ⟨branch, after, hfirst, hph, he⟩ | ⟨hall, he⟩
    · rw [he]
      apply Decided.completed (.entry branch) after _ (hph.trans (hphase.trans hp))
      rw [hfollowed]
      exact hfirst.cons hincomplete hnot hunmoved
    · have honce := stepEntries_once states symbol (stateAt states active).branches stepped hn
        (by rwa [hentry]) hall
      have hph := stepEntries_phase states symbol stepped (stateAt states active).branches
      rw [he, liveBranches_stepped hnot hunmoved, Option.or_none]
      apply settle_decided states symbol hp hout _ (hph.trans (hphase.trans hp))
      rw [hfollowed]
      exact honce.cons hincomplete hnot hunmoved hmoved

theorem classify_decided {t : Tracker} {active : StateId} (hs : t.Sized states.length)
    (hr : ∀ c ∈ followed states active t.phase, c.state < states.length)
    (hn : (stateAt states active).branches.Nodup) :
    Decided states symbol t active (classify states symbol t active) := by
  unfold classify
  split
  · next hp =>
    rw [hp, followed] at hr
    apply undetermined_decided states symbol hp _ _ hn
    · rw [hs.2]
      exact hr (.leave active) List.mem_cons_self
    · intro branch hb
      rw [hs.1]
      exact hr (.entry branch) (List.mem_cons_of_mem _ (List.mem_map_of_mem hb))
  · next target hp =>
    rw [hp, followed] at hr
    have hid : target < t.entry.length := by
      rw [hs.1]
      exact hr (.entry target) List.mem_cons_self
    exact locked_decided states symbol (.entry target) (by rw [hp, followed]) rfl
      (stepEntry_progress states symbol hid) rfl
  · next hp =>
    rw [hp, followed] at hr
    have hid : active < t.leave.length := by
      rw [hs.2]
      exact hr (.leave active) List.mem_cons_self
    exact locked_decided states symbol (.leave active) (by rw [hp, followed]) rfl
      (stepLeave_progress states symbol hid) rfl

end Candidate

end StateNest
