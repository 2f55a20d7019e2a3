import Mathlib.Data.List.Forall2
import Mathlib.Data.List.Perm.Basic
import StateNest.Proofs.Building
import StateNest.Proofs.Candidate
import StateNest.Proofs.Rebranching

/-!
# The order of branches

The branches of a state are tried in the order in which they are listed, and the
first that is complete is entered. Unless two of them are complete at once, this is
all that the order is good for: the counters do not depend on it, nor does the one
pattern that may be followed alone. The counters behind a branch that is complete
are not moved, but they are cleared before anything is matched again.
-/

set_option autoImplicit false

namespace StateNest

structure State.Reordered {Memory : Type} (state other : State Memory) : Prop where
  same : other = { state with branches := other.branches }
  distinct : state.branches.Nodup
  order : state.branches.Perm other.branches

namespace Tracker

variable {Memory : Type}

/-- While several patterns are followed, two branches of the active state are complete on a symbol
and its leave is not. -/
def Tied (states : List (State Memory)) (symbol : Char) (t : Tracker) (active : StateId) : Prop :=
  t.phase = .undetermined ∧ ((Candidate.leave active).moved states symbol t).1 ≠ .complete ∧
    ∃ first ∈ (stateAt states active).branches, ∃ second ∈ (stateAt states active).branches,
      first ≠ second ∧ ((Candidate.entry first).moved states symbol t).1 = .complete ∧
        ((Candidate.entry second).moved states symbol t).1 = .complete

instance (states : List (State Memory)) (symbol : Char) (t : Tracker) (active : StateId) :
    Decidable (Tied states symbol t active) :=
  inferInstanceAs (Decidable (_ ∧ _ ∧ ∃ first ∈ _, ∃ second ∈ _, _))

section Branches

variable (states : List (State Memory)) (symbol : Char)

theorem stepEntry_comm (t : Tracker) (first second : StateId) :
    (stepEntry states symbol (stepEntry states symbol t first).2 second).2 =
      (stepEntry states symbol (stepEntry states symbol t second).2 first).2 := by
  by_cases h : first = second
  · rw [h]
  · have hsecond := stepEntry_frame states symbol t first second (Ne.symm h)
    have hfirst := stepEntry_frame states symbol t second first h
    rw [stepEntry, hsecond, stepEntry.eq_def states symbol (stepEntry states symbol t second).2,
      hfirst]
    simp only [stepEntry, List.set_comm _ _ h]

theorem stepEntries_perm (t : Tracker) {branches others : List StateId}
    (h : branches.Perm others) :
    Candidate.stepEntries states symbol t others = Candidate.stepEntries states symbol t branches :=
  (h.foldl_eq' (fun first _ second _ t => stepEntry_comm states symbol t first second) t).symm

/-- A candidate is only kept if it is the only one, so that it does not depend on the order. -/
theorem settle_perm (t : Tracker) (live : Nat) {ids others : List StateId} (h : ids.Perm others) :
    settle t (live + others.length) others.getLast? =
      settle t (live + ids.length) ids.getLast? := by
  rw [← h.length_eq]
  match ids, live with
  | [], live => rw [h.nil_eq]
  | [id], live => rw [List.singleton_perm.mp h]
  | first :: second :: rest, live =>
    have hmany : live + (first :: second :: rest).length = live + rest.length + 2 := by
      simp only [List.length_cons]
      omega
    rw [hmany, settle, settle]
    all_goals simp

variable {states symbol} in
theorem mem_of_firstComplete {t : Tracker} {branches : List StateId} {branch : StateId}
    (h : Candidate.FirstComplete states symbol t (branches.map .entry) (.entry branch)) :
    branch ∈ branches ∧ ((Candidate.entry branch).moved states symbol t).1 = .complete := by
  obtain ⟨before, rest, hlist, hc, -⟩ := h
  have hin : Candidate.entry branch ∈ branches.map .entry := by simp [hlist]
  exact ⟨by simpa using hin, hc⟩

theorem stepBranches_perm (t : Tracker) (live : Nat) {branches others : List StateId}
    (hn : branches.Nodup) (h : branches.Perm others) :
    stepBranches states symbol others t live none =
        stepBranches states symbol branches t live none ∨
      ∃ first ∈ branches, ∃ second ∈ branches,
        ((Candidate.entry first).moved states symbol t).1 = .complete ∧
        ((Candidate.entry second).moved states symbol t).1 = .complete ∧
        (stepBranches states symbol branches t live none).1 = .enter first ∧
        (stepBranches states symbol others t live none).1 = .enter second := by
  have hothers := Candidate.stepBranches_once states symbol others t live none (h.nodup hn)
  rcases Candidate.stepBranches_once states symbol branches t live none hn with
    ⟨first, after, hfirst, -, he⟩ | ⟨hall, he⟩
  · obtain ⟨hin, hc⟩ := mem_of_firstComplete hfirst
    rcases hothers with ⟨second, after', hsecond, -, he'⟩ | ⟨hall, -⟩
    · obtain ⟨hin', hc'⟩ := mem_of_firstComplete hsecond
      exact Or.inr ⟨first, hin, second, h.mem_iff.mpr hin', hc, hc', by rw [he], by rw [he']⟩
    · exact absurd hc (hall first (h.mem_iff.mp hin))
  · rcases hothers with ⟨second, after', hsecond, -, -⟩ | ⟨-, he'⟩
    · obtain ⟨hin, hc⟩ := mem_of_firstComplete hsecond
      exact absurd hc (hall second (h.mem_iff.mpr hin))
    · have hlive : (Candidate.liveBranches states symbol t branches).Perm
          (Candidate.liveBranches states symbol t others) := h.filter _
      rw [he, he', stepEntries_perm states symbol t h, Option.or_none, Option.or_none]
      exact Or.inl (settle_perm _ live hlive)

end Branches

section Reordered

variable {states others : List (State Memory)} (h : List.Forall₂ State.Reordered states others)
include h

theorem stateAt_reordered (id : StateId) :
    (stateAt states id).Reordered (stateAt others id) :=
  stateAt_rel h ⟨rfl, List.nodup_nil, List.Perm.nil⟩ id

theorem rebranched_of_reordered : List.Forall₂ State.Rebranched states others :=
  h.imp fun _ _ hr => hr.same

theorem undetermined_reordered (symbol : Char) (t : Tracker) (active : StateId)
    (hp : t.phase = .undetermined) :
    undetermined others symbol t active = undetermined states symbol t active ∨
      ∃ first second, (undetermined states symbol t active).1 = .enter first ∧
        (undetermined others symbol t active).1 = .enter second ∧
        (first ≠ second → Tied states symbol t active) := by
  have hactive := stateAt_reordered h active
  have hb := rebranched_of_reordered h
  have hunmoved (c : Candidate) := Candidate.stepLeave_unmoved states symbol t active (c := c)
  have hothers := stepLeave_rebranched hb symbol t active
  rcases hs : stepLeave states symbol t active with ⟨outcome, stepped⟩
  rw [hs] at hunmoved hothers
  have hout : ((Candidate.leave active).moved states symbol t).1 = outcome := congrArg Prod.fst hs
  by_cases hc : outcome = .complete
  · subst hc
    exact Or.inl (by rw [undetermined, undetermined, hs, hothers])
  · rw [Candidate.undetermined_next states symbol hs hc,
      Candidate.undetermined_next others symbol hothers hc, stepBranches_rebranched hb]
    -- A branch that is complete once the leave has been moved was so before.
    have hmoved (branch : StateId) : (Candidate.entry branch).moved states symbol stepped =
        (Candidate.entry branch).moved states symbol t :=
      Candidate.moved_congr states symbol (hunmoved _ (by simp))
    rcases stepBranches_perm states symbol stepped (if outcome.isLive then 1 else 0)
        hactive.distinct hactive.order with
      he | ⟨first, hin, second, hin', hfirst, hsecond, he, he'⟩
    · exact Or.inl he
    · rw [hmoved] at hfirst hsecond
      exact Or.inr ⟨first, second, he, he', fun hne =>
        ⟨hp, by rwa [hout], first, hin, second, hin', hne, hfirst, hsecond⟩⟩

/-- The order of the branches has a say only in what is entered, and only in a tie. -/
theorem classify_reordered (symbol : Char) (t : Tracker) (active : StateId) :
    classify others symbol t active = classify states symbol t active ∨
      ∃ first second, (classify states symbol t active).1 = .enter first ∧
        (classify others symbol t active).1 = .enter second ∧
        (first ≠ second → Tied states symbol t active) := by
  have hb := rebranched_of_reordered h
  have hfree := undetermined_reordered h symbol t active
  unfold classify
  cases hp : t.phase with
  | undetermined => exact hfree hp
  | entering target =>
    simp only [stepEntry_rebranched hb, true_or]
  | leaving =>
    simp only [stepLeave_rebranched hb, true_or]

end Reordered

/-- Whatever a symbol decides, the same is left once all progress is cleared. -/
theorem classify_reset (states : List (State Memory)) (symbol : Char) (t : Tracker)
    (active : StateId) : (classify states symbol t active).2.reset = t.reset := by
  have hkeeping := classify_keeping (P := fun u => u.reset = t.reset) states symbol
  refine (hkeeping ?_ active t ?_ ?_ rfl).kept
  · exact fun u phase hu => hu
  · intro u id _ hu
    rw [← hu]
    simp [reset, stepEntry, List.map_const']
  · intro u hu
    rw [← hu]
    simp [reset, stepLeave, List.map_const']

end Tracker

namespace Machine

variable {Memory : Type}

structure Reordered (m other : Machine Memory) : Prop where
  same : other = { m with states := other.states }
  states : List.Forall₂ State.Reordered m.states other.states

/-- The active state looks at a symbol that is decided by the order of its branches. -/
def Tied (m : Machine Memory) (symbol : Char) : Prop :=
  (m.stateAt m.active).ignore.skips symbol = false ∧
    Tracker.Tied m.states symbol m.tracker m.active

def Untied (m : Machine Memory) : List Char → Prop
  | [] => True
  | symbol :: text => ¬ m.Tied symbol ∧ (m.parse symbol).machine.Untied text

instance (m : Machine Memory) (symbol : Char) : Decidable (m.Tied symbol) :=
  inferInstanceAs (Decidable (_ ∧ _))

instance decidableUntied (m : Machine Memory) : (text : List Char) → Decidable (m.Untied text)
  | [] => isTrue trivial
  | symbol :: text =>
    have := decidableUntied (m.parse symbol).machine text
    inferInstanceAs (Decidable (¬ m.Tied symbol ∧ (m.parse symbol).machine.Untied text))

structure Agreed (outcome other : Outcome Memory) : Prop where
  result : other.result = outcome.result
  journal : other.journal = outcome.journal
  machine : Reordered outcome.machine other.machine

/-- What is entered without a failure leaves nothing of the counters behind. -/
theorem enter_cleared {m : Machine Memory} {target : StateId} {tracker other : Tracker}
    (hr : other.reset = tracker.reset)
    (hu : ∀ event ∈ (enter { m with tracker } target).journal, event.failure? = none) :
    enter { m with tracker := other } target = enter { m with tracker } target := by
  obtain ⟨memory, ha⟩ := enter_unfailed hu
  have ha' : answer (stateAt { m with tracker := other } target).onEnter m.memory m.buffer =
      (.ok (), memory) := ha
  rw [enter_ok _ target memory ha, enter_ok _ target memory ha', hr]
  rfl

theorem parse_reordered {m : Machine Memory} {states : List (State Memory)}
    (h : List.Forall₂ State.Reordered m.states states) (symbol : Char)
    (hu : ∀ event ∈ (m.parse symbol).journal, event.failure? = none) (ht : ¬ m.Tied symbol) :
    (m.withStates states).parse symbol = (m.parse symbol).withStates states := by
  have hb := Tracker.rebranched_of_reordered h
  by_cases hheard : m.started = true ∧ (m.stateAt m.active).ignore.skips symbol = false
  · obtain ⟨hs, hi⟩ := hheard
    -- Unless a branch is entered, the counters are the same in any order.
    rcases Tracker.classify_reordered h symbol m.tracker m.active with
      he | ⟨first, second, hfirst, hsecond, htied⟩
    · exact parse_withStates hb symbol fun _ _ => he
    · rcases hc : m.tracker.classify m.states symbol m.active with ⟨verdict, tracker⟩
      rcases hc' : m.tracker.classify states symbol m.active with ⟨verdict', tracker'⟩
      rw [hc] at hfirst
      rw [hc'] at hsecond
      obtain rfl : verdict = .enter first := hfirst
      obtain rfl : verdict' = .enter second := hsecond
      obtain rfl : first = second := Classical.byContradiction fun hne => ht ⟨hi, htied hne⟩
      have hreset : tracker'.reset = tracker.reset := by
        have hleft := Tracker.classify_reset m.states symbol m.tracker m.active
        have hright := Tracker.classify_reset states symbol m.tracker m.active
        rw [hc] at hleft
        rw [hc'] at hright
        exact hright.trans hleft.symm
      have hi' : ((m.withStates states).stateAt m.active).ignore.skips symbol = false := by
        rw [stateAt_withStates hb]
        exact hi
      have hparse := parse_classified m symbol hs hi _ tracker hc
      rw [hparse] at hu ⊢
      rw [parse_classified (m.withStates states) symbol hs hi' _ tracker' hc']
      have hentered := enter_cleared
        (m := { m with buffer := m.buffer ++ [symbol], status := .wait }) hreset
        fun event hin => hu event (List.mem_append_right _ hin)
      have hsame := act_withStates
        (m := { m with buffer := m.buffer ++ [symbol], tracker := tracker', status := .wait })
        hb (.enter first)
      rw [act, act, hentered] at hsame
      exact congrArg (Outcome.after · _) hsame
  · exact parse_withStates hb symbol fun hs hi => absurd ⟨hs, hi⟩ hheard

theorem Reordered.parse {m other : Machine Memory} (h : Reordered m other) (symbol : Char)
    (hu : ∀ event ∈ (m.parse symbol).journal, event.failure? = none) (ht : ¬ m.Tied symbol) :
    Agreed (m.parse symbol) (other.parse symbol) := by
  have hparse := parse_reordered h.states symbol hu ht
  rw [withStates, ← h.same] at hparse
  rw [hparse]
  refine ⟨rfl, rfl, rfl, ?_⟩
  rw [(parse_setup m symbol).1]
  exact h.states

theorem Reordered.outcomes {m other : Machine Memory} (h : Reordered m other) (text : List Char)
    (hu : ∀ outcome ∈ m.outcomes text, ∀ event ∈ outcome.journal, event.failure? = none)
    (ht : m.Untied text) : List.Forall₂ Agreed (m.outcomes text) (other.outcomes text) := by
  induction text generalizing m other with
  | nil => exact List.Forall₂.nil
  | cons symbol text ih =>
    obtain ⟨hnow, hlater⟩ := List.forall_mem_cons.mp hu
    have hstep := h.parse symbol hnow ht.1
    exact List.Forall₂.cons hstep (ih hstep.machine hlater ht.2)

theorem Reordered.prestart {m other started : Machine Memory} (h : Reordered m other)
    (hok : m.prestart = .ok started) :
    ∃ started', other.prestart = .ok started' ∧ Reordered started started' := by
  obtain ⟨rfl, hne, hlt⟩ := prestart_ok_iff.mp hok
  refine ⟨other.fresh, prestart_ok_iff.mpr ⟨rfl, ?_, ?_⟩, ?_, h.states⟩
  · rwa [← List.length_pos_iff, ← h.states.length_eq, List.length_pos_iff]
  · intro state hin branch hb
    obtain ⟨listed, hlisted, hr⟩ := exists_of_mem_right h.states hin
    rw [← h.states.length_eq]
    exact hlt listed hlisted branch (hr.order.mem_iff.mpr hb)
  · rw [h.same]
    rfl

/-- The order of the branches matters only in a tie. -/
theorem order_matters_in_ties {m other : Machine Memory} (h : Reordered m other) :
    (∀ t active symbol,
      ((t.classify other.states symbol active).1 = (t.classify m.states symbol active).1 ∨
        Tracker.Tied m.states symbol t active ∧ ∃ first second,
          (t.classify m.states symbol active).1 = .enter first ∧
          (t.classify other.states symbol active).1 = .enter second) ∧
      ((t.classify m.states symbol active).1 = .undecided ∨
          (t.classify m.states symbol active).1 = .miss →
        t.classify other.states symbol active = t.classify m.states symbol active)) ∧
    ∀ started, m.prestart = .ok started → ∃ started', other.prestart = .ok started' ∧
      ∀ text, started.Untied text →
        (∀ outcome ∈ started.outcomes text, ∀ event ∈ outcome.journal, event.failure? = none) →
        List.Forall₂ Agreed (started.outcomes text) (started'.outcomes text) := by
  constructor
  · intro t active symbol
    rcases Tracker.classify_reordered h.states symbol t active with
      he | ⟨first, second, hfirst, hsecond, htied⟩
    · exact ⟨Or.inl (congrArg Prod.fst he), fun _ => he⟩
    · refine ⟨?_, by simp [hfirst]⟩
      by_cases hne : first = second
      · exact Or.inl (by rw [hfirst, hsecond, hne])
      · exact Or.inr ⟨htied hne, first, second, hfirst, hsecond⟩
  · intro started hok
    obtain ⟨started', hok', hr⟩ := h.prestart hok
    exact ⟨started', hok', fun text ht hu => hr.outcomes text hu ht⟩

def crossroads (branches : List StateId) : Machine Nat :=
  (withOptions {} 0).calls
    [.addState { name := "root", branches },
      .addState {
        name := "left", entry := ['a', 'b', 'c'].map .literal
        onEnter := some fun memory text => (.ok (), memory + text.length) },
      .addState {
        name := "right", entry := ['a', 'b', 'd'].map .literal
        onEnter := some fun memory text => (.ok (), memory + text.length) }]

theorem crossroads_untied : Reordered (crossroads [1, 2]) (crossroads [2, 1]) ∧
    ((crossroads [1, 2]).fresh.feed ['x', 'a', 'b', 'd']).chain = [0, 2] ∧
    List.Forall₂ Agreed ((crossroads [1, 2]).fresh.outcomes ['x', 'a', 'b', 'd'])
      ((crossroads [2, 1]).fresh.outcomes ['x', 'a', 'b', 'd']) := by
  have hr : Reordered (crossroads [1, 2]) (crossroads [2, 1]) := by
    refine ⟨rfl, List.Forall₂.cons ⟨rfl, by decide, List.Perm.swap 2 1 []⟩ ?_⟩
    have hsame (state : State Nat) (hnone : state.branches = []) : state.Reordered state :=
      ⟨rfl, hnone ▸ List.nodup_nil, List.Perm.refl _⟩
    exact List.Forall₂.cons (hsame _ rfl) (List.Forall₂.cons (hsame _ rfl) List.Forall₂.nil)
  obtain ⟨started, hok, hall⟩ := (order_matters_in_ties hr).2 (crossroads [1, 2]).fresh rfl
  obtain rfl : (crossroads [2, 1]).fresh = started := Except.ok.inj hok
  exact ⟨hr, rfl, hall _ (by decide) (by decide)⟩

end Machine

end StateNest
