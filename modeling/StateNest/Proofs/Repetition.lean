import StateNest.Proofs.Completion
import StateNest.Proofs.Rebranching
import StateNest.Proofs.Restart

/-!
# A branch that is listed again

A branch that is listed again is moved again, by the same symbol. The second step
leads nowhere else unless the symbol also matches the next element, but it counts
as one more pattern that is live. So the repetition shows if an element and the one
after it match the same symbol, or if the entry of the branch would be followed alone.
-/

set_option autoImplicit false

namespace StateNest

def State.addBranch {Memory : Type} (state : State Memory) (branch : StateId) : State Memory :=
  { state with branches := state.branches ++ [branch] }

namespace Candidate

open Tracker

variable {Memory : Type} {states others : List (State Memory)} {symbol : Char}

section Rebranched

variable (h : List.Forall₂ State.Rebranched states others)
include h

theorem moved_rebranched (t : Tracker) (c : Candidate) :
    c.moved others symbol t = c.moved states symbol t := by
  cases c with
  | leave id =>
    rw [moved, pattern, stateAt_rebranched h id]
    rfl
  | entry id =>
    rw [moved, pattern, stateAt_rebranched h id]
    rfl

theorem stepped_rebranched (t : Tracker) (c : Candidate) :
    c.stepped others symbol t = c.stepped states symbol t := by
  cases c with
  | leave id => exact congrArg Prod.snd (stepLeave_rebranched h symbol t id)
  | entry id => exact congrArg Prod.snd (stepEntry_rebranched h symbol t id)

theorem round_rebranched (t : Tracker) (list : List Candidate) :
    round others symbol t list = round states symbol t list := by
  rw [round, round]
  simp only [stepped_rebranched h]

theorem passes_rebranched (t : Tracker) (list : List Candidate) :
    Passes others symbol t list ↔ Passes states symbol t list := by
  induction list generalizing t with
  | nil => exact Iff.rfl
  | cons c list ih => rw [Passes, Passes, moved_rebranched h, stepped_rebranched h, ih]

theorem liveIn_rebranched (t : Tracker) (list : List Candidate) :
    liveIn others symbol t list = liveIn states symbol t list := by
  induction list generalizing t with
  | nil => rfl
  | cons c list ih => rw [liveIn, liveIn, moved_rebranched h, stepped_rebranched h, ih]

end Rebranched

theorem set_getD (list : List Nat) (i : Nat) : list.set i (list.getD i 0) = list := by
  by_cases hi : i < list.length
  · rw [List.getD_eq_getElem?_getD, List.getElem?_eq_getElem hi, Option.getD_some,
      List.set_getElem_self]
  · exact List.set_eq_of_length_le (Nat.le_of_not_lt hi)

theorem stepped_same {t : Tracker} {c : Candidate}
    (h : (c.moved states symbol t).2 = c.progress t) : c.stepped states symbol t = t := by
  cases c with
  | leave id =>
    change { t with leave := t.leave.set id ((leave id).moved states symbol t).2 } = t
    rw [h, progress, set_getD]
  | entry id =>
    change { t with entry := t.entry.set id ((entry id).moved states symbol t).2 } = t
    rw [h, progress, set_getD]

section Settled

variable {t : Tracker} (ht : t.phase = .undetermined) {list : List Candidate} {branch : StateId}
include ht

theorem eq_of_settled_entering (h : (settled t list).2.phase = .entering branch) :
    list = [.entry branch] := by
  match list with
  | [] => simp [settled] at h
  | [.leave id] => simp [settled, lock] at h
  | [.entry id] =>
    obtain rfl : id = branch := Phase.entering.inj h
    rfl
  | first :: second :: rest =>
    change t.phase = _ at h
    simp [ht] at h

/-- A pattern that is live twice decides the same, unless it alone is live. -/
theorem settled_again (h : Candidate.entry branch ∈ list) :
    settled t (list ++ [.entry branch]) = settled t list ↔
      (settled t list).2.phase ≠ .entering branch := by
  match list with
  | [] => simp at h
  | [c] =>
    obtain rfl := List.mem_singleton.mp h
    have hphase : (settled t [.entry branch]).2.phase = .entering branch := rfl
    refine iff_of_false ?_ (not_not.mpr hphase)
    intro he
    rw [← he] at hphase
    change t.phase = _ at hphase
    simp [ht] at hphase
  | first :: second :: rest =>
    refine iff_of_true rfl ?_
    intro hphase
    simpa using eq_of_settled_entering ht hphase

end Settled

section Classify

variable (h : List.Forall₂ State.Rebranched states others) {t : Tracker} {active : StateId}
include h

theorem classify_cut {before rest more : List Candidate} {c : Candidate}
    (hf : followed others active t.phase = followed states active t.phase ++ more)
    (hl : followed states active t.phase = before ++ c :: rest)
    (hp : Passes states symbol t before)
    (hc : (c.moved states symbol (round states symbol t before)).1 = .complete) :
    classify others symbol t active = classify states symbol t active := by
  have hl' : followed others active t.phase = before ++ c :: (rest ++ more) := by
    rw [hf, hl, List.append_assoc, List.cons_append]
  have hp' := (passes_rebranched h t before).mpr hp
  have hc' : (c.moved others symbol (round others symbol t before)).1 = .complete := by
    rw [round_rebranched h, moved_rebranched h, hc]
  rw [classify_completed states symbol hl hp hc, classify_completed others symbol hl' hp' hc',
    round_rebranched h, stepped_rebranched h]

/-- The same patterns are followed with other branches, so that the same is decided. -/
theorem classify_rebranched
    (hf : followed others active t.phase = followed states active t.phase) :
    classify others symbol t active = classify states symbol t active := by
  rcases classify_round states symbol t active with ⟨before, c, rest, hl, hp, hc, -⟩ | ⟨hp, he⟩
  · exact classify_cut h (hf.trans (List.append_nil _).symm) hl hp hc
  · rw [← hf, ← passes_rebranched h] at hp
    rw [he, classify_passed others symbol hp, hf, round_rebranched h, liveIn_rebranched h]

end Classify

end Candidate

namespace Tracker

variable {Memory : Type}

/-- The entry of a branch that is listed twice is moved further by the second step, or would have
been followed alone without it. -/
def Doubled (states : List (State Memory)) (id branch : StateId) (symbol : Char) (t : Tracker)
    (active : StateId) : Prop :=
  t.phase = .undetermined ∧ active = id ∧ (classify states symbol t active).1 = .undecided ∧
    ((classify states symbol t active).2.phase = .entering branch ∨
      0 < (Candidate.entry branch).progress (classify states symbol t active).2 ∧
        ((Candidate.entry branch).pattern states).matchesAt
          ((Candidate.entry branch).progress (classify states symbol t active).2) symbol = true)

instance (states : List (State Memory)) (id branch : StateId) (symbol : Char) (t : Tracker)
    (active : StateId) : Decidable (Doubled states id branch symbol t active) :=
  inferInstanceAs (Decidable (_ ∧ _ ∧ _ ∧ (_ ∨ _ ∧ _)))

structure ListedAgain (states others : List (State Memory)) (id branch : StateId) : Prop where
  rebranched : List.Forall₂ State.Rebranched states others
  listed : branch ∈ (stateAt states id).branches
  again : (stateAt others id).branches = (stateAt states id).branches ++ [branch]
  same : ∀ other, other ≠ id → (stateAt others other).branches = (stateAt states other).branches

section ListedAgain

open Candidate

variable {states others : List (State Memory)} {id branch : StateId}
  (h : ListedAgain states others id branch) {symbol : Char} {t : Tracker}
include h

theorem ListedAgain.followed_again (ht : t.phase = .undetermined) :
    followed others id t.phase = followed states id t.phase ++ [.entry branch] := by
  rw [ht, followed, followed, h.again, List.map_append, List.cons_append]
  rfl

theorem ListedAgain.mem_followed (ht : t.phase = .undetermined) :
    Candidate.entry branch ∈ followed states id t.phase := by
  rw [ht]
  exact List.mem_cons_of_mem _ (List.mem_map_of_mem h.listed)

theorem ListedAgain.followed_elsewhere {active : StateId} {phase : Phase}
    (hn : ¬ (phase = .undetermined ∧ active = id)) :
    followed others active phase = followed states active phase := by
  cases phase with
  | undetermined => rw [followed, followed, h.same active fun he => hn ⟨rfl, he⟩]
  | entering target => rfl
  | leaving => rfl

section Passed

variable (ht : t.phase = .undetermined) (hz : t.Sized states.length)
  (hr : ∀ c ∈ followed states id t.phase, c.state < states.length)
  (hp : Passes states symbol t (followed states id t.phase))
include ht hz hr hp

/-- A symbol that also matches the next element is counted twice. -/
theorem ListedAgain.moved_further
    (hm : ((Candidate.entry branch).pattern states).matchesAt
      ((Candidate.entry branch).progress (classify states symbol t id).2) symbol = true) :
    (classify others symbol t id).1 = .enter branch ∨
      (classify others symbol t id).1 = .undecided ∧
        (Candidate.entry branch).progress (classify others symbol t id).2 =
          (Candidate.entry branch).progress (classify states symbol t id).2 + 1 := by
  have hb := h.rebranched
  have hf := h.followed_again ht
  rw [classify_passed states symbol hp, settled_progress] at hm ⊢
  have hmoved := Pattern.step_matched hm
  have hp' := (passes_rebranched hb t _).mpr hp
  have hround : round others symbol t (followed states id t.phase) =
      round states symbol t (followed states id t.phase) := round_rebranched hb t _
  by_cases hc : ((Candidate.entry branch).moved states symbol
      (round states symbol t (followed states id t.phase))).1 = .complete
  · rw [← moved_rebranched hb, ← hround] at hc
    rw [classify_completed others symbol hf hp' hc]
    exact Or.inl rfl
  · have hall : Passes others symbol t (followed others id t.phase) := by
      rw [hf, passes_rebranched hb]
      exact (passes_append states symbol).mpr ⟨hp, hc, trivial⟩
    have hrange : branch < states.length := hr (.entry branch) (h.mem_followed ht)
    have hstepped := stepped_progress states symbol
      (round_sized states symbol hz (followed states id t.phase)) (c := .entry branch) hrange
    have hlive : ((Candidate.entry branch).moved states symbol
        (round states symbol t (followed states id t.phase))).1.isLive = true := by
      refine (Pattern.isLive_iff hc).mpr ?_
      rw [hmoved]
      exact Nat.succ_pos _
    rw [classify_passed others symbol hall, settled_progress, settled_verdict, hf,
      round_rebranched hb, liveIn_rebranched hb, round_append, liveIn_append, liveIn, if_pos hlive]
    exact Or.inr ⟨if_neg (by simp), hstepped.trans (congrArg Prod.snd hmoved)⟩

/-- On any other symbol, the second step only counts the pattern once more. -/
theorem ListedAgain.counted_again
    (hm : ((Candidate.entry branch).pattern states).matchesAt
      ((Candidate.entry branch).progress (classify states symbol t id).2) symbol = false) :
    classify others symbol t id = settled (round states symbol t (followed states id t.phase))
      (liveIn states symbol t (followed states id t.phase) ++
        if 0 < (Candidate.entry branch).progress (classify states symbol t id).2
          then [.entry branch] else []) := by
  have hb := h.rebranched
  have hf := h.followed_again ht
  rw [classify_passed states symbol hp, settled_progress] at hm ⊢
  have hin := h.mem_followed ht
  have hmoved := (hp.took hz hr hin).step hm
  generalize hv : round states symbol t (followed states id t.phase) = v at hmoved hm ⊢
  have hstepped : (Candidate.entry branch).stepped states symbol v = v :=
    stepped_same (congrArg Prod.snd hmoved)
  have hout : ((Candidate.entry branch).moved states symbol v).1 =
      if (Candidate.entry branch).progress v = 0 then .lost else .backtracked :=
    congrArg Prod.fst hmoved
  have hall : Passes others symbol t (followed others id t.phase) := by
    rw [hf, passes_rebranched hb, passes_append, hv]
    refine ⟨hp, ?_, trivial⟩
    rw [hout]
    split <;> simp
  rw [classify_passed others symbol hall, hf, round_rebranched hb, liveIn_rebranched hb,
    round_append, liveIn_append, hv]
  change settled ((Candidate.entry branch).stepped states symbol v) _ = _
  rw [hstepped, liveIn, liveIn, hout]
  by_cases hzero : (Candidate.entry branch).progress v = 0
  · simp [hzero, Step.isLive]
  · simp [hzero, Step.isLive, Nat.pos_of_ne_zero hzero]

theorem ListedAgain.live_iff :
    Candidate.entry branch ∈ liveIn states symbol t (followed states id t.phase) ↔
      0 < (Candidate.entry branch).progress (classify states symbol t id).2 := by
  rw [classify_passed states symbol hp, settled_progress]
  exact hp.mem_liveIn_iff hz hr (h.mem_followed ht)

theorem ListedAgain.undecided_of_pos
    (hpos : 0 < (Candidate.entry branch).progress (classify states symbol t id).2) :
    (classify states symbol t id).1 = .undecided := by
  have hlive := (h.live_iff ht hz hr hp).mpr hpos
  rw [classify_passed states symbol hp, settled_verdict, if_neg (List.ne_nil_of_mem hlive)]

theorem ListedAgain.further_iff
    (hm : ((Candidate.entry branch).pattern states).matchesAt
      ((Candidate.entry branch).progress (classify states symbol t id).2) symbol = true) :
    classify others symbol t id = classify states symbol t id ↔
      ¬ Doubled states id branch symbol t id := by
  have hpos : 0 < (Candidate.entry branch).progress (classify states symbol t id).2 := by
    have htook := hp.took hz hr (h.mem_followed ht)
    rw [classify_passed states symbol hp, settled_progress] at hm ⊢
    rcases htook with ⟨hzero, hnone⟩ | ⟨hpos, -⟩
    · rw [hzero, hnone] at hm
      exact absurd hm (by simp)
    · exact hpos
  have hundecided := h.undecided_of_pos ht hz hr hp hpos
  refine iff_of_false ?_ (not_not.mpr ⟨ht, rfl, hundecided, Or.inr ⟨hpos, hm⟩⟩)
  intro he
  have hfurther := h.moved_further ht hz hr hp hm
  rw [he, hundecided] at hfurther
  rcases hfurther with hentered | ⟨-, hmoved⟩
  · simp at hentered
  · omega

theorem ListedAgain.counted_iff
    (hm : ((Candidate.entry branch).pattern states).matchesAt
      ((Candidate.entry branch).progress (classify states symbol t id).2) symbol = false) :
    classify others symbol t id = classify states symbol t id ↔
      ¬ Doubled states id branch symbol t id := by
  have hphase := (round_phase states symbol t (followed states id t.phase)).trans ht
  have hlive := h.live_iff ht hz hr hp
  rw [h.counted_again ht hz hr hp hm]
  split
  · next hpos =>
    have hundecided := h.undecided_of_pos ht hz hr hp hpos
    rw [classify_passed states symbol hp, settled_again hphase (hlive.mpr hpos),
      ← classify_passed states symbol hp]
    simp [Doubled, ht, hundecided, hm]
  · next hzero =>
    rw [List.append_nil, ← classify_passed states symbol hp]
    refine iff_of_true rfl ?_
    rintro ⟨-, -, -, hlocked | ⟨hpos, -⟩⟩
    · rw [classify_passed states symbol hp] at hlocked
      have halone := eq_of_settled_entering hphase hlocked
      exact hzero (hlive.mp (by rw [halone]; exact List.mem_singleton_self _))
    · exact hzero hpos

end Passed

/-- A branch that is listed again shows exactly in the symbols that it doubles. -/
theorem ListedAgain.classify_iff {active : StateId} (hz : t.Sized states.length)
    (hr : ∀ c ∈ followed states active t.phase, c.state < states.length) :
    classify others symbol t active = classify states symbol t active ↔
      ¬ Doubled states id branch symbol t active := by
  by_cases hplace : t.phase = .undetermined ∧ active = id
  · obtain ⟨ht, rfl⟩ := hplace
    rcases classify_round states symbol t active with ⟨before, c, rest, hl, hp, hc, he⟩ | ⟨hp, -⟩
    · refine iff_of_true (classify_cut h.rebranched (h.followed_again ht) hl hp hc) ?_
      rintro ⟨-, -, hundecided, -⟩
      rw [he] at hundecided
      cases c <;> simp [Candidate.verdict] at hundecided
    · cases hm : ((Candidate.entry branch).pattern states).matchesAt
          ((Candidate.entry branch).progress (classify states symbol t active).2) symbol with
      | true => exact h.further_iff ht hz hr hp hm
      | false => exact h.counted_iff ht hz hr hp hm
  · refine iff_of_true (classify_rebranched h.rebranched (h.followed_elsewhere hplace)) ?_
    exact fun hd => hplace ⟨hd.1, hd.2.1⟩

/-- The symbols that a branch doubles are those on which its entry is live. -/
theorem ListedAgain.doubled_pos {active : StateId} (hz : t.Sized states.length)
    (hr : ∀ c ∈ followed states active t.phase, c.state < states.length)
    (hd : Doubled states id branch symbol t active) :
    0 < (Candidate.entry branch).progress (classify states symbol t active).2 := by
  obtain ⟨ht, rfl, hundecided, hlocked | ⟨hpos, -⟩⟩ := hd
  · have hp := passes_of_undecided states symbol hundecided
    rw [classify_passed states symbol hp] at hlocked
    have halone := eq_of_settled_entering ((round_phase states symbol t _).trans ht) hlocked
    rw [← h.live_iff ht hz hr hp, halone]
    exact List.mem_singleton_self _
  · exact hpos

end ListedAgain

end Tracker

namespace Machine

variable {Memory : Type}

def addBranch (m : Machine Memory) (id branch : StateId) : Machine Memory :=
  m.modifyState id (·.addBranch branch)

def Doubled (m : Machine Memory) (id branch : StateId) (symbol : Char) : Prop :=
  (m.stateAt m.active).ignore.skips symbol = false ∧
    Tracker.Doubled m.states id branch symbol m.tracker m.active

def Single (m : Machine Memory) (id branch : StateId) : List Char → Prop
  | [] => True
  | symbol :: text =>
    ¬ m.Doubled id branch symbol ∧ (m.parse symbol).machine.Single id branch text

instance (m : Machine Memory) (id branch : StateId) (symbol : Char) :
    Decidable (m.Doubled id branch symbol) :=
  inferInstanceAs (Decidable (_ ∧ _))

instance decidableSingle (m : Machine Memory) (id branch : StateId) :
    (text : List Char) → Decidable (m.Single id branch text)
  | [] => isTrue trivial
  | symbol :: text =>
    have := decidableSingle (m.parse symbol).machine id branch text
    inferInstanceAs
      (Decidable (¬ m.Doubled id branch symbol ∧ (m.parse symbol).machine.Single id branch text))

section AddBranch

variable {m : Machine Memory} {id branch : StateId}

theorem rebranched_modify (states : List (State Memory)) (id branch : StateId) :
    List.Forall₂ State.Rebranched states (states.modify id (·.addBranch branch)) := by
  induction states generalizing id with
  | nil =>
    rw [List.modify_nil]
    exact List.Forall₂.nil
  | cons state states ih =>
    cases id with
    | zero => exact List.Forall₂.cons rfl (List.forall₂_same.mpr fun _ _ => rfl)
    | succ id => exact List.Forall₂.cons rfl (ih id)

theorem addBranch_listedAgain (hb : branch ∈ (m.stateAt id).branches) :
    Tracker.ListedAgain m.states (m.addBranch id branch).states id branch where
  rebranched := rebranched_modify m.states id branch
  listed := hb
  again := by
    have hid : id < m.states.length := by
      by_contra hle
      rw [stateAt, stateAt_empty (Nat.le_of_not_lt hle)] at hb
      exact absurd hb List.not_mem_nil
    simp [addBranch, modifyState, Tracker.stateAt, List.getD_eq_getElem?_getD,
      List.getElem?_eq_getElem hid, State.addBranch]
  same := by
    intro other hne
    simp [addBranch, modifyState, Tracker.stateAt, List.getD_eq_getElem?_getD, Ne.symm hne]

theorem addBranch_length : (m.addBranch id branch).states.length = m.states.length :=
  List.length_modify _ _ _

theorem findSome_modify {α β : Type} {f : α → Option β} {change : α → α} {list : List α} {i : Nat}
    (h : ∀ a, list[i]? = some a → f (change a) = f a) :
    (list.modify i change).findSome? f = list.findSome? f := by
  induction list generalizing i with
  | nil => rw [List.modify_nil]
  | cons a list ih =>
    cases i with
    | zero => rw [List.modify_zero_cons, List.findSome?_cons, List.findSome?_cons, h a rfl]
    | succ i => rw [List.modify_succ_cons, List.findSome?_cons, List.findSome?_cons, ih h]

/-- What is listed again has been found to lead somewhere, or nowhere, before. -/
theorem addBranch_unknownBranch (hb : branch ∈ (m.stateAt id).branches) :
    (m.addBranch id branch).unknownBranch? = m.unknownBranch? := by
  rw [unknownBranch?, unknownBranch?, addBranch_length]
  apply findSome_modify
  intro state hstate
  have hat : m.stateAt id = state := by
    rw [stateAt, Tracker.stateAt, List.getD_eq_getElem?_getD, hstate, Option.getD_some]
  rw [hat] at hb
  rw [State.addBranch, List.find?_append]
  cases hfound : state.branches.find? (m.states.length ≤ ·) with
  | some first => rfl
  | none =>
    have hknown := List.find?_eq_none.mp hfound branch hb
    simp [hknown]

theorem addBranch_prestart (hb : branch ∈ (m.stateAt id).branches) :
    (m.addBranch id branch).prestart =
      m.prestart.map (·.withStates (m.addBranch id branch).states) := by
  have hempty : (m.addBranch id branch).states.isEmpty = m.states.isEmpty := by
    rw [Bool.eq_iff_iff, List.isEmpty_iff_length_eq_zero, List.isEmpty_iff_length_eq_zero,
      addBranch_length]
  rw [prestart, prestart, addBranch_unknownBranch hb, hempty]
  cases m.states.isEmpty with
  | true => rfl
  | false => cases m.unknownBranch? <;> rfl

end AddBranch

section Run

variable {m : Machine Memory} {states : List (State Memory)} {id branch : StateId}

theorem parse_again_iff (h : Tracker.ListedAgain m.states states id branch) (hs : Sound m)
    (hstarted : m.started = true) (symbol : Char) :
    (m.withStates states).parse symbol = (m.parse symbol).withStates states ↔
      ¬ m.Doubled id branch symbol := by
  have hrange (c : Candidate) (hc : c ∈ Candidate.followed m.states m.active m.tracker.phase) :=
    (hs.connected hstarted).followed_lt hc
  have hiff : m.tracker.classify states symbol m.active =
      m.tracker.classify m.states symbol m.active ↔
        ¬ Tracker.Doubled m.states id branch symbol m.tracker m.active :=
    h.classify_iff hs.sized hrange
  constructor
  · rintro he ⟨hi, hd⟩
    refine hiff.mp ?_ hd
    -- The verdict is in the journal, and what is undecided leaves the counters in the machine.
    have hundecided := hd.2.2.1
    rcases hc : m.tracker.classify m.states symbol m.active with ⟨verdict, tracker⟩
    rcases hc' : m.tracker.classify states symbol m.active with ⟨verdict', tracker'⟩
    rw [hc] at hundecided
    obtain rfl : verdict = .undecided := hundecided
    have hi' : ((m.withStates states).stateAt m.active).ignore.skips symbol = false := by
      rw [stateAt_withStates h.rebranched]
      exact hi
    rw [parse_classified m symbol hstarted hi _ tracker hc,
      parse_classified (m.withStates states) symbol hstarted hi' _ tracker' hc'] at he
    have hjournal := congrArg (fun outcome => outcome.journal.head?) he
    obtain ⟨-, rfl⟩ : (m.withStates states).active = m.active ∧ verdict' = .undecided := by
      simpa [Outcome.withStates] using hjournal
    exact congrArg (fun outcome => (Verdict.undecided, outcome.machine.tracker)) he
  · intro hn
    exact parse_withStates h.rebranched symbol fun _ hi =>
      hiff.mpr fun hd => hn ⟨hi, hd⟩

theorem outcomes_again_iff (h : Tracker.ListedAgain m.states states id branch) (hs : Sound m)
    (hstarted : m.started = true) (text : List Char) :
    (m.withStates states).outcomes text = (m.outcomes text).map (·.withStates states) ↔
      m.Single id branch text := by
  induction text generalizing m with
  | nil => exact iff_of_true rfl trivial
  | cons symbol text ih =>
    obtain ⟨hstates, -, hrunning⟩ := parse_setup m symbol
    have hstep := parse_again_iff h hs hstarted symbol
    have hlater := ih (m := (m.parse symbol).machine) (by rwa [hstates]) (parse_sound symbol hs)
      (hrunning.trans hstarted)
    rw [outcomes, outcomes, List.map_cons, List.cons.injEq, Single, ← hstep]
    refine and_congr_right fun he => ?_
    rw [he]
    exact hlater

theorem move_enterFailed {symbol : Char} {outcome : Outcome Memory} (hm : Move m symbol outcome)
    (hr : outcome.result = .ok false)
    (hv : (m.tracker.classify m.states symbol m.active).1 = .enter branch) :
    ∃ buffer failure, .entering branch buffer (.error failure) ∈ outcome.journal := by
  cases hm with
  | ignored hi => simp at hr
  | waited tracker hi hc => simp at hr
  | entered target tracker memory hi hc ha => simp at hr
  | enterFailed target tracker memory failure hi hc ha =>
    rw [hc] at hv
    obtain rfl : target = branch := Verdict.enter.inj hv
    exact ⟨_, failure, List.mem_cons_of_mem _ List.mem_cons_self⟩
  | left tracker memory hi hc ha => simp at hr
  | leaveFailed tracker memory failure hi hc ha => simp [hc] at hv
  | missed tracker events middle outcome hi hc hp he hstop hrun => simp [hc] at hv

/-- An entry of one element is complete as soon as it is live. -/
theorem single_of_short (h : Tracker.ListedAgain m.states states id branch) (hs : Sound m)
    (hstarted : m.started = true) (hshort : (m.stateAt branch).entry.length ≤ 1)
    (hzero : (Candidate.entry branch).progress m.tracker = 0) {text : List Char}
    (hn : ∀ outcome ∈ m.outcomes text, ∀ buffer failure,
      .entering branch buffer (.error failure) ∉ outcome.journal) :
    m.Single id branch text := by
  induction text generalizing m with
  | nil => trivial
  | cons symbol text ih =>
    obtain ⟨hnow, hlater⟩ := List.forall_mem_cons.mp hn
    have hunfinished : ((Candidate.entry branch).pattern m.states).Unfinished
        ((Candidate.entry branch).progress m.tracker) := Or.inl hzero
    constructor
    · rintro ⟨-, hd⟩
      have hrange (c : Candidate)
          (hc : c ∈ Candidate.followed m.states m.active m.tracker.phase) :=
        (hs.connected hstarted).followed_lt hc
      have hpos := h.doubled_pos hs.sized hrange hd
      have hv : (m.tracker.classify m.states symbol m.active).1 ≠
          (Candidate.entry branch).verdict := by
        rw [hd.2.2.1]
        simp [Candidate.verdict]
      have hlength : ((Candidate.entry branch).pattern m.states).length ≤ 1 := hshort
      rcases hs.unfinished hstarted symbol hunfinished hv with hzero | hlt <;> omega
    · have hm := parse_move m symbol hstarted
      obtain ⟨hstates, -, hrunning⟩ := parse_setup m symbol
      have hkept := move_unfinished hm hs hstarted hunfinished fun hr hv => by
        obtain ⟨buffer, failure, hin⟩ := move_enterFailed hm hr hv
        exact hnow buffer failure hin
      have hshort' : ((m.parse symbol).machine.stateAt branch).entry.length ≤ 1 := by
        rwa [stateAt, hstates]
      have hlength : ((Candidate.entry branch).pattern (m.parse symbol).machine.states).length ≤ 1 :=
        hshort'
      refine ih (by rwa [hstates]) (parse_sound symbol hs) (hrunning.trans hstarted) hshort' ?_
        hlater
      rcases hkept with hzero | hlt <;> omega

theorem enter_chain (m : Machine Memory) (target : StateId) :
    (m.enter target).machine.chain = m.chain ++ [target] := by
  rcases ha : answer (m.stateAt target).onEnter m.memory m.buffer with ⟨failure | ⟨⟩, memory⟩
  · rw [enter_failed m target memory failure ha]
  · rw [enter_ok m target memory ha]

/-- A symbol that counts twice enters the branch too early or moves its progress too far. -/
theorem parse_further (h : Tracker.ListedAgain m.states states id branch) (hs : Sound m)
    (hstarted : m.started = true) {symbol : Char} (hd : m.Doubled id branch symbol)
    (hm : ((Candidate.entry branch).pattern m.states).matchesAt
      ((Candidate.entry branch).progress (m.parse symbol).machine.tracker) symbol = true) :
    (m.parse symbol).machine.status = .wait ∧
      (((m.withStates states).parse symbol).machine.chain =
          (m.parse symbol).machine.chain ++ [branch] ∨
        ((m.withStates states).parse symbol).machine.status = .wait ∧
        (Candidate.entry branch).progress ((m.withStates states).parse symbol).machine.tracker =
          (Candidate.entry branch).progress (m.parse symbol).machine.tracker + 1) := by
  obtain ⟨hi, ht, rfl, hundecided, -⟩ := hd
  have hrange (c : Candidate) (hc : c ∈ Candidate.followed m.states m.active m.tracker.phase) :=
    (hs.connected hstarted).followed_lt hc
  have hfurther := h.moved_further ht hs.sized hrange
    (Candidate.passes_of_undecided m.states symbol hundecided)
  rcases hc : m.tracker.classify m.states symbol m.active with ⟨verdict, tracker⟩
  rcases hc' : m.tracker.classify states symbol m.active with ⟨verdict', tracker'⟩
  rw [hc] at hundecided hfurther
  rw [hc'] at hfurther
  obtain rfl : verdict = .undecided := hundecided
  have hi' : ((m.withStates states).stateAt m.active).ignore.skips symbol = false := by
    rw [stateAt_withStates h.rebranched]
    exact hi
  rw [parse_classified m symbol hstarted hi _ tracker hc] at hm ⊢
  rw [parse_classified (m.withStates states) symbol hstarted hi' _ tracker' hc']
  refine ⟨rfl, ?_⟩
  rcases hfurther hm with hentered | ⟨hwaited, hmoved⟩
  · obtain rfl : verdict' = .enter branch := hentered
    exact Or.inl (enter_chain _ branch)
  · obtain rfl : verdict' = .undecided := hwaited
    exact Or.inr ⟨rfl, hmoved⟩

end Run

structure Repeated (m : Machine Memory) (id branch : StateId) : Prop where
  prestart : (m.addBranch id branch).prestart =
    m.prestart.map (·.withStates (m.addBranch id branch).states)
  agrees_iff : ∀ started, m.prestart = .ok started → ∀ text,
    (started.withStates (m.addBranch id branch).states).outcomes text =
        (started.outcomes text).map (·.withStates (m.addBranch id branch).states) ↔
      started.Single id branch text
  /-- A symbol that matches two elements is counted twice. -/
  further : ∀ started, m.prestart = .ok started → ∀ text symbol once again,
    once = (started.feed text).parse symbol →
    again = ((started.feed text).withStates (m.addBranch id branch).states).parse symbol →
    (started.feed text).Doubled id branch symbol →
    (m.stateAt branch).entry.matchesAt
      ((Candidate.entry branch).progress once.machine.tracker) symbol = true →
    once.machine.status = .wait ∧
      (again.machine.chain = once.machine.chain ++ [branch] ∨
        again.machine.status = .wait ∧
          (Candidate.entry branch).progress again.machine.tracker =
            (Candidate.entry branch).progress once.machine.tracker + 1)
  short : ∀ started, m.prestart = .ok started → (m.stateAt branch).entry.length ≤ 1 →
    ∀ text, (∀ outcome ∈ started.outcomes text, ∀ buffer failure,
      .entering branch buffer (.error failure) ∉ outcome.journal) →
    started.Single id branch text

/-- A branch that is listed again is as good as one that is listed once, unless a symbol matches
two neighbours in its entry or its entry would be followed alone. -/
theorem repetition_shows_iff_doubled {m : Machine Memory} (hr : Reachable m) {id branch : StateId}
    (hb : branch ∈ (m.stateAt id).branches) : Repeated m id branch := by
  have hl := addBranch_listedAgain hb
  have hstart {started : Machine Memory} (hok : m.prestart = .ok started) :
      started.states = m.states ∧ started.started = true ∧ Sound started := by
    obtain ⟨rfl, hc⟩ := prestart_ok hok
    exact ⟨rfl, rfl, fresh_sound hr.sound hc⟩
  constructor
  · exact addBranch_prestart hb
  · intro started hok text
    obtain ⟨hstates, hstarted, hs⟩ := hstart hok
    exact outcomes_again_iff (by rwa [hstates]) hs hstarted text
  · rintro started hok text symbol once again rfl rfl hd hm
    obtain ⟨hstates, hstarted, hs⟩ := hstart hok
    obtain ⟨hfed, -, hrunning⟩ := feed_setup started text
    rw [← hfed] at hstates
    have hsound := feed_keeps (fun n symbol => parse_sound symbol) started text hs
    refine parse_further (by rwa [hstates]) hsound (hrunning.trans hstarted) hd ?_
    rwa [hstates]
  · intro started hok hshort text hn
    obtain ⟨hstates, hstarted, hs⟩ := hstart hok
    obtain ⟨rfl, -⟩ := prestart_ok hok
    exact single_of_short (by rwa [hstates]) hs hstarted hshort
      (Candidate.progress_reset m.tracker (.entry branch)) hn

def words (entries : List String) : Machine Nat :=
  (withOptions {} 0).calls
    (.addState { name := "root", branches := List.range' 1 entries.length } ::
      entries.map fun entry => .addState {
        name := entry, entry := Pattern.ofText entry
        onEnter := some fun memory text => (.ok (), memory + text.length) })

theorem words_single : Reachable (words ["ab", "ac"]) ∧
    ((words ["ab", "ac"]).fresh.feed ['a', 'b']).chain = [0, 1] ∧
    ∃ again, ((words ["ab", "ac"]).addBranch 0 1).prestart = .ok again ∧
      (again.feed ['a', 'b']).chain = [0, 1] ∧
      again.outcomes ['a', 'b'] =
        ((words ["ab", "ac"]).fresh.outcomes ['a', 'b']).map (·.withStates again.states) := by
  have hr : Reachable (words ["ab", "ac"]) := ⟨_, _, _, rfl⟩
  have hlisted : 1 ∈ ((words ["ab", "ac"]).stateAt 0).branches := by decide
  have hall := repetition_shows_iff_doubled hr hlisted
  exact ⟨hr, rfl, _, hall.prestart, rfl, (hall.agrees_iff _ rfl ['a', 'b']).mpr (by decide)⟩

/-- A word of one letter twice is entered on the first of them. -/
theorem words_doubled : Reachable (words ["aa"]) ∧ 1 ∈ ((words ["aa"]).stateAt 0).branches ∧
    (∃ once, (words ["aa"]).prestart = .ok once ∧
      (once.parse 'a').machine.status = .wait ∧ (once.parse 'a').machine.chain = [0] ∧
      (once.parse 'a').machine.progress 1 = some (1, 0) ∧ (once.parse 'a').journal.calls = []) ∧
    ∃ again, ((words ["aa"]).addBranch 0 1).prestart = .ok again ∧
      (again.parse 'a').machine.status = .branch ∧ (again.parse 'a').machine.chain = [0, 1] ∧
      (again.parse 'a').machine.progress 1 = some (0, 0) ∧
      (again.parse 'a').journal.calls = [.entering 1 ['a'] (.ok ())] :=
  ⟨⟨_, _, _, rfl⟩, by decide, ⟨_, rfl, rfl, rfl, rfl, rfl⟩, _, rfl, rfl, rfl, rfl, rfl⟩

end Machine

end StateNest
