import StateNest.Tracker

/-!
# What a classified symbol moves

A step through a pattern never leads past its end, and a pattern that is lost
starts over. Classifying a symbol moves only the leave progress of the active
state and the entry progress of its branches, and it keeps a candidate only
among these branches.
-/

set_option autoImplicit false

namespace StateNest

namespace Pattern

theorem step_le (pattern : Pattern) (progress : Nat) (symbol : Char) :
    (pattern.step progress symbol).2 ≤ pattern.length := by
  unfold step
  split
  · next hm =>
    have hl := lt_length_of_matchesAt hm
    split <;> exact hl
  · split
    · next position hc =>
      have hp := (lastMatch_some hc).1
      simp only
      omega
    · exact Nat.zero_le _

theorem step_lost {pattern : Pattern} {progress : Nat} {symbol : Char}
    (h : (pattern.step progress symbol).1 = .lost) : (pattern.step progress symbol).2 = 0 := by
  unfold step at h ⊢
  split at h
  · split at h <;> simp at h
  · split at h
    · simp at h
    · next hm _ _ => simp [hm]

end Pattern

namespace Tracker

section Moves

variable {Memory : Type} (states : List (State Memory)) (symbol : Char)

@[simp] theorem stepEntry_phase (t : Tracker) (id : StateId) :
    (stepEntry states symbol t id).2.phase = t.phase := rfl

@[simp] theorem stepEntry_leave (t : Tracker) (id : StateId) :
    (stepEntry states symbol t id).2.leave = t.leave := rfl

@[simp] theorem stepLeave_phase (t : Tracker) (id : StateId) :
    (stepLeave states symbol t id).2.phase = t.phase := rfl

@[simp] theorem stepLeave_entry (t : Tracker) (id : StateId) :
    (stepLeave states symbol t id).2.entry = t.entry := rfl

theorem getD_set (l : List Nat) (i j a : Nat) :
    (l.set i a).getD j 0 = if i = j ∧ i < l.length then a else l.getD j 0 := by
  simp only [List.getD_eq_getElem?_getD, List.getElem?_set]
  by_cases hij : i = j
  · subst hij
    by_cases hi : i < l.length <;> simp [hi]
  · simp [hij]

theorem stepEntry_frame (t : Tracker) (id other : StateId) (h : other ≠ id) :
    (stepEntry states symbol t id).2.entry.getD other 0 = t.entry.getD other 0 := by
  change (t.entry.set id _).getD other 0 = _
  rw [getD_set, if_neg (fun hc => h hc.1.symm)]

theorem stepLeave_frame (t : Tracker) (id other : StateId) (h : other ≠ id) :
    (stepLeave states symbol t id).2.leave.getD other 0 = t.leave.getD other 0 := by
  change (t.leave.set id _).getD other 0 = _
  rw [getD_set, if_neg (fun hc => h hc.1.symm)]

theorem getD_set_zero (l : List Nat) (i : Nat) : (l.set i 0).getD i 0 = 0 := by
  rw [getD_set]
  split
  · rfl
  · next hn =>
    have hl : l.length ≤ i := by simpa using hn
    simp [List.getD_eq_getElem?_getD, hl]

theorem stepEntry_lost (t : Tracker) (id : StateId)
    (h : (stepEntry states symbol t id).1 = .lost) :
    (stepEntry states symbol t id).2.entry.getD id 0 = 0 := by
  change (t.entry.set id (Pattern.step _ _ _).2).getD id 0 = 0
  rw [Pattern.step_lost h]
  exact getD_set_zero _ _

theorem stepLeave_lost (t : Tracker) (id : StateId)
    (h : (stepLeave states symbol t id).1 = .lost) :
    (stepLeave states symbol t id).2.leave.getD id 0 = 0 := by
  change (t.leave.set id (Pattern.step _ _ _).2).getD id 0 = 0
  rw [Pattern.step_lost h]
  exact getD_set_zero _ _

/-- All that moving the entries of some branches can do. Unless one of them completes, `ids` are
the live ones in order, and what is not live has been lost. -/
theorem stepBranches_cases (branches : List StateId) (t : Tracker) (live : Nat)
    (candidate : Option StateId) :
    (∃ branch ∈ branches, ∃ moved : Tracker, moved.phase = t.phase ∧
      stepBranches states symbol branches t live candidate = (.enter branch, moved)) ∨
    ∃ (moved : Tracker) (ids : List StateId),
      stepBranches states symbol branches t live candidate =
        settle moved (live + ids.length) (ids.getLast?.or candidate) ∧
      moved.phase = t.phase ∧ moved.leave = t.leave ∧ (∀ id ∈ ids, id ∈ branches) ∧
      (∀ id, id ∉ branches → moved.entry.getD id 0 = t.entry.getD id 0) ∧
      ∀ id ∈ branches, id ∉ ids → moved.entry.getD id 0 = 0 := by
  induction branches generalizing t live candidate with
  | nil => exact Or.inr ⟨t, [], rfl, rfl, rfl, by simp, by simp, by simp⟩
  | cons branch branches ih =>
    have hf := stepEntry_frame states symbol t branch
    have hl := stepEntry_lost states symbol t branch
    have hphase := stepEntry_phase states symbol t branch
    have hleave := stepEntry_leave states symbol t branch
    rw [stepBranches]
    split
    · next stepped hs =>
      rw [hs] at hphase
      exact Or.inl ⟨branch, by simp, stepped, hphase, rfl⟩
    · next stepped hs =>
      rw [hs] at hf hl hphase hleave
      rcases ih stepped live candidate with
        ⟨b, hb, moved, hm, he⟩ | ⟨moved, ids, he, hm, hv, hi, hout, hzero⟩
      · exact Or.inl ⟨b, by simp [hb], moved, hm.trans hphase, he⟩
      · refine Or.inr ⟨moved, ids, he, hm.trans hphase, hv.trans hleave,
          fun id h => by simp [hi id h], ?_, ?_⟩
        · intro id hid
          rw [List.mem_cons, not_or] at hid
          rw [hout id hid.2, hf id hid.1]
        · intro id hid hn
          by_cases hr : id ∈ branches
          · exact hzero id hr hn
          · obtain rfl : id = branch := (List.mem_cons.mp hid).resolve_right hr
            rw [hout id hr, hl rfl]
    · next outcome stepped hc hlost hs =>
      rw [hs] at hf hphase hleave
      rcases ih stepped (live + 1) (some branch) with
        ⟨b, hb, moved, hm, he⟩ | ⟨moved, ids, he, hm, hv, hi, hout, hzero⟩
      · exact Or.inl ⟨b, by simp [hb], moved, hm.trans hphase, he⟩
      · refine Or.inr ⟨moved, branch :: ids, ?_, hm.trans hphase, hv.trans hleave, ?_, ?_, ?_⟩
        · rw [he, List.length_cons, List.getLast?_cons]
          congr 1
          · omega
          · cases ids.getLast? <;> rfl
        · intro id hid
          rcases List.mem_cons.mp hid with rfl | hid
          · simp
          · simp [hi id hid]
        · intro id hid
          rw [List.mem_cons, not_or] at hid
          rw [hout id hid.2, hf id hid.1]
        · intro id hid hn
          rw [List.mem_cons, not_or] at hn
          exact hzero id ((List.mem_cons.mp hid).resolve_left hn.1) hn.2

/-- All that a symbol can do while several patterns are followed: the leave completes, an entry
completes, or all have been moved and `left` tells whether the leave is live. -/
theorem undetermined_cases (t : Tracker) (active : StateId) :
    ((undetermined states symbol t active).1 = .pop ∧
      (undetermined states symbol t active).2.phase = t.phase) ∨
    (∃ branch ∈ (stateAt states active).branches,
      (undetermined states symbol t active).1 = .enter branch ∧
      (undetermined states symbol t active).2.phase = t.phase) ∨
    ∃ (moved : Tracker) (ids : List StateId) (left : Nat),
      undetermined states symbol t active =
        settle moved (left + ids.length) ids.getLast? ∧
      moved.phase = t.phase ∧ (∀ id ∈ ids, id ∈ (stateAt states active).branches) ∧
      (∀ id, id ∉ (stateAt states active).branches →
        moved.entry.getD id 0 = t.entry.getD id 0) ∧
      (∀ id ∈ (stateAt states active).branches, id ∉ ids → moved.entry.getD id 0 = 0) ∧
      (∀ id, id ≠ active → moved.leave.getD id 0 = t.leave.getD id 0) ∧
      (left = 0 → moved.leave.getD active 0 = 0) := by
  have hf := stepLeave_frame states symbol t active
  have hl := stepLeave_lost states symbol t active
  have hphase := stepLeave_phase states symbol t active
  have hentry := stepLeave_entry states symbol t active
  unfold undetermined
  split
  · next stepped hs =>
    rw [hs] at hphase
    exact Or.inl ⟨rfl, hphase⟩
  · next outcome stepped hc hs =>
    rw [hs] at hf hl hphase hentry
    rcases stepBranches_cases states symbol (stateAt states active).branches stepped
        (if outcome.isLive then 1 else 0) none with
      ⟨b, hb, moved, hm, he⟩ | ⟨moved, ids, he, hm, hv, hi, hout, hzero⟩
    · rw [he]
      exact Or.inr (Or.inl ⟨b, hb, rfl, hm.trans hphase⟩)
    · refine Or.inr (Or.inr ⟨moved, ids, _, by rw [he, Option.or_none], hm.trans hphase, hi,
        fun id hid => (hout id hid).trans (by rw [hentry]), hzero,
        fun id hid => by rw [hv]; exact hf id hid, fun hleft => ?_⟩)
      rw [hv]
      cases outcome with
      | complete => exact (hc rfl).elim
      | lost => exact hl rfl
      | advanced => simp [Step.isLive] at hleft
      | backtracked => simp [Step.isLive] at hleft

theorem settle_phase (t : Tracker) (live : Nat) (candidate : Option StateId) :
    (settle t live candidate).2.phase = t.phase ∨
      (settle t live candidate).1 = .undecided ∧
      ((settle t live candidate).2.phase = .leaving ∨
        ∃ branch, candidate = some branch ∧
          (settle t live candidate).2.phase = .entering branch) := by
  unfold settle
  split <;> simp

theorem settle_verdict (t : Tracker) (live : Nat) (candidate : Option StateId) :
    (settle t live candidate).1 = if live = 0 then .miss else .undecided := by
  unfold settle
  split <;> simp_all

/-- A decision leaves every pattern followed again. -/
theorem classify_released (t : Tracker) (active : StateId)
    (h : (classify states symbol t active).1 ≠ .undecided) :
    (classify states symbol t active).2.phase = .undetermined := by
  unfold classify at h ⊢
  split at h
  · next hp =>
    rcases undetermined_cases states symbol t active with
      ⟨_, hph⟩ | ⟨_, _, _, hph⟩ | ⟨moved, ids, left, he, hph, _⟩
    · exact hph.trans hp
    · exact hph.trans hp
    · rw [he] at h ⊢
      rcases settle_phase moved (left + ids.length) ids.getLast? with hs | ⟨hu, _⟩
      · exact hs.trans (hph.trans hp)
      · exact absurd hu h
  · unfold locked at h ⊢
    split <;> simp_all
  · unfold locked at h ⊢
    split <;> simp_all

variable {states symbol} in
theorem phase_of_decided {t moved : Tracker} {active : StateId} {verdict : Verdict}
    (hc : classify states symbol t active = (verdict, moved)) (hv : verdict ≠ .undecided) :
    moved.phase = .undetermined := by
  have hr := classify_released states symbol t active
  rw [hc] at hr
  exact hr hv

/-- A candidate, kept or entered, was one before or is a branch of the active state. -/
theorem classify_target (t : Tracker) (active target : StateId)
    (h : (classify states symbol t active).1 = .enter target ∨
      (classify states symbol t active).2.phase = .entering target) :
    t.phase = .entering target ∨ target ∈ (stateAt states active).branches := by
  unfold classify at h
  split at h
  · next hp =>
    right
    rcases undetermined_cases states symbol t active with
      ⟨hv, hph⟩ | ⟨branch, hb, hv, hph⟩ | ⟨moved, ids, left, he, hph, hi, _⟩
    · simp [hv, hph, hp] at h
    · simp only [hv, hph, hp, Verdict.enter.injEq, reduceCtorEq, or_false] at h
      exact h ▸ hb
    · rw [he, settle_verdict] at h
      rcases settle_phase moved (left + ids.length) ids.getLast? with hs | ⟨_, hs | ⟨b, hb, hs⟩⟩
      · rw [hs, hph, hp] at h
        split at h <;> simp at h
      · rw [hs] at h
        split at h <;> simp at h
      · rw [hs] at h
        have hbt : b = target := by split at h <;> simpa using h
        exact hi target (hbt ▸ List.mem_of_getLast? hb)
  · next candidate hp =>
    left
    have hph := stepEntry_phase states symbol t candidate
    unfold locked at h
    split at h
    · simpa [hp] using h
    · simp at h
    · next outcome stepped _ _ hs =>
      rw [hs] at hph
      change stepped.phase = t.phase at hph
      simpa [hph] using h
  · next hp =>
    have hph := stepLeave_phase states symbol t active
    unfold locked at h
    split at h
    · simp at h
    · simp at h
    · next outcome stepped _ _ hs =>
      rw [hs] at hph
      change stepped.phase = t.phase at hph
      simp [hph, hp] at h

section Keeping

/-- A symbol has kept a property of the counters. What it decides for, it decides for by a step
that completes a pattern while they had this property. -/
structure Keeping (P : Tracker → Prop) (active : StateId) (decided : Verdict × Tracker) : Prop where
  kept : P decided.2
  entered : ∀ target, decided.1 = .enter target →
    ∃ t, P t ∧ (stepEntry states symbol t target).1 = .complete
  left : decided.1 = .pop → ∃ t, P t ∧ (stepLeave states symbol t active).1 = .complete

variable {P : Tracker → Prop} (hp : ∀ t phase, P t → P { t with phase }) (active : StateId)

include hp in
theorem settle_keeping (t : Tracker) (live : Nat) (candidate : Option StateId) (h : P t) :
    Keeping states symbol P active (settle t live candidate) := by
  have hv := settle_verdict t live candidate
  constructor
  · unfold settle
    split
    · exact h
    · exact hp t _ h
    · exact hp t _ h
    · exact h
  · intro target ht
    rw [hv] at ht
    split at ht <;> simp at ht
  · intro ht
    rw [hv] at ht
    split at ht <;> simp at ht

include hp in
theorem locked_keeping (complete : Verdict) (stepped : Step × Tracker) (h : P stepped.2)
    (he : ∀ target, complete = .enter target → stepped.1 = .complete →
      ∃ t, P t ∧ (stepEntry states symbol t target).1 = .complete)
    (hl : complete = .pop → stepped.1 = .complete →
      ∃ t, P t ∧ (stepLeave states symbol t active).1 = .complete) :
    Keeping states symbol P active (locked complete stepped) := by
  rcases stepped with ⟨outcome, moved⟩
  cases outcome with
  | complete => exact ⟨hp _ _ h, fun target ht => he target ht rfl, fun ht => hl ht rfl⟩
  | lost => exact ⟨hp _ _ h, nofun, nofun⟩
  | advanced => exact ⟨h, nofun, nofun⟩
  | backtracked => exact ⟨h, nofun, nofun⟩

include hp in
theorem stepBranches_keeping (branches : List StateId)
    (he : ∀ t, ∀ id ∈ branches, P t → P (stepEntry states symbol t id).2) (t : Tracker)
    (live : Nat) (candidate : Option StateId) (h : P t) :
    Keeping states symbol P active (stepBranches states symbol branches t live candidate) := by
  induction branches generalizing t live candidate with
  | nil => exact settle_keeping states symbol hp active t live candidate h
  | cons branch branches ih =>
    have hs := he t branch List.mem_cons_self h
    have hrest := ih fun t id hid => he t id (List.mem_cons_of_mem _ hid)
    rw [stepBranches]
    split
    · next stepped hc =>
      rw [hc] at hs
      refine ⟨hs, fun target ht => ?_, nofun⟩
      obtain rfl := Verdict.enter.inj ht
      exact ⟨t, h, by rw [hc]⟩
    · next stepped hc => exact hrest _ _ _ (by rwa [hc] at hs)
    · next stepped _ _ hc => exact hrest _ _ _ (by rwa [hc] at hs)

include hp in
/-- What every step through a followed pattern and every change of the phase keeps, a symbol
keeps. -/
theorem classify_keeping (t : Tracker)
    (he : ∀ u id, t.phase = .entering id ∨ id ∈ (stateAt states active).branches → P u →
      P (stepEntry states symbol u id).2)
    (hl : ∀ u, P u → P (stepLeave states symbol u active).2) (h : P t) :
    Keeping states symbol P active (classify states symbol t active) := by
  have hs := hl t h
  unfold classify
  split
  · unfold undetermined
    split
    · next stepped hc =>
      rw [hc] at hs
      exact ⟨hs, nofun, fun _ => ⟨t, h, by rw [hc]⟩⟩
    · next stepped _ hc =>
      apply stepBranches_keeping states symbol hp active _ fun u id hid => he u id (Or.inr hid)
      rwa [hc] at hs
  · next target hphase =>
    apply locked_keeping states symbol hp active _ _ (he t target (Or.inl hphase) h)
    · intro other ho hc
      obtain rfl := Verdict.enter.inj ho
      exact ⟨t, h, hc⟩
    · nofun
  · exact locked_keeping states symbol hp active _ _ hs nofun fun _ hc => ⟨t, h, hc⟩

end Keeping

def Sized (t : Tracker) (count : Nat) : Prop :=
  t.entry.length = count ∧ t.leave.length = count

def Within (t : Tracker) : Prop :=
  (∀ id, t.entry.getD id 0 ≤ (stateAt states id).entry.length) ∧
    ∀ id, t.leave.getD id 0 ≤ (stateAt states id).leave.length

theorem stepEntry_within (t : Tracker) (id : StateId) (h : Within states t) :
    Within states (stepEntry states symbol t id).2 := by
  refine ⟨fun other => ?_, h.2⟩
  change (t.entry.set id (Pattern.step _ _ _).2).getD other 0 ≤ _
  rw [getD_set]
  split
  · next heq => exact heq.1 ▸ Pattern.step_le _ _ _
  · exact h.1 other

theorem stepLeave_within (t : Tracker) (id : StateId) (h : Within states t) :
    Within states (stepLeave states symbol t id).2 := by
  refine ⟨h.1, fun other => ?_⟩
  change (t.leave.set id (Pattern.step _ _ _).2).getD other 0 ≤ _
  rw [getD_set]
  split
  · next heq => exact heq.1 ▸ Pattern.step_le _ _ _
  · exact h.2 other

theorem stepEntry_sized {count : Nat} (t : Tracker) (id : StateId) (h : t.Sized count) :
    (stepEntry states symbol t id).2.Sized count :=
  ⟨List.length_set.trans h.1, h.2⟩

theorem stepLeave_sized {count : Nat} (t : Tracker) (id : StateId) (h : t.Sized count) :
    (stepLeave states symbol t id).2.Sized count :=
  ⟨h.1, List.length_set.trans h.2⟩

theorem classify_sized {count : Nat} (t : Tracker) (active : StateId) (h : t.Sized count) :
    (classify states symbol t active).2.Sized count :=
  (classify_keeping (P := fun t => t.Sized count) states symbol (fun _ _ h => h) active t
    (fun u id _ => stepEntry_sized states symbol u id)
    (fun u => stepLeave_sized states symbol u active) h).kept

theorem classify_within (t : Tracker) (active : StateId) (h : Within states t) :
    Within states (classify states symbol t active).2 :=
  (classify_keeping states symbol (fun _ _ h => h) active t
    (fun u id _ => stepEntry_within states symbol u id)
    (fun u => stepLeave_within states symbol u active) h).kept

end Moves

def blank (count : Nat) : Tracker where
  phase := .undetermined
  entry := List.replicate count 0
  leave := List.replicate count 0

theorem track_sized {count : Nat} (t : Tracker) (h : t.Sized count) :
    t.track.Sized (count + 1) := by
  simp [track, Sized, h.1, h.2]

theorem reset_blank {count : Nat} (t : Tracker) (h : t.Sized count) : t.reset = blank count := by
  simp [reset, blank, List.map_const', h.1, h.2]

theorem reset_sized {count : Nat} (t : Tracker) (h : t.Sized count) : t.reset.Sized count := by
  simp [reset, Sized, h.1, h.2]

theorem getD_map_zero (l : List Nat) (id : StateId) : (l.map fun _ => 0).getD id 0 = 0 := by
  simp only [List.getD_eq_getElem?_getD, List.getElem?_map]
  cases l[id]? <;> rfl

theorem reset_within {Memory : Type} (states : List (State Memory)) (t : Tracker) :
    Within states t.reset := by
  constructor <;> intro id <;> simp only [reset, getD_map_zero, Nat.zero_le]

theorem progress_eq {count : Nat} (t : Tracker) (h : t.Sized count) (id : StateId) :
    t.progress id = if id < count then some (t.entry.getD id 0, t.leave.getD id 0) else none := by
  unfold progress
  split
  · next hi =>
    have he : id < t.entry.length := h.1 ▸ hi
    have hl : id < t.leave.length := h.2 ▸ hi
    simp [List.getD_eq_getElem?_getD, he, hl]
  · next hi =>
    have he : t.entry.length ≤ id := h.1 ▸ Nat.le_of_not_lt hi
    simp [he]

theorem progress_of_lt {count : Nat} {t : Tracker} (h : t.Sized count) {id : StateId}
    (hid : id < count) : t.progress id = some (t.entry.getD id 0, t.leave.getD id 0) :=
  (progress_eq t h id).trans (if_pos hid)

theorem blank_progress {count : Nat} (id : StateId) (h : id < count) :
    (blank count).progress id = some (0, 0) := by
  simp [progress, blank, h]

end Tracker
end StateNest
