import StateNest.Proofs.Candidate

/-!
# One round through the patterns that are followed

A symbol is tried on the patterns that are followed, one after the other, until one
is complete. This holds of any list of branches: a branch that is listed twice is
moved twice, the second time from where the first one has led. What is decided at
the end of the round is a matter of the patterns that were live in their turn.
-/

set_option autoImplicit false

namespace StateNest

namespace Pattern

variable {pattern : Pattern} {progress : Nat} {symbol : Char}

def Took (pattern : Pattern) (symbol : Char) (progress : Nat) : Prop :=
  progress = 0 ∧ pattern.matchesAt 0 symbol = false ∨
    0 < progress ∧ pattern.matchesAt (progress - 1) symbol = true

theorem step_took : pattern.Took symbol (pattern.step progress symbol).2 := by
  have hm := step_moved pattern progress symbol
  generalize pattern.step progress symbol = moved at hm
  cases hm with
  | completed found last => exact Or.inr ⟨Nat.succ_pos _, found⟩
  | advanced found more => exact Or.inr ⟨Nat.succ_pos _, found⟩
  | backtracked position lt found closest => exact Or.inr ⟨Nat.succ_pos _, found⟩
  | lost nowhere => exact Or.inl ⟨rfl, nowhere 0 (Nat.zero_le _)⟩

/-- Moved by the same symbol again, the progress stays unless the symbol matches one more
element. -/
theorem Took.step (h : pattern.Took symbol progress)
    (hn : pattern.matchesAt progress symbol = false) :
    pattern.step progress symbol = (if progress = 0 then .lost else .backtracked, progress) := by
  have hm := step_moved pattern progress symbol
  generalize pattern.step progress symbol = moved at hm ⊢
  cases hm with
  | completed found last => simp [hn] at found
  | advanced found more => simp [hn] at found
  | backtracked position lt found closest =>
    rcases h with ⟨rfl, -⟩ | ⟨hpos, hlast⟩
    · omega
    · have hhere : ¬ position < progress - 1 := by
        intro hearlier
        rw [closest (progress - 1) hearlier (Nat.sub_le _ _)] at hlast
        exact absurd hlast (by simp)
      have hsame : position + 1 = progress := by omega
      rw [hsame, if_neg (Nat.ne_of_gt hpos)]
  | lost nowhere =>
    rcases h with ⟨rfl, -⟩ | ⟨hpos, hlast⟩
    · rfl
    · rw [nowhere (progress - 1) (Nat.sub_le _ _)] at hlast
      exact absurd hlast (by simp)

/-- A symbol that has moved a pattern neither loses it nor gains it when it moves it again. -/
theorem Took.pos_iff (h : pattern.Took symbol progress) :
    0 < (pattern.step progress symbol).2 ↔ 0 < progress := by
  cases hm : pattern.matchesAt progress symbol with
  | false => rw [h.step hm]
  | true =>
    rw [step_matched hm]
    rcases h with ⟨rfl, hnone⟩ | ⟨hpos, -⟩
    · rw [hnone] at hm
      exact absurd hm (by simp)
    · exact iff_of_true (Nat.succ_pos _) hpos

theorem isLive_iff (hc : (pattern.step progress symbol).1 ≠ .complete) :
    (pattern.step progress symbol).1.isLive = true ↔ 0 < (pattern.step progress symbol).2 := by
  have hm := step_moved pattern progress symbol
  generalize pattern.step progress symbol = moved at hm hc ⊢
  cases hm with
  | completed found last => simp at hc
  | advanced found more => simp [Step.isLive]
  | backtracked position lt found closest => simp [Step.isLive]
  | lost nowhere => simp [Step.isLive]

end Pattern

namespace Candidate

open Tracker

variable {Memory : Type} (states : List (State Memory)) (symbol : Char)

def stepped (t : Tracker) : Candidate → Tracker
  | .leave id => (stepLeave states symbol t id).2
  | .entry id => (stepEntry states symbol t id).2

def round (t : Tracker) (list : List Candidate) : Tracker :=
  list.foldl (fun t c => c.stepped states symbol t) t

def Passes (t : Tracker) : List Candidate → Prop
  | [] => True
  | c :: rest =>
    (c.moved states symbol t).1 ≠ .complete ∧ Passes (c.stepped states symbol t) rest

def liveIn (t : Tracker) : List Candidate → List Candidate
  | [] => []
  | c :: rest =>
    if (c.moved states symbol t).1.isLive then c :: liveIn (c.stepped states symbol t) rest
    else liveIn (c.stepped states symbol t) rest

def settled (t : Tracker) : List Candidate → Verdict × Tracker
  | [] => (.miss, { t with phase := .undetermined })
  | [c] => (.undecided, { t with phase := c.lock })
  | _ :: _ :: _ => (.undecided, t)

def branch? : Candidate → Option StateId
  | .leave _ => none
  | .entry id => some id

theorem stepped_phase (t : Tracker) (c : Candidate) :
    (c.stepped states symbol t).phase = t.phase := by
  cases c <;> rfl

theorem stepped_unmoved (t : Tracker) {c d : Candidate} (h : d ≠ c) :
    d.progress (c.stepped states symbol t) = d.progress t := by
  cases c with
  | leave id => exact stepLeave_unmoved states symbol t id h
  | entry id => exact stepEntry_unmoved states symbol t id h

theorem stepped_sized {count : Nat} {t : Tracker} (h : t.Sized count) (c : Candidate) :
    (c.stepped states symbol t).Sized count := by
  cases c with
  | leave id => exact stepLeave_sized states symbol t id h
  | entry id => exact stepEntry_sized states symbol t id h

theorem stepped_progress {count : Nat} {t : Tracker} (h : t.Sized count) {c : Candidate}
    (hc : c.state < count) : c.progress (c.stepped states symbol t) = (c.moved states symbol t).2 := by
  cases c with
  | leave id =>
    exact (stepLeave_progress states symbol (h.2 ▸ hc) (.leave id)).trans (if_pos rfl)
  | entry id =>
    exact (stepEntry_progress states symbol (h.1 ▸ hc) (.entry id)).trans (if_pos rfl)

theorem round_append (t : Tracker) (first second : List Candidate) :
    round states symbol t (first ++ second) =
      round states symbol (round states symbol t first) second :=
  List.foldl_append

theorem round_phase (t : Tracker) (list : List Candidate) :
    (round states symbol t list).phase = t.phase := by
  induction list generalizing t with
  | nil => rfl
  | cons c list ih => exact (ih _).trans (stepped_phase states symbol t c)

theorem round_sized {count : Nat} {t : Tracker} (h : t.Sized count) (list : List Candidate) :
    (round states symbol t list).Sized count := by
  induction list generalizing t with
  | nil => exact h
  | cons c list ih => exact ih (stepped_sized states symbol h c)

theorem round_unmoved (t : Tracker) {list : List Candidate} {d : Candidate} (h : d ∉ list) :
    d.progress (round states symbol t list) = d.progress t := by
  induction list generalizing t with
  | nil => rfl
  | cons c list ih =>
    obtain ⟨hc, hlist⟩ := not_or.mp (mt List.mem_cons.mpr h)
    exact (ih _ hlist).trans (stepped_unmoved states symbol t hc)

theorem passes_append {t : Tracker} {first second : List Candidate} :
    Passes states symbol t (first ++ second) ↔
      Passes states symbol t first ∧
        Passes states symbol (round states symbol t first) second := by
  induction first generalizing t with
  | nil => simp [Passes, round]
  | cons c first ih => rw [List.cons_append, Passes, Passes, ih, and_assoc]; rfl

theorem liveIn_append (t : Tracker) (first second : List Candidate) :
    liveIn states symbol t (first ++ second) =
      liveIn states symbol t first ++
        liveIn states symbol (round states symbol t first) second := by
  induction first generalizing t with
  | nil => rfl
  | cons c first ih =>
    rw [List.cons_append, liveIn, liveIn, ih]
    split <;> rfl

theorem liveIn_subset (t : Tracker) (list : List Candidate) : liveIn states symbol t list ⊆ list := by
  induction list generalizing t with
  | nil => exact List.Subset.refl _
  | cons c list ih =>
    rw [liveIn]
    split
    · exact List.cons_subset_cons c (ih _)
    · exact List.subset_cons_of_subset c (ih _)

theorem passes_or_completes (t : Tracker) (list : List Candidate) :
    Passes states symbol t list ∨ ∃ before c rest, list = before ++ c :: rest ∧
      Passes states symbol t before ∧
      (c.moved states symbol (round states symbol t before)).1 = .complete := by
  induction list generalizing t with
  | nil => exact Or.inl trivial
  | cons c list ih =>
    by_cases hc : (c.moved states symbol t).1 = .complete
    · exact Or.inr ⟨[], c, list, rfl, trivial, hc⟩
    · rcases ih (c.stepped states symbol t) with hp | ⟨before, d, rest, hlist, hp, hd⟩
      · exact Or.inl ⟨hc, hp⟩
      · exact Or.inr ⟨c :: before, d, rest, by rw [hlist]; rfl, ⟨hc, hp⟩, hd⟩

theorem settle_eq_settled {t : Tracker} (ht : t.phase = .undetermined) (list : List Candidate) :
    settle t list.length (list.getLast?.bind branch?) = settled t list := by
  match list with
  | [] => rw [settled, ← ht]; rfl
  | [.leave id] => rfl
  | [.entry id] => rfl
  | first :: second :: rest => rfl

/-- All branches of a list are moved, after those of `earlier` were live. -/
theorem stepBranches_passed (branches : List StateId) {t : Tracker} (ht : t.phase = .undetermined)
    (hp : Passes states symbol t (branches.map .entry)) (earlier : List Candidate) :
    stepBranches states symbol branches t earlier.length (earlier.getLast?.bind branch?) =
      settled (round states symbol t (branches.map .entry))
        (earlier ++ liveIn states symbol t (branches.map .entry)) := by
  induction branches generalizing t earlier with
  | nil =>
    rw [stepBranches, settle_eq_settled ht, List.map_nil, liveIn, List.append_nil]
    rfl
  | cons branch branches ih =>
    obtain ⟨hc, hp⟩ := hp
    have hnext := ih ((stepped_phase states symbol t (.entry branch)).trans ht) hp
    have hround : round states symbol t (.entry branch :: branches.map .entry) =
        round states symbol (stepped states symbol t (.entry branch)) (branches.map .entry) := rfl
    rcases hs : stepEntry states symbol t branch with ⟨outcome, after⟩
    have hout : ((entry branch).moved states symbol t).1 = outcome := congrArg Prod.fst hs
    have hafter : (entry branch).stepped states symbol t = after := congrArg Prod.snd hs
    rw [hout] at hc
    rw [hafter] at hnext
    rw [stepBranches_next states symbol hs hc, List.map_cons, hround, liveIn, hout, hafter]
    cases outcome.isLive with
    | false => exact hnext earlier
    | true =>
      have hlonger := hnext (earlier ++ [.entry branch])
      rw [List.length_append, List.getLast?_concat, List.append_assoc] at hlonger
      exact hlonger

theorem stepBranches_completed (before : List StateId) (branch : StateId) (rest : List StateId)
    {t : Tracker} (hp : Passes states symbol t (before.map .entry))
    (hc : ((entry branch).moved states symbol
      (round states symbol t (before.map .entry))).1 = .complete)
    (live : Nat) (candidate : Option StateId) :
    stepBranches states symbol (before ++ branch :: rest) t live candidate =
      (.enter branch, (entry branch).stepped states symbol
        (round states symbol t (before.map .entry))) := by
  induction before generalizing t live candidate with
  | nil =>
    have hs : stepEntry states symbol t branch =
        (.complete, (entry branch).stepped states symbol t) := Prod.ext hc rfl
    rw [List.nil_append, stepBranches, hs]
    rfl
  | cons other before ih =>
    obtain ⟨hother, hp⟩ := hp
    rw [List.cons_append, stepBranches_next states symbol rfl hother]
    exact ih hp hc _ _

theorem undetermined_passed {t : Tracker} {active : StateId} (ht : t.phase = .undetermined)
    (hp : Passes states symbol t (followed states active .undetermined)) :
    undetermined states symbol t active =
      settled (round states symbol t (followed states active .undetermined))
        (liveIn states symbol t (followed states active .undetermined)) := by
  obtain ⟨hc, hp⟩ := hp
  have hround : round states symbol t (followed states active .undetermined) =
      round states symbol ((leave active).stepped states symbol t)
        ((stateAt states active).branches.map .entry) := rfl
  rw [undetermined_next states symbol rfl hc, hround, followed, liveIn]
  have hbranches := stepBranches_passed states symbol (stateAt states active).branches
    ((stepped_phase states symbol t (.leave active)).trans ht) hp
  change stepBranches _ _ _ _ (if ((leave active).moved states symbol t).1.isLive then 1 else 0)
    none = _
  cases ((leave active).moved states symbol t).1.isLive with
  | false => exact hbranches []
  | true => exact hbranches [.leave active]

theorem undetermined_completed {t : Tracker} {active : StateId} {c : Candidate}
    {before rest : List Candidate}
    (hl : followed states active .undetermined = before ++ c :: rest)
    (hp : Passes states symbol t before)
    (hc : (c.moved states symbol (round states symbol t before)).1 = .complete) :
    undetermined states symbol t active =
      (c.verdict, c.stepped states symbol (round states symbol t before)) := by
  cases before with
  | nil =>
    obtain ⟨rfl, -⟩ := List.cons.inj hl
    have hs : stepLeave states symbol t active =
        (.complete, (leave active).stepped states symbol t) := Prod.ext hc rfl
    rw [undetermined, hs]
    rfl
  | cons d before =>
    obtain ⟨rfl, hentries⟩ := List.cons.inj hl
    obtain ⟨hd, hp⟩ := hp
    obtain ⟨earlier, later, hbranches, rfl, hlater⟩ := List.map_eq_append_iff.mp hentries
    obtain ⟨branch, later, rfl, rfl, -⟩ := List.map_eq_cons_iff.mp hlater
    rw [undetermined_next states symbol rfl hd, hbranches]
    exact stepBranches_completed states symbol earlier branch later hp hc _ _

theorem locked_passed {t : Tracker} {c : Candidate} (ht : t.phase = c.lock)
    (hc : (c.moved states symbol t).1 ≠ .complete) :
    locked c.verdict ((c.moved states symbol t).1, c.stepped states symbol t) =
      settled (c.stepped states symbol t) (liveIn states symbol t [c]) := by
  have hphase : { c.stepped states symbol t with phase := c.lock } = c.stepped states symbol t := by
    rw [← ht, ← stepped_phase states symbol t c]
  rw [liveIn, liveIn]
  cases hout : (c.moved states symbol t).1 with
  | complete => exact absurd hout hc
  | lost => rfl
  | advanced => exact (congrArg _ hphase).symm
  | backtracked => exact (congrArg _ hphase).symm

/-- If no pattern is complete, those that were live decide. -/
theorem classify_passed {t : Tracker} {active : StateId}
    (hp : Passes states symbol t (followed states active t.phase)) :
    classify states symbol t active =
      settled (round states symbol t (followed states active t.phase))
        (liveIn states symbol t (followed states active t.phase)) := by
  unfold classify
  split
  · next ht =>
    rw [ht] at hp ⊢
    exact undetermined_passed states symbol ht hp
  · next target ht =>
    rw [ht] at hp ⊢
    exact locked_passed states symbol (c := .entry target) ht hp.1
  · next ht =>
    rw [ht] at hp ⊢
    exact locked_passed states symbol (c := .leave active) ht hp.1

theorem locked_completed {t : Tracker} {d c : Candidate} {before rest : List Candidate}
    (hl : [d] = before ++ c :: rest)
    (hc : (c.moved states symbol (round states symbol t before)).1 = .complete) :
    locked d.verdict ((d.moved states symbol t).1, d.stepped states symbol t) =
      (c.verdict, { c.stepped states symbol (round states symbol t before) with
        phase := .undetermined }) := by
  cases before with
  | nil =>
    obtain ⟨rfl, -⟩ := List.cons.inj hl
    have hout : (d.moved states symbol t).1 = .complete := hc
    rw [hout]
    rfl
  | cons other before => simp at hl

theorem classify_completed {t : Tracker} {active : StateId} {c : Candidate}
    {before rest : List Candidate} (hl : followed states active t.phase = before ++ c :: rest)
    (hp : Passes states symbol t before)
    (hc : (c.moved states symbol (round states symbol t before)).1 = .complete) :
    classify states symbol t active =
      (c.verdict, { c.stepped states symbol (round states symbol t before) with
        phase := .undetermined }) := by
  have hphase := (stepped_phase states symbol (round states symbol t before) c).trans
    (round_phase states symbol t before)
  unfold classify
  split
  · next ht =>
    rw [ht] at hl hphase
    rw [undetermined_completed states symbol hl hp hc, ← hphase]
  · next target ht =>
    rw [ht] at hl
    exact locked_completed states symbol (d := .entry target) hl hc
  · next ht =>
    rw [ht] at hl
    exact locked_completed states symbol (d := .leave active) hl hc

/-- A round ends with the first pattern that is complete or, if there is none, with what the live
ones decide. -/
theorem classify_round (t : Tracker) (active : StateId) :
    (∃ before c rest, followed states active t.phase = before ++ c :: rest ∧
      Passes states symbol t before ∧
      (c.moved states symbol (round states symbol t before)).1 = .complete ∧
      classify states symbol t active =
        (c.verdict, { c.stepped states symbol (round states symbol t before) with
          phase := .undetermined })) ∨
    Passes states symbol t (followed states active t.phase) ∧
      classify states symbol t active =
        settled (round states symbol t (followed states active t.phase))
          (liveIn states symbol t (followed states active t.phase)) := by
  rcases passes_or_completes states symbol t (followed states active t.phase) with
    hp | ⟨before, c, rest, hl, hp, hc⟩
  · exact Or.inr ⟨hp, classify_passed states symbol hp⟩
  · exact Or.inl ⟨before, c, rest, hl, hp, hc, classify_completed states symbol hl hp hc⟩

theorem passes_of_undecided {t : Tracker} {active : StateId}
    (h : (classify states symbol t active).1 = .undecided) :
    Passes states symbol t (followed states active t.phase) := by
  rcases classify_round states symbol t active with ⟨before, c, rest, -, -, -, he⟩ | ⟨hp, -⟩
  · rw [he] at h
    cases c <;> simp [verdict] at h
  · exact hp

theorem settled_progress (t : Tracker) (list : List Candidate) (c : Candidate) :
    c.progress (settled t list).2 = c.progress t := by
  match list with
  | [] => cases c <;> rfl
  | [_] => cases c <;> rfl
  | _ :: _ :: _ => rfl

theorem settled_verdict (t : Tracker) (list : List Candidate) :
    (settled t list).1 = if list = [] then .miss else .undecided := by
  match list with
  | [] => rfl
  | [_] => rfl
  | _ :: _ :: _ => rfl

section Counters

variable {states symbol} {t : Tracker} {list : List Candidate} {count : Nat}
  (hz : t.Sized count) (hr : ∀ c ∈ list, c.state < count) (hp : Passes states symbol t list)
  {R Q : Nat → Prop} (d : Candidate)
include hz hr hp

/-- What each step that does not complete its pattern keeps of a counter, a round keeps. -/
theorem Passes.keeps
    (hs : ∀ progress, R progress → ((d.pattern states).step progress symbol).1 ≠ .complete →
      R ((d.pattern states).step progress symbol).2)
    (h : R (d.progress t)) : R (d.progress (round states symbol t list)) := by
  induction list generalizing t with
  | nil => exact h
  | cons c list ih =>
    obtain ⟨hc, hp⟩ := hp
    obtain ⟨hnow, hlater⟩ := List.forall_mem_cons.mp hr
    apply ih (stepped_sized states symbol hz c) hlater hp
    by_cases hd : d = c
    · subst hd
      rw [stepped_progress states symbol hz hnow]
      exact hs _ h hc
    · rwa [stepped_unmoved states symbol t hd]

/-- What the step of a pattern brings about, a round through it does. -/
theorem Passes.brings (hd : d ∈ list)
    (hs : ∀ progress, R progress → ((d.pattern states).step progress symbol).1 ≠ .complete →
      R ((d.pattern states).step progress symbol).2)
    (hq : ∀ progress, R progress ∨ Q progress →
      ((d.pattern states).step progress symbol).1 ≠ .complete →
      Q ((d.pattern states).step progress symbol).2)
    (h : R (d.progress t)) : Q (d.progress (round states symbol t list)) := by
  obtain ⟨before, rest, rfl⟩ := List.append_of_mem hd
  obtain ⟨hbefore, hnow, hrest⟩ := (passes_append states symbol).mp hp
  have hsized := round_sized states symbol hz before
  have hd : d.state < count := hr d hd
  rw [round_append]
  apply hrest.keeps (stepped_sized states symbol hsized d)
    (fun c hc => hr c (List.mem_append_right _ (List.mem_cons_of_mem _ hc))) d
    (fun progress h => hq progress (Or.inr h))
  rw [stepped_progress states symbol hsized hd]
  apply hq _ (Or.inl _) hnow
  exact hbefore.keeps hz (fun c hc => hr c (List.mem_append_left _ hc)) d hs h

end Counters

section Again

variable {states symbol} {t : Tracker} {list : List Candidate} {count : Nat}

/-- What the first step through a pattern has led to, no later step of the round undoes. -/
theorem Passes.live_iff {c : Candidate} (hz : t.Sized count)
    (hr : ∀ d ∈ c :: list, d.state < count) (hp : Passes states symbol t (c :: list)) :
    (c.moved states symbol t).1.isLive = true ↔
      0 < c.progress (round states symbol t (c :: list)) := by
  obtain ⟨hc, hp⟩ := hp
  obtain ⟨hnow, hlater⟩ := List.forall_mem_cons.mp hr
  have hmoved := stepped_progress states symbol hz hnow
  have hkept := hp.keeps (stepped_sized states symbol hz c) hlater c
    (R := fun progress => (c.pattern states).Took symbol progress ∧
      (0 < progress ↔ 0 < (c.moved states symbol t).2))
    (fun _ h _ => ⟨Pattern.step_took, h.1.pos_iff.trans h.2⟩)
    ⟨by rw [hmoved]; exact Pattern.step_took, by rw [hmoved]⟩
  exact (Pattern.isLive_iff hc).trans hkept.2.symm

variable (hz : t.Sized count) (hr : ∀ c ∈ list, c.state < count)
  (hp : Passes states symbol t list)
include hz hr hp

/-- A pattern is live each time it is moved, or not at all. -/
theorem Passes.liveIn_eq_filter : liveIn states symbol t list =
    list.filter fun c => 0 < c.progress (round states symbol t list) := by
  induction list generalizing t with
  | nil => rfl
  | cons c list ih =>
    have hlive := hp.live_iff hz hr
    have hrest := ih (stepped_sized states symbol hz c) (List.forall_mem_cons.mp hr).2 hp.2
    have hround : round states symbol t (c :: list) =
        round states symbol (c.stepped states symbol t) list := rfl
    simp only [liveIn, List.filter_cons, hlive, hrest, hround, decide_eq_true_eq]

variable {d : Candidate} (hd : d ∈ list)
include hd

theorem Passes.took : (d.pattern states).Took symbol (d.progress (round states symbol t list)) :=
  hp.brings (R := fun _ => True) hz hr d hd (fun _ _ _ => trivial)
    (fun _ _ _ => Pattern.step_took) trivial

/-- A pattern was live in its turn exactly if there is progress through it at the end. -/
theorem Passes.mem_liveIn_iff :
    d ∈ liveIn states symbol t list ↔ 0 < d.progress (round states symbol t list) := by
  rw [hp.liveIn_eq_filter hz hr, List.mem_filter, decide_eq_true_eq, and_iff_right hd]

omit hd in
/-- A pattern that is live is so as often as it is listed. -/
theorem Passes.count_liveIn (h : d ∈ liveIn states symbol t list) :
    (liveIn states symbol t list).count d = list.count d := by
  have hpos := (hp.mem_liveIn_iff hz hr (liveIn_subset states symbol t list h)).mp h
  rw [hp.liveIn_eq_filter hz hr]
  exact List.count_filter (decide_eq_true hpos)

end Again

end Candidate
end StateNest
