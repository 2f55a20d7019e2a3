import StateNest.Proofs.Invariant

/-!
# No symbol is lost

While no callback fails, the symbols that were handed to callbacks and those
still buffered are the symbols of the input in their order, without those that
an option or an ignore set drops. The symbols of the input are told apart by
their positions.
-/

set_option autoImplicit false

namespace StateNest

abbrev Mark := Char × Nat

def without (dropped marks : List Mark) : List Mark := marks.filter fun mark => mark ∉ dropped

theorem without_nil (marks : List Mark) : without [] marks = marks := by
  simp [without]

theorem without_self (marks : List Mark) : without marks marks = [] := by
  simp [without]

theorem without_append (dropped first second : List Mark) :
    without dropped (first ++ second) = without dropped first ++ without dropped second :=
  List.filter_append first second

theorem without_without (first second marks : List Mark) :
    without (first ++ second) marks = without second (without first marks) := by
  simp only [without, List.filter_filter, List.mem_append, not_or, Bool.decide_and]
  congr 1
  funext mark
  exact Bool.and_comm _ _

theorem without_disjoint {dropped marks : List Mark} (h : ∀ mark ∈ marks, mark ∉ dropped) :
    without dropped marks = marks := by
  apply List.filter_eq_self.mpr
  intro mark hm
  simpa using h mark hm

theorem without_cons_dropped {mark : Mark} {dropped marks : List Mark} (h : mark ∉ marks) :
    without (mark :: dropped) (mark :: marks) = without dropped marks := by
  have hm : without [mark] (mark :: marks) = marks := by
    rw [show mark :: marks = [mark] ++ marks from rfl, without_append, without_self]
    apply without_disjoint
    intro other ho hin
    rw [List.mem_singleton.mp hin] at ho
    exact h ho
  rw [← List.singleton_append, without_without, hm]

theorem without_cons_kept {mark : Mark} {dropped marks : List Mark} (h : mark ∉ dropped) :
    without dropped (mark :: marks) = mark :: without dropped marks :=
  List.filter_cons_of_pos (by simpa using h)

def Event.Granted (count : Nat) (event : Event) : Prop :=
  event.failure? = none ∧ ∀ target ∈ event.answer?.join, target < count

instance (count : Nat) (event : Event) : Decidable (event.Granted count) :=
  inferInstanceAs (Decidable (_ ∧ _))

namespace Machine

variable {Memory : Type}

/-- The symbols of a missed text that no handler gets, given the answers of the handlers: those
that the handler in charge skips, and those after an answer that stops the replay. -/
def unheard (states : List (State Memory)) (policy : HardsetReplay) :
    StateId → List Mark → List (Option StateId) → List Mark
  | _, [], _ => []
  | handler, mark :: marks, answers =>
    if (Tracker.stateAt states handler).ignore.skipsInHandler mark.1 then
      mark :: unheard states policy handler marks answers
    else match answers with
      | [] => []
      | none :: answers => unheard states policy handler marks answers
      | some target :: answers =>
        match policy with
        | .stop => marks
        | .continue => unheard states policy target marks answers

/-- The symbols that are dropped at a symbol with some outcome, and those that are held after it. -/
def sift (m : Machine Memory) (outcome : Outcome Memory) (held : List Mark) (mark : Mark) :
    List Mark × List Mark :=
  if m.options.ignorePolicy = .skipUnbuffered ∧
      (m.stateAt m.active).ignore.skips mark.1 = true then ([mark], held)
  else match outcome.machine.status with
    | .wait => ([], held ++ [mark])
    | .miss | .hardset =>
      (unheard m.states m.options.hardsetReplay m.active (held ++ [mark])
        outcome.journal.answers, [])
    | _ => ([], [])

def dropped (m : Machine Memory) (held : List Mark) : List Mark → List Mark
  | [] => []
  | mark :: marks =>
    let outcome := m.parse mark.1
    (m.sift outcome held mark).1 ++ outcome.machine.dropped (m.sift outcome held mark).2 marks

section Unheard

variable {states : List (State Memory)} {policy : HardsetReplay} {handler : StateId}
  {mark : Mark} (marks : List Mark) (answers : List (Option StateId))

theorem unheard_skipped
    (hskip : (Tracker.stateAt states handler).ignore.skipsInHandler mark.1 = true) :
    unheard states policy handler (mark :: marks) answers =
      mark :: unheard states policy handler marks answers := by
  rw [unheard.eq_def]
  exact if_pos hskip

variable (hskip : (Tracker.stateAt states handler).ignore.skipsInHandler mark.1 = false)
include hskip

theorem unheard_consumed :
    unheard states policy handler (mark :: marks) (none :: answers) =
      unheard states policy handler marks answers := by
  simp [unheard, hskip]

theorem unheard_stopped (target : StateId) :
    unheard states .stop handler (mark :: marks) (some target :: answers) = marks := by
  simp [unheard, hskip]

theorem unheard_continued (target : StateId) :
    unheard states .continue handler (mark :: marks) (some target :: answers) =
      unheard states .continue target marks answers := by
  simp [unheard, hskip]

end Unheard

theorem unheard_subset (states : List (State Memory)) (policy : HardsetReplay)
    (handler : StateId) (marks : List Mark) (answers : List (Option StateId)) :
    unheard states policy handler marks answers ⊆ marks := by
  induction marks generalizing handler answers with
  | nil => simp [unheard]
  | cons mark marks ih =>
    unfold unheard
    split
    · exact List.cons_subset_cons mark (ih handler answers)
    · split
      · exact List.nil_subset _
      · exact List.subset_cons_of_subset mark (ih handler _)
      · split
        · exact List.subset_cons_self mark marks
        · exact List.subset_cons_of_subset mark (ih _ _)

section Sift

variable (m : Machine Memory) (outcome : Outcome Memory) (held : List Mark) (mark : Mark)

theorem sift_subset : (m.sift outcome held mark).1 ⊆ held ++ [mark] ∧
    (m.sift outcome held mark).2 ⊆ held ++ [mark] := by
  unfold sift
  split
  · simp
  · split
    · simp
    · exact ⟨unheard_subset _ _ _ _ _, List.nil_subset _⟩
    · exact ⟨unheard_subset _ _ _ _ _, List.nil_subset _⟩
    · simp

theorem sift_unbuffered (hp : m.options.ignorePolicy = .skipUnbuffered)
    (hi : (m.stateAt m.active).ignore.skips mark.1 = true) :
    m.sift outcome held mark = ([mark], held) :=
  if_pos ⟨hp, hi⟩

variable (hb : ¬ (m.options.ignorePolicy = .skipUnbuffered ∧
  (m.stateAt m.active).ignore.skips mark.1 = true))
include hb

theorem sift_waited (hs : outcome.machine.status = .wait) :
    m.sift outcome held mark = ([], held ++ [mark]) := by
  rw [sift, if_neg hb, hs]

theorem sift_taken (hs : outcome.machine.status = .branch ∨ outcome.machine.status = .back) :
    m.sift outcome held mark = ([], []) := by
  rw [sift, if_neg hb]
  rcases hs with hs | hs <;> rw [hs]

theorem sift_replayed
    (hs : outcome.machine.status = .miss ∨ outcome.machine.status = .hardset) :
    m.sift outcome held mark =
      (unheard m.states m.options.hardsetReplay m.active (held ++ [mark])
        outcome.journal.answers, []) := by
  rw [sift, if_neg hb]
  rcases hs with hs | hs <;> rw [hs]

end Sift

theorem dropped_subset (m : Machine Memory) (held marks : List Mark) :
    m.dropped held marks ⊆ held ++ marks := by
  induction marks generalizing m held with
  | nil => simp [dropped]
  | cons mark marks ih =>
    have hs := m.sift_subset (m.parse mark.1) held mark
    have hm : held ++ mark :: marks = (held ++ [mark]) ++ marks := by simp
    rw [dropped, hm]
    apply List.append_subset.mpr
    constructor
    · exact List.subset_append_of_subset_left marks hs.1
    · intro other ho
      rcases List.mem_append.mp (ih _ _ ho) with hh | hh
      · exact List.mem_append_left _ (hs.2 hh)
      · exact List.mem_append_right _ hh

theorem replay_heard (handler : StateId) (marks : List Mark) (m : Machine Memory)
    (hi : ∀ id < m.states.length, (m.stateAt id).onMiss.isSome = true)
    (hh : handler < m.states.length) (hn : marks.Nodup)
    (hg : ∀ event ∈ (replay handler (marks.map Prod.fst) m).journal,
      event.Granted m.states.length) :
    (replay handler (marks.map Prod.fst) m).journal.text =
      (without (unheard m.states m.options.hardsetReplay handler marks
        (replay handler (marks.map Prod.fst) m).journal.answers) marks).map Prod.fst := by
  induction marks generalizing handler m with
  | nil => rfl
  | cons mark marks ih =>
    obtain ⟨hmark, hrest⟩ := List.nodup_cons.mp hn
    rw [List.map_cons] at hg ⊢
    cases hskip : (m.stateAt handler).ignore.skipsInHandler mark.1 with
    | true =>
      have hr := replay_skipped (marks.map Prod.fst) hskip
      rw [hr] at hg ⊢
      rw [unheard_skipped marks _ hskip, without_cons_dropped hmark]
      exact ih handler m hi hh hrest hg
    | false =>
      obtain ⟨call, hcall⟩ := Option.isSome_iff_exists.mp (hi handler hh)
      rcases hm : call m.memory mark.1 with ⟨failure | ⟨⟩ | target, memory⟩
      · rw [replay_failed (marks.map Prod.fst) hskip hcall hm] at hg
        have hf := (hg (.handled handler mark.1 (.error failure)) (by simp)).1
        simp at hf
      · have hr := replay_consumed (marks.map Prod.fst) hskip hcall hm
        rw [hr] at hg ⊢
        have hrec := ih handler { m with memory } hi hh hrest fun event he =>
          hg event (List.mem_cons_of_mem _ he)
        simp only [Outcome.after_journal, Journal.text_append, Journal.answers_append]
        change mark.1 :: Journal.text _ = (without (unheard _ _ _ _ (none :: _)) _).map Prod.fst
        rw [unheard_consumed marks _ hskip, without_cons_kept, hrec]
        · rfl
        · exact fun hin => hmark (unheard_subset _ _ _ _ _ hin)
      · have ht : target < m.states.length := by
          by_cases ht : target < m.states.length
          · exact ht
          · rw [replay_refused (marks.map Prod.fst) hskip hcall hm ht] at hg
            exact (hg _ (List.mem_singleton.mpr rfl)).2 target rfl
        cases hp : m.options.hardsetReplay with
        | stop =>
          rw [replay_stopped (marks.map Prod.fst) hskip hcall hm ht hp]
          change [mark.1] = (without (unheard _ _ _ _ [some target]) _).map Prod.fst
          rw [unheard_stopped marks _ hskip, without_cons_kept hmark, without_self]
          rfl
        | «continue» =>
          have hr := replay_continued (marks.map Prod.fst) hskip hcall hm ht hp
          rw [hr] at hg ⊢
          have hrec := ih target (hardSet { m with memory } target) hi ht hrest fun event he =>
            hg event (List.mem_append_right _ he)
          rw [show (hardSet { m with memory } target).options.hardsetReplay = .continue from hp]
            at hrec
          simp only [Outcome.after_journal, Journal.text_append, Journal.answers_append]
          change mark.1 :: Journal.text _ =
            (without (unheard _ _ _ _ (some target :: _)) _).map Prod.fst
          rw [unheard_continued marks _ hskip, without_cons_kept, hrec]
          · rfl
          · exact fun hin => hmark (unheard_subset _ _ _ _ _ hin)

theorem Ending.finished_of_granted {middle : Machine Memory} {events : Journal}
    {outcome : Outcome Memory} (he : Ending middle events outcome)
    (hg : ∀ event ∈ outcome.journal, event.Granted middle.states.length) :
    outcome = ⟨.ok true, middle, events⟩ := by
  cases he with
  | finished => rfl
  | failed memory handler symbol failure =>
    have hf := (hg (.handled handler symbol (.error failure)) (by simp)).1
    simp at hf
  | refused memory handler symbol index hu =>
    have hlt := (hg (.handled handler symbol (.ok (some index))) (by simp)).2 index rfl
    exact absurd hlt (Nat.not_lt.mpr hu)

def Installed (m : Machine Memory) : Prop :=
  ∀ state ∈ m.states, state.onEnter.isSome = true ∧ state.onLeave.isSome = true ∧
    state.onMiss.isSome = true

theorem called_of_isSome {callback : Option (Callback Memory (List Char) Unit)}
    (h : callback.isSome = true) (event : Event) : called callback event = [event] := by
  rw [called, if_pos h]

/-- What was held is dropped, or given to callbacks, or held on, in this order. -/
structure Sifted (held : List Mark) (mark : Mark) (outcome : Outcome Memory)
    (sifted : List Mark × List Mark) (given : List Mark) : Prop where
  text : outcome.journal.text = given.map Prod.fst
  split : without sifted.1 (held ++ [mark]) = given ++ sifted.2
  buffer : sifted.2.map Prod.fst = outcome.machine.buffer

section Step

variable {m : Machine Memory} {held : List Mark} {mark : Mark} (hc : Connected m)
  (hi : Installed m) (hb : held.map Prod.fst = m.buffer) (hn : (held ++ [mark]).Nodup)

include hb in
theorem marked_text (mark : Mark) : (held ++ [mark]).map Prod.fst = m.buffer ++ [mark.1] := by
  rw [List.map_append, hb]
  rfl

include hb hn in
theorem ignored_sifted (hskip : (m.stateAt m.active).ignore.skips mark.1 = true) :
    ∃ given, Sifted held mark ⟨.ok true, ignore { m with status := .wait } mark.1,
        [.ignored m.active mark.1]⟩
      (m.sift ⟨.ok true, ignore { m with status := .wait } mark.1,
        [.ignored m.active mark.1]⟩ held mark) given := by
  cases hp : m.options.ignorePolicy with
  | bufferThenSkip =>
    rw [sift_waited _ _ _ _ (by simp [hp]) (by simp [ignore, hp])]
    refine ⟨[], rfl, without_nil _, ?_⟩
    simpa [ignore, hp] using marked_text hb mark
  | skipUnbuffered =>
    rw [sift_unbuffered _ _ _ _ hp hskip]
    refine ⟨[], rfl, ?_, ?_⟩
    · have hd := (List.nodup_append.mp hn).2.2
      rw [without_append, without_self, List.append_nil]
      apply without_disjoint
      intro other ho hin
      exact hd other ho mark (List.mem_singleton.mpr rfl) (List.mem_singleton.mp hin)
    · simpa [ignore, hp] using hb

include hc hi hb hn in
theorem missed_sifted {tracker : Tracker} {events : Journal} {middle : Machine Memory}
    (hskip : (m.stateAt m.active).ignore.skips mark.1 = false)
    (hp : Passed { m with buffer := [], tracker, status := .miss } events middle)
    (hr : ⟨.ok true, middle, events⟩ = replay m.active (m.buffer ++ [mark.1])
      { m with buffer := [], tracker, status := .miss })
    (hg : ∀ event ∈ events, event.Granted m.states.length) :
    ∃ given, Sifted held mark (Outcome.after ⟨.ok true, middle, events⟩
        [.classified m.active mark.1 .miss, .missed m.active (m.buffer ++ [mark.1])])
      (m.sift (Outcome.after ⟨.ok true, middle, events⟩
        [.classified m.active mark.1 .miss, .missed m.active (m.buffer ++ [mark.1])])
        held mark) given := by
  have hheard := replay_heard m.active (held ++ [mark])
    { m with buffer := [], tracker, status := .miss }
    (fun id hid => (hi _ (stateAt_mem hid)).2.2) hc.active_lt hn
  rw [marked_text hb mark, ← hr] at hheard
  have hstatus : middle.status = .miss ∨ middle.status = .hardset := by
    rw [hp.status]
    split
    · exact Or.inl rfl
    · exact Or.inr rfl
  have hbuffer : middle.buffer = [] := by rw [hp.buffer, ite_self]
  rw [sift_replayed _ _ _ _ (by simp [hskip]) hstatus]
  refine ⟨_, ?_, (List.append_nil _).symm, hbuffer.symm⟩
  simpa using hheard hg

include hc hi hb hn in
theorem parse_sifted (hs : m.started = true)
    (hg : ∀ event ∈ (m.parse mark.1).journal, event.Granted m.states.length) :
    ∃ given,
      Sifted held mark (m.parse mark.1) (m.sift (m.parse mark.1) held mark) given := by
  have htext := marked_text hb mark
  have hm := parse_move m mark.1 hs
  generalize m.parse mark.1 = outcome at hm hg ⊢
  cases hm with
  | ignored hskip => exact ignored_sifted hb hn hskip
  | waited tracker hskip he =>
    rw [sift_waited _ _ _ _ (by simp [hskip]) rfl]
    exact ⟨[], rfl, without_nil _, htext⟩
  | entered target tracker memory hskip he ha =>
    have hcall := (hi _ (stateAt_mem (hc.branch_lt (hc.classified he (Or.inl rfl))))).1
    rw [sift_taken _ _ _ _ (by simp [hskip]) (Or.inl rfl)]
    refine ⟨held ++ [mark], ?_, by simp [without_nil], rfl⟩
    simp [called_of_isSome hcall, htext]
  | enterFailed target tracker memory failure hskip he ha =>
    have hf := (hg (.entering target (m.buffer ++ [mark.1]) (.error failure)) (by simp)).1
    simp at hf
  | left tracker memory hskip he ha =>
    have hcall := (hi _ (stateAt_mem hc.active_lt)).2.1
    rw [sift_taken _ _ _ _ (by simp [hskip]) (Or.inr rfl)]
    refine ⟨held ++ [mark], ?_, by simp [without_nil], rfl⟩
    simp [called_of_isSome hcall, htext]
  | leaveFailed tracker memory failure hskip he ha =>
    have hf := (hg (.leaving m.active (m.buffer ++ [mark.1]) (.error failure)) (by simp)).1
    simp at hf
  | missed tracker events middle outcome hskip he hp hend hstop hr =>
    have hg' : ∀ event ∈ outcome.journal, event.Granted m.states.length := fun event hin =>
      hg event (List.mem_append_right _ hin)
    obtain rfl := hend.finished_of_granted (by rw [hp.states]; exact hg')
    exact missed_sifted hc hi hb hn hskip hp hr hg'

end Step

theorem feed_conserves (m : Machine Memory) (held marks : List Mark) (hs : m.started = true)
    (hc : Connected m) (hi : Installed m) (hb : held.map Prod.fst = m.buffer)
    (hn : (held ++ marks).Nodup)
    (hg : ∀ outcome ∈ m.outcomes (marks.map Prod.fst), ∀ event ∈ outcome.journal,
      event.Granted m.states.length) :
    ((m.outcomes (marks.map Prod.fst)).flatMap fun outcome => outcome.journal.text) ++
        (m.feed (marks.map Prod.fst)).buffer =
      (without (m.dropped held marks) (held ++ marks)).map Prod.fst := by
  induction marks generalizing m held with
  | nil => simp [outcomes, feed, dropped, without_nil, hb]
  | cons mark marks ih =>
    have hsplit : held ++ mark :: marks = (held ++ [mark]) ++ marks := by simp
    rw [hsplit] at hn ⊢
    rw [List.map_cons, outcomes, List.forall_mem_cons] at hg
    obtain ⟨hnow, hlater⟩ := hg
    obtain ⟨hstates, -, hstarted⟩ := parse_setup m mark.1
    obtain ⟨hfirst, -, hdisjoint⟩ := List.nodup_append.mp hn
    obtain ⟨given, htext, hrest, hheld⟩ := parse_sifted hc hi hb hfirst hs hnow
    have hgone : without (m.sift (m.parse mark.1) held mark).1 marks = marks := by
      apply without_disjoint
      intro other ho hin
      exact hdisjoint other ((sift_subset m (m.parse mark.1) held mark).1 hin) other ho rfl
    -- What is held on is told apart from what has been handed over, so nothing of the latter
    -- can still be dropped.
    have hleft : (given ++ ((m.sift (m.parse mark.1) held mark).2 ++ marks)).Nodup := by
      rw [← List.append_assoc, ← hrest]
      exact hn.sublist (List.filter_sublist.append_right marks)
    obtain ⟨-, hnext, happart⟩ := List.nodup_append.mp hleft
    have hgiven : without ((m.parse mark.1).machine.dropped
        (m.sift (m.parse mark.1) held mark).2 marks) given = given := by
      apply without_disjoint
      intro other ho hin
      exact happart other ho other (dropped_subset _ _ _ hin) rfl
    have hrec := ih (m.parse mark.1).machine (m.sift (m.parse mark.1) held mark).2
      (hstarted.trans hs) (parse_connected mark.1 hs hc) (by rwa [Installed, hstates]) hheld
      hnext (by rwa [hstates])
    rw [dropped, without_without, without_append, hrest, hgone, List.append_assoc,
      without_append, hgiven, List.map_append, ← hrec, ← htext]
    simp [outcomes, feed]

theorem unheard_nil {states : List (State Memory)}
    (hh : ∀ id, (Tracker.stateAt states id).ignore.handler = []) (handler : StateId)
    (marks : List Mark) (answers : List (Option StateId)) :
    unheard states .continue handler marks answers = [] := by
  induction marks generalizing handler answers with
  | nil => rfl
  | cons mark marks ih =>
    have hskip : (Tracker.stateAt states handler).ignore.skipsInHandler mark.1 = false := by
      simp [IgnoreSet.skipsInHandler, hh]
    cases answers with
    | nil => simp [unheard, hskip]
    | cons answer answers =>
      cases answer with
      | none => rw [unheard_consumed marks answers hskip, ih]
      | some target => rw [unheard_continued marks answers hskip, ih]

theorem dropped_nil (m : Machine Memory) (held marks : List Mark)
    (hp : m.options.ignorePolicy = .bufferThenSkip)
    (hr : m.options.hardsetReplay = .continue)
    (hh : ∀ state ∈ m.states, state.ignore.handler = []) : m.dropped held marks = [] := by
  induction marks generalizing m held with
  | nil => rfl
  | cons mark marks ih =>
    obtain ⟨hstates, hoptions, -⟩ := parse_setup m mark.1
    have hat : ∀ id, (Tracker.stateAt m.states id).ignore.handler = [] := by
      intro id
      by_cases hid : id < m.states.length
      · exact hh _ (stateAt_mem hid)
      · rw [stateAt_empty (Nat.le_of_not_lt hid)]
    have hnow : (m.sift (m.parse mark.1) held mark).1 = [] := by
      unfold sift
      rw [if_neg (by simp [hp])]
      split <;> simp [hr, unheard_nil hat]
    rw [dropped, hnow, List.nil_append]
    exact ih _ _ (by rw [hoptions, hp]) (by rw [hoptions, hr]) (by rwa [hstates])

def sieve (options : Options) (skipped : List Char) : Machine Unit :=
  (withOptions options ()).calls
    [.addState {
        name := "root", leave := ['a', '-', 'h', 'x', 'z'].map .literal
        ignore := { all := [' '], handler := skipped }
        onEnter := some fun memory _ => (.ok (), memory)
        onLeave := some fun memory _ => (.ok (), memory)
        onMiss := some fun memory symbol =>
          (.ok (if symbol = 'h' then some 1 else none), memory) },
      .addState {
        name := "next", leave := [.literal 'b']
        onEnter := some fun memory _ => (.ok (), memory)
        onLeave := some fun memory _ => (.ok (), memory)
        onMiss := some fun memory _ => (.ok none, memory) }]

end Machine
end StateNest
