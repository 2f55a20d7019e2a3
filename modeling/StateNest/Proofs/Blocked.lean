import StateNest.Proofs.Decision

/-!
# Blocked patterns

The progress through a pattern can only pass an element by a symbol that it
accepts, whatever happens in between. A pattern with an element all of whose
symbols are skipped wherever the pattern is followed is never complete, and
neither is the empty pattern. This holds in every session, also after failures
and if branches are listed more than once.
-/

set_option autoImplicit false

namespace StateNest

def Pattern.Blocked (pattern : Pattern) (skipped : Char → Prop) : Prop :=
  pattern = [] ∨ ∃ element ∈ pattern, ∀ symbol, element.accepts symbol = true → skipped symbol

theorem Pattern.Blocked.mono {pattern : Pattern} {skipped other : Char → Prop}
    (h : pattern.Blocked skipped) (hs : ∀ symbol, skipped symbol → other symbol) :
    pattern.Blocked other := by
  rcases h with hempty | ⟨element, he, ha⟩
  · exact Or.inl hempty
  · exact Or.inr ⟨element, he, fun symbol hacc => hs symbol (ha symbol hacc)⟩

/-- A position that no other symbols pass. -/
theorem Pattern.Blocked.position {pattern : Pattern} {skipped : Char → Prop}
    (h : pattern.Blocked skipped) : ∃ position ≤ pattern.length - 1,
      ∀ symbol, ¬ skipped symbol → pattern.matchesAt position symbol = false := by
  rcases h with rfl | ⟨element, he, hs⟩
  · exact ⟨0, Nat.le_refl 0, fun symbol _ => matchesAt_nil⟩
  · obtain ⟨position, hp, rfl⟩ := List.getElem_of_mem he
    refine ⟨position, by omega, ?_⟩
    intro symbol hn
    by_contra hm
    obtain ⟨other, ho, ha⟩ := matchesAt_eq_true.mp (Bool.not_eq_false _ ▸ hm)
    rw [List.getElem?_eq_getElem hp] at ho
    obtain rfl := Option.some.inj ho
    exact hn (hs symbol ha)

namespace Candidate

open Tracker

variable {Memory : Type} {states : List (State Memory)} {symbol : Char}

section Barred

variable {c : Candidate} {position : Nat} (hl : position ≤ (c.pattern states).length - 1)
include hl

/-- A step that may move the pattern does not pass an element that does not accept the symbol. -/
theorem stepEntry_barred (t : Tracker) (id : StateId) (h : c.progress t ≤ position)
    (hn : c = .entry id → (c.pattern states).matchesAt position symbol = false) :
    c.progress (stepEntry states symbol t id).2 ≤ position := by
  cases c with
  | leave other => exact h
  | entry other =>
    change (t.entry.set id (Pattern.step _ _ _).2).getD other 0 ≤ _
    rw [getD_set]
    split
    · next heq =>
      obtain rfl := heq.1
      exact (Pattern.step_barred h hl (hn rfl)).1
    · exact h

theorem stepLeave_barred (t : Tracker) (id : StateId) (h : c.progress t ≤ position)
    (hn : c = .leave id → (c.pattern states).matchesAt position symbol = false) :
    c.progress (stepLeave states symbol t id).2 ≤ position := by
  cases c with
  | entry other => exact h
  | leave other =>
    change (t.leave.set id (Pattern.step _ _ _).2).getD other 0 ≤ _
    rw [getD_set]
    split
    · next heq =>
      obtain rfl := heq.1
      exact (Pattern.step_barred h hl (hn rfl)).1
    · exact h

variable {t : Tracker} {active : StateId} (h : c.progress t ≤ position)
  (ht : ∀ target, t.phase = .entering target → target ∈ (stateAt states active).branches)
  (hn : c ∈ followed states active .undetermined →
    (c.pattern states).matchesAt position symbol = false)
include h ht hn

theorem classify_barred : Keeping states symbol (fun u => c.progress u ≤ position) active
    (classify states symbol t active) := by
  apply classify_keeping states symbol
  · intro u phase hu
    cases c <;> exact hu
  · intro u id hid hu
    apply stepEntry_barred hl u id hu
    rintro rfl
    have hlisted : id ∈ (stateAt states active).branches := hid.elim (ht id) fun hb => hb
    exact hn (List.mem_cons_of_mem _ (List.mem_map_of_mem hlisted))
  · intro u hu
    apply stepLeave_barred hl u active hu
    rintro rfl
    exact hn List.mem_cons_self
  · exact h

theorem classify_ne_verdict (hc : c ∈ followed states active .undetermined) :
    (classify states symbol t active).1 ≠ c.verdict := by
  have hkeeping := classify_barred hl h ht hn
  have hbarred {u : Tracker} (hu : c.progress u ≤ position) :
      (c.moved states symbol u).1 ≠ .complete := (Pattern.step_barred hu hl (hn hc)).2
  intro hv
  cases c with
  | entry id =>
    obtain ⟨u, hu, hcomplete⟩ := hkeeping.entered id hv
    exact hbarred hu hcomplete
  | leave id =>
    obtain rfl : id = active := Candidate.leave.inj (eq_leave_of_verdict states hc rfl)
    obtain ⟨u, hu, hcomplete⟩ := hkeeping.left hv
    exact hbarred hu hcomplete

end Barred

end Candidate

namespace Machine

open Candidate

variable {Memory : Type}

/-- The progress through a pattern has not passed an element that accepts only symbols which are
skipped wherever the pattern is followed. -/
structure Barred (m : Machine Memory) (c : Candidate) (position : Nat) : Prop where
  started : m.started = true
  connected : Connected m
  behind : c.progress m.tracker ≤ position
  within : position ≤ (c.pattern m.states).length - 1
  barred : ∀ active symbol, c ∈ followed m.states active .undetermined →
    (Tracker.stateAt m.states active).ignore.skips symbol = false →
    (c.pattern m.states).matchesAt position symbol = false

section Step

variable {m : Machine Memory} {c : Candidate} {position : Nat} (h : Barred m c position)
  {symbol : Char}
include h

theorem Barred.parse : Barred (m.parse symbol).machine c position := by
  obtain ⟨hstates, -, hstarted⟩ := parse_setup m symbol
  have hm := parse_move m symbol h.started
  constructor
  · rw [hstarted, h.started]
  · exact move_connected hm h.connected
  · apply move_tracker (P := fun t => c.progress t ≤ position) hm _ _ h.behind
    · intro hi
      exact (classify_barred h.within h.behind h.connected.target
        fun hc => h.barred m.active symbol hc hi).kept
    · intro t _
      rw [progress_reset]
      exact Nat.zero_le position
  · rw [hstates]
    exact h.within
  · rw [hstates]
    exact h.barred

theorem Barred.undecided (hi : (m.stateAt m.active).ignore.skips symbol = false)
    (hl : c.verdict = .pop → c = .leave m.active) :
    (m.tracker.classify m.states symbol m.active).1 ≠ c.verdict := by
  intro hv
  have hc := h.connected.followed_of_verdict hv hl
  exact classify_ne_verdict h.within h.behind h.connected.target
    (fun hc => h.barred m.active symbol hc hi) hc hv

theorem Barred.no_transition {event : Event} (he : event ∈ (m.parse symbol).journal)
    (buffer : List Char) : event.transition? ≠ some (c, buffer) := by
  intro ht
  obtain ⟨-, hi, hv, hl⟩ := move_transition (parse_move m symbol h.started) he ht
  exact h.undecided hi hl hv

end Step

theorem Barred.feed {m : Machine Memory} {c : Candidate} {position : Nat}
    (h : Barred m c position) (text : List Char) : Barred (m.feed text) c position :=
  feed_keeps (P := fun n => Barred n c position) (fun _ _ hm => hm.parse) m text h

theorem Barred.no_branch {m : Machine Memory} {branch : StateId} {position : Nat}
    (h : Barred m (.entry branch) position) {symbol : Char}
    (hs : (m.parse symbol).machine.status = .branch) :
    (m.parse symbol).machine.currentState ≠ some branch := by
  intro hcurrent
  obtain ⟨hi, d, hd, hv, hchain⟩ :=
    move_status (parse_move m symbol h.started) (c := .entry branch) hs
  cases d with
  | leave id => exact nomatch hd
  | entry target =>
    rw [currentState, hchain, Candidate.chain, List.getLast?_concat] at hcurrent
    obtain rfl := Option.some.inj hcurrent
    exact h.undecided hi nofun hv

theorem Barred.no_back {m : Machine Memory} {position : Nat}
    (h : Barred m (.leave m.active) position) (symbol : Char) :
    (m.parse symbol).machine.status ≠ .back := by
  intro hs
  obtain ⟨hi, d, hd, hv, -⟩ :=
    move_status (parse_move m symbol h.started) (c := .leave m.active) hs
  cases d with
  | leave id => exact h.undecided hi (fun _ => rfl) hv
  | entry target => exact nomatch hd

theorem barred_of_blocked {before started : Machine Memory} (hok : before.prestart = .ok started)
    {c : Candidate} (hb : (c.pattern started.states).Blocked fun symbol =>
      ∀ active, c ∈ followed started.states active .undetermined →
        (Tracker.stateAt started.states active).ignore.skips symbol = true) :
    ∃ position, Barred started c position := by
  obtain ⟨rfl, hc⟩ := prestart_ok hok
  obtain ⟨position, hp, hbarred⟩ := hb.position
  refine ⟨position, rfl, hc, ?_, hp, ?_⟩
  · change c.progress before.tracker.reset ≤ position
    rw [progress_reset]
    exact Nat.zero_le position
  · intro active symbol hfollowed hi
    apply hbarred
    intro hskipped
    rw [hskipped active hfollowed] at hi
    exact absurd hi nofun

/-- A state whose entry is blocked in every state that lists it is never entered by its pattern,
and a state whose leave is blocked in itself is never left. -/
theorem blocked_never_fires {before started : Machine Memory}
    (hok : before.prestart = .ok started) :
    (∀ branch, ((started.stateAt branch).entry.Blocked fun symbol =>
        ∀ state ∈ started.states, branch ∈ state.branches → symbol ∈ state.ignore.all) →
      ∀ text symbol,
        (∀ buffer given,
          Event.entering branch buffer given ∉ ((started.feed text).parse symbol).journal) ∧
        (((started.feed text).parse symbol).machine.status = .branch →
          ((started.feed text).parse symbol).machine.currentState ≠ some branch)) ∧
    ∀ id, ((started.stateAt id).leave.Blocked fun symbol =>
        symbol ∈ (started.stateAt id).ignore.all) →
      ∀ text symbol,
        (∀ buffer given,
          Event.leaving id buffer given ∉ ((started.feed text).parse symbol).journal) ∧
        ((started.feed text).active = id →
          ((started.feed text).parse symbol).machine.status ≠ .back) := by
  constructor
  · intro branch hb text symbol
    have hblocked : ((Candidate.entry branch).pattern started.states).Blocked fun symbol =>
        ∀ active, Candidate.entry branch ∈ followed started.states active .undetermined →
          (Tracker.stateAt started.states active).ignore.skips symbol = true := by
      apply hb.mono
      intro symbol hs active hc
      rcases List.mem_cons.mp hc with heq | hentry
      · exact nomatch heq
      obtain ⟨other, hlisted, heq⟩ := List.mem_map.mp hentry
      obtain rfl := Candidate.entry.inj heq
      exact List.contains_iff_mem.mpr (hs _ (stateAt_mem_of_branch hlisted) hlisted)
    obtain ⟨position, hbarred⟩ := barred_of_blocked hok hblocked
    have hfed := hbarred.feed text
    exact ⟨fun buffer given he => hfed.no_transition he buffer rfl, hfed.no_branch⟩
  · intro id hb text symbol
    have hblocked : ((Candidate.leave id).pattern started.states).Blocked fun symbol =>
        ∀ active, Candidate.leave id ∈ followed started.states active .undetermined →
          (Tracker.stateAt started.states active).ignore.skips symbol = true := by
      apply hb.mono
      intro symbol hs active hc
      obtain rfl := Candidate.leave.inj (eq_leave_of_verdict started.states hc rfl)
      exact List.contains_iff_mem.mpr hs
    obtain ⟨position, hbarred⟩ := barred_of_blocked hok hblocked
    have hfed := hbarred.feed text
    refine ⟨fun buffer given he => hfed.no_transition he buffer rfl, ?_⟩
    rintro rfl
    exact hfed.no_back symbol

def walled : Machine Unit :=
  (withOptions {} ()).calls
    [.addState {
        name := "root", branches := [1, 2, 1], ignore := { all := [' '] }
        onMiss := some fun memory symbol =>
          (if symbol = 'x' then .ok (some 1) else .error ⟨"unknown"⟩, memory) },
      .addState {
        name := "first", entry := ['a', ' ', 'b'].map .literal
        leave := ['c', ' '].map .literal, branches := [2], ignore := { all := [' '] }
        onEnter := some fun memory _ => (.ok (), memory)
        onLeave := some fun memory _ => (.ok (), memory) },
      .addState { name := "second" }]

theorem walled_never_fires :
    (∀ buffer given, Event.entering 1 buffer given ∉
      ((walled.fresh.feed ['a', ' ', 'y', 'a', ' ']).parse 'b').journal) ∧
    (walled.fresh.feed ['x', 'c']).active = 1 ∧
    ((walled.fresh.feed ['x', 'c']).parse ' ').machine.status ≠ .back ∧
    ∀ text symbol, ((walled.fresh.feed text).parse symbol).machine.status = .branch →
      ((walled.fresh.feed text).parse symbol).machine.currentState ≠ some 2 := by
  have hok : walled.prestart = .ok walled.fresh := rfl
  obtain ⟨hentry, hleave⟩ := blocked_never_fires hok
  have hblank (symbol : Char) (ha : (Element.literal ' ').accepts symbol = true) :
      symbol = ' ' := (of_decide_eq_true ha).symm
  have hlisting : ∀ state ∈ walled.fresh.states, 1 ∈ state.branches → ' ' ∈ state.ignore.all := by
    decide
  have hentered : Element.literal ' ' ∈ (walled.fresh.stateAt 1).entry :=
    List.mem_map_of_mem (by decide : ' ' ∈ ['a', ' ', 'b'])
  have hleft : Element.literal ' ' ∈ (walled.fresh.stateAt 1).leave :=
    List.mem_map_of_mem (by decide : ' ' ∈ ['c', ' '])
  have hfirst := hentry 1 (Or.inr ⟨.literal ' ', hentered, fun symbol ha =>
    hblank symbol ha ▸ hlisting⟩)
  have hback := hleave 1 (Or.inr ⟨.literal ' ', hleft, fun symbol ha =>
    hblank symbol ha ▸ List.mem_singleton_self ' '⟩)
  have hsecond := hentry 2 (Or.inl rfl)
  exact ⟨(hfirst _ _).1, rfl, (hback ['x', 'c'] ' ').2 rfl, fun text symbol =>
    (hsecond text symbol).2⟩

end Machine
end StateNest
