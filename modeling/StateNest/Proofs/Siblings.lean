import StateNest.Proofs.Decision

/-!
# Telling siblings apart

Any number of patterns may be followed at once. A word that spells one of them
completes it at its last symbol and not before, unless another pattern is
scattered in the word: each of the others has progress only where a trail
through the word leads. Of patterns that the last symbol completes the leave is
the first, so that a leave is only beaten by an entry scattered in the word
before its last symbol.
-/

set_option autoImplicit false

namespace StateNest

namespace Machine

open Candidate

variable {Memory : Type}

def Settles (m : Machine Memory) (word : List Char) (status : Status) (chain : List StateId)
    (calls : Journal) : Prop :=
  ∃ waits last, m.outcomes word = waits ++ [last] ∧
    (∀ outcome ∈ waits, Answered outcome .wait m.chain []) ∧ Answered last status chain calls

/-- One of the followed patterns has been matched by all symbols that were read, and the others
have been moved by them. -/
structure Leading (m : Machine Memory) (c : Candidate) (read : List Char) : Prop where
  started : m.started = true
  sound : Sound m
  nodup : (m.stateAt m.active).branches.Nodup
  followed : c ∈ followed m.states m.active m.tracker.phase
  progress : c.progress m.tracker = read.length
  trail : ∀ d ∈ Candidate.followed m.states m.active m.tracker.phase,
    (d.pattern m.states).Trail read (d.progress m.tracker)
  unfinished : ∀ d ∈ Candidate.followed m.states m.active m.tracker.phase,
    (d.pattern m.states).Unfinished (d.progress m.tracker)

def Unrivalled (m : Machine Memory) (c : Candidate) (text : List Char) : Prop :=
  ∀ d ∈ Candidate.followed m.states m.active .undetermined, d ≠ c → d.pattern m.states ≠ [] →
    ¬ (d.pattern m.states).ScatteredIn text

theorem Unrivalled.mono {m : Machine Memory} {c : Candidate} {text part : List Char}
    (h : Unrivalled m c text) (hs : part.Sublist text) : Unrivalled m c part :=
  fun d hd hne hp hscattered => h d hd hne hp (hscattered.mono hs)

section Step

variable {m : Machine Memory} {c : Candidate} {read : List Char} (h : Leading m c read)
  {symbol : Char}
include h

theorem Leading.connected : Connected m := h.sound.connected h.started

/-- What a symbol completes is scattered in the symbols up to it. -/
theorem Leading.eq_of_complete {d : Candidate} (hu : Unrivalled m c (read ++ [symbol]))
    (hd : d ∈ Candidate.followed m.states m.active m.tracker.phase)
    (hc : (d.moved m.states symbol m.tracker).1 = .complete) : d = c := by
  by_contra hne
  have htrail := (h.trail d hd).completed (h.unfinished d hd) hc
  have hscattered := htrail.scattered (Nat.le_refl _)
  rw [List.take_length] at hscattered
  refine hu d (h.connected.followed_open hd) hne (fun hempty => ?_) hscattered
  rw [moved_empty hempty] at hc
  simp at hc

variable (hfound : (c.pattern m.states).matchesAt read.length symbol = true)
include hfound

theorem Leading.moved : c.moved m.states symbol m.tracker =
    (if (c.pattern m.states).length = read.length + 1 then .complete else .advanced,
      read.length + 1) := by
  rw [Candidate.moved, h.progress, Pattern.step_matched hfound]

/-- While there is more to read, the pattern stays among those that are followed. -/
theorem Leading.undecided (hmore : (c.pattern m.states).length ≠ read.length + 1)
    (hu : Unrivalled m c (read ++ [symbol])) :
    ∃ after, m.tracker.classify m.states symbol m.active = (.undecided, after) ∧
      MovedOnce m.states symbol m.tracker
        (Candidate.followed m.states m.active m.tracker.phase) after ∧
      c ∈ Candidate.followed m.states m.active after.phase ∧
      ∀ d ∈ Candidate.followed m.states m.active after.phase,
        d ∈ Candidate.followed m.states m.active m.tracker.phase := by
  have hmoved := h.moved hfound
  rw [if_neg hmore] at hmoved
  have hd := h.connected.decided h.sound.sized h.nodup symbol
  generalize m.tracker.classify m.states symbol m.active = decided at hd ⊢
  cases hd with
  | completed d after first free =>
    obtain ⟨before, rest, hlist, hcomplete, -⟩ := first
    obtain rfl := h.eq_of_complete hu (by simp [hlist]) hcomplete
    simp [hmoved] at hcomplete
  | undecided d after once listed live phase =>
    refine ⟨after, rfl, once, ?_⟩
    rcases phase with hp | ⟨hp, hlone⟩
    · rw [hp]
      exact ⟨h.followed, fun _ hd => hd⟩
    · obtain rfl := hlone c h.followed (by rw [hmoved]; rfl)
      rw [hp, followed_lock (h.connected.followed_open h.followed)]
      exact ⟨List.mem_singleton_self c, fun d hd => List.mem_singleton.mp hd ▸ h.followed⟩
  | missed after once lost free =>
    have hlost := lost c h.followed
    simp [hmoved] at hlost

theorem Leading.waits (hi : (m.stateAt m.active).ignore.skips symbol = false)
    (hmore : (c.pattern m.states).length ≠ read.length + 1)
    (hu : Unrivalled m c (read ++ [symbol])) :
    ∃ after, m.parse symbol = ⟨.ok true,
        { m with buffer := m.buffer ++ [symbol], tracker := after, status := .wait },
        [.classified m.active symbol .undecided]⟩ ∧
      Leading (m.parse symbol).machine c (read ++ [symbol]) := by
  obtain ⟨after, hc, once, hfollowed, hkept⟩ := h.undecided hfound hmore hu
  have hsound := parse_sound symbol h.sound
  have hparse := parse_classified m symbol h.started hi _ _ hc
  rw [hparse] at hsound ⊢
  refine ⟨after, rfl, h.started, hsound, h.nodup, hfollowed, ?_, ?_, ?_⟩
  · change c.progress after = _
    rw [once.progress, if_pos h.followed, h.moved hfound]
    simp
  · intro d hd
    change (d.pattern m.states).Trail _ (d.progress after)
    rw [once.progress, if_pos (hkept d hd)]
    exact (h.trail d (hkept d hd)).step (h.unfinished d (hkept d hd))
  · intro d hd
    change (d.pattern m.states).Unfinished (d.progress after)
    rw [once.progress, if_pos (hkept d hd)]
    exact (h.unfinished d (hkept d hd)).step (once.incomplete d (hkept d hd))

/-- At its last symbol the pattern is the first one that is complete. -/
theorem Leading.decided (hlast : (c.pattern m.states).length = read.length + 1)
    (hu : c = .leave m.active ∨ Unrivalled m c (read ++ [symbol])) :
    (m.tracker.classify m.states symbol m.active).1 = c.verdict := by
  have hcomplete : (c.moved m.states symbol m.tracker).1 = .complete := by
    rw [h.moved hfound, if_pos hlast]
  have hd := h.connected.decided h.sound.sized h.nodup symbol
  generalize m.tracker.classify m.states symbol m.active = decided at hd ⊢
  cases hd with
  | completed d after first free =>
    rcases hu with rfl | hu
    · rw [first.eq_leave h.followed hcomplete]
    · obtain ⟨before, rest, hlist, hother, -⟩ := first
      rw [h.eq_of_complete hu (by simp [hlist]) hother]
  | undecided d after once listed live phase =>
    exact absurd hcomplete (once.incomplete c h.followed)
  | missed after once lost free => exact absurd hcomplete (once.incomplete c h.followed)

theorem Leading.takes (hi : (m.stateAt m.active).ignore.skips symbol = false)
    (hlast : (c.pattern m.states).length = read.length + 1)
    (hu : c = .leave m.active ∨ Unrivalled m c (read ++ [symbol]))
    (hg : (answer (c.callback m.states) m.memory (m.buffer ++ [symbol])).1 = .ok ()) :
    Answered (m.parse symbol) c.status (c.chain m.chain)
      (called (c.callback m.states) (c.event (m.buffer ++ [symbol]))) :=
  parse_granted h.started hi (h.decided hfound hlast hu)
    (eq_leave_of_verdict m.states h.followed) hg

end Step

section Run

variable {m : Machine Memory} {c : Candidate} {read : List Char}

theorem Leading.settles (h : Leading m c read) {rest : List Char} (hne : rest ≠ [])
    (hs : (c.pattern m.states).Spells (read ++ rest))
    (hi : ∀ symbol ∈ rest, (m.stateAt m.active).ignore.skips symbol = false)
    (hu : Unrivalled m c (read ++ rest).dropLast)
    (hl : c = .leave m.active ∨ Unrivalled m c (read ++ rest))
    (hg : (answer (c.callback m.states) m.memory (m.buffer ++ rest)).1 = .ok ()) :
    Settles m rest c.status (c.chain m.chain)
      (called (c.callback m.states) (c.event (m.buffer ++ rest))) := by
  -- Each symbol passes from the rest to what has been read; the word they make is kept.
  induction rest generalizing m read with
  | nil => exact absurd rfl hne
  | cons symbol rest ih =>
    have hfound := hs.matchesAt
    have hlength := hs.length_eq
    rw [List.length_append, List.length_cons] at hlength
    have hsymbol := hi symbol List.mem_cons_self
    cases rest with
    | nil => exact ⟨[], m.parse symbol, rfl, by simp, h.takes hfound hsymbol hlength hl hg⟩
    | cons next rest =>
      have hpart : (read ++ [symbol]).Sublist (read ++ symbol :: next :: rest).dropLast := by
        rw [List.dropLast_append_cons, List.dropLast_cons_of_ne_nil (List.cons_ne_nil next rest)]
        exact (List.sublist_append_left [symbol] _).append_left read
      obtain ⟨after, hparse, hnext⟩ := h.waits hfound hsymbol
        (by rw [List.length_cons] at hlength; omega) (hu.mono hpart)
      have hjoin : read ++ symbol :: next :: rest = (read ++ [symbol]) ++ next :: rest := by simp
      have hbuffer : m.buffer ++ symbol :: next :: rest =
          (m.buffer ++ [symbol]) ++ next :: rest := by simp
      rw [hjoin] at hs hu hl
      rw [hbuffer] at hg ⊢
      rw [hparse] at hnext
      obtain ⟨waits, last, houtcomes, hwaits, hanswered⟩ := ih hnext (List.cons_ne_nil _ _) hs
        (fun symbol hin => hi symbol (List.mem_cons_of_mem _ hin)) hu hl hg
      refine ⟨m.parse symbol :: waits, last, ?_, ?_, hanswered⟩
      · rw [outcomes, hparse, houtcomes, List.cons_append]
      · refine List.forall_mem_cons.mpr ⟨?_, hwaits⟩
        rw [hparse]
        exact ⟨rfl, rfl, rfl, rfl⟩

end Run

theorem leading_of_cleared {m : Machine Memory} (hm : Reachable m) (hs : m.started = true)
    (hp : m.tracker.phase = .undetermined) (hz : Cleared m)
    (hn : (m.stateAt m.active).branches.Nodup) {c : Candidate}
    (hc : c ∈ followed m.states m.active .undetermined) : Leading m c [] := by
  have hsound := hm.sound
  have hzero {d : Candidate} (hd : d ∈ followed m.states m.active m.tracker.phase) :
      d.progress m.tracker = 0 :=
    hz.progress_eq_zero hsound.sized ((hsound.connected hs).followed_lt hd)
  rw [← hp] at hc
  refine ⟨hs, hsound, hn, hc, hzero hc, ?_, fun d hd => Or.inl (hzero hd)⟩
  intro d hd
  rw [hzero hd]
  exact Pattern.Trail.start []

def twins : Machine Unit :=
  (withOptions {} ()).calls
    [.addState { name := "root", branches := [1, 2] },
      .addState {
        name := "first", entry := ['a', 'a', 'b'].map .literal
        leave := ['a', 'b'].map .literal, branches := [3]
        onEnter := some fun memory _ => (.ok (), memory)
        onLeave := some fun memory _ => (.ok (), memory) },
      .addState { name := "second", entry := ['a', 'c'].map .literal },
      .addState { name := "third", entry := ['a', 'b'].map .literal }]

end Machine
end StateNest
