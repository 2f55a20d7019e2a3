import Mathlib.Data.List.Forall2
import StateNest.Tracker

/-!
# What progress through a pattern means

A symbol is taken at the last position, up to the progress so far, that it
matches. So the latest symbols of a text leave a trail through the pattern: they
go on by one element at a time, with steps back in between. Some of them match
the elements in order, though they need not be consecutive. Consecutive symbols
that match are never missed, since the progress is not behind them.
-/

set_option autoImplicit false

namespace StateNest.Pattern

variable {pattern : Pattern} {progress position : Nat} {symbol : Char} {text : List Char}

def Spells (pattern : Pattern) (text : List Char) : Prop :=
  List.Forall₂ (fun element symbol => element.accepts symbol = true) pattern text

instance (pattern : Pattern) (text : List Char) : Decidable (pattern.Spells text) :=
  inferInstanceAs (Decidable (List.Forall₂ _ _ _))

def ScatteredIn (pattern : Pattern) (text : List Char) : Prop :=
  ∃ picked, picked.Sublist text ∧ pattern.Spells picked

theorem matchesAt_eq_true : pattern.matchesAt position symbol = true ↔
    ∃ element, pattern[position]? = some element ∧ element.accepts symbol = true := by
  unfold matchesAt
  cases pattern[position]? with
  | none => simp
  | some element => simp

theorem matchesAt_nil : matchesAt [] position symbol = false := rfl

theorem Spells.length_eq (h : pattern.Spells text) : pattern.length = text.length :=
  List.Forall₂.length_eq h

theorem spells_nil : Spells (pattern.take 0) [] := by
  rw [List.take_zero]
  exact List.Forall₂.nil

theorem Spells.snoc (h : Spells (pattern.take position) text)
    (hm : pattern.matchesAt position symbol = true) :
    Spells (pattern.take (position + 1)) (text ++ [symbol]) := by
  obtain ⟨element, he, ha⟩ := matchesAt_eq_true.mp hm
  rw [List.take_add_one, he]
  exact List.rel_append h (List.Forall₂.cons ha List.Forall₂.nil)

theorem Spells.matchesAt {first rest : List Char} (h : pattern.Spells (first ++ symbol :: rest)) :
    pattern.matchesAt first.length symbol = true := by
  have hrest := List.forall₂_drop_append _ _ _ h
  cases hd : pattern.drop first.length with
  | nil => simp [hd] at hrest
  | cons element elements =>
    rw [hd] at hrest
    cases hrest with
    | cons ha _ =>
      refine matchesAt_eq_true.mpr ⟨element, ?_, ha⟩
      rw [← List.head?_drop, hd, List.head?_cons]

theorem Spells.of_snoc (hp : position < pattern.length)
    (h : Spells (pattern.take (position + 1)) (text ++ [symbol])) :
    Spells (pattern.take position) text ∧ pattern.matchesAt position symbol = true := by
  have hl : position = text.length := by
    have hlength := h.length_eq
    simp only [List.length_take, List.length_append, List.length_singleton] at hlength
    omega
  constructor
  · have hfirst := List.forall₂_take_append _ _ _ h
    rwa [List.take_take, ← hl, Nat.min_eq_left (Nat.le_succ position)] at hfirst
  · obtain ⟨element, he, ha⟩ := matchesAt_eq_true.mp h.matchesAt
    rw [← hl, List.getElem?_take_of_lt (Nat.lt_succ_self position)] at he
    exact matchesAt_eq_true.mpr ⟨element, he, ha⟩

theorem ScatteredIn.mono {other : List Char} (h : pattern.ScatteredIn text)
    (hs : text.Sublist other) : pattern.ScatteredIn other := by
  obtain ⟨picked, hp, hm⟩ := h
  exact ⟨picked, hp.trans hs, hm⟩

theorem scatteredIn_nil (text : List Char) : ScatteredIn [] text :=
  ⟨[], List.nil_sublist text, List.Forall₂.nil⟩

theorem not_scatteredIn_nil (element : Element) (rest : Pattern) :
    ¬ ScatteredIn (element :: rest) [] := by
  rintro ⟨picked, hp, hm⟩
  rw [List.sublist_nil.mp hp] at hm
  exact nomatch hm

theorem scatteredIn_cons {element : Element} {rest : Pattern} :
    ScatteredIn (element :: rest) (symbol :: text) ↔
      (element.accepts symbol = true ∧ rest.ScatteredIn text) ∨
        ScatteredIn (element :: rest) text := by
  constructor
  · rintro ⟨picked, hp, hm⟩
    cases hp with
    | cons _ hp => exact Or.inr ⟨picked, hp, hm⟩
    | cons_cons _ hp =>
      obtain ⟨ha, hm⟩ := List.forall₂_cons.mp hm
      exact Or.inl ⟨ha, _, hp, hm⟩
  · rintro (⟨ha, picked, hp, hm⟩ | h)
    · exact ⟨symbol :: picked, hp.cons_cons symbol, List.Forall₂.cons ha hm⟩
    · exact h.mono (List.sublist_cons_self symbol text)

instance decidableScatteredIn : (pattern : Pattern) → (text : List Char) →
    Decidable (pattern.ScatteredIn text)
  | [], text => isTrue (scatteredIn_nil text)
  | element :: rest, [] => isFalse (not_scatteredIn_nil element rest)
  | element :: rest, _ :: text =>
    have := decidableScatteredIn rest text
    have := decidableScatteredIn (element :: rest) text
    decidable_of_iff' _ scatteredIn_cons

section Moved

inductive Moved (pattern : Pattern) (progress : Nat) (symbol : Char) : Step × Nat → Prop
  | completed (found : pattern.matchesAt progress symbol = true)
      (last : pattern.length = progress + 1) :
      Moved pattern progress symbol (.complete, progress + 1)
  | advanced (found : pattern.matchesAt progress symbol = true)
      (more : progress + 1 < pattern.length) :
      Moved pattern progress symbol (.advanced, progress + 1)
  | backtracked (position : Nat) (lt : position < progress)
      (found : pattern.matchesAt position symbol = true)
      (closest : ∀ other, position < other → other ≤ progress →
        pattern.matchesAt other symbol = false) :
      Moved pattern progress symbol (.backtracked, position + 1)
  | lost (nowhere : ∀ position ≤ progress, pattern.matchesAt position symbol = false) :
      Moved pattern progress symbol (.lost, 0)

theorem lastMatch_closest {other : Nat} (h : pattern.lastMatch symbol progress = some position)
    (hp : position < other) (ho : other < progress) :
    pattern.matchesAt other symbol = false := by
  induction progress with
  | zero => omega
  | succ progress ih =>
    unfold lastMatch at h
    split at h
    · obtain rfl := Option.some.inj h
      omega
    · next hn =>
      by_cases hlast : other = progress
      · simpa [hlast] using hn
      · exact ih h (by omega)

theorem lastMatch_none {other : Nat} (h : pattern.lastMatch symbol progress = none)
    (ho : other < progress) : pattern.matchesAt other symbol = false := by
  induction progress with
  | zero => omega
  | succ progress ih =>
    unfold lastMatch at h
    split at h
    · simp at h
    · next hn =>
      by_cases hlast : other = progress
      · simpa [hlast] using hn
      · exact ih h (by omega)

/-- A position past the end matches nothing, so `checkback` need not look there. -/
theorem matchesAt_past (h : pattern.length ≤ position) :
    pattern.matchesAt position symbol = false := by
  by_contra hm
  have := lt_length_of_matchesAt (Bool.not_eq_false _ ▸ hm)
  omega

theorem step_moved (pattern : Pattern) (progress : Nat) (symbol : Char) :
    Moved pattern progress symbol (pattern.step progress symbol) := by
  unfold step
  split
  · next found =>
    have hl := lt_length_of_matchesAt found
    split
    · exact Moved.completed found (by omega)
    · exact Moved.advanced found (by omega)
  · next hn =>
    have here : pattern.matchesAt progress symbol = false := by simpa using hn
    split
    · next position hc =>
      obtain ⟨hlt, found⟩ := lastMatch_some hc
      refine Moved.backtracked position (by omega) found ?_
      intro other hp ho
      by_cases heq : other = progress
      · rw [heq, here]
      by_cases hl : other < pattern.length
      · exact lastMatch_closest hc hp (by omega)
      · exact matchesAt_past (by omega)
    · next hc =>
      apply Moved.lost
      intro other ho
      by_cases heq : other = progress
      · rw [heq, here]
      by_cases hl : other < pattern.length
      · exact lastMatch_none hc (by omega)
      · exact matchesAt_past (by omega)

theorem step_matched (found : pattern.matchesAt progress symbol = true) :
    pattern.step progress symbol =
      (if pattern.length = progress + 1 then .complete else .advanced, progress + 1) := by
  have hm := step_moved pattern progress symbol
  have hl := lt_length_of_matchesAt found
  generalize pattern.step progress symbol = moved at hm ⊢
  cases hm with
  | completed _ last => rw [if_pos last]
  | advanced _ more => rw [if_neg (by omega)]
  | backtracked position lt _ closest => simp [closest progress lt (Nat.le_refl progress)] at found
  | lost nowhere => simp [nowhere progress (Nat.le_refl progress)] at found

theorem step_complete (h : (pattern.step progress symbol).1 = .complete) :
    pattern.length = progress + 1 ∧ pattern.matchesAt progress symbol = true := by
  have hm := step_moved pattern progress symbol
  generalize pattern.step progress symbol = moved at hm h
  cases hm with
  | completed found last => exact ⟨last, found⟩
  | _ => simp at h

/-- No progress is made past an element that a symbol does not match. -/
theorem step_barred (hp : progress ≤ position) (hl : position ≤ pattern.length - 1)
    (hn : pattern.matchesAt position symbol = false) :
    (pattern.step progress symbol).2 ≤ position ∧
      (pattern.step progress symbol).1 ≠ .complete := by
  have hpast (found : pattern.matchesAt progress symbol = true) : progress ≠ position := by
    intro heq
    simp [heq, hn] at found
  have hm := step_moved pattern progress symbol
  generalize pattern.step progress symbol = moved at hm
  cases hm with
  | completed found last =>
    have := hpast found
    omega
  | advanced found more =>
    have := hpast found
    exact ⟨by omega, by simp⟩
  | backtracked other lt found closest => exact ⟨by omega, by simp⟩
  | lost nowhere => exact ⟨Nat.zero_le position, by simp⟩

/-- There is more to match. The empty pattern has no progress. -/
def Unfinished (pattern : Pattern) (progress : Nat) : Prop :=
  progress = 0 ∨ progress < pattern.length

theorem Unfinished.step (h : pattern.Unfinished progress)
    (hc : (pattern.step progress symbol).1 ≠ .complete) :
    pattern.Unfinished (pattern.step progress symbol).2 := by
  have hm := step_moved pattern progress symbol
  generalize pattern.step progress symbol = moved at hm hc
  cases hm with
  | completed found last => simp at hc
  | advanced found more => exact Or.inr more
  | backtracked position lt found closest =>
    right
    rcases h with h | h <;> omega
  | lost nowhere => exact Or.inl rfl

end Moved

section Trail

/-- The latest symbols of a text lead to some progress. The first of them matches the first
element, and each one the element after that of the symbol before it or, if it does not, the
closest earlier element that it matches. -/
inductive Trail (pattern : Pattern) : List Char → Nat → Prop
  | start (text : List Char) : Trail pattern text 0
  | next {text : List Char} {progress position : Nat} {symbol : Char}
      (earlier : Trail pattern text progress) (unfinished : pattern.Unfinished progress)
      (le : position ≤ progress) (found : pattern.matchesAt position symbol = true)
      (closest : ∀ other, position < other → other ≤ progress →
        pattern.matchesAt other symbol = false) :
      Trail pattern (text ++ [symbol]) (position + 1)

theorem Trail.step (h : Trail pattern text progress) (hu : pattern.Unfinished progress) :
    Trail pattern (text ++ [symbol]) (pattern.step progress symbol).2 := by
  have hm := step_moved pattern progress symbol
  generalize pattern.step progress symbol = moved at hm
  cases hm with
  | completed found last =>
    exact Trail.next h hu (Nat.le_refl progress) found fun other hp ho => by omega
  | advanced found more =>
    exact Trail.next h hu (Nat.le_refl progress) found fun other hp ho => by omega
  | backtracked position lt found closest => exact Trail.next h hu (Nat.le_of_lt lt) found closest
  | lost nowhere => exact Trail.start _

theorem Trail.completed (h : Trail pattern text progress) (hu : pattern.Unfinished progress)
    (hc : (pattern.step progress symbol).1 = .complete) :
    Trail pattern (text ++ [symbol]) pattern.length := by
  obtain ⟨hlength, hfound⟩ := step_complete hc
  rw [hlength]
  exact Trail.next h hu (Nat.le_refl progress) hfound fun other hp ho => by omega

theorem Trail.last (h : Trail pattern text (position + 1)) :
    ∃ before symbol progress, text = before ++ [symbol] ∧ Trail pattern before progress ∧
      pattern.Unfinished progress ∧ position ≤ progress ∧
      pattern.matchesAt position symbol = true ∧
      ∀ other, position < other → other ≤ progress → pattern.matchesAt other symbol = false := by
  cases h with
  | next earlier unfinished le found closest =>
    exact ⟨_, _, _, rfl, earlier, unfinished, le, found, closest⟩

/-- Where a trail steps back it has been before, so that some symbols on it spell the elements. -/
theorem Trail.scattered (h : Trail pattern text progress) {count : Nat} (hc : count ≤ progress) :
    ScatteredIn (pattern.take count) text := by
  induction h generalizing count with
  | start text =>
    obtain rfl := Nat.le_zero.mp hc
    exact ⟨[], List.nil_sublist text, spells_nil⟩
  | @next text progress position symbol earlier unfinished le found closest ih =>
    by_cases hlast : count = position + 1
    · obtain ⟨picked, hp, hm⟩ := ih le
      rw [hlast]
      exact ⟨picked ++ [symbol], hp.append_right [symbol], hm.snoc found⟩
    · have hcount : count ≤ progress := by omega
      exact (ih hcount).mono (List.sublist_append_left text [symbol])

def ScatteredUpTo (pattern : Pattern) (text : List Char) (last : Char) : Prop :=
  ∃ picked, picked.Sublist text ∧ pattern.Spells (picked ++ [last])

theorem ScatteredUpTo.length_le (h : pattern.ScatteredUpTo text symbol) :
    pattern.length ≤ text.length + 1 := by
  obtain ⟨picked, hp, hm⟩ := h
  have hl := hm.length_eq
  have := hp.length_le
  simp only [List.length_append, List.length_singleton] at hl
  omega

theorem Trail.scatteredUpTo (h : Trail pattern (text ++ [symbol]) pattern.length)
    (hne : pattern ≠ []) : pattern.ScatteredUpTo text symbol := by
  have hpos : pattern.length ≠ 0 := List.length_eq_zero_iff.not.mpr hne
  obtain ⟨position, hlength⟩ := Nat.exists_eq_succ_of_ne_zero hpos
  rw [hlength] at h
  obtain ⟨before, last, progress, heq, earlier, -, le, found, -⟩ := h.last
  obtain ⟨rfl, hlast⟩ := List.append_inj' heq rfl
  obtain rfl := List.head_eq_of_cons_eq hlast
  obtain ⟨picked, hp, hm⟩ := earlier.scattered le
  refine ⟨picked, hp, ?_⟩
  have hall := hm.snoc found
  rwa [List.take_of_length_le (by omega)] at hall

/-- If consecutive symbols match and the next one is taken at an earlier position, those of them
that are still counted match as well. -/
def Overlapping (pattern : Pattern) : Prop :=
  ∀ (text : List Char) (symbol : Char) (progress position : Nat),
    Spells (pattern.take progress) text → progress < pattern.length → position < progress →
    pattern.matchesAt position symbol = true →
    (∀ other, position < other → other ≤ progress → pattern.matchesAt other symbol = false) →
    Spells (pattern.take position) (text.drop (progress - position))

theorem Spells.trail (h : Spells (pattern.take progress) text) (hl : progress ≤ pattern.length) :
    Trail pattern text progress := by
  induction progress generalizing text with
  | zero => exact Trail.start text
  | succ progress ih =>
    have hlength := h.length_eq
    rw [List.length_take, Nat.min_eq_left hl] at hlength
    rcases List.eq_nil_or_concat' text with rfl | ⟨before, symbol, rfl⟩
    · simp at hlength
    obtain ⟨hbefore, hfound⟩ := h.of_snoc hl
    exact Trail.next (ih hbefore (by omega)) (Or.inr hl) (Nat.le_refl progress) hfound
      fun other hp ho => by omega

/-- The progress counts consecutive symbols that match, for just the overlapping patterns. -/
theorem overlapping_iff : pattern.Overlapping ↔
    ∀ text progress, Trail pattern text progress →
      ∃ latest, latest <:+ text ∧ Spells (pattern.take progress) latest := by
  constructor
  · intro ho text progress h
    induction h with
    | start text => exact ⟨[], List.nil_suffix, spells_nil⟩
    | @next text progress position symbol earlier unfinished le found closest ih =>
      obtain ⟨latest, hs, hm⟩ := ih
      have hkept : ∃ kept, kept <:+ text ∧ Spells (pattern.take position) kept := by
        rcases Nat.eq_or_lt_of_le le with rfl | hback
        · exact ⟨latest, hs, hm⟩
        · have hopen : progress < pattern.length := by
            rcases unfinished with hu | hu <;> omega
          exact ⟨_, (List.drop_suffix _ latest).trans hs,
            ho latest symbol progress position hm hopen hback found closest⟩
      obtain ⟨kept, ⟨rest, rfl⟩, hm⟩ := hkept
      exact ⟨kept ++ [symbol], ⟨rest, by rw [List.append_assoc]⟩, hm.snoc found⟩
  · -- The text is a trail itself, and so is the step back from its end.
    intro h text symbol progress position hm hopen hback found closest
    have hnext := Trail.next (hm.trail (Nat.le_of_lt hopen)) (Or.inr hopen) (Nat.le_of_lt hback)
      found closest
    obtain ⟨latest, hs, hspells⟩ := h _ _ hnext
    have hlast := hspells.length_eq
    have hall := hm.length_eq
    rw [List.length_take] at hlast hall
    rcases List.suffix_concat_iff.mp hs with rfl | ⟨kept, rfl, hkept⟩
    · rw [List.length_nil] at hlast
      omega
    · rw [List.length_append, List.length_singleton] at hlast
      have hdrop : text.drop (progress - position) = kept := by
        rw [List.suffix_iff_eq_drop.mp hkept]
        congr 1
        omega
      rw [hdrop]
      exact (hspells.of_snoc (by omega)).1

theorem overlapping_of_length_le_two (h : pattern.length ≤ 2) : pattern.Overlapping := by
  intro text symbol progress position hm hopen hback found closest
  obtain rfl : position = 0 := by omega
  have hl := hm.length_eq
  rw [List.length_take] at hl
  rw [List.drop_eq_nil_of_le (by omega)]
  exact spells_nil

end Trail

section Search

/-- The progress is not behind any consecutive symbols at the end of a text that match. -/
def Ahead (pattern : Pattern) (text : List Char) (progress : Nat) : Prop :=
  ∀ count ≤ pattern.length, ∀ latest, latest <:+ text → Spells (pattern.take count) latest →
    count ≤ progress

theorem ahead_nil (pattern : Pattern) : pattern.Ahead [] 0 := by
  intro count hc latest hs hm
  have hl := hm.length_eq
  rw [List.suffix_nil.mp hs, List.length_take, List.length_nil] at hl
  omega

/-- Falling back to the closest position does not give up a longer match, since the progress was
already ahead of it before. -/
theorem Ahead.step (h : pattern.Ahead text progress) :
    pattern.Ahead (text ++ [symbol]) (pattern.step progress symbol).2 := by
  intro count hc latest hs hm
  cases count with
  | zero => exact Nat.zero_le _
  | succ count =>
    rcases List.suffix_concat_iff.mp hs with rfl | ⟨before, rfl, hbefore⟩
    · have hl := hm.length_eq
      rw [List.length_take, List.length_nil] at hl
      omega
    · obtain ⟨hearlier, hfound⟩ := hm.of_snoc hc
      have hle : count ≤ progress := h count (by omega) before hbefore hearlier
      have hmoved := step_moved pattern progress symbol
      generalize pattern.step progress symbol = moved at hmoved ⊢
      cases hmoved with
      | completed found last => exact Nat.succ_le_succ hle
      | advanced found more => exact Nat.succ_le_succ hle
      | backtracked position lt found closest =>
        by_contra hbehind
        have hmissed := closest count (by omega) hle
        simp [hmissed] at hfound
      | lost nowhere => simp [nowhere count hle] at hfound

end Search
end StateNest.Pattern
