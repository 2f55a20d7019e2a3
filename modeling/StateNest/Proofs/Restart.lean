import StateNest.Proofs.Invariant

/-!
# A start forgets the past

A session that starts is known from the states, the options and what the
callbacks remember. Nothing else of the machine has a part in it, however many
symbols, failures and changes of the states have come before. A start that is
refused names the first branch that leads nowhere and leaves all as it was.
-/

set_option autoImplicit false

namespace StateNest.Machine

variable {Memory : Type}

def opened (states : List (State Memory)) (options : Options) (memory : Memory) :
    Machine Memory where
  states := states
  chain := [root]
  tracker := Tracker.blank states.length
  options := options
  started := true
  memory := memory

def assembled (states : List (State Memory)) (options : Options) (memory : Memory) :
    Machine Memory :=
  (withOptions options memory).calls (states.map .addState)

structure FirstUnknown (states : List (State Memory)) (state : State Memory) (branch : StateId) :
    Prop where
  unknown : states.length ≤ branch
  earlier : ∃ before after, states = before ++ state :: after ∧
    ∀ other ∈ before, ∀ id ∈ other.branches, id < states.length
  first : ∃ before after, state.branches = before ++ branch :: after ∧
    ∀ id ∈ before, id < states.length

theorem fresh_eq_opened {m : Machine Memory} (h : m.tracker.Sized m.states.length) :
    m.fresh = opened m.states m.options m.memory := by
  rw [fresh, reset, Tracker.reset_blank _ h]
  rfl

theorem calls_addState (m : Machine Memory) (states : List (State Memory)) :
    (m.calls (states.map .addState)).states = m.states ++ states ∧
      (m.calls (states.map .addState)).options = m.options ∧
      (m.calls (states.map .addState)).memory = m.memory := by
  induction states generalizing m with
  | nil => exact ⟨(List.append_nil _).symm, rfl, rfl⟩
  | cons state states ih =>
    obtain ⟨hs, ho, hm⟩ := ih (m.addState state)
    refine ⟨?_, ho, hm⟩
    rw [List.map_cons, calls, call, hs, addState, List.append_assoc]
    rfl

section Refusal

variable {m : Machine Memory}

theorem unknownBranch_some_iff {name : String} {branch : StateId} :
    m.unknownBranch? = some (name, branch) ↔
      ∃ state, name = state.name ∧ FirstUnknown m.states state branch := by
  have hfound (state : State Memory) :
      (state.branches.find? (m.states.length ≤ ·)).map (fun branch => (state.name, branch)) =
          some (name, branch) ↔
        name = state.name ∧ m.states.length ≤ branch ∧
          ∃ before after, state.branches = before ++ branch :: after ∧
            ∀ id ∈ before, id < m.states.length := by
    simp only [Option.map_eq_some_iff, Prod.mk.injEq, List.find?_eq_some_iff_append]
    constructor
    · rintro ⟨found, ⟨hle, before, after, hl, hb⟩, rfl, rfl⟩
      exact ⟨rfl, by simpa using hle, before, after, hl, by simpa using hb⟩
    · rintro ⟨rfl, hle, before, after, hl, hb⟩
      exact ⟨branch, ⟨by simpa using hle, before, after, hl, by simpa using hb⟩, rfl, rfl⟩
  simp only [unknownBranch?, List.findSome?_eq_some_iff, hfound]
  constructor
  · rintro ⟨before, state, after, hl, ⟨rfl, hle, hfirst⟩, hb⟩
    exact ⟨state, rfl, hle, ⟨before, after, hl, by simpa using hb⟩, hfirst⟩
  · rintro ⟨state, rfl, hle, ⟨before, after, hl, hb⟩, hfirst⟩
    exact ⟨before, state, after, hl, ⟨rfl, hle, hfirst⟩, by simpa using hb⟩

theorem prestart_ok_iff {started : Machine Memory} :
    m.prestart = .ok started ↔ started = m.fresh ∧ m.states ≠ [] ∧
      ∀ state ∈ m.states, ∀ branch ∈ state.branches, branch < m.states.length := by
  rw [← unknownBranch_none_iff, prestart]
  cases hu : m.unknownBranch? with
  | none =>
    by_cases he : m.states = []
    · simp [he]
    · simpa [he] using eq_comm
  | some found => by_cases he : m.states = [] <;> simp [he]

theorem prestart_noStates_iff : m.prestart = .error .noStates ↔ m.states = [] := by
  rw [prestart]
  cases hu : m.unknownBranch? with
  | none => simp
  | some found => simp

theorem prestart_unknownBranch_iff {name : String} {branch : StateId} :
    m.prestart = .error (.unknownBranch name branch) ↔
      ∃ state, name = state.name ∧ FirstUnknown m.states state branch := by
  rw [← unknownBranch_some_iff, prestart]
  by_cases he : m.states = []
  · simp [he, unknownBranch?]
  · cases hu : m.unknownBranch? with
    | none => simp [he]
    | some found => simp [he, Prod.ext_iff]

theorem prestart_error_iff : (∃ cause, m.prestart = .error cause) ↔
    m.states = [] ∨ ∃ state ∈ m.states, ∃ branch ∈ state.branches, m.states.length ≤ branch := by
  cases hp : m.prestart with
  | ok started =>
    obtain ⟨-, hne, hlt⟩ := prestart_ok_iff.mp hp
    simpa [hne] using hlt
  | error cause =>
    refine ⟨fun _ => ?_, fun _ => ⟨cause, rfl⟩⟩
    apply Classical.byContradiction
    intro hno
    simp only [not_or, not_exists, not_and, Nat.not_le] at hno
    have hok : m.prestart = .ok m.fresh := prestart_ok_iff.mpr ⟨rfl, hno⟩
    simp [hp] at hok

theorem call_prestart_ok {started : Machine Memory} (h : m.prestart = .ok started) :
    m.call .prestart = started := by
  rw [call, h]

theorem call_prestart_error {cause : Error} (h : m.prestart = .error cause) :
    m.call .prestart = m := by
  rw [call, h]

end Refusal

/-- What a start takes from a machine: its states, its options and its memory. -/
theorem prestart_congr {m n : Machine Memory} (hm : Reachable m) (hn : Reachable n)
    (hs : n.states = m.states) (ho : n.options = m.options) (hr : n.memory = m.memory) :
    n.prestart = m.prestart := by
  have hfresh : n.fresh = m.fresh := by
    rw [fresh_eq_opened hn.sound.sized, fresh_eq_opened hm.sound.sized, hs, ho, hr]
  rw [prestart, prestart, unknownBranch?, unknownBranch?, hfresh, hs]

section Assembly

variable (states : List (State Memory)) (options : Options) (memory : Memory)

theorem assembled_reachable : Reachable (assembled states options memory) :=
  ⟨options, memory, _, rfl⟩

theorem assembled_setup : (assembled states options memory).states = states ∧
    (assembled states options memory).options = options ∧
    (assembled states options memory).memory = memory :=
  calls_addState (withOptions options memory) states

theorem assembled_prestart_iff {started : Machine Memory} :
    (assembled states options memory).prestart = .ok started ↔
      started = opened states options memory ∧ states ≠ [] ∧
        ∀ state ∈ states, ∀ branch ∈ state.branches, branch < states.length := by
  obtain ⟨hs, ho, hm⟩ := assembled_setup states options memory
  rw [prestart_ok_iff, fresh_eq_opened (assembled_reachable states options memory).sound.sized,
    hs, ho, hm]

end Assembly

theorem prestart_again (m : Machine Memory) : (m.call .prestart).prestart = m.prestart := by
  cases hp : m.prestart with
  | error cause => rw [call_prestart_error hp, hp]
  | ok started =>
    obtain ⟨rfl, hne, hlt⟩ := prestart_ok_iff.mp hp
    rw [call_prestart_ok hp]
    apply prestart_ok_iff.mpr
    refine ⟨?_, hne, hlt⟩
    simp [fresh, reset, reset_reset]

structure Restarted (m n : Machine Memory) : Prop where
  result : n.prestart = m.prestart
  /-- The machine after it is the same, also if the states have just been added to a new one. -/
  opened : ∀ started, m.prestart = .ok started →
    m.call .prestart = started ∧ n.call .prestart = started ∧
      (assembled m.states m.options m.memory).call .prestart = started
  future : ∀ started, m.prestart = .ok started →
    ∀ text, (n.call .prestart).outcomes text = (m.call .prestart).outcomes text
  /-- A start that is refused changes nothing. -/
  refused : ∀ cause, m.prestart = .error cause → m.call .prestart = m ∧ n.call .prestart = n
  refused_iff : (∃ cause, m.prestart = .error cause) ↔ m.states = [] ∨
    ∃ state ∈ m.states, ∃ branch ∈ state.branches, m.states.length ≤ branch
  empty_iff : m.prestart = .error .noStates ↔ m.states = []
  unknown_iff : ∀ name branch, m.prestart = .error (.unknownBranch name branch) ↔
    ∃ state, name = state.name ∧ FirstUnknown m.states state branch
  again : (m.call .prestart).prestart = m.prestart ∧
    (m.call .prestart).call .prestart = m.call .prestart

theorem start_forgets {m n : Machine Memory} (hm : Reachable m) (hn : Reachable n)
    (hs : n.states = m.states) (ho : n.options = m.options) (hr : n.memory = m.memory) :
    Restarted m n := by
  have hresult := prestart_congr hm hn hs ho hr
  have hnew : (assembled m.states m.options m.memory).prestart = m.prestart := by
    obtain ⟨hstates, hoptions, hmemory⟩ := assembled_setup m.states m.options m.memory
    exact prestart_congr hm (assembled_reachable _ _ _) hstates hoptions hmemory
  have hagain := prestart_again m
  constructor
  · exact hresult
  · intro started hok
    exact ⟨call_prestart_ok hok, call_prestart_ok (hresult.trans hok),
      call_prestart_ok (hnew.trans hok)⟩
  · intro started hok text
    rw [call_prestart_ok hok, call_prestart_ok (hresult.trans hok)]
  · intro cause herror
    exact ⟨call_prestart_error herror, call_prestart_error (hresult.trans herror)⟩
  · exact prestart_error_iff
  · exact prestart_noStates_iff
  · intro name branch
    exact prestart_unknownBranch_iff
  · refine ⟨hagain, ?_⟩
    cases hp : m.prestart with
    | ok started =>
      rw [call_prestart_ok hp] at hagain ⊢
      exact call_prestart_ok (hagain.trans hp)
    | error cause => rw [call_prestart_error hp, call_prestart_error hp]

def refusing (branches : List StateId) : List (State Nat) :=
  [{ name := "root", leave := [.literal 'a', .literal 'c'], branches := branches },
    { name := "next", entry := [.literal 'a', .literal 'b']
      onEnter := some fun memory _ => (.error ⟨"full"⟩, memory + 1) }]

def worn : Machine Nat :=
  (assembled (refusing [7]) {} 0).calls
    [.prestart, .parse 'a', .modifyState 0 fun state => { state with branches := [1] }, .prestart,
      .parseAll ['a', 'b'], .remember 0, .modifyState 1 id]

theorem worn_forgets :
    Reachable worn ∧ worn.chain = [0, 1] ∧ worn.buffer = ['a', 'b'] ∧
      worn.tracker.entry = [0, 2] ∧ worn.failure = some ⟨"full"⟩ ∧
      (assembled (refusing [7]) {} 0).prestart = .error (.unknownBranch "root" 7) ∧
      worn.call .prestart = (assembled (refusing [1]) {} 0).call .prestart := by
  have hr : Reachable worn := (assembled_reachable _ _ _).calls _
  have hm := assembled_reachable (refusing [1]) {} 0
  have hall := start_forgets hm hr rfl rfl rfl
  obtain ⟨hnew, hworn, -⟩ := hall.opened (assembled (refusing [1]) {} 0).fresh rfl
  exact ⟨hr, rfl, rfl, rfl, rfl, rfl, hworn.trans hnew.symm⟩

end StateNest.Machine
