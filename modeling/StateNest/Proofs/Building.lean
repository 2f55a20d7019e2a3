import Mathlib.Data.List.Forall2
import StateNest.Graph.Building
import StateNest.Graph.Demo
import StateNest.Proofs.Restart
import StateNest.Regex.Basic

/-!
# The machine of a graph

A graph can be built if it has a state, its names are distinct, the engine takes
its expressions and each name that it refers to is one of its own. The states of the
machine are then those of the graph, in the same order, with positions in place
of names. Every position is known by then, so the start cannot be refused for a
branch that leads nowhere.
-/

set_option autoImplicit false

namespace StateNest

section Collecting

variable {ε α β γ : Type}

theorem bind_ok_iff {x : Except ε α} {f : α → Except ε β} {b : β} :
    (x >>= f) = .ok b ↔ ∃ a, x = .ok a ∧ f a = .ok b := by
  cases x <;> simp [bind, Except.bind]

theorem bind_error_iff {x : Except ε α} {f : α → Except ε β} {e : ε} :
    (x >>= f) = .error e ↔ x = .error e ∨ ∃ a, x = .ok a ∧ f a = .error e := by
  cases x <;> simp [bind, Except.bind]

theorem mapError_ok_iff {x : Except ε α} {f : ε → γ} {a : α} :
    x.mapError f = .ok a ↔ x = .ok a := by
  cases x <;> simp [Except.mapError]

theorem mapError_error_iff {x : Except ε α} {f : ε → γ} {e : γ} :
    x.mapError f = .error e ↔ ∃ cause, x = .error cause ∧ f cause = e := by
  cases x <;> simp [Except.mapError]

theorem mapM_ok_iff {f : α → Except ε β} {xs : List α} {ys : List β} :
    xs.mapM f = .ok ys ↔ List.Forall₂ (fun x y => f x = .ok y) xs ys := by
  induction xs generalizing ys with
  | nil => cases ys <;> simp [pure, Except.pure]
  | cons x xs ih =>
    rw [List.mapM_cons, List.forall₂_cons_left_iff]
    simp only [bind_ok_iff, ih, pure, Except.pure, Except.ok.injEq]
    constructor
    · rintro ⟨y, hy, rest, hr, rfl⟩
      exact ⟨y, rest, hy, hr, rfl⟩
    · rintro ⟨y, rest, hy, hr, rfl⟩
      exact ⟨y, hy, rest, hr, rfl⟩

theorem exists_forall₂_iff {R : α → β → Prop} {xs : List α} :
    (∃ ys, List.Forall₂ R xs ys) ↔ ∀ x ∈ xs, ∃ y, R x y := by
  induction xs with
  | nil => simp
  | cons x xs ih =>
    rw [List.forall_mem_cons, ← ih]
    simp only [List.forall₂_cons_left_iff]
    constructor
    · rintro ⟨_, y, rest, hy, hr, -⟩
      exact ⟨⟨y, hy⟩, rest, hr⟩
    · rintro ⟨⟨y, hy⟩, rest, hr⟩
      exact ⟨_, y, rest, hy, hr, rfl⟩

theorem exists_of_mem_right {R : α → β → Prop} {xs : List α} {ys : List β}
    (h : List.Forall₂ R xs ys) {y : β} (hy : y ∈ ys) : ∃ x ∈ xs, R x y := by
  induction h with
  | nil => simp at hy
  | @cons x z xs ys hnow _ ih =>
    rcases List.mem_cons.mp hy with rfl | hy
    · exact ⟨x, List.mem_cons_self, hnow⟩
    · obtain ⟨w, hw, hr⟩ := ih hy
      exact ⟨w, List.mem_cons_of_mem _ hw, hr⟩

theorem exists_of_mapM_error {f : α → Except ε β} {xs : List α} {e : ε}
    (h : xs.mapM f = .error e) : ∃ x ∈ xs, f x = .error e := by
  induction xs with
  | nil => simp [pure, Except.pure] at h
  | cons x xs ih =>
    rw [List.mapM_cons, bind_error_iff] at h
    rcases h with hx | ⟨y, -, h⟩
    · exact ⟨x, List.mem_cons_self, hx⟩
    · rw [bind_error_iff] at h
      rcases h with hrest | ⟨_, -, h⟩
      · obtain ⟨z, hz, he⟩ := ih hrest
        exact ⟨z, List.mem_cons_of_mem _ hz, he⟩
      · simp [pure, Except.pure] at h

/-- What is looked up in two lists is related if they have the same keys and related values. -/
theorem lookup_rel {κ : Type} [BEq κ] [LawfulBEq κ] {R : α → β → Prop} {entries : List (κ × α)}
    {targets : List (κ × β)}
    (h : List.Forall₂ (fun entry target => entry.1 = target.1 ∧ R entry.2 target.2)
      entries targets) (key : κ) : Option.Rel R (entries.lookup key) (targets.lookup key) := by
  induction h with
  | nil => exact Option.Rel.none
  | @cons entry target entries targets hnow _ ih =>
    obtain ⟨name, value⟩ := entry
    obtain ⟨other, result⟩ := target
    obtain ⟨hk, hr⟩ := hnow
    obtain rfl : name = other := hk
    rw [List.lookup_cons, List.lookup_cons]
    cases key == name with
    | true => exact Option.Rel.some hr
    | false => exact ih

end Collecting

namespace Graph

def Readable (engine : Engine) : ElementSpec → Prop
  | .literal _ => True
  | .regex source => (engine source).isOk = true

instance (engine : Engine) : DecidablePred (Readable engine)
  | .literal _ => isTrue trivial
  | .regex source => inferInstanceAs (Decidable ((engine source).isOk = true))

structure WellFormed (engine : Engine) (graph : Graph) : Prop where
  nonempty : graph.states ≠ []
  distinct : graph.names.Nodup
  readable : ∀ spec ∈ graph.states, ∀ element ∈ spec.entry ++ spec.leave, Readable engine element
  branches : ∀ spec ∈ graph.states, ∀ name ∈ spec.branches, name ∈ graph.names
  targets : ∀ spec ∈ graph.states, ∀ entry ∈ spec.hardset, entry.2 ∈ graph.names

instance (engine : Engine) (graph : Graph) : Decidable (graph.WellFormed engine) :=
  decidable_of_iff (graph.states ≠ [] ∧ graph.names.Nodup ∧
      (∀ spec ∈ graph.states, ∀ element ∈ spec.entry ++ spec.leave, Readable engine element) ∧
      (∀ spec ∈ graph.states, ∀ name ∈ spec.branches, name ∈ graph.names) ∧
      ∀ spec ∈ graph.states, ∀ entry ∈ spec.hardset, entry.2 ∈ graph.names)
    ⟨fun h => ⟨h.1, h.2.1, h.2.2.1, h.2.2.2.1, h.2.2.2.2⟩,
      fun h => ⟨h.nonempty, h.distinct, h.readable, h.branches, h.targets⟩⟩

inductive Denotes (engine : Engine) : ElementSpec → Element → Prop
  | literal (symbol : Char) : Denotes engine (.literal symbol) (.literal symbol)
  | regex (source : String) (isMatch : Char → Bool) (hr : engine source = .ok isMatch) :
      Denotes engine (.regex source) (.regex ⟨source, isMatch⟩)

structure Realizes (engine : Engine) (names : List String) (spec : StateSpec)
    (state : State Unit) : Prop where
  name : state.name = spec.name
  entry : List.Forall₂ (Denotes engine) spec.entry state.entry
  leave : List.Forall₂ (Denotes engine) spec.leave state.leave
  branches : List.Forall₂ (fun name id => names[id]? = some name) spec.branches state.branches
  skips : ∀ symbol, state.ignore.skips symbol = true ↔ symbol ∈ spec.ignore.all
  skipsInHandler : ∀ symbol,
    state.ignore.skipsInHandler symbol = true ↔ symbol ∈ spec.ignore.handler
  onEnter : state.onEnter = some quiet
  onLeave : state.onLeave = some quiet
  /-- The handler asks for the named state on exactly the symbols that force one. -/
  onMiss : ∃ call, state.onMiss = some call ∧ ∀ memory symbol, ∃ answer,
    call memory symbol = (.ok answer, memory) ∧
      Option.Rel (fun name id => names[id]? = some name) (spec.hardset.lookup symbol) answer

structure Realized (engine : Engine) (graph : Graph) (machine : Machine Unit) : Prop where
  started : machine.started = true
  chain : machine.chain = [root]
  buffer : machine.buffer = []
  progress : ∀ id < machine.states.length, machine.progress id = some (0, 0)
  options : machine.options = graph.options
  states : List.Forall₂ (Realizes engine graph.names) graph.states machine.states
  stateIndex : ∀ id name, graph.names[id]? = some name → machine.stateIndex name = .ok id

theorem firstRepeated?_eq_none_iff {seen names : List String} :
    firstRepeated? seen names = none ↔ names.Nodup ∧ ∀ name ∈ names, name ∉ seen := by
  induction names generalizing seen with
  | nil => simp [firstRepeated?]
  | cons name names ih =>
    rw [firstRepeated?, List.nodup_cons, List.forall_mem_cons]
    by_cases hs : name ∈ seen
    · simp [hs]
    · rw [if_neg (by simpa using hs), ih]
      simp only [List.mem_cons, not_or]
      constructor
      · rintro ⟨hn, hall⟩
        exact ⟨⟨fun hin => (hall name hin).1 rfl, hn⟩, hs, fun other ho => (hall other ho).2⟩
      · rintro ⟨⟨hname, hn⟩, -, hall⟩
        refine ⟨hn, fun other ho => ⟨?_, hall other ho⟩⟩
        rintro rfl
        exact hname ho

/-- Among distinct names, one is found where it stands. -/
theorem findIdx?_name_iff {names : List String} (hn : names.Nodup) {name : String}
    {id : StateId} : names.findIdx? (· = name) = some id ↔ names[id]? = some name := by
  rw [List.findIdx?_eq_some_iff_getElem, List.getElem?_eq_some_iff]
  simp only [decide_eq_true_eq]
  constructor
  · rintro ⟨hid, he, -⟩
    exact ⟨hid, he⟩
  · rintro ⟨hid, he⟩
    refine ⟨hid, he, fun other ho hsame => ?_⟩
    have hlt : other < names.length := Nat.lt_trans ho hid
    have heq : names[other]? = names[id]? := by
      rw [List.getElem?_eq_getElem hlt, List.getElem?_eq_getElem hid, hsame, he]
    exact Nat.ne_of_lt ho ((List.getElem?_inj hlt hn).mp heq)

section Describing

variable {engine : Engine} {names : List String}

theorem resolve_ok_iff (hn : names.Nodup) {owner target : String} {id : StateId} :
    resolve names owner target = .ok id ↔ names[id]? = some target := by
  rw [← findIdx?_name_iff hn, resolve]
  split
  · next found hf => simp [hf]
  · next hf => simp [hf]

theorem exists_resolve_ok_iff (owner : String) {target : String} :
    (∃ id, resolve names owner target = .ok id) ↔ target ∈ names := by
  rw [resolve]
  split
  · next id hf =>
    obtain ⟨hid, he, -⟩ := List.findIdx?_eq_some_iff_getElem.mp hf
    have hin : target ∈ names := by
      rw [← of_decide_eq_true he]
      exact List.getElem_mem hid
    simpa using hin
  · next hf =>
    rw [List.findIdx?_eq_none_iff] at hf
    have hout : target ∉ names := fun hin => by simpa using hf target hin
    simpa using hout

theorem compile_ok_iff {spec : ElementSpec} {element : Element} :
    compile engine spec = .ok element ↔ Denotes engine spec element := by
  cases spec with
  | literal symbol =>
    constructor
    · intro h
      obtain rfl := Except.ok.inj h
      exact Denotes.literal symbol
    · rintro ⟨⟩
      rfl
  | regex source =>
    rw [compile, Element.ofRegex]
    constructor
    · split
      · next isMatch hr =>
        intro h
        obtain rfl := Except.ok.inj h
        exact Denotes.regex source isMatch hr
      · simp
    · intro h
      cases h with
      | regex source isMatch hr => rw [hr]

theorem compile_error {spec : ElementSpec} {cause : Error}
    (h : compile engine spec = .error cause) :
    ∃ source reason, cause = .invalidRegex source reason := by
  cases spec with
  | literal symbol => simp [compile] at h
  | regex source =>
    rw [compile, Element.ofRegex] at h
    split at h
    · simp at h
    · next reason hr => exact ⟨source, reason, (Except.error.inj h).symm⟩

theorem pattern_ok_iff {elements : List ElementSpec} {built : Pattern} :
    pattern engine elements = .ok built ↔ List.Forall₂ (Denotes engine) elements built := by
  simp only [pattern, mapM_ok_iff, compile_ok_iff]

theorem exists_denotes_iff {spec : ElementSpec} :
    (∃ element, Denotes engine spec element) ↔ Readable engine spec := by
  cases spec with
  | literal symbol => exact ⟨fun _ => trivial, fun _ => ⟨_, Denotes.literal symbol⟩⟩
  | regex source =>
    rw [Readable]
    constructor
    · rintro ⟨element, hd⟩
      cases hd with
      | regex source isMatch hr =>
        rw [hr]
        rfl
    · intro hr
      cases he : engine source with
      | ok isMatch => exact ⟨_, Denotes.regex source isMatch he⟩
      | error reason =>
        rw [he] at hr
        simp [Except.isOk, Except.toBool] at hr

theorem exists_pattern_ok_iff {elements : List ElementSpec} :
    (∃ built, pattern engine elements = .ok built) ↔
      ∀ element ∈ elements, Readable engine element := by
  simp only [pattern_ok_iff, exists_forall₂_iff, exists_denotes_iff]

theorem buildState_ok_iff {spec : StateSpec} {state : State Unit} :
    buildState engine names spec = .ok state ↔ ∃ entry leave branches targets,
      pattern engine spec.entry = .ok entry ∧ pattern engine spec.leave = .ok leave ∧
      List.Forall₂ (fun name id => resolve names spec.name name = .ok id)
        spec.branches branches ∧
      List.Forall₂ (fun entry target => entry.1 = target.1 ∧
        resolve names spec.name entry.2 = .ok target.2) spec.hardset targets ∧
      state = {
        name := spec.name, entry, leave, branches
        ignore := ⟨spec.ignore.all, spec.ignore.handler⟩
        onEnter := some quiet, onLeave := some quiet, onMiss := some (forcing targets) } := by
  have htarget (entry : Char × String) (target : Char × StateId) :
      (do .ok (entry.1, ← resolve names spec.name entry.2)) = Except.ok target ↔
        entry.1 = target.1 ∧ resolve names spec.name entry.2 = .ok target.2 := by
    obtain ⟨symbol, id⟩ := target
    simp only [bind_ok_iff, Except.ok.injEq, Prod.mk.injEq]
    constructor
    · rintro ⟨_, hr, rfl, rfl⟩
      exact ⟨rfl, hr⟩
    · rintro ⟨rfl, hr⟩
      exact ⟨id, hr, rfl, rfl⟩
  simp only [buildState, bind_ok_iff, mapError_ok_iff, mapM_ok_iff, htarget, Except.ok.injEq]
  constructor
  · rintro ⟨entry, he, leave, hl, branches, hb, targets, ht, rfl⟩
    exact ⟨entry, leave, branches, targets, he, hl, hb, ht, rfl⟩
  · rintro ⟨entry, leave, branches, targets, he, hl, hb, ht, rfl⟩
    exact ⟨entry, he, leave, hl, branches, hb, targets, ht, rfl⟩

theorem exists_buildState_ok_iff {spec : StateSpec} :
    (∃ state, buildState engine names spec = .ok state) ↔
      (∀ element ∈ spec.entry ++ spec.leave, Readable engine element) ∧
      (∀ name ∈ spec.branches, name ∈ names) ∧ ∀ entry ∈ spec.hardset, entry.2 ∈ names := by
  have htargets : (∃ targets : List (Char × StateId), List.Forall₂ (fun entry target =>
      entry.1 = target.1 ∧ resolve names spec.name entry.2 = .ok target.2)
      spec.hardset targets) ↔ ∀ entry ∈ spec.hardset, entry.2 ∈ names := by
    rw [exists_forall₂_iff]
    refine forall₂_congr fun entry _ => ?_
    rw [← exists_resolve_ok_iff spec.name]
    constructor
    · rintro ⟨target, -, hr⟩
      exact ⟨target.2, hr⟩
    · rintro ⟨id, hr⟩
      exact ⟨(entry.1, id), rfl, hr⟩
  have hbranches : (∃ branches, List.Forall₂ (fun name id =>
      resolve names spec.name name = .ok id) spec.branches branches) ↔
      ∀ name ∈ spec.branches, name ∈ names := by
    simp only [exists_forall₂_iff, exists_resolve_ok_iff]
  simp only [List.mem_append, or_imp, forall_and, ← exists_pattern_ok_iff, ← hbranches,
    ← htargets, buildState_ok_iff]
  constructor
  · rintro ⟨_, entry, leave, branches, targets, he, hl, hb, ht, -⟩
    exact ⟨⟨⟨entry, he⟩, leave, hl⟩, ⟨branches, hb⟩, targets, ht⟩
  · rintro ⟨⟨⟨entry, he⟩, leave, hl⟩, ⟨branches, hb⟩, targets, ht⟩
    exact ⟨_, entry, leave, branches, targets, he, hl, hb, ht, rfl⟩

theorem buildState_realizes (hn : names.Nodup) {spec : StateSpec} {state : State Unit}
    (h : buildState engine names spec = .ok state) : Realizes engine names spec state := by
  obtain ⟨entry, leave, branches, targets, he, hl, hb, ht, rfl⟩ := buildState_ok_iff.mp h
  simp only [resolve_ok_iff hn] at hb ht
  constructor
  · rfl
  · exact pattern_ok_iff.mp he
  · exact pattern_ok_iff.mp hl
  · exact hb
  · exact fun symbol => List.contains_iff_mem
  · exact fun symbol => List.contains_iff_mem
  · rfl
  · rfl
  · exact ⟨forcing targets, rfl, fun memory symbol => ⟨_, rfl, lookup_rel ht symbol⟩⟩

/-- Only what a description says can go wrong with it. -/
def Described : BuildError → Prop
  | .badEntry _ cause | .badLeave _ cause => ∃ source reason, cause = .invalidRegex source reason
  | .declaredTwice _ | .unknownTarget .. => True
  | .machine _ => False

theorem pattern_error {elements : List ElementSpec} {cause : Error}
    (h : pattern engine elements = .error cause) :
    ∃ source reason, cause = .invalidRegex source reason := by
  obtain ⟨spec, -, he⟩ := exists_of_mapM_error h
  exact compile_error he

theorem resolve_error {owner target : String} {e : BuildError}
    (h : resolve names owner target = .error e) : e = .unknownTarget owner target := by
  rw [resolve] at h
  split at h
  · simp at h
  · exact (Except.error.inj h).symm

theorem buildState_error {spec : StateSpec} {e : BuildError}
    (h : buildState engine names spec = .error e) : Described e := by
  simp only [buildState, bind_error_iff, mapError_error_iff] at h
  rcases h with ⟨cause, hp, rfl⟩ | ⟨_, -, ⟨cause, hp, rfl⟩ | ⟨_, -, hb | ⟨_, -, ht | h⟩⟩⟩
  · exact pattern_error hp
  · exact pattern_error hp
  · obtain ⟨name, -, hr⟩ := exists_of_mapM_error hb
    rw [resolve_error hr]
    trivial
  · obtain ⟨entry, -, he⟩ := exists_of_mapM_error ht
    rcases bind_error_iff.mp he with hr | ⟨_, -, hr⟩
    · rw [resolve_error hr]
      trivial
    · simp at hr
  · simp at h

end Describing

section Building

variable {engine : Engine} {graph : Graph}

theorem foldl_addState (states : List (State Unit)) (m : Machine Unit) :
    states.foldl Machine.addState m = m.calls (states.map .addState) := by
  induction states generalizing m with
  | nil => rfl
  | cons state states ih => exact ih _

theorem length_names {states : List (State Unit)}
    (hs : List.Forall₂ (Realizes engine graph.names) graph.states states) :
    graph.names.length = states.length := by
  rw [names, List.length_map, hs.length_eq]

theorem branches_lt {states : List (State Unit)}
    (hs : List.Forall₂ (Realizes engine graph.names) graph.states states) :
    ∀ state ∈ states, ∀ branch ∈ state.branches, branch < states.length := by
  intro state hin branch hb
  obtain ⟨spec, -, hr⟩ := exists_of_mem_right hs hin
  obtain ⟨name, -, hname⟩ := exists_of_mem_right hr.branches hb
  obtain ⟨hlt, -⟩ := List.getElem?_eq_some_iff.mp hname
  rwa [← length_names hs]

theorem build_ok_iff {machine : Machine Unit} : graph.build engine = .ok machine ↔
    graph.states ≠ [] ∧ graph.names.Nodup ∧ ∃ states,
      List.Forall₂ (fun spec state => buildState engine graph.names spec = .ok state)
        graph.states states ∧
      machine = Machine.opened states graph.options () := by
  rw [build]
  split
  · next name hn =>
    have hrepeated : ¬ graph.names.Nodup := by
      intro hnodup
      rw [firstRepeated?_eq_none_iff.mpr ⟨hnodup, by simp⟩] at hn
      simp at hn
    simp [hrepeated]
  · next hn =>
    obtain ⟨hnodup, -⟩ := firstRepeated?_eq_none_iff.mp hn
    simp only [bind_ok_iff, mapError_ok_iff, mapM_ok_iff, foldl_addState]
    have hstart (states : List (State Unit))
        (hs : List.Forall₂ (fun spec state => buildState engine graph.names spec = .ok state)
          graph.states states) :
        (Machine.assembled states graph.options ()).prestart = .ok machine ↔
          machine = Machine.opened states graph.options () ∧ graph.states ≠ [] := by
      have hlt := branches_lt (hs.imp fun spec state => buildState_realizes hnodup)
      have hempty : states = [] ↔ graph.states = [] := by
        rw [← List.length_eq_zero_iff, ← hs.length_eq, List.length_eq_zero_iff]
      rw [Machine.assembled_prestart_iff, Ne, hempty, and_iff_left hlt]
    constructor
    · rintro ⟨states, hs, hok⟩
      obtain ⟨he, hne⟩ := (hstart states hs).mp hok
      exact ⟨hne, hnodup, states, hs, he⟩
    · rintro ⟨hne, -, states, hs, he⟩
      exact ⟨states, hs, (hstart states hs).mpr ⟨he, hne⟩⟩

theorem exists_build_ok_iff :
    (∃ machine, graph.build engine = .ok machine) ↔ graph.WellFormed engine := by
  have hstates : (∃ states, List.Forall₂ (fun spec state =>
      buildState engine graph.names spec = .ok state) graph.states states) ↔
      ∀ spec ∈ graph.states, ∃ state, buildState engine graph.names spec = .ok state :=
    exists_forall₂_iff
  simp only [exists_buildState_ok_iff] at hstates
  constructor
  · rintro ⟨_, hok⟩
    obtain ⟨hne, hnodup, states, hs, -⟩ := build_ok_iff.mp hok
    have hall := hstates.mp ⟨states, hs⟩
    exact ⟨hne, hnodup, fun spec hin => (hall spec hin).1, fun spec hin => (hall spec hin).2.1,
      fun spec hin => (hall spec hin).2.2⟩
  · intro h
    obtain ⟨states, hs⟩ := hstates.mpr fun spec hin =>
      ⟨h.readable spec hin, h.branches spec hin, h.targets spec hin⟩
    exact ⟨_, build_ok_iff.mpr ⟨h.nonempty, h.distinct, states, hs, rfl⟩⟩

theorem names_of_realizes {names : List String} {specs : List StateSpec}
    {states : List (State Unit)} (hs : List.Forall₂ (Realizes engine names) specs states) :
    states.map State.name = specs.map StateSpec.name := by
  induction hs with
  | nil => rfl
  | cons hnow _ ih => rw [List.map_cons, List.map_cons, hnow.name, ih]

theorem build_realized {machine : Machine Unit} (h : graph.build engine = .ok machine) :
    graph.Realized engine machine := by
  obtain ⟨-, hnodup, states, hs, rfl⟩ := build_ok_iff.mp h
  have hr : List.Forall₂ (Realizes engine graph.names) graph.states states :=
    hs.imp fun spec state => buildState_realizes hnodup
  constructor
  · rfl
  · rfl
  · rfl
  · exact fun id hid => Tracker.blank_progress id hid
  · rfl
  · exact hr
  · intro id name hname
    have hfound : states.findIdx? (·.name = name) = some id := by
      have hmap : (states.map State.name).findIdx? (· = name) = some id := by
        rw [names_of_realizes hr]
        exact (findIdx?_name_iff hnodup).mpr hname
      rwa [List.findIdx?_map] at hmap
    rw [Machine.stateIndex, Machine.opened, hfound]

/-- Once the states are built, only their absence can stop the machine from being started. -/
theorem build_error {e : BuildError} (h : graph.build engine = .error e) :
    Described e ∨ e = .machine .noStates ∧ graph.states = [] := by
  rw [build] at h
  split at h
  · obtain rfl := Except.error.inj h
    exact Or.inl trivial
  · next hn =>
    obtain ⟨hnodup, -⟩ := firstRepeated?_eq_none_iff.mp hn
    simp only [bind_error_iff, mapError_error_iff, mapM_ok_iff, foldl_addState] at h
    rcases h with he | ⟨states, hs, cause, hstart, rfl⟩
    · obtain ⟨spec, -, hb⟩ := exists_of_mapM_error he
      exact Or.inl (buildState_error hb)
    · right
      have hlt := branches_lt (hs.imp fun spec state => buildState_realizes hnodup)
      obtain ⟨hassembled, -⟩ := Machine.assembled_setup states graph.options ()
      have hempty : states = [] := by
        have hwhy := (Machine.prestart_error_iff (m := Machine.assembled states graph.options ())).mp
          ⟨cause, hstart⟩
        rw [hassembled] at hwhy
        rcases hwhy with he | ⟨state, hin, branch, hb, hle⟩
        · exact he
        · exact absurd (hlt state hin branch hb) (Nat.not_lt.mpr hle)
      have hnone := Machine.prestart_noStates_iff.mpr (hassembled.trans hempty)
      rw [← List.length_eq_zero_iff, hs.length_eq, hempty]
      exact ⟨congrArg _ (Except.error.inj (hstart.symm.trans hnone)), rfl⟩

/-- A graph is built exactly if it is well formed, into the machine that it describes. If it has no
states there is nothing else to be reported, and never is a branch found to lead nowhere. -/
theorem build_faithful (engine : Engine) (graph : Graph) :
    ((∃ machine, graph.build engine = .ok machine) ↔ graph.WellFormed engine) ∧
    (∀ machine, graph.build engine = .ok machine → graph.Realized engine machine) ∧
    (graph.states = [] → graph.build engine = .error (.machine .noStates)) ∧
    ∀ e, graph.build engine = .error e → ∀ state index,
      e ≠ .machine (.unknownBranch state index) ∧
        e.cause? ≠ some (.unknownBranch state index) := by
  refine ⟨exists_build_ok_iff, fun machine => build_realized, ?_, ?_⟩
  · intro he
    obtain ⟨options, states⟩ := graph
    obtain rfl : states = [] := he
    rfl
  · intro e he state index
    rcases build_error he with hd | ⟨rfl, -⟩
    · cases e with
      | machine cause => exact hd.elim
      | badEntry owner cause =>
        obtain ⟨source, reason, rfl⟩ := hd
        simp [BuildError.cause?]
      | badLeave owner cause =>
        obtain ⟨source, reason, rfl⟩ := hd
        simp [BuildError.cause?]
      | _ => simp [BuildError.cause?]
    · simp [BuildError.cause?]

theorem demo_faithful : demo.WellFormed Regex.engine ∧
    ∃ machine, demo.build Regex.engine = .ok machine ∧
      machine.states.length = 6 ∧ machine.stateIndex "alert" = .ok 5 := by
  have hw : demo.WellFormed Regex.engine := by decide +kernel
  obtain ⟨machine, hok⟩ := (build_faithful Regex.engine demo).1.mpr hw
  have hr := (build_faithful Regex.engine demo).2.1 machine hok
  exact ⟨hw, machine, hok, hr.states.length_eq.symm, hr.stateIndex 5 "alert" rfl⟩

end Building

end Graph
end StateNest
