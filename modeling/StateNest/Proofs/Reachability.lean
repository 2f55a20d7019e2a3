import Mathlib.Data.List.Nodup
import StateNest.Proofs.Paths
import StateNest.Proofs.Renumbering

/-!
# What cannot be reached does not count

From the first state of a graph some names are reached by branches and by forced
states. A graph that describes all of these alike, and has the same first name, is
as good as the first one: whatever text is fed to the two machines, nothing tells
them apart but the positions of their states. So the order of the states after the
first is of no account, nor is any state that is not reached.
-/

set_option autoImplicit false

namespace StateNest.Graph

def StateSpec.Refers (spec : StateSpec) (name : String) : Prop :=
  name ∈ spec.branches ∨ ∃ symbol, spec.hardset.lookup symbol = some name

inductive Reached (graph : Graph) : String → Prop
  | first (name : String) (hf : graph.names.head? = some name) : Reached graph name
  | next (spec : StateSpec) (name : String) (hs : spec ∈ graph.states)
      (hr : Reached graph spec.name) (ht : spec.Refers name) : Reached graph name

/-- Two states are described alike. What they ignore are sets, and what they force is a map. -/
structure StateSpec.Alike (spec twin : StateSpec) : Prop where
  name : twin.name = spec.name
  entry : twin.entry = spec.entry
  leave : twin.leave = spec.leave
  branches : twin.branches = spec.branches
  ignoredAlways : ∀ symbol, symbol ∈ twin.ignore.all ↔ symbol ∈ spec.ignore.all
  ignoredInHandler : ∀ symbol, symbol ∈ twin.ignore.handler ↔ symbol ∈ spec.ignore.handler
  hardset : ∀ symbol, twin.hardset.lookup symbol = spec.hardset.lookup symbol

structure Covered (graph other : Graph) : Prop where
  options : other.options = graph.options
  first : other.names.head? = graph.names.head?
  described : ∀ spec ∈ graph.states, graph.Reached spec.name →
    ∃ twin ∈ other.states, spec.Alike twin

def Rearranged (graph other : Graph) : Prop :=
  other.options = graph.options ∧ ∃ first rest rest', graph.states = first :: rest ∧
    other.states = first :: rest' ∧ rest.Perm rest'

/-- The other graph begins with the same state. It may have more states, and it lacks only such as
nothing that is reached refers to. -/
def Pruned (graph other : Graph) : Prop :=
  other.options = graph.options ∧ other.states.head? = graph.states.head? ∧
    ∀ spec ∈ graph.states, spec ∉ other.states →
      ∀ owner ∈ graph.states, graph.Reached owner.name → ¬ owner.Refers spec.name

/-- Nothing but the positions of the states tells two sessions apart. -/
structure Indistinct (graph : Graph) (m other : Machine Unit) : Prop where
  status : other.status = m.status
  buffer : other.buffer = m.buffer
  names : other.chainNames = m.chainNames
  progress : ∀ name, graph.Reached name → ∃ id id' counters, m.stateIndex name = .ok id ∧
    other.stateIndex name = .ok id' ∧ m.progress id = some counters ∧
    other.progress id' = some counters
  result : ∀ symbol, (other.parse symbol).result = (m.parse symbol).result

theorem StateSpec.Alike.refl (spec : StateSpec) : spec.Alike spec :=
  ⟨rfl, rfl, rfl, rfl, fun _ => Iff.rfl, fun _ => Iff.rfl, fun _ => rfl⟩

theorem covered_of_retained {graph other : Graph} (ho : other.options = graph.options)
    (hf : other.states.head? = graph.states.head?)
    (hs : ∀ spec ∈ graph.states, graph.Reached spec.name → spec ∈ other.states) :
    graph.Covered other := by
  refine ⟨ho, ?_, fun spec hin hr => ⟨spec, hs spec hin hr, StateSpec.Alike.refl spec⟩⟩
  rw [names, names, List.head?_map, List.head?_map, hf]

theorem Rearranged.covered {graph other : Graph} (h : graph.Rearranged other) :
    graph.Covered other := by
  obtain ⟨hoptions, first, rest, rest', hgraph, hother, hperm⟩ := h
  apply covered_of_retained hoptions
  · rw [hgraph, hother, List.head?_cons, List.head?_cons]
  · intro spec hin _
    rw [hgraph] at hin
    rw [hother]
    exact (hperm.cons first).mem_iff.mp hin

theorem Pruned.covered {graph other : Graph} (h : graph.Pruned other) (hn : graph.names.Nodup) :
    graph.Covered other := by
  obtain ⟨hoptions, hfirst, hlacks⟩ := h
  apply covered_of_retained hoptions hfirst
  intro spec hin hr
  apply Classical.byContradiction
  intro hout
  generalize hname : spec.name = name at hr
  cases hr with
  | first name hf =>
    rw [names, List.head?_map, Option.map_eq_some_iff] at hf
    obtain ⟨first, hhead, hsame⟩ := hf
    obtain rfl : first = spec := List.inj_on_of_nodup_map hn (List.mem_of_head? hhead) hin
      (hsame.trans hname.symm)
    exact hout (List.mem_of_head? (hfirst.trans hhead))
  | next owner name hs hr ht => exact hlacks spec hin hout owner hs hr (hname ▸ ht)

/-- The positions of a name that is reached stand for each other. -/
def Same (graph other : Graph) (id id' : StateId) : Prop :=
  ∃ name, graph.Reached name ∧ graph.names[id]? = some name ∧ other.names[id']? = some name

theorem forall₂_of_common {α β γ : Type} {P : α → β → Prop} {Q : α → γ → Prop} {xs : List α}
    {ys : List β} {zs : List γ} (hp : List.Forall₂ P xs ys) (hq : List.Forall₂ Q xs zs) :
    List.Forall₂ (fun y z => ∃ x ∈ xs, P x y ∧ Q x z) ys zs := by
  induction hp generalizing zs with
  | nil =>
    cases hq
    exact List.Forall₂.nil
  | @cons x y xs ys hnow _ ih =>
    cases hq with
    | cons hnow' hlater =>
      refine List.Forall₂.cons ⟨x, List.mem_cons_self, hnow, hnow'⟩ ?_
      exact (ih hlater).imp fun y z ⟨x, hx, h⟩ => ⟨x, List.mem_cons_of_mem _ hx, h⟩

theorem denotes_unique {engine : Engine} {elements : List ElementSpec} {built built' : Pattern}
    (h : List.Forall₂ (Denotes engine) elements built)
    (h' : List.Forall₂ (Denotes engine) elements built') :
    built' = built := by
  refine List.right_unique_forall₂' ?_ h' h
  intro spec element element' hd hd'
  cases hd with
  | literal symbol =>
    cases hd'
    rfl
  | regex source isMatch hr =>
    cases hd' with
    | regex _ _ hr' => rw [Except.ok.inj (hr.symm.trans hr')]

theorem position_unique {names : List String} (hn : names.Nodup) {id id' : StateId} {name : String}
    (h : names[id]? = some name) (h' : names[id']? = some name) : id = id' :=
  Option.some.inj
    (((findIdx?_name_iff hn).mpr h).symm.trans ((findIdx?_name_iff hn).mpr h'))

theorem same_branches {graph other : Graph} {spec : StateSpec} (hin : spec ∈ graph.states)
    (hr : graph.Reached spec.name) {ids ids' : List StateId}
    (hb : List.Forall₂ (fun name id => graph.names[id]? = some name) spec.branches ids)
    (hb' : List.Forall₂ (fun name id => other.names[id]? = some name) spec.branches ids') :
    List.Forall₂ (Same graph other) ids ids' :=
  (forall₂_of_common hb hb').imp fun _ _ ⟨name, hname, hid, hid'⟩ =>
    ⟨name, Reached.next spec name hin hr (Or.inl hname), hid, hid'⟩

section Renumbering

variable {engine : Engine} {graph other : Graph} {states others : List (State Unit)}
  (h : graph.Covered other) (hs : List.Forall₂ (Realizes engine graph.names) graph.states states)
  (ho : List.Forall₂ (Realizes engine other.names) other.states others) (hn : other.names.Nodup)
include h hs ho hn

theorem same_described {id id' : StateId} (hsame : Same graph other id id') :
    (Tracker.stateAt states id).Renumbered (Same graph other) (Tracker.stateAt others id') := by
  obtain ⟨name, hreached, hid, hid'⟩ := hsame
  obtain ⟨spec, hin, rfl, hr⟩ := described hs hid
  obtain ⟨twin, htwin, halike⟩ := h.described spec hin hreached
  obtain ⟨found, hfound, hname, hr'⟩ := described ho hid'
  -- Only one state of the other graph has this name.
  obtain rfl : found = twin :=
    List.inj_on_of_nodup_map hn hfound htwin (hname.trans halike.name.symm)
  have hentry := hr'.entry
  have hleave := hr'.leave
  have hbranches := hr'.branches
  rw [halike.entry] at hentry
  rw [halike.leave] at hleave
  rw [halike.branches] at hbranches
  constructor
  · rw [hr'.name, hr.name, hname]
  · exact denotes_unique hr.entry hentry
  · exact denotes_unique hr.leave hleave
  · exact same_branches hin hreached hr.branches hbranches
  · intro symbol
    rw [Bool.eq_iff_iff, hr'.skips, hr.skips]
    exact halike.ignoredAlways symbol
  · intro symbol
    rw [Bool.eq_iff_iff, hr'.skipsInHandler, hr.skipsInHandler]
    exact halike.ignoredInHandler symbol
  · rw [hr'.onEnter, hr.onEnter]
  · rw [hr'.onLeave, hr.onLeave]
  · obtain ⟨call, hcall, hanswers⟩ := hr.onMiss
    obtain ⟨call', hcall', hanswers'⟩ := hr'.onMiss
    rw [hcall, hcall']
    refine Option.Rel.some fun memory symbol => ?_
    obtain ⟨answer, ha, hrel⟩ := hanswers memory symbol
    obtain ⟨answer', ha', hrel'⟩ := hanswers' memory symbol
    rw [halike.hardset symbol] at hrel'
    rw [ha, ha']
    refine ⟨?_, rfl⟩
    generalize hforced : spec.hardset.lookup symbol = forced at hrel hrel'
    cases hrel with
    | none =>
      cases hrel'
      exact Answered.consumed
    | some hposition =>
      cases hrel' with
      | some hposition' =>
        have htarget := Reached.next spec _ hin hreached (Or.inr ⟨symbol, hforced⟩)
        exact Answered.asked _ _ ⟨_, htarget, hposition, hposition'⟩

theorem same_renumbering (hgn : graph.names.Nodup) (hne : graph.states ≠ []) :
    Renumbering (Same graph other) states others := by
  constructor
  · obtain ⟨spec, rest, hstates⟩ := List.exists_cons_of_ne_nil hne
    have hfirst : graph.names.head? = some spec.name := by rw [names, hstates]; rfl
    refine ⟨spec.name, Reached.first spec.name hfirst, ?_, ?_⟩
    · rw [root, ← List.head?_eq_getElem?, hfirst]
    · rw [root, ← List.head?_eq_getElem?, h.first, hfirst]
  · rintro id id' jd jd' ⟨name, -, hid, hid'⟩ ⟨name', -, hjd, hjd'⟩
    constructor
    · rintro rfl
      obtain rfl : name = name' := Option.some.inj (hid.symm.trans hjd)
      exact position_unique hn hid' hjd'
    · rintro rfl
      obtain rfl : name = name' := Option.some.inj (hid'.symm.trans hjd')
      exact position_unique hgn hid hjd
  · rintro id id' ⟨name, -, hid, hid'⟩
    rw [← length_names hs, ← length_names ho]
    exact ⟨(List.getElem?_eq_some_iff.mp hid).1, (List.getElem?_eq_some_iff.mp hid').1⟩
  · exact same_described h hs ho hn

end Renumbering

theorem Reached.known {engine : Engine} {graph : Graph} (hw : graph.WellFormed engine)
    {name : String} (h : graph.Reached name) : ∃ spec ∈ graph.states, spec.name = name := by
  have hmem : name ∈ graph.names := by
    cases h with
    | first name hf => exact List.mem_of_head? hf
    | next spec name hs hr ht =>
      rcases ht with hbranch | ⟨symbol, hforced⟩
      · exact hw.branches spec hs name hbranch
      · obtain ⟨before, after, hset, -⟩ := List.lookup_eq_some_iff.mp hforced
        exact hw.targets spec hs (symbol, name) (by simp [hset])
  exact List.mem_map.mp hmem

theorem chainNames_of_renumbered {m other : Machine Unit} {R : StateId → StateId → Prop}
    (h : m.Renumbered R other) : other.chainNames = m.chainNames := by
  have hnames : List.Forall₂ (· = ·) (m.chain.map m.nameOf) (other.chain.map other.nameOf) := by
    rw [List.forall₂_map_left_iff, List.forall₂_map_right_iff]
    exact h.chain.imp fun _ _ hr => (h.states.states hr).name.symm
  rw [List.forall₂_eq_eq_eq] at hnames
  exact hnames.symm

theorem indistinct_of_covered {engine : Engine} {graph other : Graph}
    {machine machine' : Machine Unit} (h : graph.build engine = .ok machine)
    (h' : other.build engine = .ok machine') (hc : graph.Covered other) (text : List Char) :
    graph.Indistinct (machine.feed text) (machine'.feed text) := by
  have hrealized := build_realized h
  have hrealized' := build_realized h'
  have hstart : Machine.Renumbered (Same graph other) machine machine' := by
    obtain ⟨hne, hn, states, -, rfl⟩ := build_ok_iff.mp h
    obtain ⟨-, hn', others, -, rfl⟩ := build_ok_iff.mp h'
    rw [hc.options]
    exact Machine.opened_renumbered
      (same_renumbering hc hrealized.states hrealized'.states hn' hn hne) graph.options ()
  have hfed := hstart.feed text
  constructor
  · exact hfed.status
  · exact hfed.buffer
  · exact chainNames_of_renumbered hfed
  · intro name hr
    obtain ⟨spec, hin, rfl⟩ := hr.known (exists_build_ok_iff.mp ⟨machine, h⟩)
    obtain ⟨twin, htwin, halike⟩ := hc.described spec hin hr
    obtain ⟨id, hid⟩ := List.mem_iff_getElem?.mp (List.mem_map_of_mem (f := StateSpec.name) hin)
    obtain ⟨id', hid'⟩ := List.mem_iff_getElem?.mp (List.mem_map_of_mem (f := StateSpec.name) htwin)
    rw [halike.name] at hid'
    have hsame : Same graph other id id' := ⟨spec.name, hr, hid, hid'⟩
    have hlt : id < (machine.feed text).states.length := (hfed.states.known hsame).1
    have hsized := ((build_reachable h).feed text).sound.sized
    have hprogress := Tracker.progress_of_lt hsized hlt
    refine ⟨id, id', _, ?_, ?_, hprogress, (hfed.tracker.progress hsame).trans hprogress⟩
    · rw [Machine.stateIndex, (Machine.feed_setup machine text).1]
      exact hrealized.stateIndex id spec.name hid
    · rw [Machine.stateIndex, (Machine.feed_setup machine' text).1]
      exact hrealized'.stateIndex id' spec.name hid'
  · exact fun symbol => (hfed.parse symbol).result

/-- What a session does is known from the states that are reached, whatever the order in which the
states are listed after the first, and whatever else is described. -/
theorem reached_states_decide {engine : Engine} {graph other : Graph}
    {machine machine' : Machine Unit} (h : graph.build engine = .ok machine)
    (h' : other.build engine = .ok machine') :
    (graph.Covered other →
      ∀ text, graph.Indistinct (machine.feed text) (machine'.feed text)) ∧
    (graph.Rearranged other →
      ∀ text, graph.Indistinct (machine.feed text) (machine'.feed text)) ∧
    (graph.Pruned other →
      ∀ text, graph.Indistinct (machine.feed text) (machine'.feed text)) := by
  obtain ⟨-, hn, -⟩ := build_ok_iff.mp h
  refine ⟨indistinct_of_covered h h', ?_, ?_⟩
  · exact fun hr => indistinct_of_covered h h' hr.covered
  · exact fun hp => indistinct_of_covered h h' (hp.covered hn)

def switch : Graph where
  states :=
    [{
        name := "root", ignore := { all := [' ', '-'] }
        hardset := [('!', "alarm"), ('?', "word")] },
      { name := "word", leave := [.literal 'a', .literal 'b'] },
      { name := "alarm", branches := ["alarm"], entry := [.literal 'c'] }]

def rewired : Graph where
  states :=
    [{
        name := "root", ignore := { all := ['-', ' '] }
        hardset := [('?', "word"), ('!', "alarm")] },
      { name := "spare", branches := ["word"] },
      { name := "alarm", branches := ["alarm"], entry := [.literal 'c'] },
      { name := "word", leave := [.literal 'a', .literal 'b'] }]

theorem rewired_indistinct : ∃ machine machine',
    switch.build Regex.engine = .ok machine ∧ rewired.build Regex.engine = .ok machine' ∧
      (machine.feed ['-', '?', 'a']).chain = [0, 1] ∧
      (machine'.feed ['-', '?', 'a']).chain = [0, 3] ∧
      switch.Indistinct (machine.feed ['-', '?', 'a']) (machine'.feed ['-', '?', 'a']) := by
  have h : switch.build Regex.engine = .ok _ := rfl
  have h' : rewired.build Regex.engine = .ok _ := rfl
  refine ⟨_, _, h, h', rfl, rfl, (reached_states_decide h h').1 ⟨rfl, rfl, ?_⟩ _⟩
  intro spec hin _
  simp only [switch, List.mem_cons, List.not_mem_nil, or_false] at hin
  rcases hin with rfl | rfl | rfl
  · refine ⟨_, List.mem_cons_self, rfl, rfl, rfl, rfl, ?_, fun _ => Iff.rfl, ?_⟩
    · intro symbol
      simp [or_comm]
    · intro symbol
      by_cases hbang : symbol = '!'
      · subst hbang
        rfl
      · simp only [List.lookup_cons, beq_false_of_ne hbang]
  · exact ⟨_, by simp [rewired], StateSpec.Alike.refl _⟩
  · exact ⟨_, by simp [rewired], StateSpec.Alike.refl _⟩

end StateNest.Graph
