import Mathlib.Data.List.Chain
import StateNest.Machine.Log
import StateNest.Proofs.Decision
import StateNest.Proofs.Trust

/-!
# The chain is a path

Whatever is pushed on the chain is a branch of the state below it, entered by its
pattern, or was asked for by the handler of the state below it. So the chain is a
path through the states, also after a replay that pushes several of them one on
another. For the machine of a graph it is a path of the graph from its first state.
-/

set_option autoImplicit false

namespace StateNest

/-- What becomes of a chain with a symbol, by the status after it. Given are the two ways for a
state to come on top of another one: as a branch, and on demand of a handler. -/
def Growth {α : Type} (branches forces : α → α → Prop) (before after : List α) : Status → Prop
  | .branch => ∃ top ∈ before.getLast?, ∃ target, branches top target ∧ after = before ++ [target]
  | .hardset => ∃ top ∈ before.getLast?, ∃ pushed, pushed ≠ [] ∧ (top :: pushed).IsChain forces ∧
    after = before ++ pushed
  | .back => after <+: before
  | .wait | .miss => after = before
  | .error => ∃ top ∈ before.getLast?, ∃ pushed,
    (top :: pushed).IsChain (fun id target => branches id target ∨ forces id target) ∧
    after = before ++ pushed

namespace Growth

section Path

variable {α : Type} {branches forces : α → α → Prop} {before after : List α} {status : Status}

theorem path (h : Growth branches forces before after status)
    (hp : before.IsChain fun id target => branches id target ∨ forces id target) :
    after.IsChain fun id target => branches id target ∨ forces id target := by
  have grown {top : α} (htop : top ∈ before.getLast?) {pushed : List α}
      (hpushed : (top :: pushed).IsChain fun id target => branches id target ∨ forces id target) :
      (before ++ pushed).IsChain fun id target => branches id target ∨ forces id target := by
    refine hp.append hpushed.tail fun below hbelow above habove => ?_
    obtain rfl := Option.mem_unique htop hbelow
    exact hpushed.rel_head? habove
  cases status with
  | wait => exact h ▸ hp
  | branch =>
    obtain ⟨top, htop, target, hb, rfl⟩ := h
    exact grown htop (List.isChain_pair.mpr (Or.inl hb))
  | back => exact hp.prefix h
  | hardset =>
    obtain ⟨top, htop, pushed, -, hf, rfl⟩ := h
    exact grown htop (hf.imp fun _ _ => Or.inr)
  | miss => exact h ▸ hp
  | error =>
    obtain ⟨top, htop, pushed, hl, rfl⟩ := h
    exact grown htop hl

theorem map {β : Type} {branches' forces' : β → β → Prop} (f : α → β)
    (hb : ∀ id target, branches id target → branches' (f id) (f target))
    (hf : ∀ id target, forces id target → forces' (f id) (f target))
    (h : Growth branches forces before after status) :
    Growth branches' forces' (before.map f) (after.map f) status := by
  have hlast {top : α} (htop : top ∈ before.getLast?) : f top ∈ (before.map f).getLast? := by
    rw [List.getLast?_map, Option.mem_def.mp htop]
    rfl
  cases status with
  | wait => exact congrArg _ h
  | branch =>
    obtain ⟨top, htop, target, hbranch, rfl⟩ := h
    exact ⟨f top, hlast htop, f target, hb _ _ hbranch, List.map_append⟩
  | back => exact h.map f
  | hardset =>
    obtain ⟨top, htop, pushed, hne, hforce, rfl⟩ := h
    refine ⟨f top, hlast htop, pushed.map f, by simpa using hne, ?_, List.map_append⟩
    rw [← List.map_cons, List.isChain_map]
    exact hforce.imp hf
  | miss => exact congrArg _ h
  | error =>
    obtain ⟨top, htop, pushed, hleads, rfl⟩ := h
    refine ⟨f top, hlast htop, pushed.map f, ?_, List.map_append⟩
    rw [← List.map_cons, List.isChain_map]
    exact hleads.imp fun id target => Or.imp (hb id target) (hf id target)

end Path

end Growth

namespace Tracker

variable {Memory : Type} (states : List (State Memory))

def BranchesTo (id target : StateId) : Prop :=
  target ∈ (stateAt states id).branches ∧ (stateAt states target).entry ≠ []

def ForcesTo (id target : StateId) : Prop :=
  ∃ call memory symbol, (stateAt states id).onMiss = some call ∧
    (stateAt states id).ignore.skipsInHandler symbol = false ∧
    (call memory symbol).1 = .ok (some target)

variable {states}

/-- No symbol completes the empty pattern. -/
theorem entry_ne_nil_of_enter {symbol : Char} {t : Tracker} {active target : StateId}
    (h : (classify states symbol t active).1 = .enter target) :
    (stateAt states target).entry ≠ [] := by
  have hk := classify_keeping (P := fun _ => True) states symbol (fun _ _ h => h) active t
    (fun _ _ _ h => h) (fun _ h => h) trivial
  obtain ⟨u, -, hc⟩ := hk.entered target h
  obtain ⟨hl, -⟩ := Pattern.step_complete hc
  intro hempty
  rw [hempty] at hl
  simp at hl

end Tracker

namespace Machine

open Tracker

variable {Memory : Type} {m : Machine Memory}

/-- What a replay pushes is a path from the handler that it begins with. -/
theorem replay_path (handler : StateId) (text : List Char) (m : Machine Memory) :
    ∃ pushed, (replay handler text m).machine.chain = m.chain ++ pushed ∧
      (handler :: pushed).IsChain (ForcesTo m.states) := by
  fun_induction replay handler text m with
  | case1 handler m => exact ⟨[], by simp, by simp⟩
  | case2 _ _ _ _ _ _ ih => exact ih
  | case3 _ _ _ _ _ _ _ ih => exact ih
  | case4 handler symbol rest m state hskip call hcall memory n failure hm event =>
    exact ⟨[], by simp [fail, n], by simp⟩
  | case5 handler symbol rest m state hskip call hcall memory n hm event ih => exact ih
  | case6 handler symbol rest m state hskip call hcall memory n target ht hstop hm event events =>
    have hforces : ForcesTo m.states handler target :=
      ⟨call, m.memory, symbol, hcall, eq_false_of_ne_true hskip, by rw [hm]⟩
    exact ⟨[target], rfl, List.isChain_pair.mpr hforces⟩
  | case7 handler symbol rest m state hskip call hcall memory n target ht hcont hm event events ih =>
    have hforces : ForcesTo m.states handler target :=
      ⟨call, m.memory, symbol, hcall, eq_false_of_ne_true hskip, by rw [hm]⟩
    obtain ⟨pushed, hchain, hpath⟩ := ih
    refine ⟨target :: pushed, ?_, List.isChain_cons_cons.mpr ⟨hforces, hpath⟩⟩
    rw [Outcome.after_machine, hchain]
    simp [hardSet, n]
  | case8 handler symbol rest m state hskip call hcall memory n target ht hm event =>
    exact ⟨[], by simp [n], by simp⟩

theorem pop_prefix (chain : List StateId) : pop chain <+: chain := by
  unfold pop
  split
  · exact List.dropLast_prefix chain
  · exact List.prefix_refl chain

theorem Connected.active_last (h : Connected m) : m.active ∈ m.chain.getLast? := by
  obtain ⟨rest, hr⟩ := h.rooted
  rw [active, hr, List.getLast?_cons, Option.getD_some]
  rfl

theorem move_growth {symbol : Char} {outcome : Outcome Memory} (hm : Move m symbol outcome)
    (hc : Connected m) : Growth (BranchesTo m.states) (ForcesTo m.states)
      m.chain outcome.machine.chain outcome.machine.status := by
  have hbranches {target : StateId} {tracker : Tracker}
      (he : m.tracker.classify m.states symbol m.active = (.enter target, tracker)) :
      BranchesTo m.states m.active target :=
    ⟨hc.classified he (Or.inl rfl), entry_ne_nil_of_enter (by rw [he])⟩
  cases hm with
  | ignored hi =>
    simp only [ignore]
    split <;> exact rfl
  | waited tracker hi he => exact rfl
  | entered target tracker memory hi he ha =>
    exact ⟨m.active, hc.active_last, target, hbranches he, rfl⟩
  | enterFailed target tracker memory failure hi he ha =>
    exact ⟨m.active, hc.active_last, [target],
      List.isChain_pair.mpr (Or.inl (hbranches he)), rfl⟩
  | left tracker memory hi he ha => exact pop_prefix m.chain
  | leaveFailed tracker memory failure hi he ha =>
    exact ⟨m.active, hc.active_last, [], List.isChain_singleton _, (List.append_nil _).symm⟩
  | missed tracker events middle outcome hi he hp hend hs hr =>
    -- However the replay ends, what it has pushed is there.
    obtain ⟨pushed, hchain, hpath⟩ := replay_path m.active (m.buffer ++ [symbol])
      { m with buffer := [], tracker, status := .miss }
    rw [← hr] at hchain
    have hmiddle : middle.chain = m.chain ++ pushed := by
      rw [← hchain]
      cases hend <;> rfl
    obtain rfl : events.pushed = pushed := List.append_cancel_left (hp.chain.symm.trans hmiddle)
    have hgrowth : Growth (BranchesTo m.states) (ForcesTo m.states)
        m.chain middle.chain middle.status := by
      rcases hp.miss_or_hardset rfl with ⟨hmiss, hnone⟩ | ⟨hhardset, hsome⟩
      · rw [hmiss]
        exact hp.chain_kept hnone
      · rw [hhardset]
        exact ⟨m.active, hc.active_last, events.pushed, hsome, hpath, hmiddle⟩
    rw [Outcome.after_machine]
    cases hend with
    | finished => exact hgrowth
    | failed memory handler missed failure =>
      exact ⟨m.active, hc.active_last, events.pushed, hpath.imp fun _ _ => Or.inr, hmiddle⟩
    | refused memory handler missed index hu => exact hgrowth

theorem feed_path (text : List Char) (hs : m.started = true) (hc : Connected m)
    (hp : m.chain.IsChain fun id target =>
      BranchesTo m.states id target ∨ ForcesTo m.states id target) :
    (m.feed text).chain.IsChain fun id target =>
      BranchesTo m.states id target ∨ ForcesTo m.states id target := by
  induction text generalizing m with
  | nil => exact hp
  | cons symbol text ih =>
    obtain ⟨hstates, -, hstarted⟩ := parse_setup m symbol
    have hnext := (move_growth (parse_move m symbol hs) hc).path hp
    rw [← hstates] at hnext ⊢
    exact ih (hstarted.trans hs) (parse_connected symbol hs hc) hnext

def chainNames (m : Machine Memory) : List String := m.chain.map m.nameOf

end Machine

namespace Graph

variable {engine : Engine} {graph : Graph}

def Branches (graph : Graph) (owner target : String) : Prop :=
  ∃ spec ∈ graph.states, spec.name = owner ∧ target ∈ spec.branches ∧
    ∃ other ∈ graph.states, other.name = target ∧ other.entry ≠ []

def Forces (graph : Graph) (owner target : String) : Prop :=
  ∃ spec ∈ graph.states, spec.name = owner ∧ ∃ symbol, symbol ∉ spec.ignore.handler ∧
    spec.hardset.lookup symbol = some target

section Described

variable {states : List (State Unit)}
  (hs : List.Forall₂ (Realizes engine graph.names) graph.states states)
include hs

theorem described {id : StateId} {name : String} (hname : graph.names[id]? = some name) :
    ∃ spec ∈ graph.states, spec.name = name ∧
      Realizes engine graph.names spec (Tracker.stateAt states id) := by
  rw [names, List.getElem?_map, Option.map_eq_some_iff] at hname
  obtain ⟨spec, hspec, rfl⟩ := hname
  obtain ⟨hid, rfl⟩ := List.getElem?_eq_some_iff.mp hspec
  have hid' : id < states.length := hs.length_eq ▸ hid
  refine ⟨_, List.getElem_mem hid, rfl, ?_⟩
  rw [Tracker.stateAt, List.getD_eq_getElem?_getD, List.getElem?_eq_getElem hid']
  exact hs.get hid hid'

theorem name_of_some {id : StateId} {name : String} (hname : graph.names[id]? = some name) :
    (Tracker.stateAt states id).name = name := by
  obtain ⟨spec, -, rfl, hr⟩ := described hs hname
  exact hr.name

theorem name_of_lt {id : StateId} (hid : id < states.length) :
    graph.names[id]? = some (Tracker.stateAt states id).name := by
  have hlt : id < graph.names.length := length_names hs ▸ hid
  rw [name_of_some hs (List.getElem?_eq_getElem hlt), List.getElem?_eq_getElem hlt]

theorem described_of_ne {id : StateId} (h : Tracker.stateAt states id ≠ {}) :
    ∃ spec ∈ graph.states, Realizes engine graph.names spec (Tracker.stateAt states id) := by
  have hid : id < states.length := Nat.lt_of_not_le fun hle => h (Machine.stateAt_empty hle)
  obtain ⟨spec, hin, -, hr⟩ := described hs (name_of_lt hs hid)
  exact ⟨spec, hin, hr⟩

theorem branches_of_branchesTo {id target : StateId} (h : Tracker.BranchesTo states id target) :
    graph.Branches (Tracker.stateAt states id).name (Tracker.stateAt states target).name := by
  obtain ⟨hbranch, hentry⟩ := h
  have hne : Tracker.stateAt states id ≠ {} := by
    intro hempty
    simp [hempty] at hbranch
  obtain ⟨spec, hin, hr⟩ := described_of_ne hs hne
  obtain ⟨name, hname, hposition⟩ := exists_of_mem_right hr.branches hbranch
  obtain ⟨other, hother, rfl, ho⟩ := described hs hposition
  refine ⟨spec, hin, hr.name.symm, ho.name ▸ hname, other, hother, ho.name.symm, ?_⟩
  intro hnone
  have hpattern := ho.entry
  rw [hnone, List.forall₂_nil_left_iff] at hpattern
  exact hentry hpattern

theorem forces_of_forcesTo {id target : StateId} (h : Tracker.ForcesTo states id target) :
    graph.Forces (Tracker.stateAt states id).name (Tracker.stateAt states target).name := by
  obtain ⟨call, memory, symbol, hcall, hskip, hanswer⟩ := h
  have hne : Tracker.stateAt states id ≠ {} := by
    intro hempty
    simp [hempty] at hcall
  obtain ⟨spec, hin, hr⟩ := described_of_ne hs hne
  obtain ⟨handler, hhandler, hanswers⟩ := hr.onMiss
  obtain rfl := Option.some.inj (hhandler.symm.trans hcall)
  obtain ⟨answer, ha, hrel⟩ := hanswers memory symbol
  rw [ha] at hanswer
  obtain rfl := Except.ok.inj hanswer
  have hhanded : symbol ∉ spec.ignore.handler := by
    rw [← hr.skipsInHandler, hskip]
    exact Bool.false_ne_true
  generalize hforced : spec.hardset.lookup symbol = forced at hrel
  cases hrel with
  | some hname =>
    refine ⟨spec, hin, hr.name.symm, symbol, hhanded, ?_⟩
    rw [hforced, name_of_some hs hname]

end Described

theorem build_reachable {machine : Machine Unit} (h : graph.build engine = .ok machine) :
    machine.Reachable := by
  obtain ⟨hne, hnodup, states, hs, rfl⟩ := build_ok_iff.mp h
  have hstates : states ≠ [] := by
    rwa [← List.length_pos_iff, ← hs.length_eq, List.length_pos_iff]
  have hlt := branches_lt (hs.imp fun spec state => buildState_realizes hnodup)
  have hok := (Machine.assembled_prestart_iff states graph.options ()).mpr ⟨rfl, hstates, hlt⟩
  exact (Machine.assembled_reachable states graph.options ()).started hok

structure OnPath (graph : Graph) (m : Machine Unit) : Prop where
  nonempty : m.chain ≠ []
  first : m.chainNames.head? = graph.names.head?
  path : m.chainNames.IsChain fun owner target =>
    graph.Branches owner target ∨ graph.Forces owner target
  unfailed : ∀ symbol, (m.parse symbol).machine.status ≠ .error
  growth : ∀ symbol, Growth graph.Branches graph.Forces m.chainNames
    (m.parse symbol).machine.chainNames (m.parse symbol).machine.status

theorem onPath_of_path {m : Machine Unit}
    (hs : List.Forall₂ (Realizes engine graph.names) graph.states m.states) (hr : m.Reliable)
    (hc : m.Connected) (hp : m.chain.IsChain fun id target =>
      Tracker.BranchesTo m.states id target ∨ Tracker.ForcesTo m.states id target) :
    graph.OnPath m := by
  obtain ⟨rest, hroot⟩ := hc.rooted
  constructor
  · simp [hroot]
  · have hfirst : graph.names[root]? = some (m.nameOf root) :=
      name_of_lt hs (hc.chain root (by simp [hroot]))
    rw [Machine.chainNames, hroot, List.map_cons, List.head?_cons, ← hfirst, List.head?_eq_getElem?,
      root]
  · rw [Machine.chainNames, List.isChain_map]
    exact hp.imp fun _ _ => Or.imp (branches_of_branchesTo hs) (forces_of_forcesTo hs)
  · exact fun symbol => (hr.parse_taken symbol).status
  · intro symbol
    have hnames : (m.parse symbol).machine.nameOf = m.nameOf := by
      funext id
      rw [Machine.nameOf, Machine.stateAt, (Machine.parse_setup m symbol).1]
      rfl
    have hg := Machine.move_growth (Machine.parse_move m symbol hr.started) hc
    rw [Machine.chainNames, Machine.chainNames, hnames]
    exact hg.map m.nameOf (fun _ _ => branches_of_branchesTo hs) fun _ _ => forces_of_forcesTo hs

/-- Whatever text is fed to the machine of a graph, its chain is a path of the graph from the first
state. A state that is pushed with the status of a branch has an entry and is a branch of the state
below it; each of those that are pushed with that of a hard-set is forced by the state below it. -/
theorem chain_follows_graph {engine : Engine} {graph : Graph} {machine : Machine Unit}
    (h : graph.build engine = .ok machine) (text : List Char) :
    graph.OnPath (machine.feed text) := by
  have hr := build_reliable h
  have hc := (build_reachable h).sound.connected hr.started
  obtain ⟨hstates, -, -⟩ := Machine.feed_setup machine text
  have hp := Machine.feed_path text hr.started hc (by simp [(build_realized h).chain])
  have hs := (build_realized h).states
  rw [← hstates] at hp hs
  exact onPath_of_path hs (hr.feed text) (Machine.feed_connected text hr.started hc) hp

def ring : Graph where
  options := { hardsetReplay := .continue }
  states :=
    [{ name := "outer", branches := ["inner"], hardset := [('x', "inner")] },
      { name := "inner", entry := [.literal 'x', .literal 'y', .literal 'z']
        hardset := [('y', "outer")] }]

theorem ring_on_path : ∃ machine, ring.build Regex.engine = .ok machine ∧
    ring.OnPath (machine.feed ['x', 'y']) ∧
    (machine.feed ['x', 'y', '!']).status = .hardset ∧
    (machine.feed ['x', 'y', '!']).chainNames = ["outer", "inner", "outer"] := by
  have h : ring.build Regex.engine = .ok _ := rfl
  exact ⟨_, h, chain_follows_graph h ['x', 'y'], rfl, by decide⟩

end Graph

end StateNest
