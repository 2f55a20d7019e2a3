import Mathlib.Data.List.Perm.Basic
import StateNest.Proofs.Building

/-!
# The order in which forced states are listed

A description lists the symbols that force a state in no particular order. The
machine does not depend on it, since each symbol is listed once. What is found to be
wrong first may: if several of the names are unknown, the error tells one of them,
and which one is a matter of the order. All other errors are the same.
-/

set_option autoImplicit false

namespace StateNest

section Collecting

variable {ε α β κ : Type}

theorem lookup_perm [BEq κ] [LawfulBEq κ] {entries others : List (κ × α)}
    (h : entries.Perm others) (hn : (entries.map Prod.fst).Nodup) (key : κ) :
    others.lookup key = entries.lookup key := by
  induction h with
  | nil => rfl
  | cons entry _ ih =>
    obtain ⟨name, value⟩ := entry
    rw [List.lookup_cons, List.lookup_cons, ih (List.nodup_cons.mp hn).2]
  | swap first second rest =>
    obtain ⟨name, value⟩ := first
    obtain ⟨next, result⟩ := second
    have hne : next ≠ name := fun hsame => (List.nodup_cons.mp hn).1 (by simp [hsame])
    simp only [List.lookup_cons]
    by_cases hkey : key = name
    · rw [beq_false_of_ne fun hnext : key = next => hne (hnext.symm.trans hkey)]
    · rw [beq_false_of_ne hkey]
  | trans hfirst _ ih ih' =>
    rw [ih' ((hfirst.map Prod.fst).nodup_iff.mp hn), ih hn]

end Collecting

namespace Graph

/-- The same description with the forcing symbols listed in another order, each once. -/
structure StateSpec.Shuffled (spec other : StateSpec) : Prop where
  same : other = { spec with hardset := other.hardset }
  distinct : (spec.hardset.map Prod.fst).Nodup
  order : spec.hardset.Perm other.hardset

def StateSpec.Misnames (spec : StateSpec) (names : List String) (target : String) : Prop :=
  target ∈ spec.hardset.map Prod.snd ∧ target ∉ names

/-- Two results are the same, or two errors about different unknown names in one description. -/
def SameUpToName {α : Type} (names : List String) (specs : List StateSpec)
    (result other : Except BuildError α) : Prop :=
  other = result ∨ ∃ spec ∈ specs, ∃ first second, first ≠ second ∧
    spec.Misnames names first ∧ spec.Misnames names second ∧
    result = .error (.unknownTarget spec.name first) ∧
    other = .error (.unknownTarget spec.name second)

namespace SameUpToName

variable {α β : Type} {names : List String} {specs : List StateSpec}

theorem refl (result : Except BuildError α) : SameUpToName names specs result result :=
  Or.inl rfl

theorem mono {others : List StateSpec} (hs : specs ⊆ others) {result other : Except BuildError α}
    (h : SameUpToName names specs result other) : SameUpToName names others result other := by
  rcases h with he | ⟨spec, hin, hrest⟩
  · exact Or.inl he
  · exact Or.inr ⟨spec, hs hin, hrest⟩

theorem bind {result other : Except BuildError α} {f g : α → Except BuildError β}
    (h : SameUpToName names specs result other) (hf : ∀ a, SameUpToName names specs (f a) (g a)) :
    SameUpToName names specs (result >>= f) (other >>= g) := by
  rcases h with rfl | ⟨spec, hin, first, second, hne, hfirst, hsecond, rfl, rfl⟩
  · cases other with
    | error e => exact refl _
    | ok a => exact hf a
  · exact Or.inr ⟨spec, hin, first, second, hne, hfirst, hsecond, rfl, rfl⟩

end SameUpToName

section Shuffling

variable {engine : Engine} {names : List String}

theorem resolve_unknown {owner target : String} {e : BuildError}
    (h : resolve names owner target = .error e) :
    target ∉ names ∧ e = .unknownTarget owner target := by
  refine ⟨fun hin => ?_, resolve_error h⟩
  obtain ⟨id, hok⟩ := (exists_resolve_ok_iff owner).mpr hin
  simp [hok] at h

def resolveEntry (names : List String) (owner : String) :
    Char × String → Except BuildError (Char × StateId) :=
  fun (symbol, target) => do .ok (symbol, ← resolve names owner target)

theorem resolveEntry_symbol {owner : String} {entry : Char × String} {target : Char × StateId}
    (h : resolveEntry names owner entry = .ok target) : entry.1 = target.1 := by
  obtain ⟨id, -, he⟩ := bind_ok_iff.mp h
  rw [← Except.ok.inj he]

theorem resolveEntry_error {owner : String} {entry : Char × String} {e : BuildError}
    (h : resolveEntry names owner entry = .error e) :
    entry.2 ∉ names ∧ e = .unknownTarget owner entry.2 := by
  rcases bind_error_iff.mp h with hr | ⟨_, -, hr⟩
  · exact resolve_unknown hr
  · simp at hr

theorem keys_resolved {owner : String} {entries : List (Char × String)}
    {targets : List (Char × StateId)}
    (h : List.Forall₂ (fun entry target => resolveEntry names owner entry = .ok target)
      entries targets) : targets.map Prod.fst = entries.map Prod.fst := by
  induction h with
  | nil => rfl
  | cons hnow _ ih => rw [List.map_cons, List.map_cons, ih, resolveEntry_symbol hnow]

variable (names) in
/-- In any order the symbols force the same, or there are unknown names in both. -/
theorem mapM_resolveEntry_perm (owner : String) {entries others : List (Char × String)}
    (h : entries.Perm others) (hn : (entries.map Prod.fst).Nodup) :
    (∃ targets targets', entries.mapM (resolveEntry names owner) = .ok targets ∧
      others.mapM (resolveEntry names owner) = .ok targets' ∧
      forcing targets' = forcing targets) ∨
    ∃ first second, (first ∈ entries.map Prod.snd ∧ first ∉ names) ∧
      (second ∈ entries.map Prod.snd ∧ second ∉ names) ∧
      entries.mapM (resolveEntry names owner) = .error (.unknownTarget owner first) ∧
      others.mapM (resolveEntry names owner) = .error (.unknownTarget owner second) := by
  cases hentries : entries.mapM (resolveEntry names owner) with
  | ok targets =>
    have hall := mapM_ok_iff.mp hentries
    obtain ⟨targets', hothers, hp⟩ := List.perm_comp_forall₂ h.symm hall
    refine Or.inl ⟨targets, targets', rfl, mapM_ok_iff.mpr hothers, ?_⟩
    have hnodup : (targets.map Prod.fst).Nodup := by rwa [keys_resolved hall]
    funext memory symbol
    rw [forcing, forcing, lookup_perm hp.symm hnodup]
  | error e =>
    obtain ⟨entry, hin, he⟩ := exists_of_mapM_error hentries
    obtain ⟨hout, rfl⟩ := resolveEntry_error he
    cases hothers : others.mapM (resolveEntry names owner) with
    | ok targets =>
      -- Each symbol of a list that is resolved is resolved.
      obtain ⟨target, hok⟩ := exists_forall₂_iff.mp ⟨targets, mapM_ok_iff.mp hothers⟩ entry
        (h.mem_iff.mp hin)
      simp [he] at hok
    | error e' =>
      obtain ⟨entry', hin', he'⟩ := exists_of_mapM_error hothers
      obtain ⟨hout', rfl⟩ := resolveEntry_error he'
      exact Or.inr ⟨entry.2, entry'.2, ⟨List.mem_map_of_mem hin, hout⟩,
        ⟨List.mem_map_of_mem (h.mem_iff.mpr hin'), hout'⟩, rfl, rfl⟩

theorem buildState_shuffled {spec other : StateSpec} (h : spec.Shuffled other) :
    SameUpToName names [spec] (buildState engine names spec) (buildState engine names other) := by
  obtain ⟨hsame, hn, hp⟩ := h
  generalize other.hardset = others at hsame hp
  subst hsame
  refine SameUpToName.bind (SameUpToName.refl _) fun entry => ?_
  refine SameUpToName.bind (SameUpToName.refl _) fun leave => ?_
  refine SameUpToName.bind (SameUpToName.refl _) fun branches => ?_
  change SameUpToName names [spec] (spec.hardset.mapM (resolveEntry names spec.name) >>= _)
    (others.mapM (resolveEntry names spec.name) >>= _)
  rcases mapM_resolveEntry_perm names spec.name hp hn with
    ⟨targets, targets', ht, ht', hf⟩ | ⟨first, second, hfirst, hsecond, ht, ht'⟩
  · rw [ht, ht']
    refine Or.inl ?_
    change Except.ok _ = Except.ok _
    rw [hf]
  · rw [ht, ht']
    by_cases hne : first = second
    · exact Or.inl (by rw [hne])
    · exact Or.inr ⟨spec, List.mem_singleton_self _, first, second, hne, hfirst, hsecond, rfl, rfl⟩

theorem names_shuffled {specs others : List StateSpec}
    (h : List.Forall₂ StateSpec.Shuffled specs others) :
    others.map StateSpec.name = specs.map StateSpec.name := by
  induction h with
  | nil => rfl
  | cons hnow _ ih => rw [List.map_cons, List.map_cons, ih, hnow.same]

theorem mapM_buildState_shuffled {specs others : List StateSpec}
    (h : List.Forall₂ StateSpec.Shuffled specs others) :
    SameUpToName names specs (specs.mapM (buildState engine names))
      (others.mapM (buildState engine names)) := by
  induction h with
  | nil => exact SameUpToName.refl _
  | @cons spec other specs others hnow _ ih =>
    rw [List.mapM_cons, List.mapM_cons]
    refine SameUpToName.bind ((buildState_shuffled hnow).mono (by simp)) fun state => ?_
    exact SameUpToName.bind (ih.mono (List.subset_cons_self _ _)) fun states =>
      SameUpToName.refl _

end Shuffling

structure Shuffled (graph other : Graph) : Prop where
  options : other.options = graph.options
  states : List.Forall₂ StateSpec.Shuffled graph.states other.states

theorem Shuffled.build (engine : Engine) {graph other : Graph} (h : graph.Shuffled other) :
    SameUpToName graph.names graph.states (graph.build engine) (other.build engine) := by
  have hnames : other.names = graph.names := names_shuffled h.states
  rw [Graph.build, Graph.build, hnames, h.options]
  cases firstRepeated? [] graph.names with
  | some name => exact SameUpToName.refl _
  | none =>
    exact SameUpToName.bind (mapM_buildState_shuffled h.states) fun states => SameUpToName.refl _

/-- However the forcing symbols are listed, the machine is the same, and so is the error, unless
one state forces two that do not exist. -/
theorem build_shuffled (engine : Engine) {graph other : Graph} (h : graph.Shuffled other) :
    (∀ machine, other.build engine = .ok machine ↔ graph.build engine = .ok machine) ∧
    (∀ e, graph.build engine = .error e → ∃ e', other.build engine = .error e' ∧
      (e' = e ∨ ∃ spec ∈ graph.states, ∃ first second, first ≠ second ∧
        spec.Misnames graph.names first ∧ spec.Misnames graph.names second ∧
        e = .unknownTarget spec.name first ∧ e' = .unknownTarget spec.name second)) ∧
    ((∀ spec ∈ graph.states, ∀ first second, spec.Misnames graph.names first →
      spec.Misnames graph.names second → first = second) →
        other.build engine = graph.build engine) := by
  rcases h.build engine with he | ⟨spec, hin, first, second, hne, hfirst, hsecond, hb, hb'⟩
  · rw [he]
    exact ⟨fun machine => Iff.rfl, fun e hb => ⟨e, hb, Or.inl rfl⟩, fun _ => rfl⟩
  · rw [hb, hb']
    refine ⟨by simp, ?_, fun hone => absurd (hone spec hin first second hfirst hsecond) hne⟩
    intro e he
    obtain rfl := Except.error.inj he
    exact ⟨_, rfl, Or.inr ⟨spec, hin, first, second, hne, hfirst, hsecond, rfl, rfl⟩⟩

def fork (targets : List (Char × String)) : Graph where
  states := [{ name := "root", hardset := targets }, { name := "next" }]

theorem fork_shuffled {targets others : List (Char × String)} (h : targets.Perm others)
    (hn : (targets.map Prod.fst).Nodup) : (fork targets).Shuffled (fork others) := by
  have hnext : StateSpec.Shuffled { name := "next" } { name := "next" } :=
    ⟨rfl, List.nodup_nil, List.Perm.nil⟩
  exact ⟨rfl, List.Forall₂.cons ⟨rfl, hn, h⟩ (List.Forall₂.cons hnext List.Forall₂.nil)⟩

theorem fork_built : (fork [('a', "next"), ('b', "root")]).Shuffled
      (fork [('b', "root"), ('a', "next")]) ∧
    ∃ machine, (fork [('a', "next"), ('b', "root")]).build Regex.engine = .ok machine ∧
      (fork [('b', "root"), ('a', "next")]).build Regex.engine = .ok machine := by
  have h : (fork [('a', "next"), ('b', "root")]).Shuffled (fork [('b', "root"), ('a', "next")]) :=
    fork_shuffled (List.Perm.swap _ _ _) (by decide)
  exact ⟨h, _, rfl, ((build_shuffled Regex.engine h).1 _).mpr rfl⟩

/-- Of two names that do not exist, the error tells the one that is listed first. -/
theorem fork_misnamed : (fork [('a', "left"), ('b', "right")]).Shuffled
      (fork [('b', "right"), ('a', "left")]) ∧
    ((fork [('a', "left"), ('b', "right")]).build Regex.engine =
      .error (.unknownTarget "root" "left")) ∧
    ((fork [('b', "right"), ('a', "left")]).build Regex.engine =
      .error (.unknownTarget "root" "right")) ∧
    (BuildError.unknownTarget "root" "left").message ≠
      (BuildError.unknownTarget "root" "right").message :=
  ⟨fork_shuffled (List.Perm.swap _ _ _) (by decide), rfl, rfl, by decide⟩

end Graph
end StateNest
