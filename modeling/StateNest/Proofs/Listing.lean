import StateNest.Machine.Dump
import StateNest.Proofs.Building

/-!
# The listing of a graph

The machine of a graph is listed as the graph is written: the positions of branches
are turned back into the names that they came from. The lines of a listing tell what
they are, since only a line before a state is blank and only a branch is indented. So
listings are the same only if the states and their branches are.
-/

set_option autoImplicit false

namespace StateNest

section Terminated

variable {α : Type} {mark : α}

theorem eq_of_marked {line other : List α} (h : mark ∉ line) (h' : mark ∉ other)
    {rest rest' : List α} (he : line ++ mark :: rest = other ++ mark :: rest') :
    line = other ∧ rest = rest' := by
  induction line generalizing other with
  | nil =>
    cases other with
    | nil => exact ⟨rfl, (List.cons.inj he).2⟩
    | cons item other => exact absurd (List.cons.inj he).1 (List.ne_of_not_mem_cons h')
  | cons item line ih =>
    cases other with
    | nil => exact absurd (List.cons.inj he).1.symm (List.ne_of_not_mem_cons h)
    | cons item' other =>
      obtain ⟨rfl, hrest⟩ := List.cons.inj he
      obtain ⟨rfl, rfl⟩ :=
        ih (List.not_mem_of_not_mem_cons h) (List.not_mem_of_not_mem_cons h') hrest
      exact ⟨rfl, rfl⟩

/-- Lists that end with a mark and do not hold it otherwise are told from their concatenation. -/
theorem eq_of_flatMap_marked {lines others : List (List α)} (h : ∀ line ∈ lines, mark ∉ line)
    (h' : ∀ line ∈ others, mark ∉ line)
    (he : lines.flatMap (· ++ [mark]) = others.flatMap (· ++ [mark])) : lines = others := by
  induction lines generalizing others with
  | nil =>
    cases others with
    | nil => rfl
    | cons other others => simp at he
  | cons line lines ih =>
    cases others with
    | nil => simp at he
    | cons other others =>
      rw [List.forall_mem_cons] at h h'
      simp only [List.flatMap_cons, List.append_assoc, List.singleton_append] at he
      obtain ⟨rfl, hrest⟩ := eq_of_marked h.1 h'.1 he
      rw [ih h.2 h'.2 hrest]

end Terminated

namespace Graph

/-- The name of a state and the names of its branches. -/
abbrev Outline := String × List String

def outlines (graph : Graph) : List Outline :=
  graph.states.map fun spec => (spec.name, spec.branches)

def stateLines (outline : Outline) : List String :=
  "" :: ("** state: " ++ outline.1) :: "branches:" :: outline.2.map ("  " ++ ·)

def listingLines (outlines : List Outline) : List String :=
  ("Parser states: " ++ toString outlines.length) :: outlines.flatMap stateLines

def listing (graph : Graph) : String :=
  String.join ((listingLines graph.outlines).map (· ++ "\n"))

section Lines

theorem indented_ne_states (name : String) (rest : List String) (outlines : List Outline) :
    ("  " ++ name) :: rest ≠ outlines.flatMap stateLines := by
  intro h
  cases outlines with
  | nil => simp at h
  | cons outline outlines =>
    rw [List.flatMap_cons, stateLines, List.cons_append] at h
    have hblank := congrArg String.toList (List.cons.inj h).1
    simp at hblank

theorem branches_of_lines {branches branches' : List String} {outlines outlines' : List Outline}
    (h : branches.map ("  " ++ ·) ++ outlines.flatMap stateLines =
      branches'.map ("  " ++ ·) ++ outlines'.flatMap stateLines) :
    branches = branches' ∧ outlines.flatMap stateLines = outlines'.flatMap stateLines := by
  induction branches generalizing branches' with
  | nil =>
    cases branches' with
    | nil => exact ⟨rfl, h⟩
    | cons name' branches' => exact absurd h.symm (indented_ne_states _ _ _)
  | cons name branches ih =>
    cases branches' with
    | nil => exact absurd h (indented_ne_states _ _ _)
    | cons name' branches' =>
      obtain ⟨hname, hrest⟩ := List.cons.inj h
      obtain ⟨rfl, he⟩ := ih hrest
      rw [(String.append_right_inj _).mp hname]
      exact ⟨rfl, he⟩

theorem outlines_of_lines {outlines outlines' : List Outline}
    (h : outlines.flatMap stateLines = outlines'.flatMap stateLines) : outlines = outlines' := by
  induction outlines generalizing outlines' with
  | nil =>
    cases outlines' with
    | nil => rfl
    | cons outline' outlines' => simp [stateLines] at h
  | cons outline outlines ih =>
    cases outlines' with
    | nil => simp [stateLines] at h
    | cons outline' outlines' =>
      obtain ⟨name, branches⟩ := outline
      obtain ⟨name', branches'⟩ := outline'
      simp only [List.flatMap_cons, stateLines, List.cons_append, List.cons.injEq, true_and,
        String.append_right_inj] at h
      obtain ⟨rfl, hlines⟩ := h
      obtain ⟨rfl, hrest⟩ := branches_of_lines hlines
      rw [ih hrest]

theorem newline_not_mem_toString (count : Nat) : '\n' ∉ (toString count).toList := by
  rw [Nat.toString_eq_repr, Nat.repr_eq_ofList_toDigits, String.toList_ofList]
  intro hin
  have hdigit : '\n'.isDigit = true := Nat.isDigit_of_mem_toDigits (by decide) (by decide) hin
  exact absurd hdigit (by decide)

def Unbroken (outlines : List Outline) : Prop :=
  ∀ outline ∈ outlines, ∀ name ∈ outline.1 :: outline.2, '\n' ∉ name.toList

theorem Unbroken.lines {outlines : List Outline} (h : Unbroken outlines) :
    ∀ line ∈ listingLines outlines, '\n' ∉ line.toList := by
  rw [listingLines, List.forall_mem_cons]
  constructor
  · rw [String.toList_append, List.mem_append, not_or]
    exact ⟨by decide, newline_not_mem_toString _⟩
  · intro line hline
    obtain ⟨outline, ho, hin⟩ := List.mem_flatMap.mp hline
    have hnames := h outline ho
    rw [List.forall_mem_cons] at hnames
    simp only [stateLines, List.mem_cons, List.mem_map] at hin
    rcases hin with rfl | rfl | rfl | ⟨name, hname, rfl⟩
    · decide
    · rw [String.toList_append, List.mem_append, not_or]
      exact ⟨by decide, hnames.1⟩
    · decide
    · rw [String.toList_append, List.mem_append, not_or]
      exact ⟨by decide, hnames.2 name hname⟩

theorem toList_listing (outlines : List Outline) :
    (String.join ((listingLines outlines).map (· ++ "\n"))).toList =
      ((listingLines outlines).map String.toList).flatMap (· ++ ['\n']) := by
  simp only [String.toList_join, List.flatMap_map, String.toList_append]
  rfl

theorem outlines_of_listing {outlines outlines' : List Outline} (h : Unbroken outlines)
    (h' : Unbroken outlines')
    (he : String.join ((listingLines outlines).map (· ++ "\n")) =
      String.join ((listingLines outlines').map (· ++ "\n"))) : outlines = outlines' := by
  have hlines := congrArg String.toList he
  rw [toList_listing, toList_listing] at hlines
  have hmarked := eq_of_flatMap_marked (List.forall_mem_map.mpr h.lines)
    (List.forall_mem_map.mpr h'.lines) hlines
  have hsame := List.map_injective_iff.mpr (fun _ _ => String.toList_inj.mp) hmarked
  exact outlines_of_lines (List.cons.inj hsame).2

end Lines

section Machine

variable {engine : Engine}

theorem outlines_eq_iff {graph other : Graph} : graph.outlines = other.outlines ↔
    graph.names = other.names ∧
      graph.states.map StateSpec.branches = other.states.map StateSpec.branches := by
  constructor
  · intro h
    have hnames := congrArg (List.map Prod.fst) h
    have hbranches := congrArg (List.map Prod.snd) h
    rw [outlines, outlines, List.map_map, List.map_map] at hnames hbranches
    exact ⟨hnames, hbranches⟩
  · rintro ⟨hnames, hbranches⟩
    have hzip := congrArg₂ List.zip hnames hbranches
    rwa [names, names, List.zip_map', List.zip_map'] at hzip

theorem stateListing_eq (outline : Outline) :
    stateListing outline.1 (outline.2.map fun name => "  " ++ name ++ "\n") =
      String.join ((stateLines outline).map (· ++ "\n")) := by
  apply String.toList_inj.mp
  simp [stateListing, stateLines, String.toList_join, List.flatMap_map]

theorem branchLines_eq {names branches : List String} {ids : List StateId}
    (h : List.Forall₂ (fun name id => names[id]? = some name) branches ids) :
    ids.map (branchLine names) = branches.map fun name => "  " ++ name ++ "\n" := by
  induction h with
  | nil => rfl
  | cons hname _ ih => rw [List.map_cons, List.map_cons, ih, branchLine, hname]

theorem stateListings_eq {names : List String} {specs : List StateSpec}
    {states : List (State Unit)} (h : List.Forall₂ (Realizes engine names) specs states) :
    String.join (states.map fun state =>
        stateListing state.name (state.branches.map (branchLine names))) =
      String.join (((specs.map fun spec => (spec.name, spec.branches)).flatMap stateLines).map
        (· ++ "\n")) := by
  induction h with
  | nil => rfl
  | cons hr _ ih =>
    rw [List.map_cons, String.join_cons, ih, hr.name, branchLines_eq hr.branches,
      stateListing_eq (_, _), List.map_cons, List.flatMap_cons, List.map_append,
      String.join_append]

theorem dump_eq_listing {graph : Graph} {machine : Machine Unit}
    (h : graph.Realized engine machine) :
    machine.dump = graph.listing := by
  have hnames : machine.states.map State.name = graph.names := names_of_realizes h.states
  have hcount : machine.states.length = graph.outlines.length := by
    rw [outlines, List.length_map, h.states.length_eq]
  calc machine.dump = "Parser states: " ++ toString machine.states.length ++ "\n" ++
        String.join (machine.states.map fun state => stateListing state.name
          (state.branches.map (branchLine (machine.states.map State.name)))) := rfl
    _ = "Parser states: " ++ toString graph.outlines.length ++ "\n" ++
        String.join ((graph.outlines.flatMap stateLines).map (· ++ "\n")) := by
      rw [hnames, hcount, stateListings_eq h.states]
      rfl
    _ = graph.listing := by
      rw [listing, listingLines, List.map_cons, String.join_cons]

theorem unbroken_outlines {graph : Graph} (hw : graph.WellFormed engine)
    (h : ∀ name ∈ graph.names, '\n' ∉ name.toList) : Unbroken graph.outlines := by
  rw [Unbroken, outlines, List.forall_mem_map]
  intro spec hs
  rw [List.forall_mem_cons]
  exact ⟨h _ (List.mem_map_of_mem hs), fun name hname => h name (hw.branches spec hs name hname)⟩

/-- The machine of a graph is listed as the graph is written, and each branch has a name. If names
do not break lines, two machines are listed alike only if their graphs have the same states with
the same branches. -/
theorem dump_faithful {graph : Graph} {machine : Machine Unit}
    (hb : graph.build engine = .ok machine) :
    machine.dump = graph.listing ∧
    (∀ state ∈ machine.states, ∀ branch ∈ state.branches, ∃ name ∈ graph.names,
      (machine.states.map State.name)[branch]? = some name) ∧
    ∀ (other : Graph) (machine' : Machine Unit), other.build engine = .ok machine' →
      (∀ name ∈ graph.names, '\n' ∉ name.toList) → (∀ name ∈ other.names, '\n' ∉ name.toList) →
      (machine.dump = machine'.dump ↔ graph.names = other.names ∧
        graph.states.map StateSpec.branches = other.states.map StateSpec.branches) := by
  have hr := build_realized hb
  have hw := exists_build_ok_iff.mp ⟨machine, hb⟩
  refine ⟨dump_eq_listing hr, ?_, ?_⟩
  · intro state hs branch hbranch
    obtain ⟨spec, -, hspec⟩ := exists_of_mem_right hr.states hs
    obtain ⟨name, -, hname⟩ := exists_of_mem_right hspec.branches hbranch
    rw [names_of_realizes hr.states]
    exact ⟨name, List.mem_of_getElem? hname, hname⟩
  · intro other machine' hb' hn hn'
    have hw' := exists_build_ok_iff.mp ⟨machine', hb'⟩
    rw [dump_eq_listing hr, dump_eq_listing (build_realized hb'), ← outlines_eq_iff]
    constructor
    · exact outlines_of_listing (unbroken_outlines hw hn) (unbroken_outlines hw' hn')
    · intro h
      rw [listing, listing, h]

def mimic (branches : List String) : Graph where
  states := [{ name := "branches:", branches }, { name := "" }, { name := "** state: " }]

theorem mimics_told_apart : ∃ machine machine',
    (mimic ["", "** state: "]).build Regex.engine = .ok machine ∧
    (mimic ["** state: ", ""]).build Regex.engine = .ok machine' ∧
    (∀ name ∈ (mimic ["", "** state: "]).names, '\n' ∉ name.toList) ∧
    machine.dump = (mimic ["", "** state: "]).listing ∧ machine.dump ≠ machine'.dump := by
  obtain ⟨machine, hb⟩ := exists_build_ok_iff.mpr
    (by decide +kernel : (mimic ["", "** state: "]).WellFormed Regex.engine)
  obtain ⟨machine', hb'⟩ := exists_build_ok_iff.mpr
    (by decide +kernel : (mimic ["** state: ", ""]).WellFormed Regex.engine)
  obtain ⟨hlisting, -, htold⟩ := dump_faithful hb
  refine ⟨machine, machine', hb, hb', by decide, hlisting, ?_⟩
  rw [Ne, htold _ machine' hb' (by decide) (by decide)]
  decide

end Machine

end Graph
end StateNest
