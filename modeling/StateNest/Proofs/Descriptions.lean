import StateNest.Proofs.Records

/-!
# Reading descriptions

A description is read as the graph that it describes, in whatever order the fields of its
records come and whichever defaults are left out. The order of forced states alone is
that of the description. An expression and the options may have members of other names,
which change nothing; in the other records these are refused, and a field that comes
twice is refused in all.
-/

set_option autoImplicit false

namespace StateNest.Graph

section Describing

def Text (text : String) (value : Json) : Prop := value = .string (some text)

def Symbol (symbol : Char) : Json → Prop := Text symbol.toString

def Items {α : Type} (describes : α → Json → Prop) (items : List α) (value : Json) : Prop :=
  ∃ values, value = .array values ∧ List.Forall₂ describes items values

def policyName : IgnorePolicy → String
  | .bufferThenSkip => "buffer_then_skip"
  | .skipUnbuffered => "skip_unbuffered"

def replayName : HardsetReplay → String
  | .stop => "stop"
  | .continue => "continue"

def optionFields (options : Options) : List Field :=
  [⟨"ignore_policy", Text (policyName options.ignorePolicy),
      options.ignorePolicy = .bufferThenSkip⟩,
    ⟨"hardset_replay", Text (replayName options.hardsetReplay), options.hardsetReplay = .stop⟩]

def DescribesElement : ElementSpec → Json → Prop
  | .literal symbol => Symbol symbol
  | .regex source => Record [⟨"regex", Text source, False⟩]

def ignoreFields (ignore : IgnoreSpec) : List Field :=
  [⟨"all", Items Symbol ignore.all, ignore.all = []⟩,
    ⟨"handler", Items Symbol ignore.handler, ignore.handler = []⟩]

def DescribesTargets (targets : List (Char × String)) (value : Json) : Prop :=
  ∃ shuffled : List (Char × String), targets.Perm shuffled ∧
    value = objectOf (shuffled.map fun target => (target.1.toString, .string (some target.2)))

def stateFields (spec : StateSpec) : List Field :=
  [⟨"name", Text spec.name, False⟩,
    ⟨"entry", Items DescribesElement spec.entry, spec.entry = []⟩,
    ⟨"leave", Items DescribesElement spec.leave, spec.leave = []⟩,
    ⟨"branches", Items Text spec.branches, spec.branches = []⟩,
    ⟨"ignore", Record (ignoreFields spec.ignore), spec.ignore = {}⟩,
    ⟨"hardset", DescribesTargets spec.hardset, spec.hardset = []⟩]

def graphFields (graph : Graph) : List Field :=
  [⟨"options", Record (optionFields graph.options), graph.options = {}⟩,
    ⟨"states", Items (fun spec => Record (stateFields spec)) graph.states, False⟩]

def Describes (graph : Graph) : Json → Prop := Record (graphFields graph)

end Describing

section Reading

variable {α : Type} {field : Field} {found : Option Json} {read : Json → Option α}

theorem optional?_found {R : α → Prop} {default : α} (hf : field.Found found)
    (hread : ∀ value, field.Holds value → ∃ result, read value = some result ∧ R result)
    (hdefault : field.Default → R default) :
    ∃ result, optional? default read found = some result ∧ R result := by
  cases found with
  | none => exact ⟨default, rfl, hdefault hf⟩
  | some value => exact hread value hf

theorem optional?_eq {default result : α} (hf : field.Found found)
    (hread : ∀ value, field.Holds value → read value = some result)
    (hdefault : field.Default → result = default) :
    optional? default read found = some result := by
  obtain ⟨_, hr, rfl⟩ := optional?_found (R := (result = ·)) hf
    (fun value hv => ⟨result, hread value hv, rfl⟩) hdefault
  exact hr

theorem list?_items {β : Type} {describes : α → Json → Prop} {read : Json → Option β}
    {R : α → β → Prop} (hread : ∀ item value, describes item value →
      ∃ result, read value = some result ∧ R item result) {items : List α} {value : Json}
    (h : Items describes items value) :
    ∃ results, list? read value = some results ∧ List.Forall₂ R items results := by
  obtain ⟨values, rfl, h⟩ := h
  rw [list?]
  induction h with
  | nil => exact ⟨[], rfl, List.Forall₂.nil⟩
  | cons hv _ ih =>
    obtain ⟨result, hr, hR⟩ := hread _ _ hv
    obtain ⟨results, hrs, hRs⟩ := ih
    refine ⟨result :: results, ?_, List.Forall₂.cons hR hRs⟩
    rw [List.mapM_cons, hr, hrs]
    rfl

theorem list?_eq {describes : α → Json → Prop}
    (hread : ∀ item value, describes item value → read value = some item) {items : List α}
    {value : Json} (h : Items describes items value) : list? read value = some items := by
  obtain ⟨results, hrs, hall⟩ := list?_items (R := Eq)
    (fun item value hv => ⟨item, hread item value hv, rfl⟩) h
  rw [List.forall₂_eq_eq_eq] at hall
  rw [hall, hrs]

theorem string?_text {text : String} {value : Json} (h : Text text value) :
    string? value = some text := by
  rw [h, string?]

theorem symbolOf?_toString (symbol : Char) : symbolOf? symbol.toString = some symbol := by
  simp [symbolOf?]

theorem symbol?_symbol {symbol : Char} {value : Json} (h : Symbol symbol value) :
    symbol? value = some symbol := by
  rw [symbol?, string?_text h, Option.bind_some, symbolOf?_toString]

theorem options?_described {options : Options} {value : Json}
    (h : Record (optionFields options) value) : options? value = some options := by
  obtain ⟨found, hfound, hall⟩ :=
    fields?_record ["ignore_policy", "hardset_replay"] rfl (by decide) false h
  rcases hall with _ | ⟨hpolicy, _ | ⟨hreplay, _ | _⟩⟩
  rename_i policy replay
  have hp : optional? .bufferThenSkip ignorePolicy? policy = some options.ignorePolicy :=
    optional?_eq hpolicy (fun value hv => by
      rw [hv]
      cases options.ignorePolicy <;> rfl) id
  have hr : optional? .stop hardsetReplay? replay = some options.hardsetReplay :=
    optional?_eq hreplay (fun value hv => by
      rw [hv]
      cases options.hardsetReplay <;> rfl) id
  rw [options?, hfound]
  simp only [hp, hr]
  rfl

theorem list?_symbols {symbols : List Char} {value : Json} (h : Items Symbol symbols value) :
    list? symbol? value = some symbols :=
  list?_eq (fun _ _ hv => symbol?_symbol hv) h

theorem ignore?_described {ignore : IgnoreSpec} {value : Json}
    (h : Record (ignoreFields ignore) value) : ignore? value = some ignore := by
  obtain ⟨found, hfound, hall⟩ := fields?_record ["all", "handler"] rfl (by decide) true h
  rcases hall with _ | ⟨hall, _ | ⟨hhandler, _ | _⟩⟩
  have ha := optional?_eq hall (fun _ hv => list?_symbols hv) id
  have hh := optional?_eq hhandler (fun _ hv => list?_symbols hv) id
  rw [ignore?, hfound]
  simp only [ha, hh]
  rfl

theorem element?_described {spec : ElementSpec} {value : Json} (h : DescribesElement spec value) :
    element? value = some spec := by
  cases spec with
  | literal symbol =>
    obtain rfl : value = _ := h
    rw [element?, Option.bind_some, symbolOf?_toString, Option.map_some]
  | regex source =>
    obtain ⟨written, members, hw, hp, rfl⟩ := h
    rcases hw with _ | ⟨_, _, value, _, hv, _ | _⟩ | ⟨_, _, _, hd, _⟩
    · obtain rfl : value = _ := hv
      obtain rfl := List.singleton_perm.mp hp
      rfl
    · exact hd.elim

theorem foldl_setTarget {targets kept : List (Char × String)}
    (hn : ((kept ++ targets).map Prod.fst).Nodup) :
    targets.foldl (fun targets entry => setTarget targets entry.1 entry.2) kept =
      kept ++ targets := by
  induction targets generalizing kept with
  | nil => rw [List.foldl_nil, List.append_nil]
  | cons target targets ih =>
    have hnew : ¬ kept.any (·.1 = target.1) = true := by
      rw [List.any_eq_true]
      rintro ⟨entry, hin, hsame⟩
      rw [List.map_append, List.map_cons, List.nodup_middle, List.nodup_cons,
        List.mem_append, not_or, ← of_decide_eq_true hsame] at hn
      exact hn.1.1 (List.mem_map_of_mem hin)
    rw [List.append_cons] at hn ⊢
    rw [List.foldl_cons, setTarget, if_neg hnew]
    exact ih hn

theorem hardset?_described {targets : List (Char × String)} (hn : (targets.map Prod.fst).Nodup)
    {value : Json} (h : DescribesTargets targets value) :
    ∃ read, hardset? value = some read ∧ targets.Perm read := by
  obtain ⟨shuffled, hp, rfl⟩ := h
  have hentries (entries : List (Char × String)) :
      (entries.map fun target => (some target.1.toString, Json.string (some target.2))).mapM
        (fun member : Option String × Json => do
          some (← member.1.bind symbolOf?, ← string? member.2)) = some entries := by
    induction entries with
    | nil => rfl
    | cons target entries ih =>
      rw [List.map_cons, List.mapM_cons, ih, Option.bind_some, symbolOf?_toString]
      rfl
  have hnodup : (([] ++ shuffled).map Prod.fst).Nodup := (hp.map Prod.fst).nodup_iff.mp hn
  refine ⟨shuffled, ?_, hp⟩
  rw [objectOf, List.map_map, hardset?]
  exact (congrArg (Option.bind · _) (hentries shuffled)).trans
    (congrArg some (foldl_setTarget hnodup))

theorem state?_described {spec : StateSpec} (hn : (spec.hardset.map Prod.fst).Nodup)
    {value : Json} (h : Record (stateFields spec) value) :
    ∃ read, state? value = some read ∧ spec.Shuffled read := by
  obtain ⟨found, hfound, hall⟩ := fields?_record
    ["name", "entry", "leave", "branches", "ignore", "hardset"] rfl (by decide) true h
  rcases hall with _ | ⟨hname, _ | ⟨hentry, _ | ⟨hleave, _ | ⟨hbranches, _ | ⟨hignore,
    _ | ⟨hhardset, _ | _⟩⟩⟩⟩⟩⟩
  rename_i name entry leave branches ignore hardset
  have he := optional?_eq hentry (fun _ hv => list?_eq (fun _ _ h => element?_described h) hv) id
  have hl := optional?_eq hleave (fun _ hv => list?_eq (fun _ _ h => element?_described h) hv) id
  have hb := optional?_eq hbranches (fun _ hv => list?_eq (fun _ _ h => string?_text h) hv) id
  have hi := optional?_eq hignore (fun _ hv => ignore?_described hv) id
  obtain ⟨targets, ht, hp⟩ := optional?_found (R := spec.hardset.Perm) hhardset
    (fun _ hv => hardset?_described hn hv) fun hd => List.perm_nil.mpr hd
  cases name with
  | none => exact hname.elim
  | some name =>
    refine ⟨{ spec with hardset := targets }, ?_, rfl, hn, hp⟩
    have hs : string? name = some spec.name := string?_text hname
    rw [state?, hfound]
    simp only [hs, he, hl, hb, hi, ht]
    rfl

theorem ofJson?_described {graph : Graph}
    (hn : ∀ spec ∈ graph.states, (spec.hardset.map Prod.fst).Nodup) {value : Json}
    (h : Describes graph value) : ∃ read, ofJson? value = some read ∧ graph.Shuffled read := by
  obtain ⟨found, hfound, hall⟩ := fields?_record ["options", "states"] rfl (by decide) true h
  rcases hall with _ | ⟨hoptions, _ | ⟨hstates, _ | _⟩⟩
  rename_i options states
  have ho := optional?_eq hoptions (fun _ hv => options?_described hv) id
  cases states with
  | none => exact hstates.elim
  | some states =>
    obtain ⟨values, rfl, hvalues⟩ :
      Items (fun spec => Record (stateFields spec)) graph.states states := hstates
    -- Only states of the graph are described, so each of them forces a state once on a symbol.
    have hkeyed := (List.forall₂_and_left _ _).mpr ⟨hn, hvalues⟩
    obtain ⟨specs, hs, hshuffled⟩ := list?_items
      (fun spec value hv => state?_described hv.1 hv.2) ⟨values, rfl, hkeyed⟩
    refine ⟨⟨graph.options, specs⟩, ?_, rfl, hshuffled⟩
    rw [ofJson?, hfound]
    simp only [ho, hs]
    rfl

end Reading

section Writing

theorem exists_record {fields : List Field} (h : ∀ field ∈ fields, ∃ value, field.Holds value) :
    ∃ value, Record fields value := by
  have hwritten : ∃ written, Written fields written := by
    induction fields with
    | nil => exact ⟨[], Written.nil⟩
    | cons field fields ih =>
      rw [List.forall_mem_cons] at h
      obtain ⟨value, hv⟩ := h.1
      obtain ⟨written, hw⟩ := ih h.2
      exact ⟨_, Written.present field fields value written hv hw⟩
  obtain ⟨written, hw⟩ := hwritten
  exact ⟨_, written, written, hw, List.Perm.refl _, rfl⟩

theorem exists_items {α : Type} {describes : α → Json → Prop}
    (h : ∀ item, ∃ value, describes item value) (items : List α) :
    ∃ value, Items describes items value := by
  obtain ⟨values, hv⟩ := exists_forall₂_iff.mpr fun item (_ : item ∈ items) => h item
  exact ⟨_, values, rfl, hv⟩

theorem exists_describes (graph : Graph) : ∃ value, Describes graph value := by
  have htext (text : String) : ∃ value, Text text value := ⟨_, rfl⟩
  have hsymbol (symbol : Char) : ∃ value, Symbol symbol value := ⟨_, rfl⟩
  have helement (spec : ElementSpec) : ∃ value, DescribesElement spec value := by
    cases spec with
    | literal symbol => exact hsymbol symbol
    | regex source => exact exists_record (by simpa using htext source)
  have hignore (ignore : IgnoreSpec) : ∃ value, Record (ignoreFields ignore) value :=
    exists_record (by simp [ignoreFields, exists_items hsymbol])
  have hstate (spec : StateSpec) : ∃ value, Record (stateFields spec) value := by
    have htargets : ∃ value, DescribesTargets spec.hardset value :=
      ⟨_, spec.hardset, List.Perm.refl _, rfl⟩
    exact exists_record (by simp [stateFields, htext, exists_items, helement, hignore, htargets])
  have hoptions : ∃ value, Record (optionFields graph.options) value :=
    exists_record (by simp [optionFields, htext])
  exact exists_record (by simp [graphFields, hoptions, exists_items hstate])

end Writing

section Framing

/-- The records of a description. An element is one if it is an expression. -/
inductive RecordKind where
  | graph
  | options
  | state
  | ignore
  | element
  deriving DecidableEq, Repr

namespace RecordKind

def known : RecordKind → List String
  | .graph => ["options", "states"]
  | .options => ["ignore_policy", "hardset_replay"]
  | .state => ["name", "entry", "leave", "branches", "ignore", "hardset"]
  | .ignore => ["all", "handler"]
  | .element => ["regex"]

/-- Whether members of other names are refused. -/
def strict : RecordKind → Bool
  | .graph | .state | .ignore => true
  | .options | .element => false

abbrev Result : RecordKind → Type
  | .graph => Graph
  | .options => Options
  | .state => StateSpec
  | .ignore => IgnoreSpec
  | .element => ElementSpec

def read : (kind : RecordKind) → Json → Option kind.Result
  | .graph => ofJson?
  | .options => options?
  | .state => state?
  | .ignore => ignore?
  | .element => element?

end RecordKind

/-- A value with a gap where a graph has one of its records. -/
inductive Frame : RecordKind → (Json → Json) → Prop
  | graph : Frame .graph fun part => part
  | options (before after : List Member) : Frame .options (around before after "options")
  | state (before after : List Member) (earlier later : List Json) :
      Frame .state fun part => around before after "states" (amid earlier later part)
  | ignore (frame : Json → Json) (before after : List Member) (hf : Frame .state frame) :
      Frame .ignore fun part => frame (around before after "ignore" part)
  | entry (frame : Json → Json) (before after : List Member) (earlier later : List Json)
      (hf : Frame .state frame) :
      Frame .element fun part => frame (around before after "entry" (amid earlier later part))
  | leave (frame : Json → Json) (before after : List Member) (earlier later : List Json)
      (hf : Frame .state frame) :
      Frame .element fun part => frame (around before after "leave" (amid earlier later part))

variable (before after : List Member)

theorem depends_options : Depends ofJson? (around before after "options") options? := by
  rcases fields?_around ["options", "states"] [] ["states"] rfl (by decide) true before after with
    hnone | ⟨found, found', hl, hl', hsome⟩
  · exact depends_of_refused fun part => by rw [ofJson?, hnone]
  · obtain rfl := List.length_eq_zero_iff.mp hl
    obtain ⟨states, rfl⟩ := List.length_eq_one_iff.mp hl'
    constructor
    · intro part h
      rw [ofJson?, hsome]
      cases states <;> simp [optional?, h]
    · intro part part' h
      rw [ofJson?, ofJson?, hsome, hsome]
      cases states <;> simp [optional?, h]

theorem depends_states : Depends ofJson? (around before after "states") (list? state?) := by
  rcases fields?_around ["options", "states"] ["options"] [] rfl (by decide) true before after with
    hnone | ⟨found, found', hl, hl', hsome⟩
  · exact depends_of_refused fun part => by rw [ofJson?, hnone]
  · obtain ⟨options, rfl⟩ := List.length_eq_one_iff.mp hl
    obtain rfl := List.length_eq_zero_iff.mp hl'
    constructor
    · intro part h
      rw [ofJson?, hsome]
      simp [h]
    · intro part part' h
      rw [ofJson?, ofJson?, hsome, hsome]
      simp [h]

theorem depends_entry : Depends state? (around before after "entry") (list? element?) := by
  rcases fields?_around ["name", "entry", "leave", "branches", "ignore", "hardset"] ["name"]
    ["leave", "branches", "ignore", "hardset"] rfl (by decide) true before after with
    hnone | ⟨found, found', hl, hl', hsome⟩
  · exact depends_of_refused fun part => by rw [state?, hnone]
  · match found, found', hl, hl' with
    | [name], [leave, branches, ignore, hardset], _, _ =>
      constructor
      · intro part h
        rw [state?, hsome]
        cases name <;> simp [optional?, h]
      · intro part part' h
        rw [state?, state?, hsome, hsome]
        cases name <;> simp [optional?, h]

theorem depends_leave : Depends state? (around before after "leave") (list? element?) := by
  rcases fields?_around ["name", "entry", "leave", "branches", "ignore", "hardset"]
    ["name", "entry"] ["branches", "ignore", "hardset"] rfl (by decide) true before after with
    hnone | ⟨found, found', hl, hl', hsome⟩
  · exact depends_of_refused fun part => by rw [state?, hnone]
  · match found, found', hl, hl' with
    | [name, entry], [branches, ignore, hardset], _, _ =>
      constructor
      · intro part h
        rw [state?, hsome]
        cases name <;> simp [optional?, h]
      · intro part part' h
        rw [state?, state?, hsome, hsome]
        cases name <;> simp [optional?, h]

theorem depends_ignore : Depends state? (around before after "ignore") ignore? := by
  rcases fields?_around ["name", "entry", "leave", "branches", "ignore", "hardset"]
    ["name", "entry", "leave", "branches"] ["hardset"] rfl (by decide) true before after with
    hnone | ⟨found, found', hl, hl', hsome⟩
  · exact depends_of_refused fun part => by rw [state?, hnone]
  · match found, found', hl, hl' with
    | [name, entry, leave, branches], [hardset], _, _ =>
      constructor
      · intro part h
        rw [state?, hsome]
        cases name <;> simp [optional?, h]
      · intro part part' h
        rw [state?, state?, hsome, hsome]
        cases name <;> simp [optional?, h]

/-- A graph depends on each of its records through what is read of the record. -/
theorem Frame.depends {kind : RecordKind} {frame : Json → Json} (hf : Frame kind frame) :
    Depends ofJson? frame kind.read := by
  have hstate {frame : Json → Json} (hf : Frame .state frame) : Depends ofJson? frame state? := by
    cases hf with
    | state before after earlier later =>
      exact (depends_states before after).trans (depends_item state? earlier later)
  cases hf with
  | graph => exact Depends.refl ofJson?
  | options before after => exact depends_options before after
  | state before after earlier later => exact hstate (Frame.state before after earlier later)
  | ignore frame before after hf => exact (hstate hf).trans (depends_ignore before after)
  | entry frame before after earlier later hf =>
    exact ((hstate hf).trans (depends_entry before after)).trans
      (depends_item element? earlier later)
  | leave frame before after earlier later hf =>
    exact ((hstate hf).trans (depends_leave before after)).trans
      (depends_item element? earlier later)

end Framing

section Adding

inductive Plain : Json → Prop
  | null : Plain .null
  | bool (value : Bool) : Plain (.bool value)
  | text (text : String) : Plain (.string (some text))

variable {before after : List Member} {name : String} {value : Json}

theorem isSound_passed (hv : Plain value) :
    (objectOf (before ++ (name, value) :: after)).isSound =
      (objectOf (before ++ after)).isSound := by
  have hs : value.isSound = true := by cases hv <;> rfl
  rw [objectOf, objectOf, Json.isSound, Json.isSound]
  induction before with
  | nil => simp [Json.membersSound, hs]
  | cons member before ih =>
    simp only [List.cons_append, List.map_cons, Json.membersSound]
    rw [ih]

theorem depth_passed (hv : Plain value) :
    (objectOf (before ++ (name, value) :: after)).depth =
      (objectOf (before ++ after)).depth := by
  have hd : value.depth = 0 := by cases hv <;> rfl
  rw [objectOf, objectOf, Json.depth, Json.depth]
  congr 1
  induction before with
  | nil => simp [Json.membersDepth, hd]
  | cons member before ih =>
    simp only [List.cons_append, List.map_cons, Json.membersDepth]
    rw [ih]

def sole? : List Member → Option Member
  | [member] => some member
  | _ => none

theorem element?_objectOf (members : List Member) :
    element? (objectOf members) =
      if (objectOf members).isSound && (objectOf members).depth + elementNesting ≤ nestingLimit then
        (sole? (among ["regex"] members)).bind fun member => (string? member.2).map .regex
      else none := by
  have hours : (members.map fun member => (some member.1, member.2)).filter
        (fun member : Option String × Json => member.1 = some "regex") =
      (among ["regex"] members).map fun member => (some member.1, member.2) := by
    rw [List.filter_map, among]
    simp [Function.comp_def]
  rw [objectOf, element?, hours]
  rcases among ["regex"] members with _ | ⟨_, _ | _⟩ <;> rfl

theorem element?_passed (hn : name ∉ ["regex"]) (hv : Plain value) :
    element? (objectOf (before ++ (name, value) :: after)) =
      element? (objectOf (before ++ after)) := by
  rw [element?_objectOf, element?_objectOf, isSound_passed hv, depth_passed hv, among_passed hn]

theorem sole?_repeated {members : List Member} (h : ¬ (members.map Prod.fst).Nodup) :
    sole? members = none := by
  rcases members with _ | ⟨member, _ | _⟩
  · rfl
  · exact absurd (List.nodup_singleton member.1) h
  · rfl

theorem element?_repeated (hn : name ∈ ["regex"]) (hr : name ∈ (before ++ after).map Prod.fst) :
    element? (objectOf (before ++ (name, value) :: after)) = none := by
  rw [element?_objectOf, sole?_repeated (among_repeated hn hr value), Option.bind_none, ite_self]

/-- A member is added to one record of a description, which passes it over. -/
inductive Passed : Json → Json → Prop
  | add {kind : RecordKind} {frame : Json → Json} (hf : Frame kind frame)
      (hs : kind.strict = false) {name : String} (hn : name ∉ kind.known) {value : Json}
      (hv : Plain value) (before after : List Member) :
      Passed (frame (objectOf (before ++ after)))
        (frame (objectOf (before ++ (name, value) :: after)))

/-- A member is added to one record of a description, which does not know it and is strict or
has it already. -/
inductive Spoiled : Json → Json → Prop
  | unknown {kind : RecordKind} {frame : Json → Json} (hf : Frame kind frame)
      (hs : kind.strict = true) {name : String} (hn : name ∉ kind.known) (value : Json)
      (before after : List Member) :
      Spoiled (frame (objectOf (before ++ after)))
        (frame (objectOf (before ++ (name, value) :: after)))
  | repeated {kind : RecordKind} {frame : Json → Json} (hf : Frame kind frame) {name : String}
      (hn : name ∈ kind.known) (value : Json) (before after : List Member)
      (hr : name ∈ (before ++ after).map Prod.fst) :
      Spoiled (frame (objectOf (before ++ after)))
        (frame (objectOf (before ++ (name, value) :: after)))

variable {kind : RecordKind}

theorem read_refused {members : List Member} (hk : kind ≠ .element)
    (h : pick kind.known kind.strict members = none) : kind.read (objectOf members) = none := by
  rw [← fields?_objectOf] at h
  cases kind with
  | graph =>
    have h : fields? ["options", "states"] true (objectOf members) = none := h
    change ofJson? (objectOf members) = none
    rw [ofJson?, h]
  | options =>
    have h : fields? ["ignore_policy", "hardset_replay"] false (objectOf members) = none := h
    change options? (objectOf members) = none
    rw [options?, h]
  | state =>
    have h : fields? ["name", "entry", "leave", "branches", "ignore", "hardset"] true
      (objectOf members) = none := h
    change state? (objectOf members) = none
    rw [state?, h]
  | ignore =>
    have h : fields? ["all", "handler"] true (objectOf members) = none := h
    change ignore? (objectOf members) = none
    rw [ignore?, h]
  | element => exact absurd rfl hk

theorem read_passed (hs : kind.strict = false) (hn : name ∉ kind.known) (hv : Plain value)
    (before after : List Member) :
    kind.read (objectOf (before ++ (name, value) :: after)) =
      kind.read (objectOf (before ++ after)) := by
  cases kind with
  | options =>
    change options? _ = options? _
    rw [options?, options?, fields?_objectOf, fields?_objectOf]
    congr 1
    exact pick_passed rfl hn value before after
  | element => exact element?_passed hn hv
  | graph | state | ignore => exact absurd hs.symm Bool.false_ne_true

theorem Passed.ofJson? {value value' : Json} (h : Passed value value') :
    Graph.ofJson? value' = Graph.ofJson? value := by
  obtain ⟨hf, hs, hn, hv, before, after⟩ := h
  exact hf.depends.congr _ _ (read_passed hs hn hv before after)

theorem Spoiled.ofJson? {value value' : Json} (h : Spoiled value value') :
    Graph.ofJson? value' = none := by
  cases h with
  | @unknown kind frame hf hs name hn value before after =>
    refine hf.depends.refused _ (read_refused ?_ ?_)
    · rintro rfl
      exact absurd hs Bool.false_ne_true
    · exact pick_unknown hs List.mem_append_cons_self hn
  | @repeated kind frame hf name hn value before after hr =>
    refine hf.depends.refused _ ?_
    by_cases hk : kind = .element
    · subst hk
      exact element?_repeated hn hr
    · exact read_refused hk (pick_repeated hn hr value)

end Adding

/-- Every graph can be described. A description of it is read as that graph, also with members
that are passed over, and is refused with one that spoils it. -/
theorem descriptions_read (graph : Graph)
    (hn : ∀ spec ∈ graph.states, (spec.hardset.map Prod.fst).Nodup) :
    (∃ value, Describes graph value) ∧
    (∀ value value', Describes graph value → Relation.ReflTransGen Passed value value' →
      ∃ read, ofJson? value' = some read ∧ graph.Shuffled read) ∧
    ∀ value value', Spoiled value value' → ofJson? value' = none := by
  refine ⟨exists_describes graph, ?_, fun _ _ h => h.ofJson?⟩
  intro value value' hd hp
  have hsame : ofJson? value' = ofJson? value := by
    induction hp with
    | refl => rfl
    | tail _ hstep ih => exact hstep.ofJson?.trans ih
  rw [hsame]
  exact ofJson?_described hn hd

def clef : Graph where
  states := [{
    name := ""
    entry := [.literal '𝄞', .regex "a|b"]
    hardset := [('x', ""), ('𝄞', "")] }]

def clefJson (element options state : List Member) : Json :=
  objectOf [("states", .array [objectOf (
      ("hardset", objectOf [("𝄞", .string (some "")), ("x", .string (some ""))]) ::
      ("entry", .array [.string (some "𝄞"),
        objectOf (("regex", .string (some "a|b")) :: element)]) ::
      ("name", .string (some "")) :: state)]),
    ("options", objectOf options)]

theorem clefJson_describes : Describes clef (clefJson [] [] []) := by
  have helement : DescribesElement (.regex "a|b") (objectOf [("regex", .string (some "a|b"))]) :=
    ⟨_, _, Written.present _ _ _ _ rfl Written.nil, List.Perm.refl _, rfl⟩
  have hentry : Items DescribesElement [.literal '𝄞', .regex "a|b"]
      (.array [.string (some "𝄞"), objectOf [("regex", .string (some "a|b"))]]) :=
    ⟨_, rfl, List.Forall₂.cons rfl (List.Forall₂.cons helement List.Forall₂.nil)⟩
  have hhardset : DescribesTargets [('x', ""), ('𝄞', "")]
      (objectOf [("𝄞", .string (some "")), ("x", .string (some ""))]) :=
    ⟨[('𝄞', ""), ('x', "")], List.Perm.swap _ _ _, rfl⟩
  have hstate : ∀ spec ∈ clef.states, Record (stateFields spec)
      (objectOf [("hardset", objectOf [("𝄞", .string (some "")), ("x", .string (some ""))]),
        ("entry", .array [.string (some "𝄞"), objectOf [("regex", .string (some "a|b"))]]),
        ("name", .string (some ""))]) := by
    intro spec hs
    obtain rfl := List.mem_singleton.mp hs
    refine ⟨_, _, Written.present _ _ _ _ rfl <| Written.present _ _ _ _ hentry <|
      Written.omitted _ _ _ rfl <| Written.omitted _ _ _ rfl <| Written.omitted _ _ _ rfl <|
      Written.present _ _ _ _ hhardset Written.nil, (List.reverse_perm _).symm, rfl⟩
  have hoptions : Record (optionFields clef.options) (objectOf []) :=
    ⟨_, _, Written.omitted _ _ _ rfl <| Written.omitted _ _ _ rfl Written.nil,
      List.Perm.refl _, rfl⟩
  exact ⟨_, _, Written.present _ _ _ _ hoptions <| Written.present _ _ _ _
    ⟨_, rfl, List.Forall₂.cons (hstate _ List.mem_cons_self) List.Forall₂.nil⟩ Written.nil,
    List.Perm.swap _ _ _, rfl⟩

/-- The order of the forcing symbols is the one of the description. -/
theorem clef_read :
    (∀ spec ∈ clef.states, (spec.hardset.map Prod.fst).Nodup) ∧
    Describes clef (clefJson [] [] []) ∧
    (∃ read, ofJson? (clefJson [("why", .null)] [("why", .bool true)] []) = some read ∧
      clef.Shuffled read) ∧
    ofJson? (clefJson [] [] [("name", .null)]) = none ∧
    ofJson? (clefJson [] [] [("why", .null)]) = none := by
  have hn : ∀ spec ∈ clef.states, (spec.hardset.map Prod.fst).Nodup := by decide
  obtain ⟨-, hread, hrefused⟩ := descriptions_read clef hn
  have helement : Passed (clefJson [] [] []) (clefJson [("why", .null)] [] []) :=
    Passed.add (Frame.entry _ [_] [_] [_] [] (Frame.state [] [_] [] [])) rfl (by decide)
      Plain.null [_] []
  have hoptions : Passed (clefJson [("why", .null)] [] [])
      (clefJson [("why", .null)] [("why", .bool true)] []) :=
    Passed.add (Frame.options [_] []) rfl (by decide) (Plain.bool true) [] []
  have hstate := Frame.state [] [("options", objectOf [])] [] []
  have hrepeated : Spoiled (clefJson [] [] []) (clefJson [] [] [("name", .null)]) :=
    Spoiled.repeated hstate (by decide) .null [_, _, _] [] (by decide)
  have hunknown : Spoiled (clefJson [] [] []) (clefJson [] [] [("why", .null)]) :=
    Spoiled.unknown hstate rfl (by decide) .null [_, _, _] []
  exact ⟨hn, clefJson_describes, hread _ _ clefJson_describes
    ((Relation.ReflTransGen.single helement).tail hoptions), hrefused _ _ hrepeated,
    hrefused _ _ hunknown⟩

end StateNest.Graph
