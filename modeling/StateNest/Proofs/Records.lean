import Mathlib.Data.List.Nodup
import StateNest.Graph.Reading
import StateNest.Proofs.Enumeration

/-!
# Records in a description

A record is written as an object of its fields, in any order, without some of those that
hold their default value. Each field is then found with its value, or is not found
where it may be left out. A name that comes twice is refused, and so is an unknown name if
the record is strict. What is read of a record depends on one of its members only
through what is read of that member, and there is nothing to read if that is nothing.
-/

set_option autoImplicit false

namespace StateNest.Graph

/-- A member of an object. Its name is whole. -/
abbrev Member := String × Json

def objectOf (members : List Member) : Json :=
  .object (members.map fun member => (some member.1, member.2))

/-- A field of a record: what it may be written as, and whether it holds its default. -/
structure Field where
  name : String
  Holds : Json → Prop
  Default : Prop

def Field.Found (field : Field) : Option Json → Prop
  | some value => field.Holds value
  | none => field.Default

/-- The members for some fields in order, without some that hold their default. -/
inductive Written : List Field → List Member → Prop
  | nil : Written [] []
  | present (field : Field) (fields : List Field) (value : Json) (members : List Member)
      (hv : field.Holds value) (h : Written fields members) :
      Written (field :: fields) ((field.name, value) :: members)
  | omitted (field : Field) (fields : List Field) (members : List Member)
      (hd : field.Default) (h : Written fields members) : Written (field :: fields) members

def Record (fields : List Field) (value : Json) : Prop :=
  ∃ written members, Written fields written ∧ written.Perm members ∧ value = objectOf members

def among (known : List String) (members : List Member) : List Member :=
  members.filter fun member => known.contains member.1

/-- The values of known members, each of which comes once at most. There are no others if the
record is strict. -/
def pick (known : List String) (strict : Bool) (members : List Member) :
    Option (List (Option Json)) :=
  if (strict && (among known members).length < members.length) ||
      ¬ ((among known members).map Prod.fst).Nodup then none
  else some (known.map ((among known members).lookup ·))

theorem among_around {known : List String} {name : String} (hn : name ∈ known) (value : Json)
    (before after : List Member) : among known (before ++ (name, value) :: after) =
      among known before ++ (name, value) :: among known after := by
  rw [among, List.filter_append, List.filter_cons, if_pos (List.contains_iff_mem.mpr hn)]
  rfl

theorem among_passed {known : List String} {name : String} (hn : name ∉ known) (value : Json)
    (before after : List Member) :
    among known (before ++ (name, value) :: after) = among known (before ++ after) := by
  rw [among, List.filter_append, List.filter_cons,
    if_neg fun hin => hn (List.contains_iff_mem.mp hin), ← List.filter_append]
  rfl

theorem fields?_objectOf (known : List String) (strict : Bool) (members : List Member) :
    fields? known strict (objectOf members) = pick known strict members := by
  have hnames : (members.map fun member => (some member.1, member.2)).mapM
      (fun member : Option String × Json => member.1.map fun name => (name, member.2)) =
      some members := by
    induction members with
    | nil => rfl
    | cons member members ih =>
      rw [List.map_cons, List.mapM_cons, ih]
      rfl
  rw [objectOf, fields?, hnames]
  rfl

section Finding

variable {fields : List Field}

theorem Written.names {members : List Member} (h : Written fields members) :
    (members.map Prod.fst).Sublist (fields.map Field.name) := by
  induction h with
  | nil => exact List.Sublist.refl _
  | present field fields value members hv _ ih => exact ih.cons_cons _
  | omitted field fields members hd _ ih => exact ih.cons _

theorem lookup_absent {members : List Member} {name : String}
    (h : name ∉ members.map Prod.fst) : members.lookup name = none := by
  rw [List.lookup_eq_none_iff]
  intro member hm
  refine bne_iff_ne.mpr ?_
  rintro rfl
  exact h (List.mem_map_of_mem hm)

theorem Written.found {members : List Member} (h : Written fields members)
    (hn : (fields.map Field.name).Nodup) :
    List.Forall₂ Field.Found fields (fields.map fun field => members.lookup field.name) := by
  induction h with
  | nil => exact List.Forall₂.nil
  | present field fields value members hv h ih =>
    rw [List.map_cons, List.nodup_cons] at hn
    have hlater : fields.map (fun other => ((field.name, value) :: members).lookup other.name) =
        fields.map fun other => members.lookup other.name := by
      refine List.map_congr_left fun other ho => ?_
      have hne : other.name ≠ field.name := fun hsame =>
        hn.1 (hsame ▸ List.mem_map_of_mem ho)
      rw [List.lookup_cons, beq_false_of_ne hne]
    rw [List.map_cons, List.lookup_cons_self, hlater]
    exact List.Forall₂.cons hv (ih hn.2)
  | omitted field fields members hd h ih =>
    rw [List.map_cons, List.nodup_cons] at hn
    rw [List.map_cons, lookup_absent fun hin => hn.1 (h.names.subset hin)]
    exact List.Forall₂.cons hd (ih hn.2)

/-- However a record is written, each field is found or left out. -/
theorem fields?_record (known : List String) (hk : fields.map Field.name = known)
    (hn : known.Nodup) (strict : Bool) {value : Json} (h : Record fields value) :
    ∃ found, fields? known strict value = some found ∧ List.Forall₂ Field.Found fields found := by
  subst hk
  obtain ⟨written, members, hw, hp, rfl⟩ := h
  have hwritten : (written.map Prod.fst).Nodup := hw.names.nodup hn
  have hmembers : (members.map Prod.fst).Nodup := (hp.map Prod.fst).nodup_iff.mp hwritten
  have hours : among (fields.map Field.name) members = members := by
    rw [among, List.filter_eq_self]
    intro member hm
    exact List.contains_iff_mem.mpr
      (hw.names.subset (List.mem_map_of_mem (hp.mem_iff.mpr hm)))
  refine ⟨_, ?_, hw.found hn⟩
  rw [fields?_objectOf, pick, hours, if_neg (by simp [hmembers]), List.map_map]
  exact congrArg some (List.map_congr_left fun field _ => lookup_perm hp hwritten field.name)

end Finding

section Refusing

variable {known : List String} {strict : Bool} {members : List Member}

theorem pick_unknown (hs : strict = true) {member : Member} (hm : member ∈ members)
    (hn : member.1 ∉ known) : pick known strict members = none := by
  have hless : (among known members).length < members.length :=
    List.length_filter_lt_length_iff_exists.mpr
      ⟨member, hm, fun hin => hn (List.contains_iff_mem.mp hin)⟩
  rw [pick, if_pos (by simp only [hs, hless, Bool.true_and, decide_true, Bool.true_or])]

theorem among_repeated {before after : List Member} {name : String} (hn : name ∈ known)
    (hr : name ∈ (before ++ after).map Prod.fst) (value : Json) :
    ¬ ((among known (before ++ (name, value) :: after)).map Prod.fst).Nodup := by
  rw [among_around hn, List.map_append, List.map_cons, List.nodup_middle, List.nodup_cons,
    ← List.map_append, among, among, ← List.filter_append]
  obtain ⟨member, hm, rfl⟩ := List.mem_map.mp hr
  have hin : member.1 ∈ ((before ++ after).filter fun member =>
      known.contains member.1).map Prod.fst :=
    List.mem_map_of_mem (List.mem_filter.mpr ⟨hm, List.contains_iff_mem.mpr hn⟩)
  exact fun h => h.1 hin

theorem pick_repeated {before after : List Member} {name : String} (hn : name ∈ known)
    (hr : name ∈ (before ++ after).map Prod.fst) (value : Json) :
    pick known strict (before ++ (name, value) :: after) = none := by
  rw [pick, if_pos (by simp only [among_repeated hn hr, not_false_eq_true, decide_true,
    Bool.or_true])]

theorem pick_passed (hs : strict = false) {name : String} (hn : name ∉ known) (value : Json)
    (before after : List Member) :
    pick known strict (before ++ (name, value) :: after) = pick known strict (before ++ after) := by
  rw [pick, pick, among_passed hn, hs, Bool.false_and, Bool.false_and]

end Refusing

section Depending

variable {α β γ : Type}

/-- What is read of a whole depends on one part of it through what is read of the part. -/
structure Depends (read : Json → Option α) (frame : Json → Json) (inner : Json → Option β) :
    Prop where
  refused : ∀ part, inner part = none → read (frame part) = none
  congr : ∀ part part', inner part = inner part' → read (frame part) = read (frame part')

def around (before after : List Member) (name : String) (part : Json) : Json :=
  objectOf (before ++ (name, part) :: after)

def amid (earlier later : List Json) (part : Json) : Json := .array (earlier ++ part :: later)

variable {read : Json → Option α} {frame : Json → Json} {inner : Json → Option β}

theorem Depends.refl (read : Json → Option α) : Depends read (fun part => part) read :=
  ⟨fun _ h => h, fun _ _ h => h⟩

theorem Depends.trans {frame' : Json → Json} {innermost : Json → Option γ}
    (h : Depends read frame inner) (h' : Depends inner frame' innermost) :
    Depends read (fun part => frame (frame' part)) innermost :=
  ⟨fun part hp => h.refused _ (h'.refused part hp),
    fun part part' hp => h.congr _ _ (h'.congr part part' hp)⟩

theorem depends_of_refused (h : ∀ part, read (frame part) = none) : Depends read frame inner :=
  ⟨fun part _ => h part, fun part part' _ => (h part).trans (h part').symm⟩

theorem depends_item (read : Json → Option α) (earlier later : List Json) :
    Depends (list? read) (amid earlier later) read := by
  constructor
  · intro part h
    rw [amid, list?, List.mapM_append, List.mapM_cons, h]
    cases earlier.mapM read <;> rfl
  · intro part part' h
    rw [amid, amid, list?, list?, List.mapM_append, List.mapM_append, List.mapM_cons,
      List.mapM_cons, h]

/-- Whatever stands around a known member, either the record is refused or the value of the member
is found. -/
theorem fields?_around (known earlier later : List String) {name : String}
    (hk : known = earlier ++ name :: later) (hn : known.Nodup) (strict : Bool)
    (before after : List Member) :
    (∀ part, fields? known strict (around before after name part) = none) ∨
    ∃ found found', found.length = earlier.length ∧ found'.length = later.length ∧
      ∀ part, fields? known strict (around before after name part) =
        some (found ++ some part :: found') := by
  have hname : name ∈ known := by
    rw [hk]
    exact List.mem_append_cons_self
  let ours := among known before
  let ours' := among known after
  -- Whether the record is refused does not depend on the value.
  by_cases hrefused : (strict && ours.length + (ours'.length + 1) <
      before.length + (after.length + 1)) ||
      ¬ (ours.map Prod.fst ++ name :: ours'.map Prod.fst).Nodup
  · refine Or.inl fun part => ?_
    rw [around, fields?_objectOf, pick, among_around hname,
      if_pos (by simpa [ours, ours'] using hrefused)]
  · refine Or.inr ⟨earlier.map ((ours ++ ours').lookup ·), later.map ((ours ++ ours').lookup ·),
      List.length_map _, List.length_map _, fun part => ?_⟩
    have hothers (key : String) (hne : key ≠ name) :
        (ours ++ (name, part) :: ours').lookup key = (ours ++ ours').lookup key := by
      rw [List.lookup_append, List.lookup_append, List.lookup_cons, beq_false_of_ne hne]
    have hfound : (ours ++ (name, part) :: ours').lookup name = some part := by
      have hnodup : (ours.map Prod.fst ++ name :: ours'.map Prod.fst).Nodup := by
        by_contra h
        exact hrefused (by simp only [h, not_false_eq_true, decide_true, Bool.or_true])
      rw [List.nodup_middle, List.nodup_cons, List.mem_append, not_or] at hnodup
      rw [List.lookup_append, lookup_absent hnodup.1.1, List.lookup_cons_self, Option.none_or]
    rw [hk, List.nodup_middle, List.nodup_cons, List.mem_append, not_or] at hn
    rw [around, fields?_objectOf, pick, among_around hname,
      if_neg (by simpa [ours, ours'] using hrefused)]
    change some (known.map ((ours ++ (name, part) :: ours').lookup ·)) = _
    rw [hk, List.map_append, List.map_cons, hfound]
    congr 2
    · exact List.map_congr_left fun key hkey => hothers key fun hsame => hn.1.1 (hsame ▸ hkey)
    · exact congrArg _
        (List.map_congr_left fun key hkey => hothers key fun hsame => hn.1.2 (hsame ▸ hkey))

end Depending

end StateNest.Graph
