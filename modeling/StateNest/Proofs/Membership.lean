import Mathlib.Logic.Basic
import StateNest.Unicode.Property

/-!
# Membership in sets of code points

The operations on sets are those of membership. The ranges of a set ascend by where
they start, and on such ranges union, complement and difference do what they say. All
tables are sets of this kind, since reading a table sorts its ranges.
-/

set_option autoImplicit false

namespace StateNest

namespace CodePointSet

def Covers (ranges : List (Nat × Nat)) (point : Nat) : Prop :=
  ∃ range ∈ ranges, range.1 ≤ point ∧ point ≤ range.2

/-- No range is empty, starts before the one before it, or starts below the given point. -/
def AscendFrom : Nat → List (Nat × Nat) → Prop
  | _, [] => True
  | low, range :: ranges => low ≤ range.1 ∧ range.1 ≤ range.2 ∧ AscendFrom range.1 ranges

def Sorted (set : CodePointSet) : Prop := AscendFrom 0 set.ranges

section Ranges

variable {low start stop point : Nat} {range : Nat × Nat} {ranges left right : List (Nat × Nat)}

theorem not_covers_nil : ¬ Covers [] point := by
  rintro ⟨range, hr, -⟩
  simp at hr

theorem covers_cons : Covers (range :: ranges) point ↔
    range.1 ≤ point ∧ point ≤ range.2 ∨ Covers ranges point := by
  simp only [Covers, List.mem_cons, or_and_right, exists_or, exists_eq_left]

theorem AscendFrom.mono (h : AscendFrom low ranges) (hs : start ≤ low) :
    AscendFrom start ranges := by
  cases ranges with
  | nil => trivial
  | cons range ranges => exact ⟨Nat.le_trans hs h.1, h.2⟩

theorem AscendFrom.le_of_covers (h : AscendFrom low ranges) (hc : Covers ranges point) :
    low ≤ point := by
  induction ranges generalizing low with
  | nil => exact absurd hc not_covers_nil
  | cons range ranges ih =>
    rcases covers_cons.mp hc with ⟨hstart, -⟩ | hc
    · exact Nat.le_trans h.1 hstart
    · exact Nat.le_trans h.1 (ih h.2.2 hc)

theorem ascend_of_pairwise (hne : ∀ range ∈ ranges, range.1 ≤ range.2)
    (hp : ranges.Pairwise fun a b => a.1 ≤ b.1) (hl : ∀ range ∈ ranges, low ≤ range.1) :
    AscendFrom low ranges := by
  induction ranges generalizing low with
  | nil => trivial
  | cons range ranges ih =>
    rw [List.forall_mem_cons] at hne hl
    rw [List.pairwise_cons] at hp
    exact ⟨hl.1, hne.1, ih hne.2 hp.2 hp.1⟩

theorem joinOnto_ascend (h : AscendFrom low (range :: ranges)) :
    AscendFrom low (joinOnto range ranges) := by
  induction ranges generalizing low range with
  | nil => exact h
  | cons next rest ih =>
    obtain ⟨hlow, hne, hnext, hnextne, hrest⟩ := h
    rw [joinOnto]
    split
    · exact ih ⟨hlow, Nat.le_trans hne (Nat.le_max_left _ _), hrest.mono hnext⟩
    · exact ⟨hlow, hne, ih ⟨hnext, hnextne, hrest⟩⟩

theorem covers_joinOnto (h : AscendFrom low (range :: ranges)) :
    Covers (joinOnto range ranges) point ↔ Covers (range :: ranges) point := by
  induction ranges generalizing low range with
  | nil => exact Iff.rfl
  | cons next rest ih =>
    obtain ⟨hlow, hne, hnext, hnextne, hrest⟩ := h
    rw [joinOnto]
    split
    · next htouch =>
      have hjoined : AscendFrom low ((range.1, max range.2 next.2) :: rest) :=
        ⟨hlow, Nat.le_trans hne (Nat.le_max_left _ _), hrest.mono hnext⟩
      rw [ih hjoined]
      simp only [covers_cons]
      rw [← or_assoc]
      refine or_congr_left ?_
      omega
    · rw [covers_cons, ih ⟨hnext, hnextne, hrest⟩, ← covers_cons]

theorem interleave_ascend (hl : AscendFrom low left) (hr : AscendFrom low right) :
    AscendFrom low (interleave left right) := by
  fun_induction interleave left right generalizing low with
  | case1 right => exact hr
  | case2 left => exact hl
  | case3 a left b right hle ih =>
    exact ⟨hl.1, hl.2.1, ih hl.2.2 ⟨hle, hr.2⟩⟩
  | case4 a left b right hgt ih =>
    exact ⟨hr.1, hr.2.1, ih ⟨Nat.le_of_not_le hgt, hl.2⟩ hr.2.2⟩

theorem covers_interleave :
    Covers (interleave left right) point ↔ Covers left point ∨ Covers right point := by
  fun_induction interleave left right with
  | case1 right => rw [or_iff_right not_covers_nil]
  | case2 left => rw [or_iff_left not_covers_nil]
  | case3 a left b right hle ih => rw [covers_cons, ih, ← or_assoc, ← covers_cons]
  | case4 a left b right hgt ih => rw [covers_cons, ih, or_left_comm, ← covers_cons]

theorem gaps_ascend (h : AscendFrom low ranges) : AscendFrom start (gaps stop start ranges) := by
  induction ranges generalizing low start with
  | nil =>
    rw [gaps]
    split
    · next hs => exact ⟨Nat.le_refl _, hs, trivial⟩
    · trivial
  | cons range rest ih =>
    rw [gaps]
    split
    · next hs =>
      have hafter : start ≤ range.2 + 1 := by
        have hne := h.2.1
        omega
      exact ⟨Nat.le_refl _, Nat.le_sub_one_of_lt hs, (ih h.2.2).mono hafter⟩
    · exact (ih h.2.2).mono (Nat.le_max_left _ _)

theorem covers_gaps (h : AscendFrom low ranges) (hp : point ≤ stop) :
    Covers (gaps stop start ranges) point ↔ start ≤ point ∧ ¬ Covers ranges point := by
  induction ranges generalizing low start with
  | nil =>
    rw [gaps, and_iff_left not_covers_nil]
    split
    · simp only [covers_cons, or_iff_left not_covers_nil, and_iff_left hp]
    · exact iff_of_false not_covers_nil (by omega)
  | cons range rest ih =>
    obtain ⟨-, hne, hrest⟩ := h
    have hbehind : Covers rest point → range.1 ≤ point := hrest.le_of_covers
    rw [gaps, covers_cons]
    split
    · rw [covers_cons, ih hrest]
      by_cases hc : Covers rest point
      · have hstart := hbehind hc
        simp only [hc, not_true_eq_false, and_false, or_false, or_true, iff_false, not_and]
        omega
      · simp only [hc, not_false_eq_true, and_true, or_false]
        omega
    · rw [ih hrest]
      by_cases hc : Covers rest point
      · simp only [hc, not_true_eq_false, and_false, or_true]
      · simp only [hc, not_false_eq_true, and_true, or_false]
        omega

end Ranges

theorem contains_iff {set : CodePointSet} {point : Nat} :
    set.contains point = true ↔ Covers set.ranges point := by
  simp [contains, holds, Covers]

theorem sorted_empty : Sorted empty := trivial

theorem join_sorted {ranges : List (Nat × Nat)} (h : AscendFrom 0 ranges) :
    Sorted ⟨join ranges⟩ := by
  cases ranges with
  | nil => exact sorted_empty
  | cons range ranges => exact joinOnto_ascend h

theorem contains_join {ranges : List (Nat × Nat)} (h : AscendFrom 0 ranges) {point : Nat} :
    contains ⟨join ranges⟩ point = true ↔ Covers ranges point := by
  rw [contains_iff]
  cases ranges with
  | nil => exact Iff.rfl
  | cons range ranges => exact covers_joinOnto h

theorem sorted_ofRanges (ranges : List (Nat × Nat)) : Sorted (ofRanges ranges) := by
  apply join_sorted
  refine ascend_of_pairwise ?_ ?_ fun _ _ => Nat.zero_le _
  · intro range hr
    have hin := List.mem_mergeSort.mp hr
    simpa using (List.mem_filter.mp hin).2
  · have hpairs : ((ranges.filter fun range => range.1 ≤ range.2).mergeSort
        fun a b => a.1 ≤ b.1).Pairwise fun a b => decide (a.1 ≤ b.1) = true :=
      List.pairwise_mergeSort (fun a b c => by simpa using Nat.le_trans)
        (fun a b => by simpa using Nat.le_total a.1 b.1) _
    simpa using hpairs

theorem sorted_singleton (point : Nat) : Sorted (singleton point) := sorted_ofRanges _

theorem containsChar_singleton {point : Nat} {symbol : Char} :
    (singleton point).containsChar symbol = true ↔ symbol.toNat = point := by
  simp [singleton, range, ofRanges, containsChar, contains, holds, join, joinOnto]
  omega

theorem sorted_ofText (text : String) : Sorted (ofText text) := sorted_ofRanges _

section Sets

variable {set left right : CodePointSet}

theorem Sorted.union (hl : Sorted left) (hr : Sorted right) : Sorted (left.union right) :=
  join_sorted (interleave_ascend hl hr)

theorem Sorted.append (hl : Sorted left) (hr : Sorted right) : Sorted (left ++ right) := hl.union hr

theorem contains_union (hl : Sorted left) (hr : Sorted right) {point : Nat} :
    (left.union right).contains point = true ↔
      left.contains point = true ∨ right.contains point = true := by
  rw [CodePointSet.union, contains_join (interleave_ascend hl hr), covers_interleave,
    contains_iff, contains_iff]

theorem containsChar_append (hl : Sorted left) (hr : Sorted right) {symbol : Char} :
    (left ++ right).containsChar symbol = true ↔
      left.containsChar symbol = true ∨ right.containsChar symbol = true :=
  contains_union hl hr

theorem sorted_surrogates : Sorted surrogates := by simp [Sorted, surrogates, AscendFrom]

theorem Sorted.complement (h : Sorted set) : Sorted set.complement :=
  gaps_ascend (h.union sorted_surrogates)

theorem containsChar_complement (h : Sorted set) {symbol : Char} :
    set.complement.containsChar symbol = true ↔ ¬ set.containsChar symbol = true := by
  have hvalid := symbol.valid
  have hscalar : symbol.toNat ≤ 0x10FFFF ∧ ¬ surrogates.contains symbol.toNat = true := by
    rw [contains_iff, Covers]
    simp only [surrogates, List.mem_singleton, exists_eq_left]
    rcases hvalid with hbelow | ⟨habove, hlast⟩
    · change symbol.toNat < 0xD800 at hbelow
      omega
    · change 0xDFFF < symbol.toNat at habove
      change symbol.toNat < 0x110000 at hlast
      omega
  have hsorted := h.union sorted_surrogates
  rw [containsChar, containsChar, CodePointSet.complement, contains_iff,
    covers_gaps hsorted hscalar.1, ← contains_iff, contains_union h sorted_surrogates]
  simp [hscalar.2]

theorem containsChar_diff (hl : Sorted left) (hr : Sorted right) {symbol : Char} :
    (left \ right).containsChar symbol = true ↔
      left.containsChar symbol = true ∧ ¬ right.containsChar symbol = true := by
  change (left.diff right).containsChar symbol = true ↔ _
  rw [diff, containsChar_complement (hl.complement.union hr), containsChar,
    contains_union hl.complement hr, not_or, ← containsChar, ← containsChar,
    containsChar_complement hl, not_not]

theorem sorted_foldl {sets : List CodePointSet} (hs : Sorted set)
    (h : ∀ other ∈ sets, Sorted other) : Sorted (sets.foldl CodePointSet.union set) := by
  induction sets generalizing set with
  | nil => exact hs
  | cons other sets ih =>
    rw [List.forall_mem_cons] at h
    exact ih (hs.union h.1) h.2

theorem contains_foldl {sets : List CodePointSet} (hs : Sorted set)
    (h : ∀ other ∈ sets, Sorted other) {point : Nat} :
    (sets.foldl CodePointSet.union set).contains point = true ↔
      set.contains point = true ∨ ∃ other ∈ sets, other.contains point = true := by
  induction sets generalizing set with
  | nil => simp
  | cons other sets ih =>
    rw [List.forall_mem_cons] at h
    rw [List.foldl_cons, ih (hs.union h.1) h.2, contains_union hs h.1]
    simp [or_assoc]

theorem sorted_unions {sets : List CodePointSet} (h : ∀ set ∈ sets, Sorted set) :
    Sorted (unions sets) :=
  sorted_foldl sorted_empty h

theorem contains_unions {sets : List CodePointSet} (h : ∀ set ∈ sets, Sorted set) {point : Nat} :
    (unions sets).contains point = true ↔ ∃ set ∈ sets, set.contains point = true := by
  rw [unions, contains_foldl sorted_empty h]
  simp [contains, empty]

end Sets

end CodePointSet

namespace Category

open CodePointSet

theorem sorted_assignedPoints (category : Category) : Sorted category.assignedPoints := by
  cases category with
  | cn => exact sorted_empty
  | _ => exact sorted_ofText _

theorem sorted_points (category : Category) : Sorted category.points := by
  cases category with
  | cn =>
    refine Sorted.complement (sorted_unions ?_)
    exact List.forall_mem_map.mpr fun category _ => sorted_assignedPoints category
  | _ => exact sorted_assignedPoints _

theorem sorted_union (categories : List Category) : Sorted (union categories) :=
  sorted_unions (List.forall_mem_map.mpr fun category _ => sorted_points category)

theorem containsChar_union {categories : List Category} {symbol : Char} :
    (union categories).containsChar symbol = true ↔
      ∃ category ∈ categories, category.points.containsChar symbol = true := by
  rw [containsChar, union,
    contains_unions (List.forall_mem_map.mpr fun category _ => sorted_points category)]
  simp [containsChar]

end Category

theorem Property.sorted_graphemeExtend : CodePointSet.Sorted graphemeExtend :=
  (Category.sorted_union _).union (CodePointSet.sorted_ofText _)

end StateNest
