/-!
# Sets of code points

A set is a list of closed ranges, ascending and not touching. Membership is
the view; the operations bring their result back into this form, so the
ranges of a set depend on its members only. Surrogates are never members of
a complement, since no character has such a code point.
-/

set_option autoImplicit false

namespace StateNest

/-- A set of Unicode code points, as closed ranges. -/
structure CodePointSet where
  ranges : List (Nat × Nat)
  deriving DecidableEq, Repr, Inhabited

namespace CodePointSet

def holds (range : Nat × Nat) (point : Nat) : Bool :=
  decide (range.1 ≤ point) && decide (point ≤ range.2)

def contains (set : CodePointSet) (point : Nat) : Bool :=
  set.ranges.any (holds · point)

def containsChar (set : CodePointSet) (symbol : Char) : Bool :=
  set.contains symbol.toNat

def empty : CodePointSet := ⟨[]⟩

/-- Joins ranges that overlap or touch, given in ascending order. -/
def joinOnto : Nat × Nat → List (Nat × Nat) → List (Nat × Nat)
  | range, [] => [range]
  | range, next :: rest =>
    if next.1 ≤ range.2 + 1 then joinOnto (range.1, max range.2 next.2) rest
    else range :: joinOnto next rest

def join : List (Nat × Nat) → List (Nat × Nat)
  | [] => []
  | range :: rest => joinOnto range rest

/-- The set of all points in some range, whatever the order of the ranges. -/
def ofRanges (ranges : List (Nat × Nat)) : CodePointSet :=
  ⟨join ((ranges.filter fun range => range.1 ≤ range.2).mergeSort fun a b => a.1 ≤ b.1)⟩

def range (low high : Nat) : CodePointSet := ofRanges [(low, high)]

def singleton (point : Nat) : CodePointSet := range point point

def ofChars (symbols : List Char) : CodePointSet :=
  ofRanges (symbols.map fun symbol => (symbol.toNat, symbol.toNat))

/-- Two ascending lists of ranges in one ascending list. -/
def interleave : List (Nat × Nat) → List (Nat × Nat) → List (Nat × Nat)
  | [], right => right
  | left, [] => left
  | a :: left, b :: right =>
    if a.1 ≤ b.1 then a :: interleave left (b :: right) else b :: interleave (a :: left) right
termination_by left right => left.length + right.length

def union (left right : CodePointSet) : CodePointSet :=
  ⟨join (interleave left.ranges right.ranges)⟩

def unions (sets : List CodePointSet) : CodePointSet := sets.foldl union empty

/-- What ascending ranges leave out from `start` to `stop`. -/
def gaps (stop : Nat) : Nat → List (Nat × Nat) → List (Nat × Nat)
  | start, [] => if start ≤ stop then [(start, stop)] else []
  | start, range :: rest =>
    if start < range.1 then (start, range.1 - 1) :: gaps stop (range.2 + 1) rest
    else gaps stop (max start (range.2 + 1)) rest

def surrogates : CodePointSet := ⟨[(0xD800, 0xDFFF)]⟩

/-- Every code point that a character can have and that is not in the set. -/
def complement (set : CodePointSet) : CodePointSet :=
  ⟨gaps 0x10FFFF 0 (set.union surrogates).ranges⟩

def all : CodePointSet := complement empty

def ascii : CodePointSet := range 0 0x7F

def inter (left right : CodePointSet) : CodePointSet :=
  complement (union (complement left) (complement right))

def diff (left right : CodePointSet) : CodePointSet :=
  complement (union (complement left) right)

/-- The points in exactly one of the two sets. -/
def symmDiff (left right : CodePointSet) : CodePointSet :=
  union (diff left right) (diff right left)

def isEmpty (set : CodePointSet) : Bool := set.ranges.isEmpty

instance : Append CodePointSet := ⟨union⟩
instance : SDiff CodePointSet := ⟨diff⟩

/-! Tables are written as hexadecimal ranges: `41-5A` for a run of points,
`100-12E/2` for every second point of a run, and a number for a single one. -/

def hexDigit? (symbol : Char) : Option Nat :=
  if '0' ≤ symbol ∧ symbol ≤ '9' then some (symbol.toNat - 48)
  else if 'A' ≤ symbol ∧ symbol ≤ 'F' then some (symbol.toNat - 55)
  else if 'a' ≤ symbol ∧ symbol ≤ 'f' then some (symbol.toNat - 87)
  else none

/-- The number that hexadecimal digits spell; other symbols are passed over. -/
def hexNumber (digits : List Char) : Nat :=
  digits.foldl (fun value symbol => match hexDigit? symbol with
    | some digit => 16 * value + digit
    | none => value) 0

def everySecond (low high : Nat) : List (Nat × Nat) :=
  (List.range ((high - low) / 2 + 1)).map fun step => (low + 2 * step, low + 2 * step)

/-- The ranges that one entry of a table stands for. -/
def entryRanges (entry : List Char) : List (Nat × Nat) :=
  let body := entry.takeWhile (· ≠ '/')
  let low := hexNumber (body.takeWhile (· ≠ '-'))
  match body.dropWhile (· ≠ '-') with
  | [] => [(low, low)]
  | _ :: high => if body.length < entry.length then everySecond low (hexNumber high)
    else [(low, hexNumber high)]

/-- The words of a text, at single blanks. -/
def words : List Char → List (List Char)
  | [] => []
  | symbol :: rest => match words rest with
    | [] => if symbol = ' ' then [[], []] else [[symbol]]
    | word :: others => if symbol = ' ' then [] :: word :: others else (symbol :: word) :: others

def ofText (text : String) : CodePointSet :=
  ofRanges ((words text.toList).flatMap fun word =>
    if word.isEmpty then [] else entryRanges word)

end CodePointSet
end StateNest
