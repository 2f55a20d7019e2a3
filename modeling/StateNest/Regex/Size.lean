import StateNest.Regex.Normal

/-!
# The size of an automaton

An expression is refused if the automaton for it would grow too large. Two
automata count, one that reads a text forward and one that reads it backward,
each over the bytes of the symbols. A state takes 32 bytes, a labelled edge of
a branching state 8 more and an alternative of a choice 4 more. States of a set
that could be shared are taken to be, as if none was ever forgotten.
-/

set_option autoImplicit false

namespace StateNest.Regex

inductive Direction where
  | forward
  | backward
  deriving DecidableEq, Repr

namespace Size

def state : Nat := 32
def edge : Nat := 8
def alternative : Nat := 4

def total (sizes : List Nat) : Nat := sizes.foldr (· + ·) 0

/-- Ranges of bytes, one for each byte of an encoded symbol. -/
abbrev ByteRanges := List (Nat × Nat)

/-- Splits the numbers from `low` to `high`, written with one leading digit and so many further
digits to the base 64, into products of digit ranges. The leading digit gets an offset. -/
def digitRanges (offset : Nat) : Nat → Nat → Nat → List ByteRanges
  | 0, low, high => [[(offset + low, offset + high)]]
  | count + 1, low, high =>
    let unit := Nat.pow 64 (count + 1)
    let first := low / unit
    let last := high / unit
    let under (digit : Nat) (rest : List ByteRanges) : List ByteRanges :=
      rest.map ((offset + digit, offset + digit) :: ·)
    if first = last then under first (digitRanges 0x80 count (low % unit) (high % unit))
    else
      let start := if low % unit = 0 then first else first + 1
      let stop := if high % unit = unit - 1 then last + 1 else last
      (if low % unit = 0 then []
        else under first (digitRanges 0x80 count (low % unit) (unit - 1))) ++
      (if start < stop then
        [(offset + start, offset + stop - 1) :: List.replicate (count + 1) (0x80, 0xBF)] else []) ++
      (if high % unit = unit - 1 then []
        else under last (digitRanges 0x80 count 0 (high % unit)))

/-- The part of a range whose symbols are encoded with the same number of bytes. -/
def encodedPart (offset count bottom top : Nat) (range : Nat × Nat) : List ByteRanges :=
  let low := max bottom range.1
  let high := min top range.2
  if low ≤ high then digitRanges offset count low high else []

def encoded (range : Nat × Nat) : List ByteRanges :=
  encodedPart 0 0 0 0x7F range ++ encodedPart 0xC0 1 0x80 0x7FF range ++
    encodedPart 0xE0 2 0x800 0xFFFF range ++ encodedPart 0xF0 3 0x10000 0x10FFFF range

/-- Sequences with the same first range, by that range and without it. -/
def groups : List ByteRanges → List ((Nat × Nat) × List ByteRanges)
  | [] => []
  | [] :: rest => groups rest
  | (first :: tail) :: rest => match groups rest with
    | (next, tails) :: others =>
      if next = first then (first, tail :: tails) :: others
      else (first, [tail]) :: (next, tails) :: others
    | [] => [(first, [tail])]

/-- What is left to read at each state, for states up to so many bytes from the start. -/
def continuations : Nat → List ByteRanges → List (List ByteRanges)
  | 0, _ => []
  | depth + 1, sequences => match groups sequences with
    | [] => []
    | found => sequences :: found.flatMap fun group => continuations depth group.2

/-- The number of different beginnings of the sequences. -/
def beginnings : Nat → List ByteRanges → Nat
  | 0, _ => 0
  | depth + 1, sequences =>
    total ((groups sequences).map fun group => beginnings depth group.2 + 1)

/-- States that read the same are shared. Forward, a state branches by the next byte; backward,
the sequences are alternatives that share their beginnings. -/
def encodedSet (direction : Direction) (sequences : List ByteRanges) : Nat :=
  match direction with
  | .forward =>
    state + total ((continuations 4 sequences).eraseDups.map fun rest =>
      state + edge * (groups rest).length)
  | .backward =>
    2 * state + alternative * sequences.length + state * beginnings 4 sequences

/-- A set within ASCII takes one state with an edge for each range. -/
def ofSet (direction : Direction) (set : CodePointSet) : Nat :=
  if set.ranges.all fun range => range.2 < 0x80 then 2 * state + edge * set.ranges.length
  else encodedSet direction (set.ranges.flatMap encoded)

/-- The bytes of a text in the order in which they are read. -/
def bytes (direction : Direction) (symbols : List Char) : List UInt8 :=
  let bytes := symbols.flatMap String.utf8EncodeChar
  match direction with
  | .forward => bytes
  | .backward => bytes.reverse

/-- The texts between those that have ended. -/
def runs : List (List UInt8) → List (List (List UInt8))
  | [] => [[]]
  | [] :: texts => [] :: runs texts
  | text :: texts => match runs texts with
    | run :: others => (text :: run) :: others
    | [] => [[text]]

/-- The runs of the texts that go on from a state. Only its first end counts before they do. -/
def runsFrom : List (List UInt8) → List (List (List UInt8))
  | [] :: texts => [] :: runs (texts.dropWhile List.isEmpty)
  | texts => runs texts

def tails (first : UInt8) (run : List (List UInt8)) : List (List UInt8) :=
  run.filterMap fun
    | byte :: tail => if byte = first then some tail else none
    | [] => none

/-- The size of a tree of texts from one of its states on. Earlier texts are preferred, so the
texts of one run share their beginnings, while an end between two runs keeps them apart. -/
def tree : Nat → List (List UInt8) → Nat
  | 0, _ => 0
  | depth + 1, texts =>
    if texts.all List.isEmpty then 0
    else
      let firsts := (runsFrom texts).map fun run => (run, (run.filterMap List.head?).eraseDups)
      let branching := firsts.filter fun found => !found.2.isEmpty
      let choices := branching.length + (firsts.length - 1)
      (if choices = 1 then 0 else state + alternative * choices) +
        total (branching.map fun (run, bytes) =>
          state + (if bytes.length = 1 then 0 else edge * bytes.length) +
            total (bytes.map fun byte => tree depth (tails byte run)))

/-- A choice of texts is read by a tree. -/
def ofTexts (direction : Direction) (texts : List (List Char)) : Nat :=
  let texts := texts.map (bytes direction)
  state + tree (texts.foldr (max ·.length) 0) texts

/-- The size of a repetition from the size of its body. A body that may match nothing needs two
choices to be repeated without end. -/
def repeated (min : Nat) (max : Option Nat) (consumes : Bool) (body : Nat) : Nat :=
  let choice := state + 2 * alternative
  match max with
  | none =>
    if min = 0 then if consumes then choice + body else 2 * choice + state + body
    else min * body + choice
  | some max =>
    if min = max then min * body
    else if min = 0 ∧ max = 1 then choice + body + state
    else (if min = 0 then state else min * body) + state + (max - min) * (choice + body)

end Size

namespace Normal

mutual

/-- The length of the shortest match. There is none where some part matches nothing at all. -/
def least? : Normal → Option Nat
  | .empty | .look _ _ => some 0
  | .text symbols => some symbols.length
  | .oneOf set => if set.isEmpty then none else some 1
  | .repeated min _ _ body => body.least?.map (min * ·)
  | .capture body => body.least?
  | .concat parts => leastSum? parts
  | .either branches => leastOf? branches

def leastSum? : List Normal → Option Nat
  | [] => some 0
  | part :: parts => do some ((← part.least?) + (← leastSum? parts))

def leastOf? : List Normal → Option Nat
  | [] => none
  | [branch] => branch.least?
  | branch :: branches => do some (min (← branch.least?) (← leastOf? branches))

end

mutual

/-- Whether every match begins at the start of the text, or ends at its end. -/
def isAnchored (direction : Direction) : Normal → Bool
  | .look position _ => position = match direction with
    | .forward => .textStart
    | .backward => .textEnd
  | .repeated min _ _ body => 0 < min && body.isAnchored direction
  | .capture body => body.isAnchored direction
  | .concat parts => edgeAnchored direction parts
  | .either branches => allAnchored direction branches
  | _ => false

def edgeAnchored (direction : Direction) : List Normal → Bool
  | [] => false
  | part :: parts => match direction with
    | .forward => part.isAnchored direction || (part.isIdle && edgeAnchored direction parts)
    | .backward => edgeAnchored direction parts || (allIdle parts && part.isAnchored direction)

def allAnchored (direction : Direction) : List Normal → Bool
  | [] => true
  | branch :: branches => branch.isAnchored direction && allAnchored direction branches

end

mutual

/-- The size of an automaton in bytes. Only one that reads forward marks what groups capture. -/
def size (direction : Direction) : Normal → Nat
  | .empty | .look _ _ => Size.state
  | .text symbols => Size.state * (Size.bytes direction symbols).length
  | .oneOf set => Size.ofSet direction set
  | .repeated min max _ body =>
    Size.repeated min max (body.least?.any (0 < ·)) (size direction body)
  | .capture body =>
    size direction body + if direction = .forward then 2 * Size.state else 0
  | .concat parts => sizes direction parts
  | .either branches => match branches.mapM text? with
    | some texts => Size.ofTexts direction texts
    | none =>
      2 * Size.state + Size.alternative * branches.length + sizes direction branches

def sizes (direction : Direction) : List Normal → Nat
  | [] => 0
  | part :: parts => size direction part + sizes direction parts

end

/-- The size with the final state, with the marks of the whole match, and with the loop over the
symbols before a match, which one at the start of the text does not need. -/
def wholeSize (direction : Direction) (normal : Normal) : Nat :=
  let before :=
    if normal.isAnchored direction then Size.state
    else 3 * Size.state + Size.edge + 2 * Size.alternative
  before + normal.capture.size direction + Size.state

end Normal

/-- The largest size that an automaton may have. -/
def sizeLimit : Nat := 10 * 1024 * 1024

def Expr.fits (expr : Expr) : Bool :=
  let normal := Normal.ofExpr expr
  normal.wholeSize .forward ≤ sizeLimit && normal.wholeSize .backward ≤ sizeLimit

end StateNest.Regex
