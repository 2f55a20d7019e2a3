import StateNest.Regex.Escape

/-!
# Classes in brackets

A class lists symbols, ranges, escapes, named ASCII classes and classes of
its own, and combines such lists by intersection, difference and symmetric
difference, all from left to right.
-/

set_option autoImplicit false

namespace StateNest.Regex

/-- Named ASCII classes. -/
inductive AsciiClass where
  | alnum | alpha | ascii | blank | cntrl | digit | graph
  | lower | print | punct | space | upper | word | xdigit
  deriving DecidableEq, Repr

def AsciiClass.ofName? : String → Option AsciiClass
  | "alnum" => some .alnum
  | "alpha" => some .alpha
  | "ascii" => some .ascii
  | "blank" => some .blank
  | "cntrl" => some .cntrl
  | "digit" => some .digit
  | "graph" => some .graph
  | "lower" => some .lower
  | "print" => some .print
  | "punct" => some .punct
  | "space" => some .space
  | "upper" => some .upper
  | "word" => some .word
  | "xdigit" => some .xdigit
  | _ => none

def AsciiClass.points : AsciiClass → CodePointSet
  | .alnum => .ofText "30-39 41-5A 61-7A"
  | .alpha => .ofText "41-5A 61-7A"
  | .ascii => .ascii
  | .blank => .ofText "9 20"
  | .cntrl => .ofText "0-1F 7F"
  | .digit => .ofText "30-39"
  | .graph => .ofText "21-7E"
  | .lower => .ofText "61-7A"
  | .print => .ofText "20-7E"
  | .punct => .ofText "21-2F 3A-40 5B-60 7B-7E"
  | .space => .ofText "9-D 20"
  | .upper => .ofText "41-5A"
  | .word => .ofText "30-39 41-5A 5F 61-7A"
  | .xdigit => .ofText "30-39 41-46 61-66"

inductive SetOperation where
  | inter
  | diff
  | symmDiff
  deriving DecidableEq, Repr

/-- What stands in a class. A `union` has two members or more, or none. -/
inductive ClassTree where
  | literal (literal : Literal)
  | range (low high : Literal)
  | ascii (negated : Bool) (kind : AsciiClass)
  | shorthand (negated : Bool) (kind : Shorthand)
  | property (query : PropertyQuery)
  | bracket (negated : Bool) (body : ClassTree)
  | union (members : List ClassTree)
  | operation (kind : SetOperation) (left right : ClassTree)
  deriving Repr

namespace ClassTree

/-- The members read so far, last one first, as one class. -/
def ofMembers : List ClassTree → ClassTree
  | [member] => member
  | members => .union members.reverse

/-- Combines an operation still waiting for its right side with that side. -/
def complete (pending : Option (SetOperation × ClassTree)) (right : ClassTree) : ClassTree :=
  match pending with
  | some (kind, left) => .operation kind left right
  | none => right

/-- A named class without its opening bracket: `:alpha:]`. -/
def ascii? : List Char → Option (ClassTree × List Char)
  | ':' :: rest =>
    let (negated, rest) := match rest with
      | '^' :: rest => (true, rest)
      | _ => (false, rest)
    match rest.dropWhile (· ≠ ':') with
    | ':' :: ']' :: after =>
      (AsciiClass.ofName? (String.ofList (rest.takeWhile (· ≠ ':')))).map fun kind =>
        (.ascii negated kind, after)
    | _ => none
  | _ => none

def item? (spaced : Bool) : List Char → Option (Escape × List Char)
  | [] => none
  | '\\' :: rest => Escape.read? spaced rest
  | symbol :: rest => some (.literal ⟨symbol, false⟩, rest)

def ofEscape? : Escape → Option ClassTree
  | .literal symbol => some (.literal symbol)
  | .look _ => none
  | .shorthand negated kind => some (.shorthand negated kind)
  | .property query => some (.property query)

/-- A symbol, an escape or a range. A dash makes a range unless a dash or the end follows it. -/
def range? (spaced : Bool) (text : List Char) : Option (ClassTree × List Char) := do
  let (low, rest) ← item? spaced text
  match skip spaced rest with
  | [] => none
  | '-' :: rest =>
    if peek spaced rest = some ']' ∨ peek spaced rest = some '-' then
      some (← ofEscape? low, '-' :: rest)
    else
      let (high, rest) ← item? spaced (skip spaced rest)
      match low, high with
      | .literal low, .literal high =>
        if low.symbol ≤ high.symbol then some (.range low high, rest) else none
      | _, _ => none
  | rest => some (← ofEscape? low, rest)

/-- The dashes at the start of a class, each of which stands for itself. -/
def leadingDashes (spaced : Bool) : Nat → List Char → List ClassTree × List Char
  | fuel + 1, '-' :: rest =>
    let (dashes, rest) := leadingDashes spaced fuel (skip spaced rest)
    (.literal ⟨'-', false⟩ :: dashes, rest)
  | _, text => ([], text)

/-- The start of a class after its bracket: whether it is negated, and the symbols that stand
for themselves only here. -/
def opening (spaced : Bool) (text : List Char) : Bool × List ClassTree × List Char :=
  let (negated, text) := match skip spaced text with
    | '^' :: rest => (true, skip spaced rest)
    | text => (false, text)
  match leadingDashes spaced text.length text with
  | ([], ']' :: rest) => (negated, [.literal ⟨']', false⟩], skip spaced rest)
  | (dashes, rest) => (negated, dashes, rest)

mutual

/-- The rest of a class after its opening bracket, and the text after the class. -/
def read? (spaced : Bool) : Nat → List Char → Option (ClassTree × List Char)
  | 0, _ => none
  | fuel + 1, text =>
    let (negated, members, rest) := opening spaced text
    (members? spaced fuel none members rest).map fun found =>
      (.bracket negated found.1, found.2)

/-- The members up to the closing bracket, those before them being given last one first. -/
def members? (spaced : Bool) : Nat → Option (SetOperation × ClassTree) → List ClassTree →
    List Char → Option (ClassTree × List Char)
  | 0, _, _, _ => none
  | fuel + 1, pending, members, text =>
    match skip spaced text with
    | [] => none
    | ']' :: rest => some (complete pending (ofMembers members), rest)
    | '&' :: '&' :: rest =>
      members? spaced fuel (some (.inter, complete pending (ofMembers members))) [] rest
    | '-' :: '-' :: rest =>
      members? spaced fuel (some (.diff, complete pending (ofMembers members))) [] rest
    | '~' :: '~' :: rest =>
      members? spaced fuel (some (.symmDiff, complete pending (ofMembers members))) [] rest
    | '[' :: rest =>
      match ascii? rest with
      | some (member, rest) => members? spaced fuel pending (member :: members) rest
      | none =>
        match read? spaced fuel rest with
        | some (member, rest) => members? spaced fuel pending (member :: members) rest
        | none => none
    | text =>
      match range? spaced text with
      | some (member, rest) => members? spaced fuel pending (member :: members) rest
      | none => none

end

/-- The class whose opening bracket stands before the text. -/
def ofChars? (spaced : Bool) (text : List Char) : Option (ClassTree × List Char) :=
  read? spaced (2 * text.length + 2) text

mutual

/-- How deep classes, their lists and their operations are nested. -/
def depth : ClassTree → Nat
  | .bracket _ body => body.depth + 1
  | .union [] => 0
  | .union (member :: members) => depths (member :: members) + 1
  | .operation _ left right => max left.depth right.depth + 1
  | _ => 0

def depths : List ClassTree → Nat
  | [] => 0
  | member :: members => max member.depth (depths members)

end

end ClassTree
end StateNest.Regex
