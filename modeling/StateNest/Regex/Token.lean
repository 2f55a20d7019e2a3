import StateNest.Regex.Bracket
import StateNest.Regex.Flag

/-!
# Tokens of an expression

The first stage of reading: an expression is cut into single tokens. A change
of free spacing lasts to the end of its group, so the reader keeps the
settings of the groups around.
-/

set_option autoImplicit false

namespace StateNest.Regex

inductive Token where
  | literal (literal : Literal)
  | dot
  | look (look : Look)
  | shorthand (negated : Bool) (kind : Shorthand)
  | property (query : PropertyQuery)
  | bracket (body : ClassTree)
  | openGroup (capture : Bool) (name : Option (List Char)) (changes : FlagChanges)
  | closeGroup
  | bar
  | flags (changes : FlagChanges)
  | repeated (min : Nat) (max : Option Nat) (greedy : Bool)
  deriving Repr

namespace Token

def ofEscape : Escape → Token
  | .literal symbol => .literal symbol
  | .look position => .look position
  | .shorthand negated kind => .shorthand negated kind
  | .property query => .property query

def isNameStart (symbol : Char) : Bool :=
  symbol = '_' || Property.alphabetic.containsChar symbol

def isNamePart (symbol : Char) : Bool :=
  symbol = '_' || symbol = '.' || symbol = '[' || symbol = ']' ||
    Property.alphabetic.containsChar symbol || (Category.union Category.numbers).containsChar symbol

/-- The name of a group up to its closing angle. -/
def groupName? (text : List Char) : Option (List Char × List Char) :=
  let name := text.takeWhile (· ≠ '>')
  match name, text.dropWhile (· ≠ '>') with
  | first :: others, _ :: rest =>
    if isNameStart first && others.all isNamePart then some (name, rest) else none
  | _, _ => none

/-- What follows an opening parenthesis: a group or a change of flags. -/
def group? : List Char → Option (Token × List Char)
  | '?' :: '=' :: _ | '?' :: '!' :: _ | '?' :: '<' :: '=' :: _ | '?' :: '<' :: '!' :: _ => none
  | '?' :: 'P' :: '<' :: rest | '?' :: '<' :: rest =>
    (groupName? rest).map fun found => (.openGroup true (some found.1) [], found.2)
  | '?' :: rest => match FlagChanges.read false false [] rest with
    | none => none
    | some (changes, ':', rest) => some (.openGroup false none changes, rest)
    | some (changes, _, rest) => if changes.isEmpty then none else some (.flags changes, rest)
  | rest => some (.openGroup true none [], rest)

/-- A question mark after a repetition asks for the shorter matches first. -/
def greed (min : Nat) (max : Option Nat) : List Char → Token × List Char
  | '?' :: rest => (.repeated min max false, rest)
  | rest => (.repeated min max true, rest)

/-- The end of a counted repetition after its numbers. -/
def closeCount? (spaced : Bool) (min : Nat) (max : Option Nat) :
    List Char → Option (Token × List Char)
  | '\x7d' :: rest =>
    if max.all (min ≤ ·) then some (greed min max (skip spaced rest)) else none
  | _ => none

/-- What follows the opening brace of a counted repetition. -/
def counted? (spaced : Bool) (text : List Char) : Option (Token × List Char) := do
  let (min, rest) ← number? spaced (skip spaced text)
  match rest with
  | ',' :: rest => match skip spaced rest with
    | '\x7d' :: rest => closeCount? spaced min none ('\x7d' :: rest)
    | rest => do
      let (max, rest) ← number? spaced rest
      closeCount? spaced min (some max) rest
  | rest => closeCount? spaced min (some min) rest

/-- The token at the start of a text that has something left. -/
def next? (spaced : Bool) (symbol : Char) (rest : List Char) : Option (Token × List Char) :=
  match symbol with
  | '(' => group? (skip spaced rest)
  | ')' => some (.closeGroup, rest)
  | '|' => some (.bar, rest)
  | '[' => (ClassTree.ofChars? spaced rest).map fun found => (.bracket found.1, found.2)
  | '?' => some (greed 0 (some 1) rest)
  | '*' => some (greed 0 none rest)
  | '+' => some (greed 1 none rest)
  | '\x7b' => counted? spaced rest
  | '\\' => (Escape.read? spaced rest).map fun found => (ofEscape found.1, found.2)
  | '.' => some (.dot, rest)
  | '^' => some (.look .lineStart, rest)
  | '$' => some (.look .lineEnd, rest)
  | _ => some (.literal ⟨symbol, false⟩, rest)

/-- Whether free spacing holds after a token, and in the groups around. -/
def spacing (outer : List Bool) (spaced : Bool) : Token → Option (List Bool × Bool)
  | .openGroup _ _ changes => some (spaced :: outer, changes.value .spaced spaced)
  | .closeGroup => match outer with
    | before :: outer => some (outer, before)
    | [] => none
  | .flags changes => some (outer, changes.value .spaced spaced)
  | _ => some (outer, spaced)

def readAll? : Nat → List Bool → Bool → List Char → Option (List Token)
  | 0, _, _, _ => none
  | fuel + 1, outer, spaced, text =>
    match skip spaced text with
    | [] => some []
    | symbol :: rest => do
      let (token, rest) ← next? spaced symbol rest
      let (outer, spaced) ← spacing outer spaced token
      let tokens ← readAll? fuel outer spaced rest
      some (token :: tokens)

def name? : Token → Option (List Char)
  | .openGroup _ name _ => name
  | _ => none

/-- The tokens of an expression, in which no two groups share a name. -/
def ofChars? (text : List Char) : Option (List Token) := do
  let tokens ← readAll? (text.length + 1) [] false text
  if (tokens.filterMap name?).Nodup then some tokens else none

end Token
end StateNest.Regex
