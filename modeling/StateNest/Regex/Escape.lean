import StateNest.Regex.Blank

/-!
# Escapes

What a backslash and the symbols after it stand for: a symbol, a position, a
shorthand for a class or a class named by a property.
-/

set_option autoImplicit false

namespace StateNest.Regex

/-- A symbol of an expression. It is `byteCode` when it was written as `\x` with two digits,
which names a byte and not a character where Unicode is switched off. -/
structure Literal where
  symbol : Char
  byteCode : Bool := false
  deriving DecidableEq, Repr

/-- Positions, by what they require before and after them. -/
inductive Look where
  | lineStart
  | lineEnd
  | textStart
  | textEnd
  | wordEdge
  | notWordEdge
  | wordStart
  | wordEnd
  | wordStartHalf
  | wordEndHalf
  deriving DecidableEq, Repr

inductive Shorthand where
  | digit
  | space
  | word
  deriving DecidableEq, Repr

/-- A class named by a property, or by a property and its value. -/
structure PropertyQuery where
  negated : Bool
  name : List Char
  value : Option (List Char) := none
  deriving DecidableEq, Repr

inductive Escape where
  | literal (literal : Literal)
  | look (look : Look)
  | shorthand (negated : Bool) (kind : Shorthand)
  | property (query : PropertyQuery)
  deriving DecidableEq, Repr

namespace Escape

def scalar? (value : Nat) : Option Char :=
  if value < 0xD800 ∨ (0xDFFF < value ∧ value ≤ 0x10FFFF) then some (Char.ofNat value) else none

def isHexDigit (symbol : Char) : Bool := (CodePointSet.hexDigit? symbol).isSome

/-- A given count of hexadecimal digits. -/
def fixedDigits? (spaced : Bool) : Nat → List Char → Option (List Char × List Char)
  | 0, text => some ([], text)
  | _ + 1, [] => none
  | count + 1, symbol :: rest =>
    if isHexDigit symbol then
      (fixedDigits? spaced count (skip spaced rest)).map fun found => (symbol :: found.1, found.2)
    else none

/-- The symbol of a code: so many digits, or any number of them in braces. -/
def coded? (spaced : Bool) (count : Nat) (text : List Char) : Option (Escape × List Char) :=
  match skip spaced text with
  | [] => none
  | '\x7b' :: rest => do
    let (found, rest) ← untilBrace spaced false rest
    if found.isEmpty || !found.all isHexDigit then none
    let symbol ← scalar? (CodePointSet.hexNumber found)
    some (.literal ⟨symbol, false⟩, skip spaced rest)
  | rest => do
    let (found, rest) ← fixedDigits? spaced count rest
    let symbol ← scalar? (CodePointSet.hexNumber found)
    some (.literal ⟨symbol, count = 2⟩, rest)

/-- The text before the first occurrence of a mark and the text after it. -/
def splitAt? (mark : List Char) : List Char → Option (List Char × List Char)
  | [] => none
  | symbol :: rest =>
    if mark.isPrefixOf (symbol :: rest) then some ([], (symbol :: rest).drop mark.length)
    else (splitAt? mark rest).map fun found => (symbol :: found.1, found.2)

/-- Splits `name!=value`, `name:value` or `name=value` at its first mark of the first kind among
these three that it has. All three marks ask for the same class. -/
def query (negated : Bool) (text : List Char) : PropertyQuery :=
  match (splitAt? ['!', '='] text).or ((splitAt? [':'] text).or (splitAt? ['='] text)) with
  | some (name, value) => ⟨negated, name, some value⟩
  | none => ⟨negated, text, none⟩

def property? (spaced negated : Bool) (text : List Char) : Option (Escape × List Char) :=
  match skip spaced text with
  | [] => none
  | '\\' :: _ => none
  | '\x7b' :: rest =>
    (untilBrace spaced false rest).map fun found => (.property (query negated found.1), found.2)
  | symbol :: rest => some (.property ⟨negated, [symbol], none⟩, skip spaced rest)

def isEdgeLetter (symbol : Char) : Bool := symbol.isAlpha || symbol = '-'

/-- The edge of a word after `\b` in braces. Where the braces do not start with a letter they
belong to a repetition and are left alone. -/
def edge? (spaced : Bool) : List Char → Option (Look × List Char)
  | '\x7b' :: rest => match skip spaced rest with
    | [] => none
    | symbol :: _ =>
      if !isEdgeLetter symbol then some (.wordEdge, '\x7b' :: rest)
      else do
        let (name, rest) ← untilBrace spaced false rest
        match String.ofList name with
        | "start" => some (.wordStart, rest)
        | "end" => some (.wordEnd, rest)
        | "start-half" => some (.wordStartHalf, rest)
        | "end-half" => some (.wordEndHalf, rest)
        | _ => none
  | text => some (.wordEdge, text)

/-- Reads what comes after a backslash. -/
def read? (spaced : Bool) : List Char → Option (Escape × List Char)
  | [] => none
  | symbol :: rest =>
    match symbol with
    | 'x' => coded? spaced 2 rest
    | 'u' => coded? spaced 4 rest
    | 'U' => coded? spaced 8 rest
    | 'p' => property? spaced false rest
    | 'P' => property? spaced true rest
    | 'd' => some (.shorthand false .digit, rest)
    | 'D' => some (.shorthand true .digit, rest)
    | 's' => some (.shorthand false .space, rest)
    | 'S' => some (.shorthand true .space, rest)
    | 'w' => some (.shorthand false .word, rest)
    | 'W' => some (.shorthand true .word, rest)
    | 'a' => some (.literal ⟨'\x07', false⟩, rest)
    | 'f' => some (.literal ⟨'\x0c', false⟩, rest)
    | 't' => some (.literal ⟨'\t', false⟩, rest)
    | 'n' => some (.literal ⟨'\n', false⟩, rest)
    | 'r' => some (.literal ⟨'\r', false⟩, rest)
    | 'v' => some (.literal ⟨'\x0b', false⟩, rest)
    | 'A' => some (.look .textStart, rest)
    | 'z' => some (.look .textEnd, rest)
    | 'b' => (edge? spaced rest).map fun found => (.look found.1, found.2)
    | 'B' => some (.look .notWordEdge, rest)
    | '<' => some (.look .wordStart, rest)
    | '>' => some (.look .wordEnd, rest)
    | _ => if symbol.toNat < 0x80 && !symbol.isAlphanum then some (.literal ⟨symbol, false⟩, rest)
      else none

end Escape
end StateNest.Regex
