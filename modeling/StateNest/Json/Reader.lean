import StateNest.Json.Basic
import StateNest.Json.Magnitude
import StateNest.Unicode.CodePointSet

/-!
# Reading JSON

The grammar is the strict one: no comments, no trailing commas, no symbols
below the blank in a text, and nothing after the value but blanks.
-/

set_option autoImplicit false

namespace StateNest.Json

def isBlank (symbol : Char) : Bool :=
  symbol = ' ' || symbol = '\n' || symbol = '\t' || symbol = '\r'

def skipBlanks (text : List Char) : List Char := text.dropWhile isBlank

/-- The code of four hexadecimal digits. -/
def code? (digits : List Char) : Option Nat :=
  if digits.all fun digit => (CodePointSet.hexDigit? digit).isSome then
    some (CodePointSet.hexNumber digits)
  else none

/-- The code that a single letter after a backslash stands for. -/
def letterCode? : Char → Option Nat
  | '"' => some 0x22
  | '\\' => some 0x5C
  | '/' => some 0x2F
  | 'b' => some 0x08
  | 'f' => some 0x0C
  | 'n' => some 0x0A
  | 'r' => some 0x0D
  | 't' => some 0x09
  | _ => none

/-- The codes of a text up to its closing quote, and what follows the quote. -/
def codes? : List Char → Option (List Nat × List Char)
  | [] => none
  | '"' :: rest => some ([], rest)
  | '\\' :: 'u' :: a :: b :: c :: d :: rest => do
    let code ← code? [a, b, c, d]
    let (codes, rest) ← codes? rest
    some (code :: codes, rest)
  | '\\' :: letter :: rest => do
    let code ← letterCode? letter
    let (codes, rest) ← codes? rest
    some (code :: codes, rest)
  | symbol :: rest =>
    if symbol.toNat < 0x20 || symbol = '\\' then none
    else do
      let (codes, rest) ← codes? rest
      some (symbol.toNat :: codes, rest)

/-- The symbols of the codes, two halves of a surrogate pair making one symbol. -/
def symbols? : List Nat → Option (List Char)
  | [] => some []
  | [code] => if 0xD800 ≤ code ∧ code ≤ 0xDFFF then none else some [Char.ofNat code]
  | code :: next :: codes =>
    if 0xD800 ≤ code ∧ code ≤ 0xDBFF then
      if 0xDC00 ≤ next ∧ next ≤ 0xDFFF then
        (symbols? codes).map
          (Char.ofNat (0x10000 + (code - 0xD800) * 0x400 + (next - 0xDC00)) :: ·)
      else none
    else if 0xDC00 ≤ code ∧ code ≤ 0xDFFF then none
    else (symbols? (next :: codes)).map (Char.ofNat code :: ·)

def text? (text : List Char) : Option (Option String × List Char) :=
  (codes? text).map fun found => ((symbols? found.1).map String.ofList, found.2)

/-- The whole part of a number: zero, or digits that do not start with zero. -/
def whole? (text : List Char) : Option (List Char × List Char) :=
  match text.takeWhile Char.isDigit with
  | [] => none
  | '0' :: _ :: _ => none
  | digits => some (digits, text.dropWhile Char.isDigit)

def fraction? : List Char → Option (List Char × List Char)
  | '.' :: rest => match rest.takeWhile Char.isDigit with
    | [] => none
    | digits => some (digits, rest.dropWhile Char.isDigit)
  | rest => some ([], rest)

def exponentDigits? (negative : Bool) (text : List Char) : Option (Int × List Char) :=
  match text.takeWhile Char.isDigit with
  | [] => none
  | digits =>
    let value : Int := Magnitude.decimal digits
    some (if negative then -value else value, text.dropWhile Char.isDigit)

def exponent? : List Char → Option (Int × List Char)
  | 'e' :: '-' :: rest | 'E' :: '-' :: rest => exponentDigits? true rest
  | 'e' :: '+' :: rest | 'E' :: '+' :: rest => exponentDigits? false rest
  | 'e' :: rest | 'E' :: rest => exponentDigits? false rest
  | rest => some (0, rest)

def number? (text : List Char) : Option (Json × List Char) := do
  let (whole, rest) ← whole? (match text with
    | '-' :: rest => rest
    | _ => text)
  let (fraction, rest) ← fraction? rest
  let (exponent, rest) ← exponent? rest
  some (.number (Magnitude.isFinite (whole ++ fraction) (exponent - fraction.length)), rest)

mutual

def value? : Nat → List Char → Option (Json × List Char)
  | 0, _ => none
  | fuel + 1, text =>
    match skipBlanks text with
    | 'n' :: 'u' :: 'l' :: 'l' :: rest => some (.null, rest)
    | 't' :: 'r' :: 'u' :: 'e' :: rest => some (.bool true, rest)
    | 'f' :: 'a' :: 'l' :: 's' :: 'e' :: rest => some (.bool false, rest)
    | '"' :: rest => (text? rest).map fun found => (.string found.1, found.2)
    | '[' :: rest => match skipBlanks rest with
      | ']' :: rest => some (.array [], rest)
      | rest => (items? fuel rest).map fun found => (.array found.1, found.2)
    | '\x7b' :: rest => match skipBlanks rest with
      | '\x7d' :: rest => some (.object [], rest)
      | rest => (members? fuel rest).map fun found => (.object found.1, found.2)
    | text => number? text

/-- The items of an array, one at least, and what follows its bracket. -/
def items? : Nat → List Char → Option (List Json × List Char)
  | 0, _ => none
  | fuel + 1, text => do
    let (item, rest) ← value? fuel text
    match skipBlanks rest with
    | ',' :: rest =>
      let (items, rest) ← items? fuel rest
      some (item :: items, rest)
    | ']' :: rest => some ([item], rest)
    | _ => none

/-- The members of an object, one at least, and what follows its brace. -/
def members? : Nat → List Char → Option (List (Option String × Json) × List Char)
  | 0, _ => none
  | fuel + 1, text =>
    match skipBlanks text with
    | '"' :: rest => do
      let (name, rest) ← text? rest
      match skipBlanks rest with
      | ':' :: rest =>
        let (value, rest) ← value? fuel rest
        match skipBlanks rest with
        | ',' :: rest =>
          let (members, rest) ← members? fuel rest
          some ((name, value) :: members, rest)
        | '\x7d' :: rest => some ([(name, value)], rest)
        | _ => none
      | _ => none
    | _ => none

end

/-- Reads a whole text as one value. -/
def ofString? (text : String) : Option Json := do
  let symbols := text.toList
  let (value, rest) ← value? (2 * symbols.length + 2) symbols
  if (skipBlanks rest).isEmpty then some value else none

end StateNest.Json
