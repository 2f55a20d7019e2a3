import StateNest.Unicode.Property

/-!
# Blanks and comments

Where an expression is written with free spacing, blanks and comments from
`#` to the end of the line stand between its parts and mean nothing.
-/

set_option autoImplicit false

namespace StateNest.Regex

def isBlank (symbol : Char) : Bool := Property.whiteSpace.containsChar symbol

/-- Drops blanks and comments; `comment` tells whether the text starts inside a comment. -/
def skipSpacing : Bool → List Char → List Char
  | _, [] => []
  | true, symbol :: rest => skipSpacing (symbol ≠ '\n') rest
  | false, symbol :: rest =>
    if isBlank symbol then skipSpacing false rest
    else if symbol = '#' then skipSpacing true rest
    else symbol :: rest

def skip (spaced : Bool) (text : List Char) : List Char :=
  if spaced then skipSpacing false text else text

/-- The symbol that decides whether a dash in a class stands for itself. With free spacing it is
looked for past blanks and past the mark that opens a comment, also inside that comment. -/
def peekPast : Bool → List Char → Option Char
  | _, [] => none
  | comment, symbol :: rest =>
    if isBlank symbol then peekPast comment rest
    else if !comment && symbol = '#' then peekPast true rest
    else some symbol

def peek (spaced : Bool) (text : List Char) : Option Char :=
  if spaced then peekPast false text else text.head?

/-- The text up to a closing brace and the text after it. With free spacing, blanks and comments
do not belong to it. -/
def untilBrace (spaced : Bool) : Bool → List Char → Option (List Char × List Char)
  | _, [] => none
  | true, symbol :: rest => untilBrace spaced (symbol ≠ '\n') rest
  | false, symbol :: rest =>
    if spaced && isBlank symbol then untilBrace spaced false rest
    else if spaced && symbol = '#' then untilBrace spaced true rest
    else if symbol = '\x7d' then some ([], rest)
    else (untilBrace spaced false rest).map fun found => (symbol :: found.1, found.2)

/-- The digits at the start of a text and the text after them. -/
def digits (spaced : Bool) : Bool → List Char → List Char × List Char
  | _, [] => ([], [])
  | true, symbol :: rest => digits spaced (symbol ≠ '\n') rest
  | false, symbol :: rest =>
    if symbol.isDigit then
      let found := digits spaced false rest
      (symbol :: found.1, found.2)
    else if spaced && isBlank symbol then digits spaced false rest
    else if spaced && symbol = '#' then digits spaced true rest
    else ([], symbol :: rest)

def decimal (symbols : List Char) : Nat :=
  symbols.foldl (fun value symbol => 10 * value + (symbol.toNat - 48)) 0

/-- A number with blanks around it, of at most 32 bits. -/
def number? (spaced : Bool) (text : List Char) : Option (Nat × List Char) :=
  let (found, rest) := digits spaced false (text.dropWhile isBlank)
  if found.isEmpty || 0xFFFFFFFF < decimal found then none
  else some (decimal found, rest.dropWhile isBlank)

end StateNest.Regex
