/-!
# Typed lines

A line stands for bytes. A backslash and a letter spell one byte each; every
other symbol stands for the bytes of its encoding.
-/

set_option autoImplicit false

namespace StateNest.Escaped

inductive EscapeError where
  | unrecognized (letter : Char)
  | dangling
  deriving DecidableEq, Repr

def EscapeError.message : EscapeError → String
  | .unrecognized letter => "unrecognized escape sequence `\\" ++ letter.toString ++ "`"
  | .dangling => "line ends inside an escape sequence"

/-- The controls that have a letter. -/
def controls : List (Char × UInt8) :=
  [('0', 0x00), ('a', 0x07), ('b', 0x08), ('t', 0x09), ('n', 0x0A), ('v', 0x0B), ('f', 0x0C),
    ('r', 0x0D)]

/-- The byte that a letter after a backslash spells. -/
def byte? (letter : Char) : Option UInt8 :=
  if letter = '\\' then some 0x5C else controls.lookup letter

def decode : List Char → Except EscapeError (List UInt8)
  | [] => .ok []
  | ['\\'] => .error .dangling
  | '\\' :: letter :: rest => match byte? letter with
    | some byte => (decode rest).map (byte :: ·)
    | none => .error (.unrecognized letter)
  | symbol :: rest => (decode rest).map (String.utf8EncodeChar symbol ++ ·)

/-- A byte as it is shown: a control by its escape, any other byte as the symbol of its code. -/
def spell (byte : UInt8) : String :=
  match controls.find? (·.2 = byte) with
  | some (letter, _) => "\\" ++ letter.toString
  | none => (Char.ofNat byte.toNat).toString

def describe (byte : UInt8) : String := toString byte.toNat ++ ":" ++ spell byte

end StateNest.Escaped
