import StateNest.Unicode.Property

/-!
# Quoted text

Symbols and texts in quotes, as logs and listings show them. The quote, the
backslash and the usual controls are escaped by a letter, everything else that
does not print or that joins the symbol before it by its code point.
-/

set_option autoImplicit false

namespace StateNest.Quoted

/-- Symbols that do not print by themselves. -/
def unprintable : CodePointSet :=
  (Category.union [.cc, .cf, .co, .cn, .zl, .zp, .zs] ++ Property.graphemeExtend) \
    .singleton 0x20

def hexDigits (value : Nat) : String := String.ofList (Nat.toDigits 16 value)

/-- One symbol between quotes of the given kind. -/
def escape (quote symbol : Char) : String :=
  match symbol with
  | '\x00' => "\\0"
  | '\t' => "\\t"
  | '\r' => "\\r"
  | '\n' => "\\n"
  | '\\' => "\\\\"
  | _ =>
    if symbol = quote then "\\" ++ quote.toString
    else if unprintable.containsChar symbol then "\\u\x7b" ++ hexDigits symbol.toNat ++ "\x7d"
    else symbol.toString

def char (symbol : Char) : String := "'" ++ escape '\'' symbol ++ "'"

def text (content : String) : String :=
  "\"" ++ String.join (content.toList.map (escape '"')) ++ "\""

/-- Items in brackets, with commas between them. -/
def list (items : List String) : String := "[" ++ ", ".intercalate items ++ "]"

def chars (symbols : List Char) : String := list (symbols.map char)

end StateNest.Quoted
