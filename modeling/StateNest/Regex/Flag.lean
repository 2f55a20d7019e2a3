/-!
# Flags

A flag switches one rule of an expression on or off. A list of changes comes
from one group of letters such as `i-su`; a letter that is absent leaves its
flag as it was.
-/

set_option autoImplicit false

namespace StateNest.Regex

inductive Flag where
  | caseless
  | multiline
  | dotAll
  | swapGreed
  | unicode
  | crlf
  | spaced
  deriving DecidableEq, Repr

abbrev FlagChanges := List (Flag × Bool)

def Flag.ofChar? : Char → Option Flag
  | 'i' => some .caseless
  | 'm' => some .multiline
  | 's' => some .dotAll
  | 'U' => some .swapGreed
  | 'u' => some .unicode
  | 'R' => some .crlf
  | 'x' => some .spaced
  | _ => none

def FlagChanges.value (changes : FlagChanges) (flag : Flag) (before : Bool) : Bool :=
  (changes.lookup flag).getD before

/-- The flags that hold for an expression once it is read. -/
structure Settings where
  caseless : Bool := false
  multiline : Bool := false
  dotAll : Bool := false
  swapGreed : Bool := false
  unicode : Bool := true
  crlf : Bool := false
  deriving DecidableEq, Repr

def Settings.change (settings : Settings) (changes : FlagChanges) : Settings where
  caseless := changes.value .caseless settings.caseless
  multiline := changes.value .multiline settings.multiline
  dotAll := changes.value .dotAll settings.dotAll
  swapGreed := changes.value .swapGreed settings.swapGreed
  unicode := changes.value .unicode settings.unicode
  crlf := changes.value .crlf settings.crlf

/-- Reads the letters of a group of flags up to the mark after them, `:` or `)`. A dash comes
at most once and is followed by a letter; no letter comes twice. -/
def FlagChanges.read (negated dangling : Bool) (changes : FlagChanges) :
    List Char → Option (FlagChanges × Char × List Char)
  | [] => none
  | ':' :: rest => if dangling then none else some (changes, ':', rest)
  | ')' :: rest => if dangling then none else some (changes, ')', rest)
  | '-' :: rest => if negated then none else FlagChanges.read true true changes rest
  | letter :: rest => match Flag.ofChar? letter with
    | none => none
    | some flag =>
      if (changes.lookup flag).isSome then none
      else FlagChanges.read negated false (changes ++ [(flag, !negated)]) rest

end StateNest.Regex
