import StateNest.Error

/-!
# Patterns

A pattern asks for symbols one by one, each equal to a literal or matched by
a regular expression. A position past the end matches nothing, so the empty
pattern never matches.
-/

set_option autoImplicit false

namespace StateNest

/-- What compiles the source of an expression into its matching of symbols, or refuses it with a
reason. -/
abbrev Engine := String → Except String (Char → Bool)

structure Regex where
  source : String
  isMatch : Char → Bool

inductive Element where
  | literal (symbol : Char)
  | regex (regex : Regex)

/-- Expressions are the same if their sources are. -/
def Element.same : Element → Element → Bool
  | .literal symbol, .literal other => symbol = other
  | .regex expression, .regex other => expression.source = other.source
  | _, _ => false

instance : BEq Element := ⟨Element.same⟩

def Element.accepts : Element → Char → Bool
  | .literal expected, symbol => expected = symbol
  | .regex expression, symbol => expression.isMatch symbol

def Element.ofRegex (engine : Engine) (source : String) : Except Error Element :=
  match engine source with
  | .ok isMatch => .ok (.regex ⟨source, isMatch⟩)
  | .error reason => .error (.invalidRegex source reason)

abbrev Pattern := List Element

namespace Pattern

def ofText (text : String) : Pattern := text.toList.map .literal

def matchesAt (pattern : Pattern) (position : Nat) (symbol : Char) : Bool :=
  match pattern[position]? with
  | some element => element.accepts symbol
  | none => false

/-- The last position before `progress` that the symbol matches. -/
def lastMatch (pattern : Pattern) (symbol : Char) : Nat → Option Nat
  | 0 => none
  | progress + 1 =>
    if pattern.matchesAt progress symbol then some progress else lastMatch pattern symbol progress

/-- Where a symbol that does not extend a match of `progress` elements falls back to. -/
def checkback (pattern : Pattern) (progress : Nat) (symbol : Char) : Option Nat :=
  pattern.lastMatch symbol (min progress pattern.length)

theorem lt_length_of_matchesAt {pattern : Pattern} {position : Nat} {symbol : Char}
    (found : pattern.matchesAt position symbol = true) : position < pattern.length := by
  unfold matchesAt at found
  split at found
  · next element at_position => exact (List.getElem?_eq_some_iff.mp at_position).1
  · simp at found

theorem lastMatch_some {pattern : Pattern} {symbol : Char} {progress position : Nat}
    (found : pattern.lastMatch symbol progress = some position) :
    position < progress ∧ pattern.matchesAt position symbol = true := by
  induction progress with
  | zero => simp [lastMatch] at found
  | succ progress ih =>
    unfold lastMatch at found
    split at found
    · next here =>
      obtain rfl := Option.some.inj found
      exact ⟨Nat.lt_succ_self _, here⟩
    · have := ih found
      exact ⟨Nat.lt_succ_of_lt this.1, this.2⟩

end Pattern
end StateNest
