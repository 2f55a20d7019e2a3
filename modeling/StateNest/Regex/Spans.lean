import StateNest.Regex.Expr

/-!
# Matches in a text of one symbol

A text of one symbol has two positions, before the symbol and after it. What
an expression matches there is a set of spans: the empty span at either
position and the span of the symbol. Sequence is composition of such sets,
choice their union, and a repetition the union of powers.
-/

set_option autoImplicit false

namespace StateNest.Regex

/-- A set of spans of a text of one symbol. -/
structure Spans where
  before : Bool
  across : Bool
  after : Bool
  deriving DecidableEq, Repr

namespace Spans

def none : Spans := ⟨false, false, false⟩

/-- The empty spans, which are all that a match of nothing has. -/
def idle : Spans := ⟨true, false, true⟩

def comp (left right : Spans) : Spans where
  before := left.before && right.before
  across := (left.before && right.across) || (left.across && right.after)
  after := left.after && right.after

def union (left right : Spans) : Spans where
  before := left.before || right.before
  across := left.across || right.across
  after := left.after || right.after

def keepIf (spans : Spans) (kept : Bool) : Spans := if kept then spans else none

/-- Three spans cannot follow one another without one of them standing still, so every power
from the second on is the second. -/
def power (spans : Spans) : Nat → Spans
  | 0 => idle
  | 1 => spans
  | _ => spans.comp spans

def repeated (min : Nat) (max : Option Nat) (spans : Spans) : Spans :=
  let reaches (count : Nat) : Bool := max.all (count ≤ ·)
  ((idle.keepIf (min = 0)).union (spans.keepIf (min ≤ 1 && reaches 1))).union
    ((spans.power 2).keepIf (reaches 2))

def isEmpty (spans : Spans) : Bool := !(spans.before || spans.across || spans.after)

end Spans

def isWord (unicode : Bool) (symbol : Char) : Bool :=
  (Shorthand.word.points unicode).containsChar symbol

/-- Where a position is found in the text of one symbol. -/
def Look.spans (settings : Settings) (symbol : Char) : Look → Spans
  | .textStart => ⟨true, false, false⟩
  | .textEnd => ⟨false, false, true⟩
  | .lineStart => ⟨true, false, settings.multiline && isBreak⟩
  | .lineEnd => ⟨settings.multiline && isBreak, false, true⟩
  | .wordEdge => ⟨word, false, word⟩
  | .notWordEdge => ⟨!word, false, !word⟩
  | .wordStart => ⟨word, false, false⟩
  | .wordEnd => ⟨false, false, word⟩
  | .wordStartHalf => ⟨true, false, !word⟩
  | .wordEndHalf => ⟨!word, false, true⟩
where
  isBreak : Bool := symbol = '\n' || (settings.crlf && symbol = '\r')
  word : Bool := isWord settings.unicode symbol

namespace Expr

mutual

def spans (symbol : Char) : Expr → Spans
  | .empty => .idle
  | .oneOf set => ⟨false, set.containsChar symbol, false⟩
  | .look position settings => position.spans settings symbol
  | .repeated min max _ body => .repeated min max (spans symbol body)
  | .capture body => spans symbol body
  | .concat parts => concatSpans symbol parts
  | .either branches => eitherSpans symbol branches

def concatSpans (symbol : Char) : List Expr → Spans
  | [] => .idle
  | part :: parts => (spans symbol part).comp (concatSpans symbol parts)

def eitherSpans (symbol : Char) : List Expr → Spans
  | [] => .none
  | branch :: branches => (spans symbol branch).union (eitherSpans symbol branches)

end

/-- Whether a match is found anywhere in the text of one symbol. -/
def isMatch (expr : Expr) (symbol : Char) : Bool := !(expr.spans symbol).isEmpty

end Expr
end StateNest.Regex
