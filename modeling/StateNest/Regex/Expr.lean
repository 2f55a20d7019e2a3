import StateNest.Regex.Node
import StateNest.Unicode.CaseFolding
import StateNest.Unicode.Lookup

/-!
# Expressions

What an expression means once its flags and names are resolved: sets of
symbols, positions, and their repetition, sequence and choice. Flags are
resolved from left to right; a change lasts to the end of its group.
-/

set_option autoImplicit false

namespace StateNest.Regex

/-- An expression. A set without members never matches. -/
inductive Expr where
  | empty
  | oneOf (set : CodePointSet)
  | look (look : Look) (settings : Settings)
  | repeated (min : Nat) (max : Option Nat) (greedy : Bool) (body : Expr)
  | capture (body : Expr)
  | concat (parts : List Expr)
  | either (branches : List Expr)
  deriving Repr, Inhabited

def Settings.fold (settings : Settings) (set : CodePointSet) : CodePointSet :=
  if settings.caseless then
    if settings.unicode then CaseFolding.close set else CaseFolding.closeAscii set
  else set

/-- The complement holds symbols outside ASCII, which only Unicode mode allows. -/
def Settings.negate? (settings : Settings) (negated : Bool) (set : CodePointSet) :
    Option CodePointSet :=
  if !negated then some set else if settings.unicode then some set.complement else none

def Shorthand.points (unicode : Bool) : Shorthand → CodePointSet
  | .digit => if unicode then Property.digit else AsciiClass.digit.points
  | .space => if unicode then Property.whiteSpace else AsciiClass.space.points
  | .word => if unicode then Property.word else AsciiClass.word.points

def PropertyQuery.points? (query : PropertyQuery) : Option CodePointSet :=
  match query.value with
  | none => Lookup.single? query.name
  | some value => Lookup.valued? query.name value

def PropertyQuery.resolve? (query : PropertyQuery) (settings : Settings) : Option CodePointSet := do
  if !settings.unicode then none
  settings.negate? query.negated (settings.fold (← query.points?))

/-- The code point of a symbol in a class. Without Unicode a class holds ASCII only. -/
def Literal.point? (literal : Literal) (settings : Settings) : Option Nat :=
  if settings.unicode || literal.symbol.toNat < 0x80 then some literal.symbol.toNat else none

def SetOperation.apply : SetOperation → CodePointSet → CodePointSet → CodePointSet
  | .inter => .inter
  | .diff => .diff
  | .symmDiff => .symmDiff

namespace ClassTree

mutual

def points? (settings : Settings) : ClassTree → Option CodePointSet
  | .literal symbol => (symbol.point? settings).map .singleton
  | .range low high => do some (.range (← low.point? settings) (← high.point? settings))
  | .ascii negated kind => settings.negate? negated (settings.fold kind.points)
  | .shorthand negated kind => settings.negate? negated (kind.points settings.unicode)
  | .property query => query.resolve? settings
  | .bracket negated body => do
    settings.negate? negated (settings.fold (← points? settings body))
  | .union members => unionPoints? settings members
  | .operation kind left right => do
    let left ← points? settings left
    let right ← points? settings right
    some (kind.apply (settings.fold left) (settings.fold right))

def unionPoints? (settings : Settings) : List ClassTree → Option CodePointSet
  | [] => some .empty
  | member :: members => do
    some (.union (← points? settings member) (← unionPoints? settings members))

end

end ClassTree

namespace Expr

/-- A byte that is no character by itself is refused. -/
def ofLiteral? (settings : Settings) (literal : Literal) : Option Expr :=
  if !settings.unicode && literal.byteCode && 0x80 ≤ literal.symbol.toNat then none
  else some (.oneOf (settings.fold (.singleton literal.symbol.toNat)))

/-- Any symbol but a line break, or any symbol at all. -/
def dot? (settings : Settings) : Option Expr :=
  if !settings.unicode then none
  else if settings.dotAll then some (.oneOf .all)
  else if settings.crlf then some (.oneOf (.complement (.ofChars ['\n', '\r'])))
  else some (.oneOf (.complement (.ofChars ['\n'])))

mutual

/-- The expression of a node under the given settings, and the settings for what follows it. -/
def ofNode? (settings : Settings) : Node → Option (Expr × Settings)
  | .empty => some (.empty, settings)
  | .literal symbol => (ofLiteral? settings symbol).map (·, settings)
  | .dot => (dot? settings).map (·, settings)
  | .look position => some (.look position settings, settings)
  | .shorthand negated kind =>
    (settings.negate? negated (kind.points settings.unicode)).map (.oneOf ·, settings)
  | .property query => (query.resolve? settings).map (.oneOf ·, settings)
  | .bracket body => (body.points? settings).map (.oneOf ·, settings)
  | .flags changes => some (.empty, settings.change changes)
  | .repeated min max greedy body => do
    let (body, settings) ← ofNode? settings body
    some (.repeated min max (greedy != settings.swapGreed) body, settings)
  | .group captured changes body => do
    let (body, _) ← ofNode? (settings.change changes) body
    some (if captured then .capture body else body, settings)
  | .concat parts => do
    let (parts, settings) ← ofNodes? settings parts
    some (.concat parts, settings)
  | .either branches => do
    let (branches, settings) ← ofNodes? settings branches
    some (.either branches, settings)

def ofNodes? (settings : Settings) : List Node → Option (List Expr × Settings)
  | [] => some ([], settings)
  | node :: nodes => do
    let (first, settings) ← ofNode? settings node
    let (others, settings) ← ofNodes? settings nodes
    some (first :: others, settings)

end

end Expr
end StateNest.Regex
