import StateNest.Regex.Token

/-!
# The tree of an expression

The second stage of reading: tokens are grouped into a tree. Groups that are
still open are kept on a stack, the innermost first. A tree nested too deep
is refused.
-/

set_option autoImplicit false

namespace StateNest.Regex

inductive Node where
  | empty
  | literal (literal : Literal)
  | dot
  | look (look : Look)
  | shorthand (negated : Bool) (kind : Shorthand)
  | property (query : PropertyQuery)
  | bracket (body : ClassTree)
  | flags (changes : FlagChanges)
  | repeated (min : Nat) (max : Option Nat) (greedy : Bool) (body : Node)
  | group (capture : Bool) (changes : FlagChanges) (body : Node)
  | concat (parts : List Node)
  | either (branches : List Node)
  deriving Repr, Inhabited

namespace Node

/-- Parts read so far, last one first, in sequence. -/
def sequence : List Node → Node
  | [] => .empty
  | [part] => part
  | parts => .concat parts.reverse

/-- A group that is still open: its complete branches and the parts of its last branch, both
last one first. -/
structure Open where
  capture : Bool := false
  changes : FlagChanges := []
  branches : List Node := []
  parts : List Node := []

def Open.body (group : Open) : Node :=
  match group.branches with
  | [] => sequence group.parts
  | branches => .either (sequence group.parts :: branches).reverse

def Open.push (group : Open) (part : Node) : Open :=
  { group with parts := part :: group.parts }

def Open.bar (group : Open) : Open :=
  { group with branches := sequence group.parts :: group.branches, parts := [] }

/-- Repeats the last part. There has to be one, and a change of flags is none. -/
def Open.repeatLast? (group : Open) (min : Nat) (max : Option Nat) (greedy : Bool) :
    Option Open :=
  match group.parts with
  | [] | .flags _ :: _ => none
  | part :: parts => some { group with parts := .repeated min max greedy part :: parts }

/-- Adds a token to the open groups. -/
def extend? : List Open → Token → Option (List Open)
  | [], _ => none
  | inner :: outer, token =>
    match token with
    | .openGroup capture _ changes => some ({ capture, changes } :: inner :: outer)
    | .closeGroup => match outer with
      | [] => none
      | next :: outer =>
        some (next.push (.group inner.capture inner.changes inner.body) :: outer)
    | .bar => some (inner.bar :: outer)
    | .repeated min max greedy => (inner.repeatLast? min max greedy).map (· :: outer)
    | .literal symbol => some (inner.push (.literal symbol) :: outer)
    | .dot => some (inner.push .dot :: outer)
    | .look position => some (inner.push (.look position) :: outer)
    | .shorthand negated kind => some (inner.push (.shorthand negated kind) :: outer)
    | .property query => some (inner.push (.property query) :: outer)
    | .bracket body => some (inner.push (.bracket body) :: outer)
    | .flags changes => some (inner.push (.flags changes) :: outer)

mutual

def depth : Node → Nat
  | .bracket body => body.depth
  | .repeated _ _ _ body => body.depth + 1
  | .group _ _ body => body.depth + 1
  | .concat parts => depths parts + 1
  | .either branches => depths branches + 1
  | _ => 0

def depths : List Node → Nat
  | [] => 0
  | part :: parts => max part.depth (depths parts)

end

/-- The deepest nesting that a tree may have. -/
def depthLimit : Nat := 250

def ofTokens? (tokens : List Token) : Option Node :=
  match tokens.foldlM extend? [{}] with
  | some [outermost] =>
    if outermost.body.depth ≤ depthLimit then some outermost.body else none
  | _ => none

def ofChars? (text : List Char) : Option Node := (Token.ofChars? text).bind ofTokens?

end Node
end StateNest.Regex
