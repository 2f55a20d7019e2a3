import StateNest.Regex.Expr

/-!
# Normal forms

An automaton is built from the normal form of an expression. A sequence holds no
other sequence and nothing empty, and symbols that follow one another in it are
one text. A choice holds no other choice; a choice of symbols is a set, and what
all branches of a choice begin with stands before it.
-/

set_option autoImplicit false

namespace StateNest.Regex

/-- A normal form. The variant of a position is the one setting that it depends on. -/
inductive Normal where
  | empty
  | text (symbols : List Char)
  | oneOf (set : CodePointSet)
  | look (position : Look) (variant : Bool)
  | repeated (min : Nat) (max : Option Nat) (greedy : Bool) (body : Normal)
  | capture (body : Normal)
  | concat (parts : List Normal)
  | either (branches : List Normal)
  deriving Repr

namespace Normal

mutual

/-- Captures are told apart by their numbers, so none is the same as another. -/
def same : Normal → Normal → Bool
  | .empty, .empty => true
  | .text symbols, .text others => symbols = others
  | .oneOf set, .oneOf other => set = other
  | .look position variant, .look other variant' => position = other && variant = variant'
  | .repeated min max greedy body, .repeated min' max' greedy' other =>
    min = min' && max = max' && greedy = greedy' && body.same other
  | .concat parts, .concat others => allSame parts others
  | .either branches, .either others => allSame branches others
  | _, _ => false

def allSame : List Normal → List Normal → Bool
  | [], [] => true
  | part :: parts, other :: others => part.same other && allSame parts others
  | _, _ => false

end

mutual

/-- Whether no match has a symbol. -/
def isIdle : Normal → Bool
  | .empty | .look _ _ => true
  | .text _ | .oneOf _ => false
  | .repeated _ _ _ body => body.isIdle
  | .capture body => body.isIdle
  | .concat parts => allIdle parts
  | .either branches => allIdle branches

def allIdle : List Normal → Bool
  | [] => true
  | part :: parts => part.isIdle && allIdle parts

end

def ofLook (settings : Settings) : Look → Normal
  | .textStart => .look .textStart false
  | .textEnd => .look .textEnd false
  | .lineStart =>
    if settings.multiline then .look .lineStart settings.crlf else .look .textStart false
  | .lineEnd => if settings.multiline then .look .lineEnd settings.crlf else .look .textEnd false
  | position => .look position settings.unicode

def ofSet (set : CodePointSet) : Normal :=
  match (set \ CodePointSet.surrogates).ranges with
  | [(low, high)] => if low = high then .text [Char.ofNat low] else .oneOf ⟨[(low, high)]⟩
  | ranges => .oneOf ⟨ranges⟩

/-- Repeating what matches nothing more than once is the same as repeating it once. -/
def repetition (min : Nat) (max : Option Nat) (greedy : Bool) (body : Normal) : Normal :=
  let least := if body.isIdle then min.min 1 else min
  let most := if body.isIdle then some ((max.map (Nat.min 1)).getD 1) else max
  if most = some 0 then .empty
  else if least = 1 ∧ most = some 1 then body
  else .repeated least most greedy body

section Sequences

def parts : Normal → List Normal
  | .concat parts => parts
  | part => [part]

def ofParts : List Normal → Normal
  | [] => .empty
  | [part] => part
  | parts => .concat parts

/-- A part before others. Texts that meet are joined. -/
def onto : Normal → List Normal → List Normal
  | .empty, parts => parts
  | .text symbols, .text others :: parts => .text (symbols ++ others) :: parts
  | part, parts => part :: parts

def sequence (parts : List Normal) : Normal :=
  ofParts ((parts.flatMap Normal.parts).foldr onto [])

end Sequences

section Choices

def branches : Normal → List Normal
  | .either branches => branches
  | branch => [branch]

def text? : Normal → Option (List Char)
  | .text symbols => some symbols
  | _ => none

def symbol? : Normal → Option Char
  | .text [symbol] => some symbol
  | _ => none

def set? : Normal → Option CodePointSet
  | .oneOf set => some set
  | _ => none

/-- The set that a choice amounts to if all branches are symbols, or all are sets. -/
def oneSet? (branches : List Normal) : Option CodePointSet :=
  ((branches.mapM symbol?).map .ofChars).or ((branches.mapM set?).map .unions)

/-- A choice between branches that begin with nothing in common. -/
def apart (branches : List Normal) : Normal :=
  match oneSet? branches with
  | some set => ofSet set
  | none => .either branches

def shared : List Normal → List Normal → List Normal
  | part :: parts, other :: others => if part.same other then part :: shared parts others else []
  | _, _ => []

/-- The parts that all branches begin with, if all are sequences. -/
def opening : List Normal → List Normal
  | [.concat parts] => parts
  | .concat parts :: branches => shared parts (opening branches)
  | _ => []

def choice (branches : List Normal) : Normal :=
  let branches := branches.flatMap Normal.branches
  match opening branches with
  | [] => apart branches
  | opening =>
    let rests := branches.map fun branch => ofParts (branch.parts.drop opening.length)
    sequence (opening ++ [apart (rests.flatMap Normal.branches)])

end Choices

mutual

def ofExpr : Expr → Normal
  | .empty => .empty
  | .oneOf set => ofSet set
  | .look position settings => ofLook settings position
  | .repeated min max greedy body => repetition min max greedy (ofExpr body)
  | .capture body => .capture (ofExpr body)
  | .concat parts => sequence (ofExprs parts)
  | .either branches => choice (ofExprs branches)

def ofExprs : List Expr → List Normal
  | [] => []
  | expr :: exprs => ofExpr expr :: ofExprs exprs

end

end Normal
end StateNest.Regex
