import StateNest.Pattern

/-!
# States

A state has a pattern that enters it, one that leaves it, the states it may
branch into, the symbols it ignores, and callbacks. Callbacks share a memory:
a call gets it and answers with what it remembers from then on.
-/

set_option autoImplicit false

namespace StateNest

/-- Symbols that a state skips: all the time, or only while its handler replays a miss. -/
structure IgnoreSet where
  all : List Char := []
  handler : List Char := []
  deriving DecidableEq, Repr

def IgnoreSet.skips (ignore : IgnoreSet) (symbol : Char) : Bool := ignore.all.contains symbol

def IgnoreSet.skipsInHandler (ignore : IgnoreSet) (symbol : Char) : Bool :=
  ignore.handler.contains symbol

/-- The members of a set of symbols in the order of their code points. -/
def distinctSymbols (symbols : List Char) : List Char :=
  (symbols.mergeSort fun a b => a.toNat ≤ b.toNat).eraseReps

/-- A call with memory and argument; the answer or failure comes with the memory after it. -/
abbrev Callback (Memory Argument Answer : Type) :=
  Memory → Argument → Except Failure Answer × Memory

structure State (Memory : Type) where
  name : String := ""
  entry : Pattern := []
  leave : Pattern := []
  branches : List StateId := []
  ignore : IgnoreSet := {}
  /-- Called with the buffered symbols once the entry pattern is complete. -/
  onEnter : Option (Callback Memory (List Char) Unit) := none
  /-- Called with the buffered symbols once the leave pattern is complete. -/
  onLeave : Option (Callback Memory (List Char) Unit) := none
  /-- Called with each symbol that no pattern explains; it may answer with a state to set. -/
  onMiss : Option (Callback Memory Char (Option StateId)) := none
  deriving Inhabited

end StateNest
