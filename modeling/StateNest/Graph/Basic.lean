import StateNest.Options

/-!
# Graphs

A graph describes states by name: their patterns, the states they branch
into, the symbols they ignore, and the symbols that force another state.
-/

set_option autoImplicit false

namespace StateNest

namespace Graph

/-- An element of a pattern as it is described: a symbol or the source of an expression. -/
inductive ElementSpec where
  | literal (symbol : Char)
  | regex (source : String)
  deriving DecidableEq, Repr

structure IgnoreSpec where
  all : List Char := []
  handler : List Char := []
  deriving DecidableEq, Repr

structure StateSpec where
  name : String
  entry : List ElementSpec := []
  leave : List ElementSpec := []
  branches : List String := []
  ignore : IgnoreSpec := {}
  /-- Symbols that force a state when they are missed, each once, with the name of the state. -/
  hardset : List (Char × String) := []
  deriving DecidableEq, Repr

end Graph

structure Graph where
  options : Options := {}
  states : List Graph.StateSpec
  deriving DecidableEq, Repr

end StateNest
