import StateNest.Pattern
import StateNest.Regex.Size
import StateNest.Regex.Spans

/-!
# The engine for regular expressions

The source of an expression decides all the rest: whether it is well formed, how
large its automaton would be, and which symbols it matches.
-/

set_option autoImplicit false

namespace StateNest.Regex

def Expr.ofSource? (source : String) : Option Expr :=
  ((Node.ofChars? source.toList).bind (Expr.ofNode? {})).map Prod.fst

/-- The engine that the program runs with. Where a malformed source goes wrong is not told. -/
def engine : Engine := fun source =>
  match Expr.ofSource? source with
  | none => .error "regex parse error"
  | some expr =>
    if expr.fits then .ok expr.isMatch
    else
      .error ("Compiled regex exceeds size limit of " ++ toString sizeLimit ++ " bytes.")

end StateNest.Regex
