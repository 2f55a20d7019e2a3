import StateNest.Proofs.Membership
import StateNest.Session

/-!
# The words of a session

What a session writes is told from the data alone: a status by its word, a byte by its
code and by how it is shown, the buffer by its symbols in quotes, the innermost state by
its name, and a line that cannot be decoded by what is wrong with it. The reports of a
session are worded this way.
-/

set_option autoImplicit false

namespace StateNest.Session

def word : Status → String
  | .wait => "wait"
  | .branch => "branch"
  | .back => "back"
  | .hardset => "hardset"
  | .miss => "miss"
  | .error => "error"

def reason : Escaped.EscapeError → String
  | .unrecognized letter => "unrecognized escape sequence `\\" ++ letter.toString ++ "`"
  | .dangling => "line ends inside an escape sequence"

def shown (byte : UInt8) : String :=
  match byte with
  | 0x00 => "\\0"
  | 0x07 => "\\a"
  | 0x08 => "\\b"
  | 0x09 => "\\t"
  | 0x0A => "\\n"
  | 0x0B => "\\v"
  | 0x0C => "\\f"
  | 0x0D => "\\r"
  | _ => (Char.ofNat byte.toNat).toString

/-- No control, format, private or unassigned symbol prints, no separator but the blank, and no
mark that joins the symbol before it. -/
def Prints (symbol : Char) : Prop :=
  symbol = ' ' ∨
    (∀ category ∈ [Category.cc, .cf, .co, .cn, .zl, .zp, .zs],
      ¬ category.points.containsChar symbol = true) ∧
    ¬ Property.graphemeExtend.containsChar symbol = true

instance (symbol : Char) : Decidable (Prints symbol) := inferInstanceAs (Decidable (_ ∨ _))

def quoted (symbol : Char) : String :=
  match symbol with
  | '\x00' => "\\0"
  | '\t' => "\\t"
  | '\r' => "\\r"
  | '\n' => "\\n"
  | '\\' => "\\\\"
  | '\'' => "\\'"
  | _ =>
    if Prints symbol then symbol.toString
    else "\\u\x7b" ++ String.ofList (Nat.toDigits 16 symbol.toNat) ++ "\x7d"

def innermost {Memory : Type} (machine : Machine Memory) : String :=
  match machine.chain.getLast? with
  | none => "-"
  | some id => (machine.states.getD id {}).name

def block {Memory : Type} (machine : Machine Memory) (byte : UInt8) : List String :=
  ["parser: " ++ word machine.status,
    "symbol: " ++ toString byte.toNat ++ ":" ++ shown byte,
    "buffer: [" ++
      ", ".intercalate (machine.buffer.map fun symbol => "'" ++ quoted symbol ++ "'") ++ "]",
    "state:  " ++ innermost machine,
    ""]

theorem name_eq_word (status : Status) : status.name = word status := by
  cases status <;> rfl

theorem message_eq_reason (cause : Escaped.EscapeError) : cause.message = reason cause := by
  cases cause <;> rfl

theorem spell_eq_shown (byte : UInt8) : Escaped.spell byte = shown byte := by
  unfold shown
  split
  case h_9 =>
    have hnone : Escaped.controls.find? (·.2 = byte) = none := by
      simp only [Escaped.controls, List.find?_eq_none, List.forall_mem_cons, List.not_mem_nil,
        false_imp_iff, forall_const, and_true, decide_eq_true_eq, eq_comm (b := byte)]
      exact ⟨‹_›, ‹_›, ‹_›, ‹_›, ‹_›, ‹_›, ‹_›, ‹_›⟩
    rw [Escaped.spell, hnone]
  all_goals rfl

theorem unprintable_iff {symbol : Char} :
    Quoted.unprintable.containsChar symbol = true ↔ ¬ Prints symbol := by
  have hsorted := Category.sorted_union [.cc, .cf, .co, .cn, .zl, .zp, .zs]
  have hblank : symbol.toNat = 0x20 ↔ symbol = ' ' := Char.toNat_inj (d := ' ')
  rw [Quoted.unprintable, CodePointSet.containsChar_diff
      (hsorted.append Property.sorted_graphemeExtend) (CodePointSet.sorted_singleton _),
    CodePointSet.containsChar_append hsorted Property.sorted_graphemeExtend,
    CodePointSet.containsChar_singleton, Category.containsChar_union, hblank, and_comm,
    Prints, not_or, not_and_or, not_not]
  simp only [not_forall, not_not, exists_prop]

theorem escape_eq_quoted (symbol : Char) : Quoted.escape '\'' symbol = quoted symbol := by
  unfold quoted
  split
  case h_7 hquote =>
    have hescape : Quoted.escape '\'' symbol =
        if Quoted.unprintable.containsChar symbol then
          "\\u\x7b" ++ Quoted.hexDigits symbol.toNat ++ "\x7d"
        else symbol.toString := by
      rw [Quoted.escape, if_neg hquote] <;> assumption
    by_cases hp : Prints symbol
    · rw [hescape, if_neg (unprintable_iff.not_left.mpr hp), if_pos hp]
    · rw [hescape, if_pos (unprintable_iff.mpr hp), if_neg hp]
      rfl
  all_goals rfl

theorem chars_eq_quoted (symbols : List Char) : Quoted.chars symbols =
    "[" ++ ", ".intercalate (symbols.map fun symbol => "'" ++ quoted symbol ++ "'") ++ "]" := by
  have hchar : Quoted.char = fun symbol => "'" ++ quoted symbol ++ "'" := by
    funext symbol
    rw [Quoted.char, escape_eq_quoted]
  rw [Quoted.chars, Quoted.list, hchar]

theorem currentStateName_eq_innermost {Memory : Type} (machine : Machine Memory) :
    machine.currentStateName.getD "-" = innermost machine := by
  rw [Machine.currentStateName, Machine.currentState, innermost]
  cases machine.chain.getLast? <;> rfl

theorem report_eq_block {Memory : Type} (machine : Machine Memory) (byte : UInt8) :
    report machine byte = String.join ((block machine byte).map (· ++ "\n")) := by
  apply String.toList_inj.mp
  rw [report, Escaped.describe, name_eq_word, spell_eq_shown, chars_eq_quoted,
    currentStateName_eq_innermost]
  simp only [block, String.join, List.map_cons, List.map_nil, List.foldl_cons, List.foldl_nil,
    String.toList_append, String.reduceToList, List.nil_append, List.cons_append,
    List.append_assoc]

theorem errorLine_eq (cause : Escaped.EscapeError) :
    errorLine cause.message = "error: " ++ reason cause ++ "\n" := by
  rw [errorLine, message_eq_reason]

end StateNest.Session
