import StateNest.Machine.Parse
import StateNest.Text.Escaped
import StateNest.Text.Quoted

/-!
# Sessions

A session reads typed lines, hands the bytes they stand for to a machine and
reports on the machine after each. It ends with an empty line, a malformed
escape or a failed callback; a line that cannot be read and a call that the
machine refuses are errors.
-/

set_option autoImplicit false

namespace StateNest

inductive SessionError where
  | unreadable
  | refused (cause : Error)
  deriving DecidableEq, Repr

def SessionError.message : SessionError → String
  | .unreadable => "failed to read input"
  | .refused cause => cause.message

/-- How far a session has come. -/
inductive Conclusion where
  | open
  | ended
  | broken (cause : SessionError)
  deriving DecidableEq, Repr

/-- What a session leaves behind. Its output is kept in pieces. -/
structure Session (Memory : Type) where
  machine : Machine Memory
  output : List String := []
  journal : Journal := []
  conclusion : Conclusion := .open

namespace Session

variable {Memory : Type}

/-- The same session with output and events that came before it. -/
def after (session : Session Memory) (output : List String) (journal : Journal) :
    Session Memory :=
  { session with output := output ++ session.output, journal := journal ++ session.journal }

def prompt : String := "Press <Enter> to exit...\n"

/-- The report on a machine that has just taken a byte. -/
def report (machine : Machine Memory) (byte : UInt8) : String :=
  "parser: " ++ machine.status.name ++ "\nsymbol: " ++ Escaped.describe byte ++
    "\nbuffer: " ++ Quoted.chars machine.buffer ++
    "\nstate:  " ++ machine.currentStateName.getD "-" ++ "\n\n"

def errorLine (message : String) : String := "error: " ++ message ++ "\n"

def failureLines (machine : Machine Memory) : List String :=
  machine.failure.toList.map fun failure => errorLine failure.message

/-- Hands bytes to the machine, each as the symbol of its code. -/
def feed (machine : Machine Memory) : List UInt8 → Session Memory
  | [] => { machine }
  | byte :: bytes =>
    let outcome := machine.parse (Char.ofNat byte.toNat)
    match outcome.result with
    | .error cause =>
      { machine := outcome.machine
        journal := outcome.journal
        conclusion := .broken (.refused cause) }
    | .ok true =>
      (feed outcome.machine bytes).after [report outcome.machine byte] outcome.journal
    | .ok false =>
      { machine := outcome.machine
        output := report outcome.machine byte :: failureLines outcome.machine
        journal := outcome.journal
        conclusion := .ended }

/-- The lines of the input without their line feeds. What follows the last line feed is a line if
it is not empty. -/
def lines : List UInt8 → List (List UInt8)
  | [] => []
  | byte :: bytes =>
    if byte = 0x0A then [] :: lines bytes
    else match lines bytes with
      | [] => [[byte]]
      | line :: others => (byte :: line) :: others

/-- A line as text without the carriage returns at its end, if its bytes are an encoding. -/
def lineText? (line : List UInt8) : Option (List Char) :=
  (String.fromUTF8? ⟨line.toArray⟩).map fun text =>
    (text.toList.reverse.dropWhile (· = '\r')).reverse

def takeLine (machine : Machine Memory) (line : List UInt8) : Session Memory :=
  match lineText? line with
  | none => { machine, conclusion := .broken .unreadable }
  | some [] => { machine, conclusion := .ended }
  | some text => match Escaped.decode text with
    | .error cause => { machine, output := [errorLine cause.message], conclusion := .ended }
    | .ok bytes => feed machine bytes

def takeLines (machine : Machine Memory) : List (List UInt8) → Session Memory
  | [] => { machine, conclusion := .ended }
  | line :: others =>
    let taken := takeLine machine line
    match taken.conclusion with
    | .open => (takeLines taken.machine others).after taken.output taken.journal
    | _ => taken

def run (machine : Machine Memory) (input : List UInt8) : Session Memory :=
  (takeLines machine (lines input)).after [prompt] []

def outputText (session : Session Memory) : String := String.join session.output

def error? (session : Session Memory) : Option SessionError :=
  match session.conclusion with
  | .broken cause => some cause
  | _ => none

end Session
end StateNest
