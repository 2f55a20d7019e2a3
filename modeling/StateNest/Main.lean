import StateNest.CommandLine
import StateNest.Regex.Basic

/-!
# The program

Reads the graph from a file, lines from standard input, and writes what the
session shows.
-/

set_option autoImplicit false

open StateNest

def readText (path : String) : IO (Option String) := do
  try
    return some (← IO.FS.readFile path)
  catch _ =>
    return none

partial def readAll (stream : IO.FS.Stream) (taken : ByteArray) : IO ByteArray := do
  let part ← stream.read 65536
  if part.isEmpty then return taken else readAll stream (taken ++ part)

def main (arguments : List String) : IO UInt32 := do
  let text ← match Arguments.read arguments with
    | .run (some path) _ => readText path
    | _ => pure none
  let input ← match Arguments.read arguments with
    | .run _ false => readAll (← IO.getStdin) .empty
    | _ => pure .empty
  let shown := CommandLine.run Regex.engine arguments (fun _ => text) input.toList
  IO.print shown.output
  return shown.code.toUInt32
