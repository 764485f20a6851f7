import RiskGate.CommandLine

/-!
# The program

Reads the file that the arguments name, and prints the answer.  A failure to
read the file counts as no file.
-/

open RiskGate

/-- The bytes of a file, if it can be read. -/
def readSettingsFile (path : String) : IO (Option ByteArray) := do
  try return some (← IO.FS.readBinFile path)
  catch _ => return none

def main (args : List String) : IO UInt32 := do
  let request := CommandLine.read args
  let bytes ←
    match request.file? with
    | some path => readSettingsFile path
    | none => pure none
  let answer := request.answer bytes
  IO.print answer.output.toText
  return answer.exitCode.toUInt32
