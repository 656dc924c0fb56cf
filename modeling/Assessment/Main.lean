import Assessment.CommandLine

/-!
# Entry point

Runs the program on the files of the disk.
-/

open Assessment

/-- Reads a file of the disk; what is no file is absent. -/
def readFile (path : String) : IO FileContent := do
  if ← isFile path then
    try
      return .text (← IO.FS.readFile path)
    catch error => return .unreadable (toString error)
  else return .absent
where
  /-- Whether a path leads to a file. -/
  isFile (path : String) : IO Bool := do
    try
      let handle ← IO.FS.Handle.mk path .read
      let _ ← handle.read 1
      return true
    catch _ => return false

def main (arguments : List String) : IO UInt32 := do
  let time ← IO.monoNanosNow
  let chance := fun (kind : ProcessingKind) =>
    RandomSource.ofSeed (time + kind.name.length)
  let result ← Program.run ⟨readFile, chance⟩ arguments
  (← IO.getStdout).putStr result.output
  (← IO.getStderr).putStr result.errors
  return result.exit.toUInt32
