import DataPath.CommandLine.Program

/-!
# The command

Runs the program on the disk.
-/

namespace DataPath.CommandLine

/-- Whether an action succeeds. -/
def succeeds (action : IO Unit) : IO Bool := do
  try
    action
    return true
  catch _ => return false

/-- Access to the disk. -/
def disk : Files.Access IO where
  exists? path := do
    try
      let _ ← IO.FS.Handle.mk path .read
      return true
    catch
      | .noFileOrDirectory .. => return false
      | _ => return true
  read? path := do
    try
      return some (← IO.FS.readFile path)
    catch _ => return none
  createDirs path := succeeds (IO.FS.createDirAll path)
  write path text := succeeds (IO.FS.writeFile path text)

end DataPath.CommandLine

/-- Runs the program, prints what it leaves behind and ends with its exit code. -/
def main (arguments : List String) : IO UInt32 := do
  let env : DataPath.Settings.Environment :=
    { configHome := ← IO.getEnv "XDG_CONFIG_HOME", home := ← IO.getEnv "HOME" }
  let result ← DataPath.CommandLine.run DataPath.CommandLine.disk env arguments
  IO.print result.output
  IO.eprint result.errors
  return result.exitCode
