import GuestRoutines.Command.Reach
import GuestRoutines.Module.Source

/-!
# The program

The program looks at its environment and at the files that its command line reaches, and then prints
what `Command.respond` says.
-/

namespace GuestRoutines

/-- The variables of the environment that the program looks at. -/
def variableNames : List String :=
  [Command.Parameter.config, .format].map (·.variable) ++
    Settings.Key.all.map fun k => Settings.variableName k.name

/-- The variables that are set, with their values. -/
def readEnvironment : IO Settings.Table := do
  let entries ← variableNames.filterMapM fun name => do
    return (← IO.getEnv name).map (name, ·)
  return .ofList entries

/-- The code with which a system refuses to read a directory. -/
def directoryCode : UInt32 := 21

/-- What is at a path, as far as the program may see it. -/
def probe (path : String) : IO (Option Node) := do
  match ← (IO.FS.readBinFile path).toBaseIO with
  | .ok contents => return some (.file contents)
  | .error (.inappropriateType _ code _) =>
    return if code = directoryCode then some .directory else none
  | .error _ => return none

/-- The tree with what is at some paths and on the way to them. -/
def survey (files : FileTree) (paths : List String) : IO FileTree :=
  (paths.flatMap Path.leading).foldlM
    (fun files path => do
      match ← probe path with
      | some node => return files.write path node
      | none => return files)
    files

/-- The program: prints the answer to its command line, and exits with its status. -/
def program (words : List String) : IO UInt32 := do
  let environment ← readEnvironment
  let files ← survey .empty (Command.configPaths environment words)
  let files ← survey files (Command.modulePaths environment files words)
  let report := Command.respond .builtIn environment files words
  IO.print report.out
  IO.eprint report.err
  return report.status.toUInt32

end GuestRoutines

/-- The program. -/
def main (words : List String) : IO UInt32 := GuestRoutines.program words
