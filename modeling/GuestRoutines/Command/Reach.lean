import GuestRoutines.Command.Process

/-!
# The files that a command line reaches

A command line names its configuration file, and the configuration names the directories in which
modules are looked for. A process that has these files at hand needs no others.

## Main definitions

* `Command.configPaths` — the configuration file
* `Command.modulePaths` — the directories of modules, and the files in which the routine may be
-/

namespace GuestRoutines.Command

/-- The invocation that a command line asks for. -/
def invocation? (environment : Settings.Table) (words : List String) : Option Invocation :=
  match parse? environment words with
  | some (.run i) => some i
  | _ => none

/-- The path of the configuration file, if there is one. -/
def configPaths (environment : Settings.Table) (words : List String) : List String :=
  ((invocation? environment words).bind (·.config)).toList

/-- The parameters with which an invocation starts the runtime. -/
def Invocation.params? (environment : Settings.Table) (files : FileTree) (i : Invocation) :
    Option StartupParams := do
  let c ← (i.configuration files).toOption
  let settings ← (store environment c).toOption
  (Embedder.startupParams settings .standard .trusted).toOption

/-- The directories in which modules are looked for, and the files in which the module of a called
routine may be. -/
def modulePaths (environment : Settings.Table) (files : FileTree) (words : List String) :
    List String :=
  match invocation? environment words with
  | none => []
  | some i =>
    match i.params? environment files, i.task with
    | none, _ => []
    | some p, .call routine _ =>
      let files := match RoutineId.parse routine with
        | some id => Catalog.candidates p.modulePath id.module
        | none => []
      p.modulePath ++ files
    | some p, _ => p.modulePath

end GuestRoutines.Command
