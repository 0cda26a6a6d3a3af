import GuestRoutines.Command.Help
import GuestRoutines.Embedding.Bridge
import GuestRoutines.Embedding.Modules
import GuestRoutines.Json.Order
import GuestRoutines.Settings.File
import GuestRoutines.Value.Notation

/-!
# What the process does

The process reads its configuration, starts a bridge and does one task with it. What it prints and
the status with which it exits follow from the command line, the environment and the files alone.

## Main definitions

* `Command.Report` — what the process prints, and its status
* `Command.levelTables` — the table of levels
* `Command.Invocation.run` — an invocation, carried out
* `Command.respond` — a command line, answered
-/

namespace GuestRoutines.Command

/-- What the process prints, and the status with which it exits. -/
structure Report where
  status : Nat
  out : String := ""
  err : String := ""
  deriving DecidableEq, Repr

namespace Report

/-- The status after success. -/
def successStatus : Nat := 0

/-- The status after an error. -/
def failureStatus : Nat := 1

/-- The status after words that make no sense. -/
def usageStatus : Nat := 2

/-- The status after a native fault. -/
def fatalStatus : Nat := 70

/-- The status of a process that unwinds. -/
def unwoundStatus : Nat := 101

/-- A text printed, and nothing wrong. -/
def print (s : String) : Report := { status := successStatus, out := s }

/-- The causes of an error, each on a line of its own; several causes are numbered. -/
def causeLines : List String → List String
  | [] => []
  | [c] => ["    " ++ indented "    " c]
  | cs => cs.zipIdx.map fun (c, i) =>
    let number := toString i
    let mark := blanks (5 - number.length) ++ number ++ ": "
    mark ++ indented "       " c

/-- An error that ends the process, with its causes. -/
def failure (top : String) (causes : List String) : Report :=
  let below := if causes = [] then [] else ["", "Caused by:"] ++ causeLines causes
  { status := failureStatus, err := lines (("Error: " ++ top) :: below) }

/-- The report of a computation that unwound. -/
def ofUnwinding (u : Unwinding) : Report := { status := unwoundStatus, err := u.text ++ "\n" }

/-- An error reported by the bridge. -/
def ofHostError (e : HostError) : Report :=
  let detail := match e.detail with
    | some d => ["DETAIL:  " ++ d]
    | none => []
  { status := if e.isFatal then fatalStatus else failureStatus
    err := lines
      ((e.level.title ++ ":  " ++ e.message) :: detail ++ ["SQLSTATE:  " ++ e.code.text]) }

end Report

/-! ### The table of levels -/

/-- The width of a column. -/
def columnWidth : Nat := 10

/-- A text filled up to the width of a column. -/
def column (s : String) : String :=
  s ++ blanks (columnWidth - s.length)

/-- Three columns in a line. -/
def row (a b c : String) : String := column a ++ " " ++ column b ++ " " ++ column c

/-- How levels are mapped, from the host and from routines. -/
def levelTables (t : LevelMapping) : String :=
  let fromHost := Scale.levels.map fun (l : HostLevel) =>
    let s := t.hostToCommon l
    row l.name s.title (t.commonToManaged s).title
  let fromRoutine := Scale.levels.map fun (l : ManagedLevel) =>
    let s := t.managedToCommon l
    row l.title s.title (t.commonToHost s).name
  lines ([row "host" "common" "routine"] ++ fromHost ++ [""] ++
    [row "routine" "common" "host"] ++ fromRoutine)

/-! ### Tasks -/

section

variable {ρ : Type} (L : Launcher ρ)

/-- A call: its value is printed, or its failure reported. -/
def reportCall (routine : String) (arguments : List String) (b : Bridge ρ) : Report × Bridge ρ :=
  match b.call L routine (arguments.map HostValue.ofWord) with
  | (.error u, b) => (.ofUnwinding u, b)
  | (.ok (.error e), b) => (.ofHostError e, b)
  | (.ok (.ok v), b) => (.print (lines [v.display]), b)

/-- The state of a bridge as a JSON record, with the error of its startup. -/
def statusRecord (error : Option StartupError) (e : Embedder ρ) : Json :=
  .ofMembers
    [("state", .ofText e.lifecycle.state.name), ("trust", .ofText e.lifecycle.tier.name),
      ("startup_attempts", .ofInt e.attempts), ("log_threshold", .ofText e.host.log.threshold.name),
      ("params", (e.lifecycle.params?.map StartupParams.toJson).getD .null),
      ("error", (error.map fun s => Json.ofText s.message).getD .null)]

/-- The runtime started and its state printed. -/
def reportStatus (b : Bridge ρ) : Report × Bridge ρ :=
  match b.embedder.ensureReady L with
  | (.error u, embedder) => (.ofUnwinding u, { b with embedder })
  | (.ok answer, embedder) =>
    let error := match answer with
      | .ok () => none
      | .error e => some e
    (.print (lines [(statusRecord error embedder).ordered.pretty]), { b with embedder })

/-- A task done with a bridge. -/
def perform (task : Task) (b : Bridge ρ) : Report × Bridge ρ :=
  match task with
  | .call routine arguments => reportCall L routine arguments b
  | .status => reportStatus L b
  | .levels => (.print (levelTables b.embedder.host.log.levels), b)

/-- A task done with a new bridge, which is shut down afterwards. -/
def runTask (task : Task) (settings : Settings.Store) (host : Host) (trusted : Bool) : Report :=
  match (Bridge.new settings host).setTrust trusted with
  | (.error e, _) => .failure e.display []
  | (.ok (), b) =>
    let (report, b) := perform L task b
    match b.shutdown L with
    | (.ok (), _) => report
    | (.error u, _) => { report with status := Report.unwoundStatus, err := report.err ++ u.text }

end

/-! ### Invocations -/

namespace Invocation

/-- The configuration, read from the file that the invocation names. -/
def configuration (files : FileTree) (i : Invocation) : Except Report ConfigurationFile :=
  match i.config with
  | none => .ok {}
  | some path =>
    (ConfigurationFile.ofFile files path).mapError fun e =>
      .failure s!"Failed to load {path}" (e.message :: e.cause?.toList)

/-- The format of the log: the one that the invocation gives, or else that of the file. -/
def logFormat (c : ConfigurationFile) (i : Invocation) : Except Report LogFormat :=
  match i.format, LogFormat.parse? c.host.logFormat with
  | some f, _ => .ok f
  | none, some f => .ok f
  | none, none =>
    .error (.failure s!"Invalid host.log_format: {LogFormat.unknownMessage c.host.logFormat}" [])

/-- The settings of the invocation: the environment decides before the file. -/
def store (environment : Settings.Table) (c : ConfigurationFile) :
    Except Report Settings.Store :=
  match c.table with
  | .ok table => .ok ⟨[.environment environment, .table table]⟩
  | .error e => .error (.failure e.message [])

/-- The invocation carried out, up to the first error. The table of levels needs no settings. -/
def attempt (compiler : Compiler) (environment : Settings.Table) (files : FileTree)
    (i : Invocation) : Except Report Report := do
  let c ← i.configuration files
  let _ ← i.logFormat c
  if i.task = .levels then return .print (levelTables .standard)
  let settings ← store environment c
  let trusted := c.host.trusted && !i.untrusted
  return runTask (ModuleRuntime.launcher compiler []) i.task settings { files } trusted

/-- The invocation carried out. -/
def run (compiler : Compiler) (environment : Settings.Table) (files : FileTree)
    (i : Invocation) : Report :=
  match i.attempt compiler environment files with
  | .ok report => report
  | .error report => report

end Invocation

/-- The answer to a command line. -/
def respond (compiler : Compiler) (environment : Settings.Table) (files : FileTree)
    (words : List String) : Report :=
  match parse? environment words with
  | none => { status := Report.usageStatus, err := usageText }
  | some .version => .print versionText
  | some (.help page) => .print (helpText environment page)
  | some (.run i) => i.run compiler environment files

end GuestRoutines.Command
