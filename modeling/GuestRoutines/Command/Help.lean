import GuestRoutines.Command.Invocation
import GuestRoutines.Text.Terminal

/-!
# Texts about the command line

## Main definitions

* `Command.versionText`, `Command.helpText` — the answers to requests for the version and for help
* `Command.usageText` — what is said of words that make no sense
-/

namespace GuestRoutines.Command

/-- Lines of text, each with its line break. -/
def lines (ls : List String) : String := String.join (ls.map (· ++ "\n"))

/-- The name of the program with its version. -/
def versionText : String := lines ["plwasm 0.1.0"]

/-- A text with every further line indented. -/
def indented (indent s : String) : String := ("\n" ++ indent).intercalate (s.splitOn "\n")

/-- The tasks, each with what it does. -/
def taskLines : List String :=
  [Terminal.heading "Commands:",
    "  " ++ Terminal.bold "call" ++ "    Call a routine and print its result",
    "  " ++ Terminal.bold "status" ++ "  Start the runtime and print its state as JSON",
    "  " ++ Terminal.bold "levels" ++ "  Print the level translation tables",
    "  " ++ Terminal.bold "help" ++
      "    Print this message or the help of the given subcommand(s)"]

/-- The variable that stands in for an option, and what it holds. -/
def variableNote (environment : Settings.Table) (p : Parameter) : String :=
  let held := (environment.lookup? p.variable).getD ""
  s!"[env: {p.variable}={held}]"

/-- The column in which the descriptions of options begin. -/
def descriptionColumn : Nat := 33

/-- Blanks. -/
def blanks (n : Nat) : String := String.ofList (List.replicate n ' ')

/-- The line on an option. Further lines of its description begin in the same column. -/
def optionLine (short long placeholder description : String) : String :=
  let first := if short = "" then blanks 4 else Terminal.bold short ++ ", "
  let gap := descriptionColumn - (6 + long.length + placeholder.length)
  "  " ++ first ++ Terminal.bold long ++ placeholder ++ blanks gap ++
    indented (blanks descriptionColumn) description

/-- The page on the program as a whole. -/
def overviewLines (environment : Settings.Table) : List String :=
  let config := variableNote environment .config
  let format := variableNote environment .format
  ["Run WebAssembly routines the way a host server would", "",
    Terminal.heading "Usage:" ++ " " ++ Terminal.bold "plwasm" ++ " [OPTIONS] <COMMAND>", ""] ++
  taskLines ++
  ["", Terminal.heading "Options:",
    optionLine "-c" "--config" " <CONFIG>" s!"Host configuration file (TOML) {config}",
    optionLine "" "--untrusted" ""
      "Run routines in the untrusted tier, with host filesystem, network, environment and stdio",
    optionLine "" "--log-format" " <LOG_FORMAT>"
      ("Log output format. Overrides the configuration file " ++
        s!"{format} [possible values: text, json]"),
    optionLine "-h" "--help" "" "Print help",
    optionLine "-V" "--version" "" "Print version"]

/-- The page on a task without words of its own. -/
def bareLines (purpose name : String) : List String :=
  [purpose, "", s!"Usage: plwasm {name}", "", "Options:", "  -h, --help  Print help"]

/-- The short page on calls. -/
def callLines : List String :=
  ["Call a routine and print its result", "",
    "Usage: plwasm call <ROUTINE> [ARGS]...", "",
    "Arguments:",
    "  <ROUTINE>  Routine identifier: `module` or `module.export`",
    "  [ARGS]...  Routine arguments", "",
    "Options:",
    "  -h, --help  Print help (see more with '--help')"]

/-- The full page on calls. -/
def fullCallLines : List String :=
  ["Call a routine and print its result.", "",
    "Arguments are parsed as JSON scalars where possible (`42`, `true`, `null`) and passed as " ++
      "text otherwise.", "",
    "Usage: plwasm call <ROUTINE> [ARGS]...", "",
    "Arguments:",
    "  <ROUTINE>",
    "          Routine identifier: `module` or `module.export`", "",
    "  [ARGS]...",
    "          Routine arguments", "",
    "Options:",
    "  -h, --help",
    "          Print help (see a summary with '-h')"]

/-- The lines of a page of help, with terminal control. -/
def pageLines (environment : Settings.Table) : Page → List String
  | .overview => overviewLines environment
  | .call true => fullCallLines
  | .call false => callLines
  | .status => bareLines "Start the runtime and print its state as JSON" "status"
  | .levels => bareLines "Print the level translation tables" "levels"
  | .help =>
    ["Print this message or the help of the given subcommand(s)", "",
      "Usage: plwasm help [COMMAND]...", "",
      "Arguments:",
      "  [COMMAND]...  Print help for the subcommand(s)"]

/-- A page of help. It is printed without terminal control, and commands in the environment go with
the program's own. -/
def helpText (environment : Settings.Table) (page : Page) : String :=
  Terminal.strip (lines (pageLines environment page))

/-- What is said of words that make no sense. -/
def usageText : String :=
  lines ["error: the command line cannot be read", "", "Usage: plwasm [OPTIONS] <COMMAND>", "",
    "For more information, try '--help'."]

end GuestRoutines.Command
