import GuestRoutines.Settings.Store
import GuestRoutines.Text.Blank

/-!
# Reading the command line

The words of the command line are options and a task, which may have options and words of its own.
An option is given at most once, with its value in the same word or in the next one. What the
command line does not say may come from the environment.

A request for help or for the version is answered at once, whatever follows it; everything before it
must make sense. The value of an option that stands in a word of its own is only looked at when the
next option comes, or at the end.

## Main definitions

* `Command.Task`, `Command.Invocation` — what the process is to do
* `Command.Request` — an invocation, or a request for help or for the version
* `Command.parse?` — the request that the words stand for
-/

namespace GuestRoutines.Command

/-- What the process is to do. -/
inductive Task where
  | call (routine : String) (arguments : List String)
  | status
  | levels
  deriving DecidableEq, Repr

/-- The format of the log of the process. -/
inductive LogFormat where
  | text
  | json
  deriving DecidableEq, Repr

namespace LogFormat

def name : LogFormat → String
  | text => "text"
  | json => "json"

/-- The format of a name in small letters. -/
def ofName? (s : String) : Option LogFormat := [text, json].find? (·.name == s)

/-- The format of a name, whatever the case of its ASCII letters. -/
def parse? (s : String) : Option LogFormat := ofName? (Text.lowerAscii s)

/-- What is said of a name that is no format. -/
def unknownMessage (s : String) : String := s!"invalid variant: {s}"

end LogFormat

/-- What the process is to do, and the options. -/
structure Invocation where
  /-- The path of the configuration file. -/
  config : Option String := none
  untrusted : Bool := false
  format : Option LogFormat := none
  task : Task
  deriving DecidableEq, Repr

/-- A page of help. -/
inductive Page where
  | overview
  /-- The page on calls, in full or in short. -/
  | call (full : Bool)
  | status
  | levels
  | help
  deriving DecidableEq, Repr

/-- What the words of a command line ask for. -/
inductive Request where
  | run (i : Invocation)
  | help (page : Page)
  | version
  deriving DecidableEq, Repr

/-! ### Words -/

/-- A word by its form. -/
inductive Word where
  /-- Two hyphens, after which every word is plain. -/
  | divider
  /-- A name after two hyphens, with a value if there is an equals sign. -/
  | long (name : String) (value : Option String)
  /-- A letter after one hyphen, and the rest of the word. -/
  | short (letter : Char) (rest : List Char)
  | plain (s : String)
  deriving DecidableEq, Repr

/-- The form of a word. -/
def Word.ofString (s : String) : Word :=
  match s.toList with
  | ['-', '-'] => .divider
  | '-' :: '-' :: cs =>
    let value := match cs.dropWhile (· != '=') with
      | [] => none
      | _ :: v => some (String.ofList v)
    .long (String.ofList (cs.takeWhile (· != '='))) value
  | '-' :: c :: cs => .short c cs
  | _ => .plain s

/-- The value that follows a letter in the same word, if one does. -/
def attached? : List Char → Option String
  | [] => none
  | '=' :: cs => some (String.ofList cs)
  | cs => some (String.ofList cs)

/-! ### Options -/

/-- The options that have a value. -/
inductive Parameter where
  | config
  | format
  deriving DecidableEq, Repr

/-- The environment variable that stands in for an option. -/
def Parameter.variable : Parameter → String
  | config => "PLWASM_CONFIG"
  | format => "PLWASM_LOG_FORMAT"

/-- The options that have been settled. -/
structure Options where
  config : Option String := none
  untrusted : Bool := false
  format : Option LogFormat := none
  deriving DecidableEq, Repr

/-- An option has been settled. -/
def Options.has (o : Options) : Parameter → Bool
  | .config => o.config.isSome
  | .format => o.format.isSome

/-- The options with one more settled. A path must not be empty, a format must be one of those that
there are, and neither may have been settled before. -/
def Options.settle? (o : Options) (p : Parameter) (value : String) : Option Options :=
  if o.has p then none
  else
    match p with
    | .config => if value = "" then none else some { o with config := some value }
    | .format => (LogFormat.ofName? value).map fun f => { o with format := some f }

/-- What has been read of the options: those that are settled, and the last one if its value stands,
or is to stand, in a word of its own. -/
structure Reading where
  options : Options := {}
  pending : Option (Parameter × Option String) := none
  deriving DecidableEq, Repr

namespace Reading

/-- The options with the pending one settled. -/
def settled? (r : Reading) : Option Options :=
  match r.pending with
  | none => some r.options
  | some (_, none) => none
  | some (p, some value) => r.options.settle? p value

/-- An option, with its value if that is in the same word. -/
def take? (r : Reading) (p : Parameter) (value : Option String) : Option Reading := do
  let options ← r.settled?
  match value with
  | none => return { options, pending := some (p, none) }
  | some v =>
    let options ← options.settle? p v
    return { options }

/-- The option for guests outside of their sandbox. -/
def takeUntrusted? (r : Reading) : Option Reading := do
  let options ← r.settled?
  if options.untrusted then none else return { options := { options with untrusted := true } }

/-- The pending option waits for its value, which is this word. -/
def fill? (r : Reading) (value : String) : Option Reading :=
  match r.pending with
  | some (p, none) => some { r with pending := some (p, some value) }
  | _ => none

/-- The options when nothing more is read. Those that have not been given come from the
environment. -/
def finish? (r : Reading) (environment : Settings.Table) : Option Options := do
  let options ← r.settled?
  [Parameter.config, .format].foldlM
    (fun o p =>
      if o.has p then some o
      else
        match environment.lookup? p.variable with
        | none => some o
        | some value => o.settle? p value)
    options

/-- The request to do a task. -/
def run? (r : Reading) (environment : Settings.Table) (task : Task) : Option Request :=
  (r.finish? environment).map fun o =>
    .run { config := o.config, untrusted := o.untrusted, format := o.format, task }

end Reading

/-! ### Tasks -/

/-- The words of a task without words: none, but there may be a divider. -/
def readBare? (page : Page) (task : Task) (r : Reading) (environment : Settings.Table) :
    List String → Option Request
  | [] => r.run? environment task
  | w :: ws =>
    match Word.ofString w with
    | .long "help" none => some (.help page)
    | .short 'h' _ => some (.help page)
    | .divider => if ws = [] then r.run? environment task else none
    | _ => none

/-- The routine and the arguments among the words of a call, of which those read so far are
`before`. -/
def callOf? (r : Reading) (environment : Settings.Table) : List String → Option Request
  | [] => none
  | routine :: arguments => r.run? environment (.call routine arguments)

/-- The words of a call, of which those read so far are `before`. -/
def readCall? (r : Reading) (environment : Settings.Table) (before : List String) :
    List String → Option Request
  | [] => callOf? r environment before
  | w :: ws =>
    match Word.ofString w with
    | .long "help" none => some (.help (.call true))
    | .short 'h' _ => some (.help (.call false))
    | .divider => callOf? r environment (before ++ ws)
    | .plain s => readCall? r environment (before ++ [s]) ws
    | _ => none

/-- The page of help on the words after a request for help. -/
def page? : List String → Option Page
  | [] => some .overview
  | ["call"] => some (.call true)
  | ["status"] => some .status
  | ["levels"] => some .levels
  | ["help"] => some .help
  | _ => none

/-- The task that a word begins, read to its end. -/
def readTask? (r : Reading) (environment : Settings.Table) (word : String) (ws : List String) :
    Option Request :=
  match word with
  | "call" => readCall? r environment [] ws
  | "status" => readBare? .status .status r environment ws
  | "levels" => readBare? .levels .levels r environment ws
  | "help" => (page? ws).map .help
  | _ => none

/-- An option that asks for an answer at once, provided that what came before makes sense. -/
def answerAt? (r : Reading) (request : Request) : Option Request := r.settled?.map fun _ => request

/-- The words from the options on. -/
def readOptions? (environment : Settings.Table) (r : Reading) : List String → Option Request
  | [] => none
  | w :: ws =>
    match Word.ofString w with
    | .divider => none
    | .long "config" v => (r.take? .config v).bind (readOptions? environment · ws)
    | .long "log-format" v => (r.take? .format v).bind (readOptions? environment · ws)
    | .long "untrusted" none => r.takeUntrusted?.bind (readOptions? environment · ws)
    | .long "help" none => answerAt? r (.help .overview)
    | .long "version" none => answerAt? r .version
    | .short 'c' rest => (r.take? .config (attached? rest)).bind (readOptions? environment · ws)
    | .short 'h' _ => answerAt? r (.help .overview)
    | .short 'V' _ => answerAt? r .version
    | .plain s =>
      match r.fill? s with
      | some r => readOptions? environment r ws
      | none => readTask? r environment s ws
    | _ => none

/-- The request that the words of a command line stand for, if they make sense. -/
def parse? (environment : Settings.Table) (words : List String) : Option Request :=
  readOptions? environment {} words

end GuestRoutines.Command
