/-!
# Text without terminal control

A terminal takes some characters as commands. A command begins with the escape character and goes on
to its final character; the longer ones carry a text of their own, which ends with a mark or with
the next escape. Where text goes to no terminal, commands are left out, and so are control
characters that are no blanks.

A line break or a tab inside a short command suspends it: text is kept from there on, and the next
control character takes the command up again. A character beyond ASCII breaks it off.

## Main definitions

* `Terminal.Command` — what of a command has been read
* `Terminal.State` — whether a command has begun, and whether it is suspended
* `Terminal.step` — one character taken, and whether it is kept
* `Terminal.strip` — a text without terminal control
* `Terminal.bold`, `Terminal.heading` — texts set off by commands
-/

namespace GuestRoutines.Terminal

/-! ### Characters -/

/-- The character that begins every command. -/
def escape : Char := '\x1b'

/-- The characters that break off whatever command has begun. -/
def isCancel (c : Char) : Bool := c == '\x18' || c == '\x1a'

/-- A control character of ASCII that lays out text. -/
def isBlankControl (c : Char) : Bool := c == '\t' || c == '\n' || c == '\x0c' || c == '\r'

/-- A control character of ASCII. -/
def isControl (c : Char) : Bool := decide (c.toNat < 0x20) || c == '\x7f'

def isAscii (c : Char) : Bool := decide (c.toNat < 0x80)

/-- The character stays where commands are left out. -/
def isShown (c : Char) : Bool := isBlankControl c || !isControl c

/-- The character is in the range from `low` to `high`. -/
def isWithin (low high : Nat) (c : Char) : Bool := decide (low ≤ c.toNat ∧ c.toNat ≤ high)

/-- An intermediate character of a command. -/
def isIntermediate (c : Char) : Bool := isWithin 0x20 0x2F c

/-- A character among the parameters of a command. -/
def isParameter (c : Char) : Bool := isWithin 0x30 0x3F c

/-- A final character of a command with parameters. -/
def isFinal (c : Char) : Bool := isWithin 0x40 0x7E c

/-- The byte that ends the text of a command. -/
def terminator : UInt8 := 0x9C

/-- The terminator is among the bytes of the character, wherever it stands. -/
def hasTerminator (c : Char) : Bool := (String.utf8EncodeChar c).contains terminator

/-! ### Commands -/

/-- What of a command has been read. -/
inductive Command where
  /-- The escape character. -/
  | escape
  /-- Intermediate characters of a short command. -/
  | short
  /-- A bracket, and perhaps parameters. -/
  | parameters
  /-- The beginning of a command to the device. -/
  | device
  /-- Parameters of a command to the device. -/
  | deviceParameters
  /-- Intermediate characters of a command to the device. -/
  | deviceIntermediate
  /-- The beginning of a text that the bell ends. -/
  | title
  /-- The beginning of a text that the terminator ends. -/
  | data
  deriving DecidableEq, Repr

/-- Whether a command has begun, and whether it is suspended. -/
inductive State where
  | ground
  | inside (c : Command)
  | suspended (c : Command)
  deriving DecidableEq, Repr

namespace Command

/-- The command has no text of its own, so that blanks within it are laid out. -/
def isPlain : Command → Bool
  | escape | short | parameters => true
  | _ => false

/-- What the character after the escape character begins or ends. -/
def afterEscape (c : Char) : State :=
  if isIntermediate c then .inside short
  else if c = '[' then .inside parameters
  else if c = ']' then .inside title
  else if c = 'P' then .inside device
  else if c = 'X' ∨ c = '^' ∨ c = '_' then .inside data
  else if isParameter c ∨ isFinal c then .ground
  else .inside escape

/-- What has been read after one more character. A character that a command has no use for is passed
over. -/
def next (c : Char) : Command → State
  | escape => afterEscape c
  | short => if isParameter c ∨ isFinal c then .ground else .inside short
  | parameters => if isFinal c then .ground else .inside parameters
  | device =>
    if isIntermediate c then .inside deviceIntermediate
    else if isFinal c ∨ c = ':' then .inside data
    else if isParameter c then .inside deviceParameters
    else .inside device
  | deviceParameters =>
    if isIntermediate c then .inside deviceIntermediate
    else if isFinal c ∨ c = ':' ∨ isWithin 0x3C 0x3F c then .inside data
    else .inside deviceParameters
  | deviceIntermediate =>
    if isFinal c ∨ isParameter c then .inside data else .inside deviceIntermediate
  | title => if c = '\x07' then .ground else .inside title
  | data => if hasTerminator c then .ground else .inside data

end Command

/-- One character taken: what has begun afterwards, and whether the character is kept. -/
def step (s : State) (c : Char) : State × Bool :=
  if c = escape then (.inside .escape, false)
  else if isCancel c then (.ground, false)
  else
    match s with
    | .ground => (.ground, isShown c)
    | .inside command =>
      if command.isPlain && isBlankControl c then (.suspended command, true)
      else (command.next c, false)
    | .suspended command =>
      if !isAscii c then (.ground, true)
      else if isShown c then (.suspended command, true)
      else (.inside command, false)

/-- The characters that are kept of a text. -/
def stripChars : State → List Char → List Char
  | _, [] => []
  | s, c :: cs =>
    let (s, kept) := step s c
    if kept then c :: stripChars s cs else stripChars s cs

/-- The text without terminal control. -/
def strip (s : String) : String := String.ofList (stripChars .ground s.toList)

/-! ### Styles -/

/-- The command that selects a style by number. -/
def style (n : Nat) : String := String.singleton escape ++ "[" ++ toString n ++ "m"

/-- A text in bold letters. -/
def bold (s : String) : String := style 1 ++ s ++ style 0

/-- A text in bold letters and underlined. -/
def heading (s : String) : String := style 1 ++ style 4 ++ s ++ style 0

end GuestRoutines.Terminal
