import GuestRoutines.Guest.Program

/-!
# Sample programs

Two programs that show how routines use the calling convention.

## Main definitions

* `Samples.echo` — gives back its first argument
* `Samples.text` — `shout` gives back its first argument in ASCII capitals, and `require` raises an
  error unless there is an argument
-/

namespace GuestRoutines.Samples

/-- Code made of instructions alone, with more code after them. -/
def sequence (instructions : List Instruction) (rest : Body) : Body :=
  instructions.foldr Body.step rest

/-- One page of memory that the host can find. -/
def onePage : MemoryType := { minimum := 1, exportName := some "memory" }

/-- A constant operand. -/
def word (n : Nat) : Operand := .constant (.ofNat n)

/-- Gives back its first argument. The argument may fill the page, so its length is kept on a second
page that is added once the argument is in place. -/
def echo : Program where
  memory := some onePage
  routines := [{
    name := "echo"
    body :=
      .step (.argLength (word 0) (some 0)) <|
      .branch (.word 0) (.step .leave .done) .done <|
      sequence
        [.argRead (word 0) (word 0), .grow (word 1) none, .argLength (word 0) (some 65536),
          .setResult (word 0) (.word 65536)] .done }]

/-- Two routines on texts. -/
def text : Program where
  memory := some onePage
  data :=
    [{ offset := 0, bytes := "shouting".toUTF8 },
      { offset := 16, bytes := "expected at least one argument".toUTF8 }]
  routines := [
    { name := "shout"
      body :=
        .step (.argLength (word 0) (some 512)) <|
        .branch (.word 512) (.step .leave .done) .done <|
        sequence
          [.log (word 2) (word 0) (word 8), .argRead (word 0) (word 1024),
            .capitals (word 1024) (.word 512), .setResult (word 1024) (.word 512)] .done },
    { name := "require"
      body :=
        sequence [.argCount (some 512), .add (some 512) (.word 512) (.constant (-1))] <|
        .branch (.word 512) (.step (.raise (word 16) (word 30)) .done) .done <|
        .step (.setResult (word 0) (word 0)) .done }]

end GuestRoutines.Samples
