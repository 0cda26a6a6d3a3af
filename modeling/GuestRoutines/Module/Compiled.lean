import GuestRoutines.Files.Tree
import GuestRoutines.Guest.Program
import GuestRoutines.Module.Fingerprint
import GuestRoutines.Text.Blank
import GuestRoutines.Text.Quoted

/-!
# Compiled modules

A module is compiled from its binary or its text form. What the two forms mean is up to a compiler;
before it sees a binary, the header is checked.

## Main definitions

* `Compiler` — what module sources mean
* `ModuleError` — why there is no compiled module
* `CompiledModule` — a program with the fingerprint of its source
* `CompiledModule.ofText`, `CompiledModule.ofBinary`, `CompiledModule.ofFile` — compilation
-/

namespace GuestRoutines

/-- What module sources mean: a program, or a complaint. -/
structure Compiler where
  text : String → Except String Program
  binary : ByteArray → Except String Program

/-- Why a source does not compile. -/
inductive CompileFault where
  | tooSmall
  | badMagic
  | binaryRefused (complaint : String)
  | textRefused (complaint : String)
  /-- A fault that another runtime reports in its own words. -/
  | other (text : String)
  deriving DecidableEq, Repr

/-- The fault in words. -/
def CompileFault.message : CompileFault → String
  | tooSmall => "Invalid Wasm: file too small"
  | badMagic => "Invalid Wasm: bad magic number"
  | binaryRefused complaint => s!"Module compilation failed: {complaint}"
  | textRefused complaint => s!"WAT compilation failed: {complaint}"
  | other text => text

/-- Why a module, or the engine that it needs, is not to be had. -/
inductive ModuleError where
  | notFound (id : String)
  | compilation (fault : CompileFault)
  | file (fault : FileFault)
  | configuration (reason : String)
  deriving DecidableEq, Repr

namespace ModuleError

/-- The error in words. -/
def message : ModuleError → String
  | notFound id => s!"Module not found: {id}"
  | compilation fault => s!"Compilation failed: {fault.message}"
  | file fault => s!"IO error: {fault.message}"
  | configuration reason => s!"Invalid configuration: {reason}"

def isNotFound : ModuleError → Bool
  | notFound _ => true
  | _ => false

end ModuleError

/-- A program with the fingerprint of its source. -/
structure CompiledModule where
  fingerprint : String
  program : Program
  deriving DecidableEq

namespace CompiledModule

/-- The length of a binary header. -/
def headerLength : Nat := 8

/-- The bytes with which every binary begins. -/
def magic : List UInt8 := [0x00, 0x61, 0x73, 0x6d]

/-- The header of a binary is checked before anything else. -/
def checkHeader (b : ByteArray) : Except CompileFault Unit :=
  if b.size < headerLength then .error .tooSmall
  else if b.data.toList.take magic.length ≠ magic then .error .badMagic
  else .ok ()

/-- The module of a binary. -/
def ofBinary (compiler : Compiler) (b : ByteArray) : Except ModuleError CompiledModule :=
  match checkHeader b with
  | .error fault => .error (.compilation fault)
  | .ok () =>
    match compiler.binary b with
    | .ok program => .ok ⟨Fingerprint.ofSource b, program⟩
    | .error complaint => .error (.compilation (.binaryRefused complaint))

/-- The module of a text. -/
def ofText (compiler : Compiler) (text : String) : Except ModuleError CompiledModule :=
  match compiler.text text with
  | .ok program => .ok ⟨Fingerprint.ofSource text.toUTF8, program⟩
  | .error complaint => .error (.compilation (.textRefused complaint))

/-- The extension of text modules. -/
def textExtension : String := "wat"

/-- The file at a path holds a text module. -/
def isTextPath (path : String) : Bool :=
  match Path.extension? path with
  | some e => Text.lowerAscii e == textExtension
  | none => false

/-- The module of the file at a path: a text module if the path says so, and otherwise a binary. -/
def ofFile (compiler : Compiler) (files : FileTree) (path : String) :
    Except ModuleError CompiledModule :=
  if isTextPath path then
    match files.readText path with
    | .ok text => ofText compiler text
    | .error fault => .error (.file fault)
  else
    match files.read path with
    | .ok b => ofBinary compiler b
    | .error fault => .error (.file fault)

/-- A short description for diagnostics. -/
def debug (m : CompiledModule) : String :=
  s!"CompiledModule \x7b content_hash: {Text.quoted m.fingerprint}, .. \x7d"

end CompiledModule

end GuestRoutines
