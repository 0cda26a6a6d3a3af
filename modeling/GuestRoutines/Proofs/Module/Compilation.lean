import GuestRoutines.Module.Compiled
import GuestRoutines.Proofs.Files.Entries

/-!
# What a compiler makes of a file

A file holds a text module if its name says so, and otherwise a binary. A binary is looked at by the
compiler only if it begins as every binary does. Whatever the compiler takes becomes a module with
the fingerprint of its source, and whatever keeps it from that is told as it is.

## Main definitions

* `Path.NamesText` — the name of a text module
* `Compiler.TextYields`, `Compiler.BinaryYields`, `Compiler.FileYields` — what a text, a binary and
  a file give

## Main results

* `Compiler.textYields_iff`, `Compiler.binaryYields_iff`, `Compiler.fileYields_iff` — each of them
  gives one thing, and it is what the compilation answers
-/

namespace GuestRoutines

/-! ### Names of text modules -/

namespace Path

variable {path dir stem : String}

/-- The last name of a path ends in `.wat`, in small letters or capitals, and does not begin with
that. -/
def NamesText (path : String) : Prop :=
  ∃ stem ending, lastName? path = some (stem ++ "." ++ ending) ∧ stem ≠ "" ∧
    Text.lowerAscii ending = "wat"

theorem isTextPath_iff : CompiledModule.isTextPath path = true ↔ NamesText path := by
  have told : CompiledModule.isTextPath path = true ↔
      ∃ e, extension? path = some e ∧ Text.lowerAscii e = "wat" := by
    unfold CompiledModule.isTextPath
    cases extension? path with
    | none => simp
    | some e => simp [CompiledModule.textExtension]
  rw [told]
  constructor
  · rintro ⟨e, extension, small⟩
    obtain ⟨stem, last, nonempty, -⟩ := extension?_eq_some_iff.mp extension
    exact ⟨stem, e, last, nonempty, small⟩
  · rintro ⟨stem, e, last, nonempty, small⟩
    refine ⟨e, extension?_eq_some_iff.mpr ⟨stem, last, nonempty, fun point => ?_⟩, small⟩
    -- A point stays a point in small letters, and there is none in the ending.
    have kept : '.' ∈ (Text.lowerAscii e).toList := by
      rw [Text.lowerAscii, String.toList_ofList]
      exact List.mem_map_of_mem point
    simp [small] at kept

theorem isTextPath_eq_false_iff : CompiledModule.isTextPath path = false ↔ ¬ NamesText path := by
  rw [← isTextPath_iff, Bool.not_eq_true]

theorem namesText_join (isEntry : IsEntry (stem ++ ".wat")) (nonempty : stem ≠ "") (dir : String) :
    NamesText (join dir (stem ++ ".wat")) :=
  ⟨stem, "wat", by rw [lastName?_join isEntry, String.append_assoc]; rfl, nonempty, by decide⟩

theorem not_namesText_join (isEntry : IsEntry (stem ++ ".wasm")) (nonempty : stem ≠ "")
    (dir : String) : ¬ NamesText (join dir (stem ++ ".wasm")) := by
  have extension : extension? (join dir (stem ++ ".wasm")) = some "wasm" := by
    rw [extension?_eq_some_iff]
    exact ⟨stem, by rw [lastName?_join isEntry, String.append_assoc]; rfl, nonempty, by decide⟩
  rw [← isTextPath_iff, CompiledModule.isTextPath, extension]
  decide

end Path

namespace Compiler

open CompiledModule

variable {compiler : Compiler} {text path : String} {b : ByteArray} {files : FileTree}
  {r r' : Except ModuleError CompiledModule}

/-! ### Texts and binaries -/

/-- What a text gives. -/
inductive TextYields (compiler : Compiler) (text : String) :
    Except ModuleError CompiledModule → Prop where
  | compiled {program : Program} (taken : compiler.text text = .ok program) :
      TextYields compiler text (.ok ⟨Fingerprint.ofSource text.toUTF8, program⟩)
  | refused {complaint : String} (refused : compiler.text text = .error complaint) :
      TextYields compiler text (.error (.compilation (.textRefused complaint)))

/-- How every binary begins: a zero byte and the letters `asm`. -/
def Marked (b : ByteArray) : Prop := [0x00, 0x61, 0x73, 0x6d] <+: b.data.toList

instance : Decidable (Marked b) := inferInstanceAs (Decidable (_ <+: _))

/-- What a binary gives. A header has eight bytes. -/
inductive BinaryYields (compiler : Compiler) (b : ByteArray) :
    Except ModuleError CompiledModule → Prop where
  | short (short : b.size < 8) : BinaryYields compiler b (.error (.compilation .tooSmall))
  | unmarked (long : 8 ≤ b.size) (unmarked : ¬ Marked b) :
      BinaryYields compiler b (.error (.compilation .badMagic))
  | compiled {program : Program} (long : 8 ≤ b.size) (marked : Marked b)
      (taken : compiler.binary b = .ok program) :
      BinaryYields compiler b (.ok ⟨Fingerprint.ofSource b, program⟩)
  | refused {complaint : String} (long : 8 ≤ b.size) (marked : Marked b)
      (refused : compiler.binary b = .error complaint) :
      BinaryYields compiler b (.error (.compilation (.binaryRefused complaint)))

theorem textYields_iff : compiler.TextYields text r ↔ r = ofText compiler text := by
  unfold ofText
  constructor
  · intro h
    cases h with
    | compiled taken => rw [taken]
    | refused refused => rw [refused]
  · rintro rfl
    cases given : compiler.text text with
    | ok program => exact .compiled given
    | error complaint => exact .refused given

/-- A text gives one thing. -/
theorem TextYields.unique (h : compiler.TextYields text r) (again : compiler.TextYields text r') :
    r = r' :=
  (textYields_iff.mp h).trans (textYields_iff.mp again).symm

theorem take_eq_magic_iff : b.data.toList.take magic.length = magic ↔ Marked b :=
  eq_comm.trans List.prefix_iff_eq_take.symm

theorem checkHeader_of_short (short : b.size < 8) : checkHeader b = .error .tooSmall :=
  if_pos short

theorem checkHeader_of_unmarked (long : 8 ≤ b.size) (unmarked : ¬ Marked b) :
    checkHeader b = .error .badMagic := by
  have enough : ¬ b.size < headerLength := Nat.not_lt.mpr long
  rw [checkHeader, if_neg enough, if_pos (mt take_eq_magic_iff.mp unmarked)]

theorem checkHeader_of_marked (long : 8 ≤ b.size) (marked : Marked b) :
    checkHeader b = .ok () := by
  have enough : ¬ b.size < headerLength := Nat.not_lt.mpr long
  rw [checkHeader, if_neg enough, if_neg (not_not_intro (take_eq_magic_iff.mpr marked))]

theorem binaryYields_iff : compiler.BinaryYields b r ↔ r = ofBinary compiler b := by
  unfold ofBinary
  constructor
  · intro h
    cases h with
    | short short => rw [checkHeader_of_short short]
    | unmarked long unmarked => rw [checkHeader_of_unmarked long unmarked]
    | compiled long marked taken => simp only [checkHeader_of_marked long marked, taken]
    | refused long marked refused => simp only [checkHeader_of_marked long marked, refused]
  · rintro rfl
    rcases Nat.lt_or_ge b.size 8 with short | long
    · rw [checkHeader_of_short short]
      exact .short short
    · by_cases marked : Marked b
      · rw [checkHeader_of_marked long marked]
        cases given : compiler.binary b with
        | ok program => exact .compiled long marked given
        | error complaint => exact .refused long marked given
      · rw [checkHeader_of_unmarked long marked]
        exact .unmarked long marked

/-! ### Files -/

/-- What a path gives, by what is found there. -/
inductive FileYields (compiler : Compiler) (files : FileTree) (path : String) :
    Except ModuleError CompiledModule → Prop where
  | unreached {fault : FileFault} (fails : files.node path = .error fault) :
      FileYields compiler files path (.error (.file fault))
  | directory (found : files.node path = .ok .directory) :
      FileYields compiler files path (.error (.file .isDirectory))
  /-- The bytes of a text module encode no text. -/
  | undecoded {b : ByteArray} (named : Path.NamesText path)
      (found : files.node path = .ok (.file b)) (undecoded : Text.ofBytes? b = none) :
      FileYields compiler files path (.error (.file .invalidText))
  | text {b : ByteArray} {text : String} {r : Except ModuleError CompiledModule}
      (named : Path.NamesText path) (found : files.node path = .ok (.file b))
      (decoded : Text.ofBytes? b = some text) (yields : compiler.TextYields text r) :
      FileYields compiler files path r
  | binary {b : ByteArray} {r : Except ModuleError CompiledModule}
      (named : ¬ Path.NamesText path) (found : files.node path = .ok (.file b))
      (yields : compiler.BinaryYields b r) : FileYields compiler files path r

theorem fileYields_iff : compiler.FileYields files path r ↔ r = ofFile compiler files path := by
  unfold ofFile FileTree.readText FileTree.read
  constructor
  · intro h
    cases h with
    | unreached fails => simp only [fails, ite_self]
    | directory found => simp only [found, ite_self]
    | undecoded named found undecoded =>
      simp only [if_pos (Path.isTextPath_iff.mpr named), found, undecoded]
    | text named found decoded yields =>
      simp only [if_pos (Path.isTextPath_iff.mpr named), found, decoded]
      exact textYields_iff.mp yields
    | binary named found yields =>
      simp only [Path.isTextPath_eq_false_iff.mpr named, found]
      exact binaryYields_iff.mp yields
  · rintro rfl
    cases found : files.node path with
    | error fault =>
      simp only [ite_self]
      exact .unreached found
    | ok node =>
      cases node with
      | directory =>
        simp only [ite_self]
        exact .directory found
      | file b =>
        by_cases named : Path.NamesText path
        · simp only [if_pos (Path.isTextPath_iff.mpr named)]
          cases decoded : Text.ofBytes? b with
          | none => exact .undecoded named found decoded
          | some text => exact .text named found decoded (textYields_iff.mpr rfl)
        · simp only [Path.isTextPath_eq_false_iff.mpr named]
          exact .binary named found (binaryYields_iff.mpr rfl)

end Compiler

end GuestRoutines
