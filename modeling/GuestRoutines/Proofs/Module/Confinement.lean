import GuestRoutines.Proofs.Files.Entries
import GuestRoutines.Proofs.Module.Lookup
import GuestRoutines.Proofs.Routine.Grammar
import Mathlib.Data.List.Find

/-!
# The files that a catalogue looks at

A name is looked for in a few files only: in each directory of the search path, the binary and the
text that bear the name. They are entries of the directories themselves, since a name has no
separator in it. Whatever else there is among the files, a catalogue answers the same.

## Main definitions

* `Catalog.IsCandidate` — a path at which a name may be found

## Main results

* `Catalog.IsCandidate.inside` — a candidate is an entry of a directory on the search path
* `Catalog.isCandidate_of_locate` — the file that is located is a candidate
* `Catalog.locate_congr`, `Catalog.load_congr` — nothing but the candidates matters
-/

namespace GuestRoutines

theorem CompiledModule.ofFile_congr {compiler : Compiler} {t t' : FileTree} {path : String}
    (same : t'.node path = t.node path) : ofFile compiler t' path = ofFile compiler t path := by
  simp only [ofFile, FileTree.read_congr same, FileTree.readText_congr same]

/-- A name with an extension is the name of an entry. -/
theorem IsName.isEntry {name : String} (named : IsName name) {ending : String}
    (noSlash : '/' ∉ ending.toList) : Path.IsEntry (name ++ ending) := by
  obtain ⟨c, cs, text⟩ : ∃ c cs, name.toList = c :: cs :=
    List.exists_cons_of_ne_nil (by simpa using named.nonempty)
  have letter : Name.Letter c := named.letters c (by simp [text])
  -- The first character is a letter, so that this is no step.
  have other {step : String} (first : ∀ d ∈ step.toList.head?, d = '.') :
      name ++ ending ≠ step := by
    rintro rfl
    exact letter.ne_point (first c (by simp [text]))
  refine ⟨other (by simp), other (by simp), other (by simp [Path.up]), ?_⟩
  simp only [String.toList_append, List.mem_append, not_or]
  exact ⟨fun slash => (named.letters '/' slash).ne_slash rfl, noSlash⟩

namespace Catalog

variable {c : Catalog} {compiler : Compiler} {t t' : FileTree} {searchPath : List String}
  {name path : String}

/-- A path at which a name may be found: a directory of the search path has its binary or its text
there. -/
def IsCandidate (searchPath : List String) (name path : String) : Prop :=
  ∃ dir ∈ searchPath, path = binaryPath dir name ∨ path = textPath dir name

theorem mem_candidates_iff :
    path ∈ candidates searchPath name ↔ IsCandidate searchPath name path := by
  induction searchPath with
  | nil => simp [candidates, IsCandidate]
  | cons dir dirs ih => simp [candidates_cons, ih, IsCandidate, or_assoc]

/-- Where a candidate leads, it leads to an entry of a directory on the search path. The entry is
the name with its extension. -/
theorem IsCandidate.inside (candidate : IsCandidate searchPath name path) (named : IsName name) :
    ∃ dir ∈ searchPath, ∃ ending ∈ [".wasm", ".wat"], ∀ t place n,
      FileTree.locate t path = .ok (place, n) →
        ∃ parent, place = parent ++ [name ++ ending] ∧
          if dir = "" then parent = [] else t.locate dir = .ok (parent, .directory) := by
  obtain ⟨dir, member, rfl | rfl⟩ := candidate
  · refine ⟨dir, member, ".wasm", by simp, fun t place n found => ?_⟩
    exact FileTree.locate_join (named.isEntry (by decide)) found
  · refine ⟨dir, member, ".wat", by simp, fun t place n found => ?_⟩
    exact FileTree.locate_join (named.isEntry (by decide)) found

/-- The file that is located is a candidate of a name. -/
theorem isCandidate_of_locate (located : c.locate t name = some path) :
    IsName name ∧ IsCandidate c.searchPath name path := by
  unfold locate at located
  split at located
  · next valid =>
    exact ⟨Name.isValid_iff.mp valid, mem_candidates_iff.mp (List.mem_of_find?_eq_some located)⟩
  · cases located

/-- Which file is located depends on the candidates of a name, and on nothing if it is no name. -/
theorem locate_congr
    (alike : IsName name → FileTree.AgreeAt (IsCandidate c.searchPath name) t t') :
    c.locate t' name = c.locate t name := by
  unfold locate
  split
  · next valid =>
    apply List.find?_congr
    intro path member
    have candidate := mem_candidates_iff.mp member
    exact FileTree.isFile_congr (alike (Name.isValid_iff.mp valid) path candidate)
  · rfl

theorem fetch_congr
    (alike : IsName name → FileTree.AgreeAt (IsCandidate c.searchPath name) t t') :
    c.fetch compiler t' name = c.fetch compiler t name := by
  unfold fetch
  rw [locate_congr alike]
  cases located : c.locate t name with
  | none => rfl
  | some path =>
    obtain ⟨named, candidate⟩ := isCandidate_of_locate located
    exact CompiledModule.ofFile_congr (alike named path candidate)

/-- What is loaded depends on the candidates of a name, and on nothing if it is no name. -/
theorem load_congr
    (alike : IsName name → FileTree.AgreeAt (IsCandidate c.searchPath name) t t') :
    c.load compiler t' name = c.load compiler t name := by
  unfold load
  rw [fetch_congr alike]

theorem searchPath_load (c : Catalog) (compiler : Compiler) (files : FileTree) (name : String) :
    (c.load compiler files name).2.searchPath = c.searchPath := by
  rcases c.load_cases compiler files name with ⟨e, eq⟩ | ⟨m, eq⟩ | ⟨m, valid, eq⟩
  · rw [eq]
  · rw [eq]
  · rw [eq]
    rfl

/-- A text that is no name is missing, whatever the files are, and nothing is kept under it. -/
theorem load_of_not_name (sound : c.Sound) (unnamed : ¬ IsName name) (files : FileTree) :
    c.load compiler files name = (.error (.notFound name), c) := by
  have invalid : Name.isValid name = false :=
    Bool.eq_false_iff.mpr fun valid => unnamed (Name.isValid_iff.mp valid)
  refine load_of_missing ?_ (.inl invalid)
  rw [← Option.not_isSome_iff_eq_none, ← mem_keys_iff]
  exact fun member => unnamed (Name.isValid_iff.mp (sound.valid name member))

end Catalog

end GuestRoutines
