import GuestRoutines.Module.Catalog
import GuestRoutines.Proofs.Text.Named
import Mathlib.Logic.Function.Basic

/-!
# Kept modules and files on the search path

A name stands for a kept module or for a file. Kept modules are entries of a list, one for each
name, and the file is the first one on the search path.

## Main definitions

* `Catalog.Sound` — every name is kept once, and is the name of a module
* `Catalog.FirstFile`, `Catalog.Missing` — the file that a name is found in, or that there is none

## Main results

* `Catalog.get?_insert`, `Catalog.get?_remove` — what is kept after a change
* `Catalog.Sound.list_sorted`, `Catalog.mem_list_iff`, `Catalog.size_eq_length_list` — the list of
  kept names
* `Catalog.locate_of_firstFile`, `Catalog.locate_of_missing` — the file that is located
* `Catalog.load_of_kept`, `Catalog.load_of_missing`, `Catalog.load_of_found` — the three ways to
  load a module
* `Catalog.get?_load_of_kept`, `Catalog.get?_of_load_ok` — a load keeps what was kept, and what it
  gives
-/

namespace GuestRoutines

/-! ### Errors -/

namespace CompiledModule

variable {compiler : Compiler} {name : String}

theorem ofText_ne_notFound (text : String) : ofText compiler text ≠ .error (.notFound name) := by
  unfold ofText
  split <;> simp

theorem ofBinary_ne_notFound (b : ByteArray) : ofBinary compiler b ≠ .error (.notFound name) := by
  unfold ofBinary
  split
  · simp
  · split <;> simp

/-- A file that is there may be broken, but it is never missing. -/
theorem ofFile_ne_notFound (files : FileTree) (path : String) :
    ofFile compiler files path ≠ .error (.notFound name) := by
  unfold ofFile
  split
  · split
    · exact ofText_ne_notFound _
    · simp
  · split
    · exact ofBinary_ne_notFound _
    · simp

end CompiledModule

namespace Catalog

variable {c : Catalog} {compiler : Compiler} {files : FileTree} {searchPath : List String}
  {name path : String} {m : CompiledModule}

/-! ### Kept modules -/

theorem get?_insert (c : Catalog) (name : String) (m : CompiledModule) :
    (c.insert name m).get? = Function.update c.get? name (some m) := by
  funext other
  rw [get?, insert, List.lookup_cons, lookup_filter_ne, Function.update_apply]
  by_cases same : other = name
  · simp [same]
  · simp [same, beq_eq_false_iff_ne.mpr same, get?]

theorem get?_remove (c : Catalog) (name : String) :
    (c.remove name).2.get? = Function.update c.get? name none := by
  funext other
  rw [Function.update_apply]
  exact lookup_filter_ne name other

/-- The kept names, newest first. -/
def keys (c : Catalog) : List String := c.modules.map (·.1)

theorem mem_keys_iff : name ∈ c.keys ↔ (c.get? name).isSome := mem_map_fst_iff_lookup

theorem keys_insert (c : Catalog) (name : String) (m : CompiledModule) :
    (c.insert name m).keys = name :: c.keys.filter (· != name) :=
  congrArg (name :: ·) (map_fst_filter_ne name)

theorem keys_remove (c : Catalog) (name : String) :
    (c.remove name).2.keys = c.keys.filter (· != name) :=
  map_fst_filter_ne name

/-- Every name is kept once, and is the name of a module. -/
structure Sound (c : Catalog) : Prop where
  once : c.keys.Nodup
  valid : ∀ name ∈ c.keys, Name.isValid name = true

theorem sound_empty (searchPath : List String) : ({ searchPath } : Catalog).Sound :=
  ⟨List.nodup_nil, fun _ => nofun⟩

theorem Sound.insert (h : c.Sound) (valid : Name.isValid name = true) (m : CompiledModule) :
    (c.insert name m).Sound := by
  constructor
  · rw [keys_insert, List.nodup_cons]
    exact ⟨by simp, h.once.filter _⟩
  · intro other member
    rw [keys_insert, List.mem_cons] at member
    rcases member with rfl | earlier
    · exact valid
    · exact h.valid other (List.mem_of_mem_filter earlier)

theorem Sound.remove (h : c.Sound) (name : String) : (c.remove name).2.Sound := by
  constructor
  · rw [keys_remove]
    exact h.once.filter _
  · intro other member
    rw [keys_remove] at member
    exact h.valid other (List.mem_of_mem_filter member)

/-! ### The list of names -/

theorem size_eq_length_list (c : Catalog) : c.list.length = c.size := by
  rw [list, List.length_mergeSort, List.length_map, size]

theorem mem_list_iff : name ∈ c.list ↔ (c.get? name).isSome := by
  rw [list, List.mem_mergeSort]
  exact mem_keys_iff

/-- The list is sorted, and no name is in it twice. -/
theorem Sound.list_sorted (h : c.Sound) : c.list.Pairwise (· < ·) := by
  have once : (c.keys.map id).Nodup := by
    rw [List.map_id]
    exact h.once
  simpa only [list, keys, List.map_id, id] using pairwise_mergeSort id once

/-! ### Files on the search path -/

/-- The path at which a directory may have the binary of a name. -/
def binaryPath (dir name : String) : String := Path.join dir (name ++ ".wasm")

/-- The path at which a directory may have the text of a name. -/
def textPath (dir name : String) : String := Path.join dir (name ++ ".wat")

/-- A directory has no file for a name. What is there may be a directory. -/
def NoFile (files : FileTree) (name dir : String) : Prop :=
  files.isFile (binaryPath dir name) = false ∧ files.isFile (textPath dir name) = false

/-- The first file for a name: directory after directory, and in each one the binary before the
text. -/
inductive FirstFile (files : FileTree) (name : String) : List String → String → Prop where
  | binary {dir : String} {dirs : List String} (file : files.isFile (binaryPath dir name) = true) :
      FirstFile files name (dir :: dirs) (binaryPath dir name)
  | text {dir : String} {dirs : List String} (noBinary : files.isFile (binaryPath dir name) = false)
      (file : files.isFile (textPath dir name) = true) :
      FirstFile files name (dir :: dirs) (textPath dir name)
  | later {dir path : String} {dirs : List String} (none : NoFile files name dir)
      (h : FirstFile files name dirs path) : FirstFile files name (dir :: dirs) path

theorem candidates_cons (dir : String) (dirs : List String) (name : String) :
    candidates (dir :: dirs) name =
      binaryPath dir name :: textPath dir name :: candidates dirs name := by
  have ending (e : String) : name ++ "." ++ e = name ++ ("." ++ e) := String.append_assoc
  simp only [candidates, List.flatMap_cons, extensions, List.map_cons, List.map_nil, ending]
  rfl

theorem FirstFile.find?_eq (h : FirstFile files name searchPath path) :
    (candidates searchPath name).find? files.isFile = some path := by
  induction h with
  | binary file => rw [candidates_cons, List.find?_cons_of_pos file]
  | text noBinary file =>
    rw [candidates_cons, List.find?_cons_of_neg (by simp [noBinary]), List.find?_cons_of_pos file]
  | later none h ih =>
    rw [candidates_cons, List.find?_cons_of_neg (by simp [none.1]),
      List.find?_cons_of_neg (by simp [none.2]), ih]

/-- There is a first file, or none at all. -/
theorem exists_firstFile_or (files : FileTree) (name : String) (searchPath : List String) :
    (∃ path, FirstFile files name searchPath path) ∨
      ∀ dir ∈ searchPath, NoFile files name dir := by
  induction searchPath with
  | nil => exact .inr fun _ => nofun
  | cons dir dirs ih =>
    by_cases binary : files.isFile (binaryPath dir name) = true
    · exact .inl ⟨_, .binary binary⟩
    · by_cases text : files.isFile (textPath dir name) = true
      · exact .inl ⟨_, .text (Bool.eq_false_iff.mpr binary) text⟩
      · have none : NoFile files name dir :=
          ⟨Bool.eq_false_iff.mpr binary, Bool.eq_false_iff.mpr text⟩
        rcases ih with ⟨path, h⟩ | never
        · exact .inl ⟨path, .later none h⟩
        · exact .inr (List.forall_mem_cons.mpr ⟨none, never⟩)

theorem find?_candidates_of_noFile (never : ∀ dir ∈ searchPath, NoFile files name dir) :
    (candidates searchPath name).find? files.isFile = none := by
  induction searchPath with
  | nil => rfl
  | cons dir dirs ih =>
    obtain ⟨none, later⟩ := List.forall_mem_cons.mp never
    rw [candidates_cons, List.find?_cons_of_neg (by simp [none.1]),
      List.find?_cons_of_neg (by simp [none.2]), ih later]

theorem FirstFile.unique {other : String} (h : FirstFile files name searchPath path)
    (again : FirstFile files name searchPath other) : other = path :=
  Option.some.inj (again.find?_eq.symm.trans h.find?_eq)

theorem FirstFile.exists_mem (h : FirstFile files name searchPath path) :
    ∃ dir ∈ searchPath, ¬ NoFile files name dir := by
  induction h with
  | binary file => exact ⟨_, List.mem_cons_self, fun none => by simp [none.1] at file⟩
  | text noBinary file => exact ⟨_, List.mem_cons_self, fun none => by simp [none.2] at file⟩
  | later none h ih =>
    obtain ⟨dir, member, some⟩ := ih
    exact ⟨dir, List.mem_cons_of_mem _ member, some⟩

/-- A name is missing: it is no name of a module, or no directory has a file for it. -/
def Missing (files : FileTree) (searchPath : List String) (name : String) : Prop :=
  Name.isValid name = false ∨ ∀ dir ∈ searchPath, NoFile files name dir

theorem locate_of_firstFile (valid : Name.isValid name = true)
    (found : FirstFile files name c.searchPath path) : c.locate files name = some path := by
  rw [locate, if_pos valid, found.find?_eq]

theorem locate_of_missing (missing : Missing files c.searchPath name) :
    c.locate files name = none := by
  unfold locate
  rcases missing with invalid | never
  · rw [if_neg (by simp [invalid])]
  · split
    · exact find?_candidates_of_noFile never
    · rfl

theorem FirstFile.not_missing (found : FirstFile files name searchPath path)
    (valid : Name.isValid name = true) : ¬ Missing files searchPath name := by
  rintro (invalid | never)
  · simp [valid] at invalid
  · obtain ⟨dir, member, some⟩ := found.exists_mem
    exact some (never dir member)

/-- A name is found in a file, or it is missing. -/
theorem exists_firstFile_or_missing (files : FileTree) (searchPath : List String)
    (name : String) :
    (∃ path, Name.isValid name = true ∧ FirstFile files name searchPath path) ∨
      Missing files searchPath name := by
  by_cases valid : Name.isValid name = true
  · rcases exists_firstFile_or files name searchPath with ⟨path, found⟩ | never
    · exact .inl ⟨path, valid, found⟩
    · exact .inr (.inr never)
  · exact .inr (.inl (Bool.eq_false_iff.mpr valid))

/-! ### Registering and loading -/

theorem register_of_invalid (invalid : Name.isValid name = false) (text : String) :
    c.register compiler name text = (.error (.notFound name), c) := by
  rw [register, if_neg (by simp [invalid])]

/-- A text that compiles takes the place of whatever was kept, and one that does not changes
nothing. -/
theorem register_of_valid (valid : Name.isValid name = true) (text : String) :
    c.register compiler name text = (CompiledModule.ofText compiler text,
      match CompiledModule.ofText compiler text with
      | .ok m => c.insert name m
      | .error _ => c) := by
  rw [register, if_pos valid]
  cases CompiledModule.ofText compiler text <;> rfl

/-- A kept module is served, whatever the files are. -/
theorem load_of_kept (kept : c.get? name = some m) : c.load compiler files name = (.ok m, c) := by
  rw [load, kept]

theorem load_of_missing (absent : c.get? name = none)
    (missing : Missing files c.searchPath name) :
    c.load compiler files name = (.error (.notFound name), c) := by
  rw [load, absent, fetch, locate_of_missing missing]

/-- The first file decides: its module is kept from now on, or its fault is told and nothing
changes. -/
theorem load_of_found (absent : c.get? name = none) (valid : Name.isValid name = true)
    (found : FirstFile files name c.searchPath path) :
    c.load compiler files name = (CompiledModule.ofFile compiler files path,
      match CompiledModule.ofFile compiler files path with
      | .ok m => c.insert name m
      | .error _ => c) := by
  have fetched : c.fetch compiler files name = CompiledModule.ofFile compiler files path := by
    rw [fetch, locate_of_firstFile valid found]
  simp only [load, absent, fetched]
  cases CompiledModule.ofFile compiler files path with
  | error e => rfl
  | ok m => simp only [insertIfAbsent, absent]

/-- What registering can do: it fails and changes nothing, or the module is kept. -/
theorem register_cases (c : Catalog) (compiler : Compiler) (name text : String) :
    (∃ e, c.register compiler name text = (.error e, c)) ∨
      ∃ m, Name.isValid name = true ∧ CompiledModule.ofText compiler text = .ok m ∧
        c.register compiler name text = (.ok m, c.insert name m) := by
  by_cases valid : Name.isValid name = true
  · rw [register_of_valid valid]
    cases compiled : CompiledModule.ofText compiler text with
    | error e => exact .inl ⟨e, rfl⟩
    | ok m => exact .inr ⟨m, valid, rfl, rfl⟩
  · exact .inl ⟨_, register_of_invalid (Bool.eq_false_iff.mpr valid) text⟩

/-- What loading can do: it fails and changes nothing, or it serves a module, and keeps it if it was
not kept before. -/
theorem load_cases (c : Catalog) (compiler : Compiler) (files : FileTree) (name : String) :
    (∃ e, c.load compiler files name = (.error e, c)) ∨
      (∃ m, c.load compiler files name = (.ok m, c)) ∨
        ∃ m, Name.isValid name = true ∧
          c.load compiler files name = (.ok m, c.insert name m) := by
  cases present : c.get? name with
  | some m => exact .inr (.inl ⟨m, load_of_kept present⟩)
  | none =>
    rcases exists_firstFile_or_missing files c.searchPath name with ⟨path, valid, found⟩ | missing
    · rw [load_of_found present valid found]
      cases CompiledModule.ofFile compiler files path with
      | error e => exact .inl ⟨e, rfl⟩
      | ok m => exact .inr (.inr ⟨m, valid, rfl⟩)
    · exact .inl ⟨_, load_of_missing present missing⟩

/-- A kept module stays, whatever else is loaded. -/
theorem get?_load_of_kept (kept : c.get? name = some m) (compiler : Compiler) (files : FileTree)
    (other : String) : (c.load compiler files other).2.get? name = some m := by
  cases present : c.get? other with
  | some m' => rwa [load_of_kept present]
  | none =>
    have different : name ≠ other := by
      rintro rfl
      cases present.symm.trans kept
    simp only [load, present]
    cases c.fetch compiler files other with
    | error e => exact kept
    | ok fetched =>
      simp only [insertIfAbsent, present]
      rw [get?_insert, Function.update_of_ne different, kept]

/-- A module that is served is kept from then on. -/
theorem get?_of_load_ok (served : (c.load compiler files name).1 = .ok m) :
    (c.load compiler files name).2.get? name = some m := by
  cases present : c.get? name with
  | some kept =>
    rw [load_of_kept present] at served ⊢
    exact present.trans (congrArg some (Except.ok.inj served))
  | none =>
    simp only [load, present] at served ⊢
    cases fetched : c.fetch compiler files name with
    | error e =>
      rw [fetched] at served
      cases served
    | ok kept =>
      rw [fetched] at served
      simp only [insertIfAbsent, present] at served ⊢
      rw [get?_insert, Function.update_self]
      exact congrArg some (Except.ok.inj served)

/-- A name is reported as not found exactly if it is missing. -/
theorem load_eq_notFound_iff (absent : c.get? name = none) :
    (∃ id, (c.load compiler files name).1 = .error (.notFound id)) ↔
      Missing files c.searchPath name := by
  constructor
  · rintro ⟨id, told⟩
    rcases exists_firstFile_or_missing files c.searchPath name with ⟨path, valid, found⟩ | missing
    · rw [load_of_found absent valid found] at told
      exact absurd told (CompiledModule.ofFile_ne_notFound files path)
    · exact missing
  · intro missing
    exact ⟨name, by rw [load_of_missing absent missing]⟩

end Catalog

end GuestRoutines
