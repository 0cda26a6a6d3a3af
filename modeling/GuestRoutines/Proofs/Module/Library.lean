import GuestRoutines.Embedding.Modules
import GuestRoutines.Proofs.Module.Compilation
import GuestRoutines.Proofs.Module.Confinement

/-!
# A catalogue and its files

A catalogue is used one operation after the other, and the files beside it may change in between.
What an operation answers and what it changes is told by a rule that knows nothing of how modules
are kept and compiled: the kept module comes first, then the first file on the search path, and what
that file gives is said of its name and its bytes.

## Main definitions

* `Library` — a catalogue, with the files beside it
* `Library.Operation`, `Library.answer`, `Library.performAll` — what is done with it
* `Library.Follows` — the rule

## Main results

* `Library.follows_perform`, `Library.Follows.unique` — an operation does what the rule says, and
  the rule leaves no choice
* `Library.get?_performAll` — an entry stays until its name is registered again or removed
* `Library.performAll_of_registerAll` — a launch registers the modules that it is given
* `Library.kept_first_then_first_file` — all of it, for every run
* `Library.kept_first_then_first_file_broken` — two files that are broken, with others behind them
-/

namespace GuestRoutines

/-- A catalogue, with the files beside it. -/
structure Library where
  catalog : Catalog
  files : FileTree

namespace Library

/-- What is done with a library. -/
inductive Operation where
  | register (name text : String)
  | load (name : String)
  | get (name : String)
  | remove (name : String)
  | list
  /-- The files are changed by whoever can. -/
  | change (files : FileTree)

/-- What an operation answers. -/
inductive Answer where
  | module (r : Except ModuleError CompiledModule)
  | kept (m : Option CompiledModule)
  | removed (was : Bool)
  | names (l : List String)
  | nothing

variable {compiler : Compiler} {l : Library}

/-- What an operation answers in a library. -/
def answer (compiler : Compiler) (l : Library) : Operation → Answer
  | .register name text => .module (l.catalog.register compiler name text).1
  | .load name => .module (l.catalog.load compiler l.files name).1
  | .get name => .kept (l.catalog.get? name)
  | .remove name => .removed (l.catalog.remove name).1
  | .list => .names l.catalog.list
  | .change _ => .nothing

/-- The library after an operation. -/
def perform (compiler : Compiler) (l : Library) : Operation → Library
  | .register name text => { l with catalog := (l.catalog.register compiler name text).2 }
  | .load name => { l with catalog := (l.catalog.load compiler l.files name).2 }
  | .get _ | .list => l
  | .remove name => { l with catalog := (l.catalog.remove name).2 }
  | .change files => { l with files }

/-- The library after some operations, one after the other. -/
def performAll (compiler : Compiler) (l : Library) (ops : List Operation) : Library :=
  ops.foldl (perform compiler) l

@[simp] theorem performAll_cons (compiler : Compiler) (l : Library) (op : Operation)
    (ops : List Operation) :
    l.performAll compiler (op :: ops) = (l.perform compiler op).performAll compiler ops := rfl

@[simp] theorem performAll_append (compiler : Compiler) (l : Library)
    (ops more : List Operation) :
    l.performAll compiler (ops ++ more) =
      (l.performAll compiler ops).performAll compiler more :=
  List.foldl_append

/-- The operation may put something in the place of what is kept under a name, or take it away. -/
def Operation.Replaces (name : String) : Operation → Prop
  | register other _ | remove other => other = name
  | _ => False

/-- The operation is about a name. -/
def Operation.Concerns (name : String) : Operation → Prop
  | register other _ | load other | remove other => other = name
  | _ => False

/-! ### The rule -/

/-- What an operation answers, and what is kept and which files are there afterwards. Modules are
kept by name, in no order. -/
inductive Follows (compiler : Compiler) (searchPath : List String)
    (kept : String → Option CompiledModule) (files : FileTree) :
    Operation → Answer → (String → Option CompiledModule) → FileTree → Prop where
  /-- A kept module is served, and the files do not matter. -/
  | hit {name : String} {m : CompiledModule} (present : kept name = some m) :
      Follows compiler searchPath kept files (.load name) (.module (.ok m)) kept files
  | missed {name : String} (absent : kept name = none)
      (missing : Catalog.Missing files searchPath name) :
      Follows compiler searchPath kept files (.load name)
        (.module (.error (.notFound name))) kept files
  | loaded {name path : String} {m : CompiledModule} (absent : kept name = none)
      (valid : Name.isValid name = true) (found : Catalog.FirstFile files name searchPath path)
      (compiled : compiler.FileYields files path (.ok m)) :
      Follows compiler searchPath kept files (.load name) (.module (.ok m))
        (Function.update kept name (some m)) files
  /-- No other file is tried, and nothing is kept. -/
  | broken {name path : String} {e : ModuleError} (absent : kept name = none)
      (valid : Name.isValid name = true) (found : Catalog.FirstFile files name searchPath path)
      (refused : compiler.FileYields files path (.error e)) :
      Follows compiler searchPath kept files (.load name) (.module (.error e)) kept files
  | registered {name text : String} {m : CompiledModule} (valid : Name.isValid name = true)
      (compiled : compiler.TextYields text (.ok m)) :
      Follows compiler searchPath kept files (.register name text) (.module (.ok m))
        (Function.update kept name (some m)) files
  | misnamed {name text : String} (invalid : Name.isValid name = false) :
      Follows compiler searchPath kept files (.register name text)
        (.module (.error (.notFound name))) kept files
  | uncompiled {name text : String} {e : ModuleError} (valid : Name.isValid name = true)
      (refused : compiler.TextYields text (.error e)) :
      Follows compiler searchPath kept files (.register name text) (.module (.error e)) kept files
  | got {name : String} :
      Follows compiler searchPath kept files (.get name) (.kept (kept name)) kept files
  | removed {name : String} :
      Follows compiler searchPath kept files (.remove name) (.removed (kept name).isSome)
        (Function.update kept name none) files
  /-- The kept names are listed in order, each of them once. -/
  | listed {names : List String} (sorted : names.Pairwise (· < ·))
      (complete : ∀ name, name ∈ names ↔ (kept name).isSome) :
      Follows compiler searchPath kept files .list (.names names) kept files
  | changed {files' : FileTree} :
      Follows compiler searchPath kept files (.change files') .nothing kept files'

theorem eq_of_sorted {names other : List String} (sorted : names.Pairwise (· < ·))
    (sorted' : other.Pairwise (· < ·)) (same : ∀ name, name ∈ names ↔ name ∈ other) :
    names = other := by
  have once {l : List String} (h : l.Pairwise (· < ·)) : l.Nodup := by
    refine h.imp ?_
    rintro a b lt rfl
    exact String.lt_irrefl a lt
  have perm : names.Perm other :=
    (List.perm_ext_iff_of_nodup (once sorted) (once sorted')).mpr same
  refine perm.eq_of_pairwise (fun a b _ _ ab ba => ?_) sorted sorted'
  exact absurd (String.lt_trans ab ba) (String.lt_irrefl a)

variable {searchPath : List String} {kept after after' : String → Option CompiledModule}
  {files files₁ files₂ : FileTree} {op : Operation} {a a' : Answer} {name : String}
  {m : CompiledModule}

/-- A name that is not kept is missing, or else the first file decides. -/
theorem Follows.load_absent (absent : kept name = none)
    (h : Follows compiler searchPath kept files (.load name) a after files₁) :
    (Catalog.Missing files searchPath name ∧ a = .module (.error (.notFound name)) ∧
        after = kept ∧ files₁ = files) ∨
      ∃ path, Name.isValid name = true ∧ Catalog.FirstFile files name searchPath path ∧
        a = .module (CompiledModule.ofFile compiler files path) ∧ files₁ = files ∧
        after = match CompiledModule.ofFile compiler files path with
          | .ok m => Function.update kept name (some m)
          | .error _ => kept := by
  cases h with
  | hit present => simp [absent] at present
  | missed absent missing => exact .inl ⟨missing, rfl, rfl, rfl⟩
  | loaded absent valid found compiled =>
    have same := Compiler.fileYields_iff.mp compiled
    exact .inr ⟨_, valid, found, by rw [← same], rfl, by rw [← same]⟩
  | broken absent valid found refused =>
    have same := Compiler.fileYields_iff.mp refused
    exact .inr ⟨_, valid, found, by rw [← same], rfl, by rw [← same]⟩

theorem Follows.unique_load (h : Follows compiler searchPath kept files (.load name) a after files₁)
    (h' : Follows compiler searchPath kept files (.load name) a' after' files₂) :
    a' = a ∧ after' = after ∧ files₂ = files₁ := by
  cases present : kept name with
  | some m =>
    cases h with
    | hit served =>
      cases h' with
      | hit served' =>
        obtain rfl := Option.some.inj (served.symm.trans served')
        exact ⟨rfl, rfl, rfl⟩
      | missed absent | loaded absent | broken absent => simp [present] at absent
    | missed absent | loaded absent | broken absent => simp [present] at absent
  | none =>
    -- The name is missing or found, and it is found in one file only.
    rcases h.load_absent present with ⟨missing, rfl, rfl, rfl⟩ | ⟨path, valid, found, rfl, rfl, rfl⟩
    · rcases h'.load_absent present with ⟨-, rfl, rfl, rfl⟩ | ⟨path, valid, found, -⟩
      · exact ⟨rfl, rfl, rfl⟩
      · exact absurd missing (found.not_missing valid)
    · rcases h'.load_absent present with ⟨missing, -⟩ | ⟨path', -, found', rfl, rfl, rfl⟩
      · exact absurd missing (found.not_missing valid)
      · obtain rfl := found.unique found'
        exact ⟨rfl, rfl, rfl⟩

theorem Follows.unique_register {text : String}
    (h : Follows compiler searchPath kept files (.register name text) a after files₁)
    (h' : Follows compiler searchPath kept files (.register name text) a' after' files₂) :
    a' = a ∧ after' = after ∧ files₂ = files₁ := by
  cases h with
  | registered valid compiled =>
    cases h' with
    | registered valid' compiled' =>
      obtain rfl := Except.ok.inj (compiled'.unique compiled)
      exact ⟨rfl, rfl, rfl⟩
    | misnamed invalid => simp [valid] at invalid
    | uncompiled valid' refused => simpa using refused.unique compiled
  | misnamed invalid =>
    cases h' with
    | registered valid' compiled' => simp [invalid] at valid'
    | misnamed invalid' => exact ⟨rfl, rfl, rfl⟩
    | uncompiled valid' refused => simp [invalid] at valid'
  | uncompiled valid refused =>
    cases h' with
    | registered valid' compiled' => simpa using compiled'.unique refused
    | misnamed invalid => simp [valid] at invalid
    | uncompiled valid' refused' =>
      obtain rfl := Except.error.inj (refused'.unique refused)
      exact ⟨rfl, rfl, rfl⟩

/-- The rule leaves no choice. -/
theorem Follows.unique (h : Follows compiler searchPath kept files op a after files₁)
    (h' : Follows compiler searchPath kept files op a' after' files₂) :
    a' = a ∧ after' = after ∧ files₂ = files₁ := by
  cases op with
  | load name => exact h.unique_load h'
  | register name text => exact h.unique_register h'
  | get name =>
    cases h
    cases h'
    exact ⟨rfl, rfl, rfl⟩
  | remove name =>
    cases h
    cases h'
    exact ⟨rfl, rfl, rfl⟩
  | list =>
    cases h with
    | listed sorted complete =>
      cases h' with
      | listed sorted' complete' =>
        have members (name : String) := (complete' name).trans (complete name).symm
        have same := eq_of_sorted sorted' sorted members
        exact ⟨by rw [same], rfl, rfl⟩
  | change files' =>
    cases h
    cases h'
    exact ⟨rfl, rfl, rfl⟩

/-- A kept module stays, unless the operation may replace it. -/
theorem Follows.kept_of_present (h : Follows compiler searchPath kept files op a after files₁)
    (present : kept name = some m) (other : ¬ op.Replaces name) : after name = some m := by
  cases h with
  | loaded absent valid found compiled =>
    -- A name that is loaded was not kept before, so it is another one.
    rw [Function.update_of_ne ?_, present]
    rintro rfl
    simp [absent] at present
  | registered valid compiled => rw [Function.update_of_ne (fun same => other same.symm), present]
  | removed => rw [Function.update_of_ne (fun same => other same.symm), present]
  | _ => exact present

/-- What is kept under a name changes only by an operation about that name. -/
theorem Follows.kept_of_not_concerns
    (h : Follows compiler searchPath kept files op a after files₁) (other : ¬ op.Concerns name) :
    after name = kept name := by
  cases h with
  | loaded absent valid found compiled =>
    exact Function.update_of_ne (fun same => other same.symm) _ _
  | registered valid compiled => exact Function.update_of_ne (fun same => other same.symm) _ _
  | removed => exact Function.update_of_ne (fun same => other same.symm) _ _
  | _ => rfl

/-! ### Operations follow the rule -/

theorem follows_load (compiler : Compiler) (l : Library) (name : String) :
    Follows compiler l.catalog.searchPath l.catalog.get? l.files (.load name)
      (l.answer compiler (.load name)) (l.perform compiler (.load name)).catalog.get?
      l.files := by
  rw [answer, perform]
  cases present : l.catalog.get? name with
  | some m =>
    rw [Catalog.load_of_kept present]
    exact .hit present
  | none =>
    rcases Catalog.exists_firstFile_or_missing l.files l.catalog.searchPath name with
      ⟨path, valid, found⟩ | missing
    · rw [Catalog.load_of_found present valid found]
      cases compiled : CompiledModule.ofFile compiler l.files path with
      | ok m =>
        dsimp only
        rw [Catalog.get?_insert]
        exact .loaded present valid found (Compiler.fileYields_iff.mpr compiled.symm)
      | error e => exact .broken present valid found (Compiler.fileYields_iff.mpr compiled.symm)
    · rw [Catalog.load_of_missing present missing]
      exact .missed present missing

theorem follows_register (compiler : Compiler) (l : Library) (name text : String) :
    Follows compiler l.catalog.searchPath l.catalog.get? l.files (.register name text)
      (l.answer compiler (.register name text))
      (l.perform compiler (.register name text)).catalog.get? l.files := by
  rw [answer, perform]
  by_cases valid : Name.isValid name = true
  · rw [Catalog.register_of_valid valid]
    cases compiled : CompiledModule.ofText compiler text with
    | ok m =>
      dsimp only
      rw [Catalog.get?_insert]
      exact .registered valid (Compiler.textYields_iff.mpr compiled.symm)
    | error e => exact .uncompiled valid (Compiler.textYields_iff.mpr compiled.symm)
  · have invalid : Name.isValid name = false := Bool.eq_false_iff.mpr valid
    rw [Catalog.register_of_invalid invalid]
    exact .misnamed invalid

/-- Every operation follows the rule. -/
theorem follows_perform (compiler : Compiler) (sound : l.catalog.Sound) (op : Operation) :
    Follows compiler l.catalog.searchPath l.catalog.get? l.files op (l.answer compiler op)
      (l.perform compiler op).catalog.get? (l.perform compiler op).files := by
  cases op with
  | register name text => exact follows_register compiler l name text
  | load name => exact follows_load compiler l name
  | get name => exact .got
  | remove name =>
    rw [perform, Catalog.get?_remove]
    exact .removed
  | list => exact .listed sound.list_sorted fun name => Catalog.mem_list_iff
  | change files => exact .changed

/-- What an operation can do to the catalogue. -/
theorem catalog_perform (compiler : Compiler) (l : Library) (op : Operation) :
    (l.perform compiler op).catalog = l.catalog ∨
      (∃ name m, Name.isValid name = true ∧
        (l.perform compiler op).catalog = l.catalog.insert name m) ∨
      ∃ name, (l.perform compiler op).catalog = (l.catalog.remove name).2 := by
  cases op with
  | register name text =>
    rw [perform]
    rcases l.catalog.register_cases compiler name text with ⟨e, eq⟩ | ⟨m, valid, -, eq⟩
    · exact .inl (by rw [eq])
    · exact .inr (.inl ⟨name, m, valid, by rw [eq]⟩)
  | load name =>
    rw [perform]
    rcases l.catalog.load_cases compiler l.files name with ⟨e, eq⟩ | ⟨m, eq⟩ | ⟨m, valid, eq⟩
    · exact .inl (by rw [eq])
    · exact .inl (by rw [eq])
    · exact .inr (.inl ⟨name, m, valid, by rw [eq]⟩)
  | remove name => exact .inr (.inr ⟨name, rfl⟩)
  | get name => exact .inl rfl
  | list => exact .inl rfl
  | change files => exact .inl rfl

theorem searchPath_perform (compiler : Compiler) (l : Library) (op : Operation) :
    (l.perform compiler op).catalog.searchPath = l.catalog.searchPath := by
  rcases catalog_perform compiler l op with eq | ⟨name, m, valid, eq⟩ | ⟨name, eq⟩
  · rw [eq]
  · rw [eq]
    rfl
  · rw [eq]
    rfl

theorem sound_perform (compiler : Compiler) (sound : l.catalog.Sound) (op : Operation) :
    (l.perform compiler op).catalog.Sound := by
  rcases catalog_perform compiler l op with eq | ⟨name, m, valid, eq⟩ | ⟨name, eq⟩
  · rwa [eq]
  · rw [eq]
    exact sound.insert valid m
  · rw [eq]
    exact sound.remove name

/-- An operation that fails changes nothing. -/
theorem perform_of_error {e : ModuleError}
    (failed : l.answer compiler op = .module (.error e)) : l.perform compiler op = l := by
  cases op with
  | register name text =>
    rw [answer] at failed
    rw [perform]
    rcases l.catalog.register_cases compiler name text with ⟨e', eq⟩ | ⟨m, -, -, eq⟩
    · rw [eq]
    · simp [eq] at failed
  | load name =>
    rw [answer] at failed
    rw [perform]
    rcases l.catalog.load_cases compiler l.files name with ⟨e', eq⟩ | ⟨m, eq⟩ | ⟨m, valid, eq⟩
    · rw [eq]
    · simp [eq] at failed
    · simp [eq] at failed
  | remove name => cases failed
  | get name => cases failed
  | list => cases failed
  | change files => cases failed

/-! ### Runs -/

theorem sound_performAll (compiler : Compiler) (sound : l.catalog.Sound) (ops : List Operation) :
    (l.performAll compiler ops).catalog.Sound := by
  induction ops generalizing l with
  | nil => exact sound
  | cons op ops ih => exact ih (sound_perform compiler sound op)

theorem searchPath_performAll (compiler : Compiler) (l : Library) (ops : List Operation) :
    (l.performAll compiler ops).catalog.searchPath = l.catalog.searchPath := by
  induction ops generalizing l with
  | nil => rfl
  | cons op ops ih => rw [performAll_cons, ih, searchPath_perform]

/-- An entry stays until its name is registered again or removed. -/
theorem get?_performAll (compiler : Compiler) (sound : l.catalog.Sound)
    (present : l.catalog.get? name = some m) {ops : List Operation}
    (others : ∀ op ∈ ops, ¬ op.Replaces name) :
    (l.performAll compiler ops).catalog.get? name = some m := by
  induction ops generalizing l with
  | nil => exact present
  | cons op ops ih =>
    obtain ⟨other, later⟩ := List.forall_mem_cons.mp others
    have still := (follows_perform compiler sound op).kept_of_present present other
    exact ih (sound_perform compiler sound op) still later

theorem get?_performAll_of_not_concerns (compiler : Compiler) (sound : l.catalog.Sound)
    {ops : List Operation} (others : ∀ op ∈ ops, ¬ op.Concerns name) :
    (l.performAll compiler ops).catalog.get? name = l.catalog.get? name := by
  induction ops generalizing l with
  | nil => rfl
  | cons op ops ih =>
    obtain ⟨other, later⟩ := List.forall_mem_cons.mp others
    rw [performAll_cons, ih (sound_perform compiler sound op) later,
      (follows_perform compiler sound op).kept_of_not_concerns other]

/-! ### A launch -/

/-- The modules that a launch is given, as operations. -/
def registrations (given : List (String × String)) : List Operation :=
  given.map fun entry => .register entry.1 entry.2

/-- A launch registers the modules that it is given, one after the other, and each of them
compiles. -/
theorem performAll_of_registerAll {c last : Catalog} {given : List (String × String)}
    (h : ModuleRuntime.registerAll compiler c given = .ok last) (files : FileTree) :
    performAll compiler ⟨c, files⟩ (registrations given) = ⟨last, files⟩ := by
  induction given generalizing c with
  | nil =>
    cases h
    rfl
  | cons entry rest ih =>
    obtain ⟨name, text⟩ := entry
    rcases c.register_cases compiler name text with ⟨e, eq⟩ | ⟨m, valid, compiled, eq⟩
    · simp [ModuleRuntime.registerAll, eq] at h
    · simp only [ModuleRuntime.registerAll, eq] at h
      rw [registrations, List.map_cons, performAll_cons, perform, eq]
      exact ih h

theorem exists_of_registerAll_append {c last : Catalog} {before after : List (String × String)}
    (h : ModuleRuntime.registerAll compiler c (before ++ after) = .ok last) :
    ∃ mid, ModuleRuntime.registerAll compiler c before = .ok mid ∧
      ModuleRuntime.registerAll compiler mid after = .ok last := by
  induction before generalizing c with
  | nil => exact ⟨c, rfl, h⟩
  | cons entry rest ih =>
    obtain ⟨name, text⟩ := entry
    rcases c.register_cases compiler name text with ⟨e, eq⟩ | ⟨m, valid, compiled, eq⟩
    · simp [ModuleRuntime.registerAll, eq] at h
    · simp only [List.cons_append, ModuleRuntime.registerAll, eq] at h ⊢
      exact ih h

theorem registerAll_of_launch {given : List (String × String)} {params : StartupParams}
    {r : ModuleRuntime} (launched : ModuleRuntime.launch compiler given params files = .ok r) :
    ModuleRuntime.registerAll (compiler.within params.runtime.engine)
      { searchPath := params.modulePath } given = .ok r.catalog := by
  unfold ModuleRuntime.launch at launched
  split at launched
  · cases launched
  · dsimp only at launched
    split at launched
    · cases launched
    · split at launched
      · next catalog registered =>
        cases launched
        exact registered
      · cases launched

/-- A name that is given stands for the module of its last text. -/
theorem get?_of_registerAll {c last : Catalog} (sound : c.Sound)
    {before after : List (String × String)} {text : String}
    (h : ModuleRuntime.registerAll compiler c (before ++ (name, text) :: after) = .ok last)
    (others : ∀ entry ∈ after, entry.1 ≠ name) :
    ∃ m, compiler.TextYields text (.ok m) ∧ last.get? name = some m := by
  obtain ⟨mid, first, rest⟩ := exists_of_registerAll_append h
  have sound' : mid.Sound := by
    have run := sound_performAll compiler (l := ⟨c, .empty⟩) sound (registrations before)
    rwa [performAll_of_registerAll first .empty] at run
  rcases mid.register_cases compiler name text with ⟨e, eq⟩ | ⟨m, valid, compiled, eq⟩
  · simp [ModuleRuntime.registerAll, eq] at rest
  · simp only [ModuleRuntime.registerAll, eq] at rest
    refine ⟨m, Compiler.textYields_iff.mpr compiled.symm, ?_⟩
    -- The module is kept when the others are registered, and they are of other names.
    have kept : (mid.insert name m).get? name = some m := by
      rw [Catalog.get?_insert, Function.update_self]
    have unreplaced : ∀ op ∈ registrations after, ¬ op.Replaces name := by
      intro op member
      obtain ⟨entry, inside, rfl⟩ := List.mem_map.mp member
      exact others entry inside
    have run := get?_performAll compiler (l := ⟨mid.insert name m, .empty⟩) (sound'.insert valid m)
      kept unreplaced
    rwa [performAll_of_registerAll rest .empty] at run

theorem get?_of_registerAll_of_not_given {c last : Catalog} (sound : c.Sound)
    {given : List (String × String)}
    (h : ModuleRuntime.registerAll compiler c given = .ok last)
    (others : ∀ entry ∈ given, entry.1 ≠ name) : last.get? name = c.get? name := by
  have unconcerned : ∀ op ∈ registrations given, ¬ op.Concerns name := by
    intro op member
    obtain ⟨entry, inside, rfl⟩ := List.mem_map.mp member
    exact others entry inside
  have run := get?_performAll_of_not_concerns compiler (l := ⟨c, .empty⟩) sound unconcerned
  rwa [performAll_of_registerAll h .empty] at run

/-! ### Every run -/

/-- **Kept modules first, then the first file on the search path.** Whatever is done with a
catalogue, however the files change in between, and whatever the compiler takes and refuses. -/
theorem kept_first_then_first_file (compiler : Compiler) (searchPath : List String)
    (files : FileTree) (ops : List Operation) :
    let l := performAll compiler ⟨{ searchPath }, files⟩ ops
    -- An operation answers and changes what the rule says, and nothing else follows the rule.
    (∀ op a kept files',
      Follows compiler searchPath l.catalog.get? l.files op a kept files' ↔
        a = l.answer compiler op ∧ kept = (l.perform compiler op).catalog.get? ∧
          files' = (l.perform compiler op).files) ∧
    -- A file gives what its name and its bytes say. By their names, candidates are binaries and
    -- texts.
    (∀ files' path, FileTree.isFile files' path = true ↔ ∃ b, files'.node path = .ok (.file b)) ∧
    (∀ files' path r,
      compiler.FileYields files' path r ↔ r = CompiledModule.ofFile compiler files' path) ∧
    (∀ dir name, Name.isValid name = true →
      ¬ Path.NamesText (Catalog.binaryPath dir name) ∧
        Path.NamesText (Catalog.textPath dir name)) ∧
    -- A kept module is served from any files, and any other name is not found when it is missing.
    (∀ name m files', l.catalog.get? name = some m →
      l.catalog.load compiler files' name = (.ok m, l.catalog)) ∧
    (∀ name files', l.catalog.get? name = none →
      ((∃ id, (l.catalog.load compiler files' name).1 = .error (.notFound id)) ↔
        Catalog.Missing files' searchPath name)) ∧
    -- An operation that fails changes nothing, and an entry is changed by registering or removing.
    (∀ op e, l.answer compiler op = .module (.error e) → l.perform compiler op = l) ∧
    (∀ op name m, l.catalog.get? name = some m →
      (l.perform compiler op).catalog.get? name ≠ some m → op.Replaces name) ∧
    (∀ more name m, l.catalog.get? name = some m → (∀ op ∈ more, ¬ op.Replaces name) →
      (l.performAll compiler more).catalog.get? name = some m) ∧
    -- The kept names are names of modules, and they are listed in order, each of them once.
    (∀ name, Name.isValid name = true ↔ IsName name) ∧
    (∀ name, (l.catalog.get? name).isSome → Name.isValid name = true) ∧
    (∀ name, name ∈ l.catalog.list ↔ (l.catalog.get? name).isSome) ∧
    l.catalog.list.Pairwise (· < ·) ∧ l.catalog.list.length = l.catalog.size ∧
    -- A launch leaves each name that it is given with the module of its last text, and no other.
    ∀ given params r, ModuleRuntime.launch compiler given params files = .ok r →
      let engine := compiler.within params.runtime.engine
      (∀ files', performAll engine ⟨{ searchPath := params.modulePath }, files'⟩
        (registrations given) = ⟨r.catalog, files'⟩) ∧
      (∀ before name text after, given = before ++ (name, text) :: after →
        (∀ entry ∈ after, entry.1 ≠ name) →
        ∃ m, engine.TextYields text (.ok m) ∧ r.catalog.get? name = some m) ∧
      ∀ name, (∀ entry ∈ given, entry.1 ≠ name) → r.catalog.get? name = none := by
  intro l
  have sound : l.catalog.Sound := sound_performAll compiler (Catalog.sound_empty searchPath) ops
  have same : l.catalog.searchPath = searchPath :=
    searchPath_performAll compiler ⟨{ searchPath }, files⟩ ops
  have follows (op : Operation) : Follows compiler searchPath l.catalog.get? l.files op
      (l.answer compiler op) (l.perform compiler op).catalog.get?
      (l.perform compiler op).files := by
    have rule := follows_perform compiler sound op
    rwa [same] at rule
  refine ⟨fun op a kept files' => ⟨fun h => (follows op).unique h, ?_⟩,
    fun files' path => FileTree.isFile_iff, fun files' path r => Compiler.fileYields_iff,
    fun dir name valid => ?_,
    fun name m files' present => Catalog.load_of_kept present, fun name files' absent => ?_,
    fun op e failed => perform_of_error failed, fun op name m present changed => ?_,
    fun more name m present others => get?_performAll compiler sound present others,
    fun name => Name.isValid_iff, fun name kept => sound.valid name (Catalog.mem_keys_iff.mpr kept),
    fun name => Catalog.mem_list_iff, sound.list_sorted, l.catalog.size_eq_length_list,
    fun given params r launched => ?_⟩
  · rintro ⟨rfl, rfl, rfl⟩
    exact follows op
  · have named := Name.isValid_iff.mp valid
    exact ⟨Path.not_namesText_join (named.isEntry (by decide)) named.nonempty dir,
      Path.namesText_join (named.isEntry (by decide)) named.nonempty dir⟩
  · rw [Catalog.load_eq_notFound_iff absent, same]
  · by_cases replaces : op.Replaces name
    · exact replaces
    · exact absurd ((follows op).kept_of_present present replaces) changed
  · have registered := registerAll_of_launch launched
    have empty := Catalog.sound_empty params.modulePath
    refine ⟨performAll_of_registerAll registered, ?_, fun name others => ?_⟩
    · rintro before name text after rfl others
      exact get?_of_registerAll empty registered others
    · exact get?_of_registerAll_of_not_given empty registered others

/-- Files with a broken one in front of a good one: that of `m` has no header, and that of `t` is no
text. -/
def brokenFirst : FileTree :=
  [("a/m.wasm", "no binary".toUTF8), ("b/m.wat", "(module)".toUTF8),
    ("a/t.wat", ⟨#[0xff]⟩), ("b/t.wat", "(module)".toUTF8)].foldl
      (fun files entry => files.write entry.1 (.file entry.2)) .empty

theorem kept_first_then_first_file_broken :
    let compiler : Compiler := ⟨fun _ => .ok {}, fun _ => .ok {}⟩
    let l : Library := ⟨{ searchPath := ["a", "b"] }, brokenFirst⟩
    -- The search ends at the broken file, and nothing is kept.
    l.answer compiler (.load "m") = .module (.error (.compilation .badMagic)) ∧
      l.perform compiler (.load "m") = l ∧
      l.answer compiler (.load "t") = .module (.error (.file .invalidText)) ∧
      l.perform compiler (.load "t") = l ∧
      ∀ path ∈ ["b/m.wat", "b/t.wat"], ∃ m, compiler.FileYields l.files path (.ok m) := by
  intro compiler l
  obtain ⟨follows, -, -, named, -, -, failed, -⟩ :=
    kept_first_then_first_file compiler ["a", "b"] brokenFirst []
  obtain ⟨header, -⟩ := (follows (.load "m") _ _ _).mp
    (.broken rfl (by decide) (.binary (by decide +kernel))
      (.binary (named "a" "m" (by decide)).1 (b := "no binary".toUTF8) (by decide +kernel)
        (.unmarked (by decide) (by decide +kernel))))
  obtain ⟨encoding, -⟩ := (follows (.load "t") _ _ _).mp
    (.broken rfl (by decide) (.text (by decide +kernel) (by decide +kernel))
      (.undecoded (named "a" "t" (by decide)).2 (b := ⟨#[0xff]⟩) (by decide +kernel)
        (by decide +kernel)))
  have decoded : Text.ofBytes? "(module)".toUTF8 = some "(module)" := by decide +kernel
  have good {path : String} (text : CompiledModule.isTextPath path = true)
      (found : brokenFirst.node path = .ok (.file "(module)".toUTF8)) :
      ∃ m, compiler.FileYields brokenFirst path (.ok m) :=
    ⟨_, .text (Path.isTextPath_iff.mp text) found decoded (.compiled rfl)⟩
  refine ⟨header.symm, failed _ _ header.symm, encoding.symm, failed _ _ encoding.symm, ?_⟩
  rw [List.forall_mem_cons, List.forall_mem_singleton]
  exact ⟨good (by decide +kernel) (by decide +kernel),
    good (by decide +kernel) (by decide +kernel)⟩

end Library

end GuestRoutines
