import GuestRoutines.Module.Compiled
import GuestRoutines.Module.Name

/-!
# The catalogue of modules

Modules are kept by name once they are compiled. A name that is not kept is looked for on the search
path: directory after directory, and in each one the binary before the text. The first file found
decides; if it does not compile, no other one is tried.

## Main definitions

* `Catalog` — search path and kept modules
* `Catalog.candidates`, `Catalog.locate` — the files that a name may come from, and the first one
* `Catalog.load` — the module of a name, kept or loaded
* `Catalog.register`, `Catalog.remove`, `Catalog.list` — what is kept
-/

namespace GuestRoutines

/-- The search path, and the modules that are kept by name. -/
structure Catalog where
  searchPath : List String
  modules : List (String × CompiledModule) := []
  deriving DecidableEq

namespace Catalog

/-- The extensions of module files, in the order in which they are tried. -/
def extensions : List String := ["wasm", "wat"]

/-- The paths at which a module may be found, in the order in which they are tried. -/
def candidates (searchPath : List String) (name : String) : List String :=
  searchPath.flatMap fun dir => extensions.map fun e => Path.join dir (name ++ "." ++ e)

/-- The kept module of a name. -/
def get? (c : Catalog) (name : String) : Option CompiledModule := c.modules.lookup name

/-- The catalogue with a module kept in the place of any earlier one. -/
def insert (c : Catalog) (name : String) (m : CompiledModule) : Catalog :=
  { c with modules := (name, m) :: c.modules.filter (·.1 != name) }

/-- The module of a name after one is offered: the kept one stays. -/
def insertIfAbsent (c : Catalog) (name : String) (m : CompiledModule) : CompiledModule × Catalog :=
  match c.get? name with
  | some kept => (kept, c)
  | none => (m, c.insert name m)

/-- The file that a name would be loaded from. -/
def locate (c : Catalog) (files : FileTree) (name : String) : Option String :=
  if Name.isValid name then (candidates c.searchPath name).find? files.isFile else none

/-- A text compiled and kept under a name. -/
def register (c : Catalog) (compiler : Compiler) (name text : String) :
    Except ModuleError CompiledModule × Catalog :=
  if Name.isValid name then
    match CompiledModule.ofText compiler text with
    | .ok m => (.ok m, c.insert name m)
    | .error e => (.error e, c)
  else (.error (.notFound name), c)

/-- The module of the file that a name is found in. -/
def fetch (c : Catalog) (compiler : Compiler) (files : FileTree) (name : String) :
    Except ModuleError CompiledModule :=
  match c.locate files name with
  | none => .error (.notFound name)
  | some path => CompiledModule.ofFile compiler files path

/-- The module of a name: the kept one, or else the one that is loaded and kept from now on. -/
def load (c : Catalog) (compiler : Compiler) (files : FileTree) (name : String) :
    Except ModuleError CompiledModule × Catalog :=
  match c.get? name with
  | some m => (.ok m, c)
  | none =>
    match c.fetch compiler files name with
    | .error e => (.error e, c)
    | .ok m =>
      let (kept, c) := c.insertIfAbsent name m
      (.ok kept, c)

/-- The catalogue without a name, and whether it was kept. -/
def remove (c : Catalog) (name : String) : Bool × Catalog :=
  ((c.get? name).isSome, { c with modules := c.modules.filter (·.1 != name) })

/-- The number of kept modules. -/
def size (c : Catalog) : Nat := c.modules.length

/-- The kept names, sorted. -/
def list (c : Catalog) : List String :=
  (c.modules.map (·.1)).mergeSort fun a b => decide (a ≤ b)

/-- A short description for diagnostics. -/
def debug (c : Catalog) : String :=
  let dirs := ", ".intercalate (c.searchPath.map Text.quoted)
  s!"ModuleCatalog \x7b search_path: [{dirs}], modules_count: {c.size}, .. \x7d"

end Catalog

end GuestRoutines
