import GuestRoutines.Proofs.Module.Library

/-!
# Loads at the same time

Any number of loads go on at the same time, each of them step by step: the kept modules are asked,
the file is located, it is read and compiled, and the module is offered to the catalogue, which
takes it if there is none by then. Between two steps of one load the others go on, and the files may
change, so that they may compile different modules under one name. They give the same one
nevertheless.

A change of the catalogue is one step. Nothing is said about the order of the steps.

## Main definitions

* `Library.Load`, `Library.Load.step` — how far a load has come, and what it does next
* `Library.Threads`, `Library.Threads.performAll` — loads that share a library, and a run of them

## Main results

* `Library.Threads.performAll_alone` — the steps of a load, one after the other, load the module
* `Library.Threads.settled_performAll` — what a load has given is kept
* `Library.Threads.concurrent_loads_agree` — all of it, for every interleaving
-/

namespace GuestRoutines

namespace Catalog

variable {c : Catalog} {n : String} {m : CompiledModule}

/-- A module that is offered is kept, or else the one that was there before. -/
theorem get?_insertIfAbsent (c : Catalog) (name : String) (m : CompiledModule) :
    (c.insertIfAbsent name m).2.get? name = some (c.insertIfAbsent name m).1 := by
  unfold insertIfAbsent
  split
  · next kept present => exact present
  · rw [get?_insert, Function.update_self]

/-- An offer replaces nothing. -/
theorem get?_insertIfAbsent_of_kept (present : c.get? n = some m) (name : String)
    (offered : CompiledModule) : (c.insertIfAbsent name offered).2.get? n = some m := by
  unfold insertIfAbsent
  split
  · exact present
  · next absent =>
    have different : n ≠ name := by
      rintro rfl
      cases present.symm.trans absent
    rw [get?_insert, Function.update_of_ne different, present]

end Catalog

namespace Library

variable {compiler : Compiler} {l : Library} {n : String} {m : CompiledModule}

/-- A module stays under its name, unless the operation may replace it. -/
theorem get?_perform_of_kept (compiler : Compiler) (present : l.catalog.get? n = some m)
    {op : Operation} (other : ¬ op.Replaces n) :
    (l.perform compiler op).catalog.get? n = some m := by
  cases op with
  | register name text =>
    rw [perform]
    rcases l.catalog.register_cases compiler name text with ⟨e, eq⟩ | ⟨m', valid, compiled, eq⟩
    · rwa [eq]
    · have different : n ≠ name := fun same => other same.symm
      rw [eq, Catalog.get?_insert, Function.update_of_ne different, present]
  | load name => exact Catalog.get?_load_of_kept present compiler l.files name
  | remove name =>
    have different : n ≠ name := fun same => other same.symm
    rw [perform, Catalog.get?_remove, Function.update_of_ne different, present]
  | get name => exact present
  | list => exact present
  | change files => exact present

/-! ### One load, step by step -/

/-- How far the load of a name has come. -/
inductive Load where
  | asked (name : String)
  /-- Nothing was kept under the name. -/
  | absent (name : String)
  | located (name path : String)
  | compiled (name : String) (m : CompiledModule)
  | ended (name : String) (answer : Except ModuleError CompiledModule)
  deriving DecidableEq

namespace Load

/-- The name that is loaded. -/
def name : Load → String
  | asked name | absent name | located name _ | compiled name _ | ended name _ => name

/-- The next step of a load, and the catalogue afterwards. It sees the catalogue and the files as
they are by then. -/
def step (compiler : Compiler) (l : Library) : Load → Load × Catalog
  | asked name =>
    match l.catalog.get? name with
    | some m => (ended name (.ok m), l.catalog)
    | none => (absent name, l.catalog)
  | absent name =>
    match l.catalog.locate l.files name with
    | some path => (located name path, l.catalog)
    | none => (ended name (.error (.notFound name)), l.catalog)
  | located name path =>
    match CompiledModule.ofFile compiler l.files path with
    | .ok m => (compiled name m, l.catalog)
    | .error e => (ended name (.error e), l.catalog)
  | compiled name m =>
    let (kept, catalog) := l.catalog.insertIfAbsent name m
    (ended name (.ok kept), catalog)
  | ended name answer => (ended name answer, l.catalog)

/-- The number of steps that are left at most. -/
def remaining : Load → Nat
  | asked _ => 4
  | absent _ => 3
  | located _ _ => 2
  | compiled _ _ => 1
  | ended _ _ => 0

/-- What the load has given is kept, if it has given a module. -/
def Settled (c : Catalog) : Load → Prop
  | ended name (.ok m) => c.get? name = some m
  | _ => True

variable {load : Load}

/-- What a step can do: the load offers its module and ends with the one that is kept, or else the
catalogue stays as it is. -/
theorem step_cases (compiler : Compiler) (l : Library) (load : Load) :
    (∃ m, load.step compiler l =
      (ended load.name (.ok (l.catalog.insertIfAbsent load.name m).1),
        (l.catalog.insertIfAbsent load.name m).2)) ∨
      (load.step compiler l).2 = l.catalog := by
  cases load with
  | compiled name m => exact .inl ⟨m, rfl⟩
  | asked name | absent name | located name path =>
    right
    rw [step]
    split <;> rfl
  | ended name answer => exact .inr rfl

theorem name_step (compiler : Compiler) (l : Library) (load : Load) :
    (load.step compiler l).1.name = load.name := by
  cases load with
  | asked name | absent name | located name path =>
    rw [step]
    split <;> rfl
  | compiled name m | ended name answer => rfl

theorem remaining_step (compiler : Compiler) (l : Library) (load : Load) :
    (load.step compiler l).1.remaining ≤ load.remaining - 1 := by
  cases load with
  | asked name | absent name | located name path =>
    rw [step]
    split <;> simp [remaining]
  | compiled name m | ended name answer => exact Nat.zero_le _

theorem eq_ended_of_remaining (finished : load.remaining = 0) :
    ∃ answer, load = ended load.name answer := by
  cases load with
  | ended name answer => exact ⟨answer, rfl⟩
  | _ => cases finished

/-- A kept module stays, whatever is loaded. -/
theorem get?_step_of_kept (compiler : Compiler) (load : Load)
    (present : l.catalog.get? n = some m) : (load.step compiler l).2.get? n = some m := by
  rcases load.step_cases compiler l with ⟨offered, eq⟩ | same
  · rw [eq]
    exact Catalog.get?_insertIfAbsent_of_kept present load.name offered
  · rwa [same]

/-- What was given stays kept as long as nothing takes the place of what is kept. -/
theorem Settled.mono {c c' : Catalog} (h : load.Settled c)
    (stays : ∀ m, c.get? load.name = some m → c'.get? load.name = some m) : load.Settled c' := by
  cases load with
  | ended name answer =>
    cases answer with
    | ok m => exact stays m h
    | error e => trivial
  | _ => trivial

/-- A step gives a module only if that is kept then. -/
theorem settled_step (compiler : Compiler) (h : load.Settled l.catalog) :
    (load.step compiler l).1.Settled (load.step compiler l).2 := by
  cases load with
  | asked name =>
    rw [step]
    split
    · next m present => exact present
    · trivial
  | absent name | located name path =>
    rw [step]
    split <;> trivial
  | compiled name m => exact l.catalog.get?_insertIfAbsent name m
  | ended name answer => exact h

end Load

/-! ### Loads that share a library -/

/-- A library, and loads that go on in it. -/
structure Threads (ι : Type) where
  library : Library
  loads : ι → Load

/-- Whose turn it is: a load does its next step, or else something is done with the library. -/
inductive Turn (ι : Type) where
  | step (i : ι)
  | operation (op : Operation)

variable {ι : Type} [DecidableEq ι]

/-- The turn may put something in the place of what is kept under a name, or take it away. -/
def Turn.Replaces (name : String) : Turn ι → Prop
  | step _ => False
  | operation op => op.Replaces name

/-- The turn is that of a load. -/
def Turn.isOf (i : ι) : Turn ι → Bool
  | step j => decide (i = j)
  | operation _ => false

namespace Threads

/-- Loads of some names that have not begun. -/
def start (l : Library) (names : ι → String) : Threads ι := ⟨l, fun i => .asked (names i)⟩

/-- The threads after a turn. -/
def perform (compiler : Compiler) (s : Threads ι) : Turn ι → Threads ι
  | .step i =>
    let (load, catalog) := (s.loads i).step compiler s.library
    { library := { s.library with catalog }, loads := Function.update s.loads i load }
  | .operation op => { s with library := s.library.perform compiler op }

/-- The threads after some turns, one after the other. -/
def performAll (compiler : Compiler) (s : Threads ι) (run : List (Turn ι)) : Threads ι :=
  run.foldl (perform compiler) s

variable {s : Threads ι} {turn : Turn ι} {i : ι}

@[simp] theorem performAll_nil (compiler : Compiler) (s : Threads ι) :
    s.performAll compiler [] = s := rfl

@[simp] theorem performAll_cons (compiler : Compiler) (s : Threads ι) (turn : Turn ι)
    (run : List (Turn ι)) :
    s.performAll compiler (turn :: run) = (s.perform compiler turn).performAll compiler run := rfl

@[simp] theorem performAll_append (compiler : Compiler) (s : Threads ι)
    (run more : List (Turn ι)) :
    s.performAll compiler (run ++ more) =
      (s.performAll compiler run).performAll compiler more :=
  List.foldl_append

/-- A turn is the next step of a load, or leaves the load alone. -/
theorem loads_perform (compiler : Compiler) (s : Threads ι) (turn : Turn ι) (i : ι) :
    (s.perform compiler turn).loads i =
      if turn.isOf i then ((s.loads i).step compiler s.library).1 else s.loads i := by
  cases turn with
  | step j =>
    by_cases same : i = j
    · subst same
      simp [perform, Turn.isOf]
    · simp [perform, Turn.isOf, same]
  | operation op => rfl

theorem name_perform (compiler : Compiler) (s : Threads ι) (turn : Turn ι) (i : ι) :
    ((s.perform compiler turn).loads i).name = (s.loads i).name := by
  rw [loads_perform]
  split
  · exact (s.loads i).name_step compiler s.library
  · rfl

theorem get?_perform_of_kept (compiler : Compiler)
    (present : s.library.catalog.get? n = some m) (other : ¬ turn.Replaces n) :
    (s.perform compiler turn).library.catalog.get? n = some m := by
  cases turn with
  | step i => exact (s.loads i).get?_step_of_kept compiler present
  | operation op => exact Library.get?_perform_of_kept compiler present other

/-- What the loads of a name have given is kept. -/
def Settled (s : Threads ι) (n : String) : Prop :=
  ∀ i, (s.loads i).name = n → (s.loads i).Settled s.library.catalog

theorem settled_perform (compiler : Compiler) (h : s.Settled n) (other : ¬ turn.Replaces n) :
    (s.perform compiler turn).Settled n := by
  intro i named
  rw [name_perform] at named
  have settled := h i named
  have stays (m : CompiledModule) (present : s.library.catalog.get? (s.loads i).name = some m) :
      (s.perform compiler turn).library.catalog.get? (s.loads i).name = some m := by
    rw [named] at present ⊢
    exact get?_perform_of_kept compiler present other
  rw [loads_perform]
  split
  · next own =>
    cases turn with
    | step j =>
      obtain rfl : i = j := of_decide_eq_true own
      exact Load.settled_step compiler settled
    | operation op => cases own
  · exact settled.mono stays

/-- A turn of a load changes the catalogue only if it ends the load with a module. -/
theorem catalog_perform_step (compiler : Compiler) (s : Threads ι) (i : ι) :
    (s.perform compiler (.step i)).library.catalog = s.library.catalog ∨
      ∃ m, (s.perform compiler (.step i)).loads i = .ended (s.loads i).name (.ok m) := by
  rcases (s.loads i).step_cases compiler s.library with ⟨m, eq⟩ | same
  · right
    refine ⟨(s.library.catalog.insertIfAbsent (s.loads i).name m).1, ?_⟩
    simp only [perform, eq, Function.update_self]
  · exact .inl same

/-- The four steps of a load, with nothing in between, load the module. -/
theorem performAll_alone {name : String} (asked : s.loads i = .asked name) (compiler : Compiler) :
    let after := s.performAll compiler [.step i, .step i, .step i, .step i]
    after.loads i = .ended name (s.library.catalog.load compiler s.library.files name).1 ∧
      after.library = s.library.perform compiler (.load name) := by
  cases present : s.library.catalog.get? name with
  | some m => simp [perform, Load.step, asked, present, Library.perform, Catalog.load]
  | none =>
    cases located : s.library.catalog.locate s.library.files name with
    | none =>
      simp [perform, Load.step, asked, present, located, Library.perform, Catalog.load,
        Catalog.fetch]
    | some path =>
      cases compiled : CompiledModule.ofFile compiler s.library.files path with
      | error e =>
        simp [perform, Load.step, asked, present, located, compiled, Library.perform,
          Catalog.load, Catalog.fetch]
      | ok m =>
        simp [perform, Load.step, asked, present, located, compiled, Library.perform,
          Catalog.load, Catalog.fetch]

/-! ### Interleavings -/

theorem name_performAll (compiler : Compiler) (s : Threads ι) (run : List (Turn ι)) (i : ι) :
    ((s.performAll compiler run).loads i).name = (s.loads i).name := by
  induction run generalizing s with
  | nil => rfl
  | cons turn run ih => rw [performAll_cons, ih, name_perform]

theorem get?_performAll_of_kept (compiler : Compiler) {run : List (Turn ι)}
    (present : s.library.catalog.get? n = some m) (others : ∀ turn ∈ run, ¬ turn.Replaces n) :
    (s.performAll compiler run).library.catalog.get? n = some m := by
  induction run generalizing s with
  | nil => exact present
  | cons turn run ih =>
    obtain ⟨other, later⟩ := List.forall_mem_cons.mp others
    exact ih (get?_perform_of_kept compiler present other) later

/-- Whatever the interleaving, what the loads of a name have given is kept. -/
theorem settled_performAll (compiler : Compiler) {run : List (Turn ι)} (h : s.Settled n)
    (others : ∀ turn ∈ run, ¬ turn.Replaces n) : (s.performAll compiler run).Settled n := by
  induction run generalizing s with
  | nil => exact h
  | cons turn run ih =>
    obtain ⟨other, later⟩ := List.forall_mem_cons.mp others
    exact ih (settled_perform compiler h other) later

/-- A load that has ended stays as it is. -/
theorem performAll_of_ended {name : String} {answer : Except ModuleError CompiledModule}
    (ended : s.loads i = .ended name answer) (compiler : Compiler) (run : List (Turn ι)) :
    (s.performAll compiler run).loads i = .ended name answer := by
  induction run generalizing s with
  | nil => exact ended
  | cons turn run ih =>
    refine ih ?_
    rw [loads_perform, ended]
    split <;> rfl

/-- A load comes to its end with its own turns, whatever else goes on. -/
theorem remaining_performAll (compiler : Compiler) (s : Threads ι) (run : List (Turn ι)) (i : ι) :
    ((s.performAll compiler run).loads i).remaining ≤
      (s.loads i).remaining - run.countP (Turn.isOf i) := by
  induction run generalizing s with
  | nil => simp
  | cons turn run ih =>
    have later := ih (s.perform compiler turn)
    have first := (s.loads i).remaining_step compiler s.library
    rw [loads_perform] at later
    rw [performAll_cons, List.countP_cons]
    cases own : turn.isOf i with
    | true =>
      simp only [own, if_true] at later ⊢
      omega
    | false =>
      simp only [own, Bool.false_eq_true, if_false] at later ⊢
      omega

/-- **Loads agree.** Any number of loads share a library, and each of them does its steps when it is
its turn. In between the files change, and anything is done with the catalogue that does not
register or remove one name. Then all loads of the name that give a module give the same one, which
is kept, whatever each of them has compiled. A load that fails has changed nothing. -/
theorem concurrent_loads_agree (compiler : Compiler) (l : Library) (names : ι → String)
    {n : String} {run : List (Turn ι)} (others : ∀ turn ∈ run, ¬ turn.Replaces n) :
    let first := start l names
    let last := first.performAll compiler run
    -- What is given is what is kept, so that it is the same for all.
    (∀ i m, last.loads i = .ended n (.ok m) → last.library.catalog.get? n = some m) ∧
    (∀ i j m m', last.loads i = .ended n (.ok m) → last.loads j = .ended n (.ok m') → m = m') ∧
    -- What is kept at any time is kept from then on.
    (∀ before after m, run = before ++ after →
      (first.performAll compiler before).library.catalog.get? n = some m →
      last.library.catalog.get? n = some m) ∧
    -- No step of a load that fails changes the catalogue.
    (∀ i e before after, last.loads i = .ended (names i) (.error e) →
      run = before ++ .step i :: after →
      let s := first.performAll compiler before
      (s.perform compiler (.step i)).library.catalog = s.library.catalog) ∧
    -- Every load ends with its fourth step, and four steps on their own load the module.
    (∀ i, 4 ≤ run.countP (Turn.isOf i) → ∃ answer, last.loads i = .ended (names i) answer) ∧
    ∀ (s : Threads ι) i name, s.loads i = .asked name →
      let alone := s.performAll compiler [.step i, .step i, .step i, .step i]
      alone.loads i = .ended name (s.library.catalog.load compiler s.library.files name).1 ∧
        alone.library = s.library.perform compiler (.load name) := by
  intro first last
  have kept (i : ι) (m : CompiledModule) (given : last.loads i = .ended n (.ok m)) :
      last.library.catalog.get? n = some m := by
    have begun : first.Settled n := fun i _ => trivial
    have settled := settled_performAll compiler begun others i (by rw [given]; rfl)
    rwa [given] at settled
  refine ⟨kept, fun i j m m' given given' => ?_, ?_, ?_, fun i turns => ?_,
    fun s i name asked => performAll_alone asked compiler⟩
  · exact Option.some.inj ((kept i m given).symm.trans (kept j m' given'))
  · rintro before after m rfl present
    have later : ∀ turn ∈ after, ¬ turn.Replaces n :=
      fun turn member => others turn (List.mem_append_right before member)
    have run := get?_performAll_of_kept compiler present later
    rwa [← performAll_append] at run
  · rintro i e before after failed rfl s
    rcases s.catalog_perform_step compiler i with same | ⟨m, given⟩
    · exact same
    · -- A load that gives a module in this step would still give it in the end.
      have still := performAll_of_ended given compiler after
      rw [← performAll_cons, ← performAll_append] at still
      cases (Load.ended.inj (still.symm.trans failed)).2
  · have few : (last.loads i).remaining ≤ _ := first.remaining_performAll compiler run i
    have begun : (first.loads i).remaining = 4 := rfl
    have finished : (last.loads i).remaining = 0 := by omega
    obtain ⟨answer, ended⟩ := Load.eq_ended_of_remaining finished
    have same := first.name_performAll compiler run i
    refine ⟨answer, ?_⟩
    rw [ended, same]
    rfl

/-- One load has compiled the text of a file when the file is changed. Another one is faster with
the new text, and both of them give the new module. -/
theorem concurrent_loads_agree_on_change :
    let compiler : Compiler :=
      ⟨fun s => .ok { routines := if s = "old" then [] else [{ name := "m" }] }, fun _ => .ok {}⟩
    let files (s : String) := FileTree.empty.put ["m.wat"] (.file s.toUTF8)
    let first : Threads Bool := start ⟨{ searchPath := ["."] }, files "old"⟩ fun _ => "m"
    let early : List (Turn Bool) := [.step false, .step false, .step false]
    let late : List (Turn Bool) := [.operation (.change (files "new")),
      .step true, .step true, .step true, .step true, .step false]
    let last := first.performAll compiler (early ++ late)
    (∀ turn ∈ early ++ late, ¬ turn.Replaces "m") ∧
      (first.performAll compiler early).loads false =
        .compiled "m" ⟨Fingerprint.ofSource "old".toUTF8, {}⟩ ∧
      ∃ m, last.loads true = .ended "m" (.ok m) ∧ last.loads false = .ended "m" (.ok m) ∧
        m.fingerprint = Fingerprint.ofSource "new".toUTF8 ∧
        last.library.catalog.get? "m" = some m := by
  dsimp only
  refine ⟨?others, by decide +kernel,
    ⟨Fingerprint.ofSource "new".toUTF8, { routines := [{ name := "m" }] }⟩, ?given, ?given', rfl,
    (concurrent_loads_agree _ _ _ ?others).1 true _ ?given⟩
  case others => simp [Turn.Replaces, Operation.Replaces]
  case given | given' => decide +kernel

end Threads

end Library

end GuestRoutines
