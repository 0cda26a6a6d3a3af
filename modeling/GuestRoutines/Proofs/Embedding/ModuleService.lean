import GuestRoutines.Embedding.Modules
import GuestRoutines.Proofs.Call.Effects
import GuestRoutines.Proofs.Embedding.Calls
import GuestRoutines.Proofs.Module.Lookup

/-!
# The service of compiled modules

A runtime that serves compiled modules keeps every module that it has served once. What a lookup has
found it goes on finding, however the files change, and a call executes the module that was found.

## Main definitions

* `ModuleRuntime.Continues` — a later runtime has all that an earlier one has
* `ModuleRuntime.Serves` — a runtime has the routine of a handle
* `ModuleRuntime.execution` — what a call of a kept module executes
* `Bridge.Access`, `Bridge.accessAll` — what is done with a bridge and with the runtime that it
  hands out, and a run of it
* `Embedder.Advances`, `Embedder.Serving` — a step that keeps what was found, and a record whose
  handles are all served
* `Bridge.Reached` — a bridge that some run brings about

## Main results

* `ModuleRuntime.Serves.resolve_eq`, `ModuleRuntime.call_of_kept` — a handle that is served
* `Bridge.Reached.serving` — in every run, every handle that was found is served
-/

namespace GuestRoutines

namespace ModuleRuntime

variable {r r' r'' : ModuleRuntime} {compiler : Compiler} {files : FileTree} {id : RoutineId}
  {handle : RoutineHandle} {m : CompiledModule}

/-! ### Runtimes -/

/-- A later runtime has all that an earlier one has: its parameters and every kept module. -/
structure Continues (r r' : ModuleRuntime) : Prop where
  params : r'.params = r.params
  live : r'.live = r.live
  kept : ∀ name m, r.catalog.get? name = some m → r'.catalog.get? name = some m

theorem Continues.refl (r : ModuleRuntime) : r.Continues r := ⟨rfl, rfl, fun _ _ kept => kept⟩

theorem Continues.trans (first : r.Continues r') (second : r'.Continues r'') : r.Continues r'' where
  params := second.params.trans first.params
  live := second.live.trans first.live
  kept name m kept := second.kept name m (first.kept name m kept)

/-- A runtime has the routine of a handle: its module is kept, exports the routine, and has the
fingerprint of the handle. -/
structure Serves (r : ModuleRuntime) (id : RoutineId) (handle : RoutineHandle)
    (m : CompiledModule) : Prop where
  kept : r.catalog.get? id.module = some m
  exported : m.program.exportsRoutine id.exportName = true
  handle_eq : handle = { id, fingerprint := some m.fingerprint }

theorem Serves.continues (h : r.Serves id handle m) (later : r.Continues r') :
    r'.Serves id handle m := { h with kept := later.kept _ _ h.kept }

theorem continues_load (r : ModuleRuntime) (compiler : Compiler) (files : FileTree)
    (name : String) : r.Continues { r with catalog := (r.load compiler files name).2 } where
  params := rfl
  live := rfl
  kept _ _ kept := Catalog.get?_load_of_kept kept _ _ _

theorem resolve_snd (r : ModuleRuntime) (compiler : Compiler) (files : FileTree)
    (id : RoutineId) :
    (r.resolve compiler files id).2 =
      { r with catalog := (r.load compiler files id.module).2 } := by
  unfold resolve
  rcases r.load compiler files id.module with ⟨_ | _, _⟩
  · rfl
  · dsimp only
    split <;> rfl

theorem continues_resolve (r : ModuleRuntime) (compiler : Compiler) (files : FileTree)
    (id : RoutineId) : r.Continues (r.resolve compiler files id).2 := by
  rw [resolve_snd]
  exact r.continues_load compiler files id.module

/-- What a lookup finds is served from then on. -/
theorem serves_of_resolve (found : (r.resolve compiler files id).1 = .ok handle) :
    ∃ m, (r.resolve compiler files id).2.Serves id handle m := by
  rw [resolve_snd]
  unfold resolve at found
  rcases loaded : r.load compiler files id.module with ⟨_ | m, catalog⟩
  · simp only [loaded] at found
    cases found
  · simp only [loaded] at found
    split at found
    · next exported =>
      have kept : (r.load compiler files id.module).2.get? id.module = some m :=
        Catalog.get?_of_load_ok (congrArg Prod.fst loaded)
      rw [loaded] at kept
      exact ⟨m, kept, exported, (Except.ok.inj found).symm⟩
    · cases found

/-- A handle that is served is found again, whatever the files are. -/
theorem Serves.resolve_eq (h : r.Serves id handle m) (compiler : Compiler) (files : FileTree) :
    r.resolve compiler files id = (.ok handle, r) := by
  have loaded : r.load compiler files id.module = (.ok m, r.catalog) := Catalog.load_of_kept h.kept
  simp only [resolve, loaded, h.exported, if_true, h.handle_eq]

/-- What the caller is told of an execution: one that unwinds is a fault. -/
def told : Except Unwinding RoutineOutcome → RoutineOutcome
  | .ok outcome => outcome
  | .error u => .fatal (unwoundFault u)

/-- A routine of a module executed in a context of its own, under the conditions of a runtime. -/
def execution (r : ModuleRuntime) (m : CompiledModule) (id : RoutineId)
    (arguments : List HostValue) (log : Log) : Except Unwinding RoutineOutcome × CallContext :=
  m.program.execute r.conditions r.params.runtime.limits.maxFuel.toNat id.exportName
    (context arguments log)

theorem Continues.execution_eq (later : r.Continues r') (m : CompiledModule) (id : RoutineId)
    (arguments : List HostValue) (log : Log) :
    r'.execution m id arguments log = r.execution m id arguments log := by
  simp only [execution, conditions, later.params]

/-- A call of a kept module executes it, and keeps everything but the log. -/
theorem call_of_kept (live : r.live = true) (kept : r.catalog.get? id.module = some m)
    (compiler : Compiler) (arguments : List HostValue) (host : Host) :
    let ending := r.execution m id arguments host.log
    r.call compiler id arguments host = (told ending.1, r, { host with log := ending.2.log }) := by
  obtain ⟨params, catalog, _⟩ := r
  cases live
  have loaded : load compiler host.files id.module { params, catalog } = (.ok m, catalog) :=
    Catalog.load_of_kept kept
  simp only [call, Bool.not_true, Bool.false_eq_true, if_false, loaded]
  rfl

theorem continues_call (r : ModuleRuntime) (compiler : Compiler) (id : RoutineId)
    (arguments : List HostValue) (host : Host) :
    r.Continues (r.call compiler id arguments host).2.1 := by
  have loads := r.continues_load compiler host.files id.module
  unfold call
  split
  · exact .refl r
  · -- Whatever the execution comes to, the catalogue is the one that the load has left.
    rcases loaded : r.load compiler host.files id.module with ⟨_ | m, catalog⟩
    · rwa [loaded] at loads
    · rwa [loaded] at loads

/-- A launch gives a live runtime with the parameters that it was given. -/
theorem launch_eq_ok {given : List (String × String)} {params : StartupParams}
    (launched : launch compiler given params files = .ok r) :
    r.params = params ∧ r.live = true := by
  unfold launch at launched
  split at launched
  · cases launched
  · dsimp only at launched
    split at launched
    · cases launched
    · split at launched
      · cases launched
        exact ⟨rfl, rfl⟩
      · cases launched

end ModuleRuntime

/-! ### What is done with a bridge and its runtime -/

/-- A handle called past the dispatch of calls, if the runtime is ready. -/
def Embedder.callHandle {ρ : Type} (L : Launcher ρ) (handle : RoutineHandle)
    (arguments : List HostValue) (e : Embedder ρ) : Embedder ρ :=
  match e.lifecycle with
  | .ready params runtime => (e.callIn L params runtime handle arguments).2
  | _ => e

namespace Bridge

variable {ρ : Type}

/-- What is done with a bridge, and with the runtime that it hands out while that is ready. -/
inductive Access where
  | operation (op : Operation)
  /-- The runtime itself is asked for a routine. -/
  | resolve (id : RoutineId)
  /-- The runtime itself is told to call any handle. -/
  | call (handle : RoutineHandle) (arguments : List HostValue)

/-- The bridge after an access. -/
def access (L : Launcher ρ) (b : Bridge ρ) : Access → Bridge ρ
  | .operation op => b.perform L op
  | .resolve id => { b with embedder := (b.embedder.resolve L id).2 }
  | .call handle arguments => { b with embedder := b.embedder.callHandle L handle arguments }

/-- The bridge after some accesses, one after the other. -/
def accessAll (L : Launcher ρ) (b : Bridge ρ) (history : List Access) : Bridge ρ :=
  history.foldl (access L) b

end Bridge

/-! ### Steps while the runtime is ready -/

namespace Embedder

variable (compiler : Compiler) (given : List (String × String)) {e e' e'' : Embedder ModuleRuntime}
  {params : StartupParams} {r : ModuleRuntime}

/-- A step that launches nothing and shuts nothing down. A runtime that is ready goes on with the
same parameters and all its modules, and serves what was found in the step. -/
structure Advances (e e' : Embedder ModuleRuntime) : Prop where
  ready : ∀ params r, e.lifecycle = .ready params r →
    ∃ r', e'.lifecycle = .ready params r' ∧ r.Continues r' ∧
      ∀ id handle, .resolve id (some handle) ∈ e'.events →
        .resolve id (some handle) ∈ e.events ∨ ∃ m, r'.Serves id handle m
  idle : e.lifecycle.state ≠ .ready → e'.lifecycle = e.lifecycle ∧ e'.events = e.events

theorem Advances.of_eq (lifecycle : e'.lifecycle = e.lifecycle) (events : e'.events = e.events) :
    e.Advances e' where
  ready params r ready := by
    refine ⟨r, lifecycle.trans ready, .refl r, fun id handle member => .inl ?_⟩
    rwa [events] at member
  idle _ := ⟨lifecycle, events⟩

theorem Advances.trans (first : e.Advances e') (second : e'.Advances e'') : e.Advances e'' where
  ready params r ready := by
    obtain ⟨r', ready', continues, found⟩ := first.ready params r ready
    obtain ⟨r'', ready'', continues', found'⟩ := second.ready params r' ready'
    refine ⟨r'', ready'', continues.trans continues', fun id handle member => ?_⟩
    rcases found' id handle member with earlier | served
    · -- What was served after the first step is served after both.
      rcases found id handle earlier with before | ⟨m, serves⟩
      · exact .inl before
      · exact .inr ⟨m, serves.continues continues'⟩
    · exact .inr served
  idle down := by
    obtain ⟨lifecycle, events⟩ := first.idle down
    obtain ⟨lifecycle', events'⟩ := second.idle (by rwa [lifecycle])
    exact ⟨lifecycle'.trans lifecycle, events'.trans events⟩

/-- From a runtime that is ready, only what comes of it has to be told. -/
theorem Advances.of_ready (live : e.lifecycle = .ready params r)
    (goes : ∃ r', e'.lifecycle = .ready params r' ∧ r.Continues r' ∧
      ∀ id handle, .resolve id (some handle) ∈ e'.events →
        .resolve id (some handle) ∈ e.events ∨ ∃ m, r'.Serves id handle m) : e.Advances e' where
  ready params' r' live' := by
    obtain ⟨rfl, rfl⟩ := Lifecycle.ready.inj (live.symm.trans live')
    exact goes
  idle down := absurd (congrArg Lifecycle.state live) down

/-- A lookup in a runtime that serves modules, with what is put down of it. -/
theorem resolveIn_launcher (e : Embedder ModuleRuntime) (params : StartupParams)
    (r : ModuleRuntime) (id : RoutineId) :
    let answer := r.resolve compiler e.host.files id
    e.resolveIn (ModuleRuntime.launcher compiler given) params r id =
      (.ok answer.1, answer.2, { e with
        lifecycle := .ready params answer.2
        events := e.events ++ [.resolve id answer.1.toOption] }) := by
  intro answer
  have asked : (ModuleRuntime.launcher compiler given).resolve id r e.host =
      (.ok answer.1, answer.2, e.host) := rfl
  simp only [resolveIn, asked]
  cases answer.1 <;> rfl

/-- A call of a handle in a runtime that serves modules. -/
theorem callIn_launcher (e : Embedder ModuleRuntime) (params : StartupParams)
    (r : ModuleRuntime) (handle : RoutineHandle) (arguments : List HostValue) :
    let answer := r.call compiler handle.id arguments e.host
    e.callIn (ModuleRuntime.launcher compiler given) params r handle arguments =
      (.ok answer.1, { e with
        lifecycle := .ready params answer.2.1
        host := answer.2.2
        events := e.events ++ [.call handle] }) := rfl

theorem advances_resolveIn (ready : e.lifecycle = .ready params r) (id : RoutineId) :
    e.Advances (e.resolveIn (ModuleRuntime.launcher compiler given) params r id).2.2 := by
  rw [resolveIn_launcher]
  refine .of_ready ready ⟨_, rfl, r.continues_resolve .., fun id' handle member => ?_⟩
  rcases List.mem_append.mp member with earlier | last
  · exact .inl earlier
  · -- The last event is the one of this lookup, which has found the handle if it tells of one.
    right
    obtain ⟨rfl, found⟩ := RuntimeEvent.resolve.inj (List.mem_singleton.mp last)
    refine ModuleRuntime.serves_of_resolve ?_
    cases answer : (r.resolve compiler e.host.files id').1 with
    | error error =>
      rw [answer] at found
      cases found
    | ok other =>
      rw [answer] at found
      rw [Option.some.inj found]

theorem advances_callIn (ready : e.lifecycle = .ready params r) (handle : RoutineHandle)
    (arguments : List HostValue) :
    e.Advances
      (e.callIn (ModuleRuntime.launcher compiler given) params r handle arguments).2 := by
  rw [callIn_launcher]
  refine .of_ready ready ⟨_, rfl, r.continues_call .., fun id' handle' member => ?_⟩
  rcases List.mem_append.mp member with earlier | last
  · exact .inl earlier
  · cases List.mem_singleton.mp last

theorem advances_resolve (e : Embedder ModuleRuntime) (id : RoutineId) :
    e.Advances (e.resolve (ModuleRuntime.launcher compiler given) id).2 := by
  unfold resolve
  cases lifecycle : e.lifecycle with
  | ready params r =>
    exact advances_resolveIn compiler given lifecycle id
  | _ => exact .of_eq rfl rfl

theorem advances_callHandle (e : Embedder ModuleRuntime) (handle : RoutineHandle)
    (arguments : List HostValue) :
    e.Advances (e.callHandle (ModuleRuntime.launcher compiler given) handle arguments) := by
  unfold callHandle
  cases lifecycle : e.lifecycle with
  | ready params r => exact advances_callIn compiler given lifecycle handle arguments
  | _ => exact .of_eq rfl rfl

/-- A call launches the runtime if nobody has tried before, and then advances. -/
theorem advances_dispatch (e : Embedder ModuleRuntime) (routine : String)
    (arguments : List HostValue) :
    ((e.ensureReady (ModuleRuntime.launcher compiler given)).2).Advances
      (e.dispatch (ModuleRuntime.launcher compiler given) routine arguments).2 := by
  unfold dispatch
  rcases e.ensureReady (ModuleRuntime.launcher compiler given) with ⟨_ | _ | _, started⟩
  · exact .of_eq rfl rfl
  · exact .of_eq rfl rfl
  · dsimp only
    cases RoutineId.parse routine with
    | none => exact .of_eq rfl rfl
    | some id =>
      cases lifecycle : started.lifecycle with
      | ready params r =>
        have looked := advances_resolveIn compiler given lifecycle id
        simp only [resolveAndCall]
        rw [resolveIn_launcher] at looked ⊢
        cases answer : (r.resolve compiler started.host.files id).1 with
        | error error =>
          rw [answer] at looked
          exact looked
        | ok handle =>
          -- The call goes on from where the lookup has ended.
          rw [answer] at looked
          exact looked.trans
            (advances_callIn compiler given rfl handle arguments)
      | _ => exact .of_eq rfl rfl

/-! ### What has been found is served -/

/-- A runtime that is ready is live, has the parameters of its launch, and serves every handle that
was found in it. -/
structure Serving (e : Embedder ModuleRuntime) : Prop where
  untouched : e.lifecycle.state = .uninitialized → ∀ id found, .resolve id found ∉ e.events
  live : ∀ params r, e.lifecycle = .ready params r → r.params = params ∧ r.live = true
  found : ∀ params r, e.lifecycle = .ready params r →
    ∀ id handle, .resolve id (some handle) ∈ e.events → ∃ m, r.Serves id handle m

theorem Serving.of_idle (idle : e.lifecycle.state ≠ .ready)
    (untouched : e.lifecycle.state = .uninitialized → ∀ id found, .resolve id found ∉ e.events) :
    e.Serving where
  untouched := untouched
  live _ _ ready := absurd (congrArg Lifecycle.state ready) idle
  found _ _ ready := absurd (congrArg Lifecycle.state ready) idle

theorem Serving.advance (h : e.Serving) (step : e.Advances e') : e'.Serving := by
  by_cases up : e.lifecycle.state = .ready
  · obtain ⟨params, r, ready⟩ := Lifecycle.state_eq_ready_iff.mp up
    -- A runtime that is ready goes on, and what it serves is served by the one that comes of it.
    obtain ⟨r', ready', continues, found⟩ := step.ready params r ready
    constructor
    · intro fresh
      rw [ready'] at fresh
      cases fresh
    · intro params' r'' same
      obtain ⟨rfl, rfl⟩ := Lifecycle.ready.inj (ready'.symm.trans same)
      rw [continues.params, continues.live]
      exact h.live params r ready
    · intro params' r'' same id handle member
      obtain ⟨rfl, rfl⟩ := Lifecycle.ready.inj (ready'.symm.trans same)
      rcases found id handle member with earlier | served
      · obtain ⟨m, serves⟩ := h.found params r ready id handle earlier
        exact ⟨m, serves.continues continues⟩
      · exact served
  · obtain ⟨lifecycle, events⟩ := step.idle up
    constructor
    · rw [lifecycle, events]
      exact h.untouched
    · rw [lifecycle]
      exact h.live
    · rw [lifecycle, events]
      exact h.found

theorem serving_ensureReady (h : e.Serving) (compiler : Compiler)
    (given : List (String × String)) :
    (e.ensureReady (ModuleRuntime.launcher compiler given)).2.Serving := by
  by_cases fresh : e.lifecycle.state = .uninitialized
  · have untouched := h.untouched fresh
    obtain ⟨tier, first⟩ := Lifecycle.state_eq_uninitialized_iff.mp fresh
    have started := started_ensureReady (L := ModuleRuntime.launcher compiler given) first
    generalize (e.ensureReady (ModuleRuntime.launcher compiler given)).1 = answer at started
    generalize (e.ensureReady (ModuleRuntime.launcher compiler given)).2 = after at started
    cases started with
    | misconfigured error unread => exact .of_idle nofun nofun
    | unwound params u host read launch => exact .of_idle nofun nofun
    | refused params error host read launch => exact .of_idle nofun nofun
    | launched params runtime host read launch =>
      -- Nothing has been looked up in a runtime that was just launched.
      have begun : ModuleRuntime.launch compiler given params e.host.files = .ok runtime :=
        Except.ok.inj (congrArg Prod.fst launch)
      constructor
      · nofun
      · rintro _ _ ⟨⟩
        exact ModuleRuntime.launch_eq_ok begun
      · rintro _ _ - id handle member
        rcases List.mem_append.mp member with earlier | last
        · exact absurd earlier (untouched id _)
        · cases List.mem_singleton.mp last
  · rwa [ensureReady_of_tried fresh]

theorem serving_perform (h : e.Serving) (compiler : Compiler) (given : List (String × String))
    (op : Operation) : (e.perform (ModuleRuntime.launcher compiler given) op).Serving := by
  cases op with
  | ensureReady => exact serving_ensureReady h compiler given
  | setPosture tier =>
    by_cases fresh : e.lifecycle.state = .uninitialized
    · obtain ⟨before, first⟩ := Lifecycle.state_eq_uninitialized_iff.mp fresh
      rw [perform, setPosture_of_uninitialized first]
      exact .of_idle (by simp) fun _ => h.untouched fresh
    · rwa [perform, setPosture_of_tried fresh]
  | refreshLogLevel =>
    exact h.advance (.of_eq (lifecycle_refreshLogLevel e) (events_refreshLogLevel e))
  | teardown =>
    have down := lifecycle_teardown (ModuleRuntime.launcher compiler given) e
    exact .of_idle (by simp [perform, down]) (by simp [perform, down])
  | hostChange settings host => exact h.advance (.of_eq rfl rfl)

end Embedder

namespace Bridge

variable {b : Bridge ModuleRuntime}

theorem serving_access (h : b.embedder.Serving) (compiler : Compiler)
    (given : List (String × String)) (a : Access) :
    (b.access (ModuleRuntime.launcher compiler given) a).embedder.Serving := by
  cases a with
  | operation op =>
    rcases embedder_perform (ModuleRuntime.launcher compiler given) b op with
      ⟨routine, arguments, rfl⟩ | ⟨inner, same⟩
    · have called := embedder_call (ModuleRuntime.launcher compiler given) routine arguments b
      rw [access, perform, called]
      exact (Embedder.serving_ensureReady h compiler given).advance
        (b.embedder.advances_dispatch compiler given routine arguments)
    · rw [access, same]
      exact Embedder.serving_perform h compiler given inner
  | resolve id =>
    exact h.advance (b.embedder.advances_resolve compiler given id)
  | call handle arguments =>
    exact h.advance
      (b.embedder.advances_callHandle compiler given handle arguments)

theorem serving_accessAll (h : b.embedder.Serving) (compiler : Compiler)
    (given : List (String × String)) (history : List Access) :
    (b.accessAll (ModuleRuntime.launcher compiler given) history).embedder.Serving := by
  induction history generalizing b with
  | nil => exact h
  | cons a history ih => exact ih (serving_access h compiler given a)

/-- Some run brings the bridge about: it begins with settings and a host, and nothing else. -/
def Reached (compiler : Compiler) (given : List (String × String)) (b : Bridge ModuleRuntime) :
    Prop :=
  ∃ settings host history,
    b = (new settings host).accessAll (ModuleRuntime.launcher compiler given) history

/-- Whatever is done, every handle that was found in a runtime is served by it. -/
theorem Reached.serving {compiler : Compiler} {given : List (String × String)}
    (h : b.Reached compiler given) : b.embedder.Serving := by
  obtain ⟨settings, host, history, rfl⟩ := h
  have begun : (new (ρ := ModuleRuntime) settings host).embedder.Serving :=
    .of_idle (fun up => by cases up) fun _ _ _ => List.not_mem_nil
  exact serving_accessAll begun compiler given history

end Bridge

end GuestRoutines
