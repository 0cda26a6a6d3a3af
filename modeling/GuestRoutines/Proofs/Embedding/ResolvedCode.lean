import GuestRoutines.Proofs.Call.Recovery
import GuestRoutines.Proofs.Embedding.Classification
import GuestRoutines.Proofs.Embedding.ModuleService

/-!
# The code that was resolved

A call looks its routine up, and then the runtime is told to call what was found. Both of them look
for the module by name, and nobody compares fingerprints. They agree since a module that has been
served is kept, and so some failures of the runtime are only met by those who call it directly.

## Main definitions

* `ModuleRuntime.Executes` — a call of a handle executes one kept module
* `ModuleRuntime.Misdirected` — what only a direct call can come to
* `Embedder.Answered` — what a call comes to

## Main results

* `Embedder.LooksUp.executes` — a call of what a lookup has just found
* `Embedder.answered_dispatch` — a call fails before the runtime is called, or executes the module
  that was looked up
* `Bridge.resolved_code_runs` — the same in every run, with the failures that calls never meet
-/

namespace GuestRoutines

/-! ### Outcomes of an execution -/

/-- Only a lookup gives errors of these two kinds. -/
theorem Failure.kind_of_outcome {f : Failure} {phase : Phase} {error : ManagedError}
    (told : f.outcome phase = .recoverable error) :
    error.kind ≠ .loadFailed ∧ error.kind ≠ .missingExport := by
  cases f with
  | raised message | violation v =>
    cases told
    exact ⟨nofun, nofun⟩
  | trapped t =>
    cases t <;>
    · cases told
      exact ⟨nofun, nofun⟩
  | fault e =>
    cases phase with
    | instantiation =>
      cases told
      exact ⟨nofun, nofun⟩
    | routine => cases told

/-- The first letter tells the faults of the engine from the fault of a runtime that is down. -/
theorem EngineFault.head_message (e : EngineFault) : e.message.toList.head? ≠ some 'r' := by
  cases e with
  | exit status =>
    by_cases valid : 0 ≤ status.toInt ∧ status.toInt < exitBound
    · have told : (exit status).message =
          "...: Exited with i32 exit status " ++ toString status.toInt := if_pos valid
      simp [told]
    · have told : (exit status).message =
          "...: exit with invalid exit status outside of [0..126)" := if_neg valid
      simp [told]
  | unreachableMemory => decide
  | misaligned a =>
    have told : (misaligned a).message = "...: Pointer not aligned to 4: " ++ region a 4 := rfl
    simp [told]
  | outside a n =>
    have told : (outside a n).message = "...: Pointer out of bounds: " ++ region a n := rfl
    simp [told]
  | unknownImport module name =>
    have told : (unknownImport module name).message =
      "unknown import: `" ++ module ++ "::" ++ name ++ "` has not been defined" := rfl
    simp [told]
  | instanceLimit n =>
    have told : (instanceLimit n).message =
      "maximum concurrent limit of " ++ toString n ++ " for core instances reached" := rfl
    simp [told]
  | memoryLimit pages =>
    have told : (memoryLimit pages).message =
      "memory minimum size of " ++ toString pages ++ " pages exceeds memory limits" := rfl
    simp [told]

namespace Program

variable {p : Program} {c : Conditions} {budget : Nat} {name : String} {context : CallContext}

/-- The errors of an execution that a lookup gives. -/
theorem execute_recoverable {error : ManagedError}
    (returned : (p.execute c budget name context).1 = .ok (.recoverable error)) :
    error.kind ≠ .loadFailed ∧ (error.kind = .missingExport →
      p.callable? name = none ∧ error.message = p.missing name) := by
  have ended := p.ended_execute c budget name context
  rw [returned] at ended
  generalize (p.execute c budget name context).2 = after at ended
  generalize answered : Except.ok (RoutineOutcome.recoverable error) = answer at ended
  cases ended with
  | startUnwound u m instantiated => cases answered
  | startFailed f m instantiated =>
    obtain ⟨loads, exported⟩ := Failure.kind_of_outcome (Except.ok.inj answered).symm
    exact ⟨loads, fun same => absurd same exported⟩
  | missing m reached absent =>
    cases answered
    exact ⟨nofun, fun _ => ⟨absent, rfl⟩⟩
  | unwound m last b u reached callable run => cases answered
  | failed m last b f reached callable run =>
    obtain ⟨loads, exported⟩ := Failure.kind_of_outcome (Except.ok.inj answered).symm
    exact ⟨loads, fun same => absurd same exported⟩
  | returned m last b flow reached callable run ends => cases answered

/-- An exported routine that cannot be called has another type. -/
theorem exists_signature_ne_plain (exported : p.exportsRoutine name = true)
    (uncallable : p.callable? name = none) :
    ∃ f, p.routine? name = some f ∧ f.signature ≠ .plain := by
  obtain ⟨f, found⟩ : ∃ f, p.routine? name = some f :=
    Option.isSome_iff_exists.mp (by rwa [routine?, List.isSome_find?])
  exact ⟨f, found, callable?_eq_none_iff.mp uncallable f found⟩

end Program

namespace ModuleRuntime

variable {r : ModuleRuntime} {id : RoutineId} {handle : RoutineHandle} {m : CompiledModule}

/-- An error of the guest is told as it is. -/
theorem ofRoutine_told_eq_managed {ending : Except Unwinding RoutineOutcome} {error : ManagedError}
    (same : CallOutcome.ofRoutine (told ending) = .recoverable (.managed error)) :
    ending = .ok (.recoverable error) := by
  rcases ending with u | _ | e | _
  · cases same
  · cases same
  · cases same
    rfl
  · cases same

/-- The fault of a runtime that is down does not come of an execution. -/
theorem ofRoutine_told_ne_shutDown (p : Program) (c : Conditions) (budget : Nat) (name : String)
    (context : CallContext) :
    CallOutcome.ofRoutine (told (p.execute c budget name context).1) ≠ .fatal shutDownFault := by
  intro fatal
  rcases ending : (p.execute c budget name context).1 with u | _ | _ | fault <;>
    rw [ending] at fatal
  · -- The fault of a call that unwound has a text of its own, which begins otherwise.
    have same : "panic inside the embedded runtime: " ++ u.text = "runtime has been shut down" :=
      congrArg NativeFault.message (CallOutcome.fatal.inj fatal)
    have heads := congrArg (·.toList.head?) same
    simp at heads
  · cases fatal
  · cases fatal
  · obtain rfl : fault = shutDownFault := CallOutcome.fatal.inj fatal
    obtain ⟨_, _, e, _, _, _, _, same⟩ := Program.enter_of_fatal ending
    have message : e.message = "runtime has been shut down" :=
      (congrArg NativeFault.message same).symm
    exact e.head_message (by rw [message]; rfl)

/-- A call of a handle executes one module. The runtime keeps the module, which exports the routine
and has the fingerprint of the handle, and the files that the host has by then do not matter. -/
structure Executes (r : ModuleRuntime) (compiler : Compiler) (id : RoutineId)
    (handle : RoutineHandle) (m : CompiledModule) : Prop where
  serves : r.Serves id handle m
  call_eq : ∀ arguments host,
    let ending := r.execution m id arguments host.log
    r.call compiler handle.id arguments host = (told ending.1, r, { host with log := ending.2.log })

theorem Serves.executes (h : r.Serves id handle m) (live : r.live = true) (compiler : Compiler) :
    r.Executes compiler id handle m where
  serves := h
  call_eq arguments host := by
    have handle_id : handle.id = id := by rw [h.handle_eq]
    rw [handle_id]
    exact call_of_kept live h.kept compiler arguments host

/-! ### Direct calls -/

/-- What a direct call of a runtime can come to besides: the runtime has been shut down, the module
cannot be loaded, or it is instantiated but has no such routine. -/
structure Misdirected (r : ModuleRuntime) (compiler : Compiler) (id : RoutineId)
    (arguments : List HostValue) (host : Host) : Prop where
  shutDown : (r.shutdown.call compiler id arguments host).1 = .fatal shutDownFault
  unloadable : r.live = true →
    ∀ error, (r.load compiler host.files id.module).1 = .error error →
      (r.call compiler id arguments host).1 = .recoverable (loadFailure id.module error) ∧
        (loadFailure id.module error).kind = .loadFailed
  unexported : r.live = true →
    ∀ m start, (r.load compiler host.files id.module).1 = .ok m →
      m.program.exportsRoutine id.exportName = false →
      m.program.Reaches r.conditions
        (r.conditions.initialFuel r.params.runtime.limits.maxFuel.toNat)
        (context arguments host.log) start →
      (r.call compiler id arguments host).1 = .recoverable
        { kind := .missingExport, message := s!"module has no routine named '{id.exportName}'" }

theorem misdirected (r : ModuleRuntime) (compiler : Compiler) (id : RoutineId)
    (arguments : List HostValue) (host : Host) : r.Misdirected compiler id arguments host where
  shutDown := rfl
  unloadable live error unloadable := by
    rcases loaded : r.load compiler host.files id.module with ⟨answer, catalog⟩
    rw [loaded] at unloadable
    cases unloadable
    refine ⟨?_, rfl⟩
    simp only [call, live, loaded, Bool.not_true, Bool.false_eq_true, if_false]
  unexported live m start loaded unexported reached := by
    have absent : m.program.routine? id.exportName = none := by
      rw [← Option.not_isSome_iff_eq_none, Program.routine?, List.isSome_find?]
      exact Bool.not_eq_true _ ▸ unexported
    have uncallable : m.program.callable? id.exportName = none := by
      simp only [Program.callable?, absent]
    have ending := Program.execute_of_missing reached uncallable
    rcases found : r.load compiler host.files id.module with ⟨answer, catalog⟩
    rw [found] at loaded
    cases loaded
    simp only [call, live, found, ending, Program.missing, unexported, Bool.not_true,
      Bool.false_eq_true, if_false]

end ModuleRuntime

/-! ### Calls by the text of an identifier -/

namespace Embedder

variable {compiler : Compiler} {given : List (String × String)} {routine : String}
  {arguments : List HostValue} {e : Embedder ModuleRuntime} {params : StartupParams}
  {id : RoutineId} {handle : RoutineHandle} {r : ModuleRuntime} {host : Host}

/-- What a lookup has found is kept, so that a call executes it. -/
theorem LooksUp.executes (serving : e.Serving)
    (looked : LooksUp (ModuleRuntime.launcher compiler given) routine e params id (.ok (.ok handle))
      r host) : ∃ m, r.Executes compiler id handle m := by
  obtain ⟨before, ready, asked⟩ := looked.looked
  have live : before.live = true :=
    ((serving_ensureReady serving compiler given).live params before ready).2
  generalize (e.ensureReady (ModuleRuntime.launcher compiler given)).2.host = asking at asked
  have found : (before.resolve compiler asking.files id).1 = .ok handle :=
    Except.ok.inj (congrArg Prod.fst asked)
  obtain rfl : (before.resolve compiler asking.files id).2 = r := congrArg (·.2.1) asked
  obtain ⟨m, serves⟩ := ModuleRuntime.serves_of_resolve found
  -- The lookup may have loaded a module, but it has not taken the runtime down.
  have still := (before.continues_resolve compiler asking.files id).live
  exact ⟨m, serves.executes (still.trans live) compiler⟩

/-- What a call comes to: startup, the identifier or the lookup fails, or else the module that was
looked up is executed. -/
inductive Answered (compiler : Compiler) (given : List (String × String)) (routine : String)
    (arguments : List HostValue) (e : Embedder ModuleRuntime) : CallOutcome → Prop where
  | startupFailed (error : StartupError)
      (started : (e.ensureReady (ModuleRuntime.launcher compiler given)).1 = .ok (.error error)) :
      Answered compiler given routine arguments e (.recoverable (.initialization error))
  | malformed
      (started : (e.ensureReady (ModuleRuntime.launcher compiler given)).1 = .ok (.ok ()))
      (unread : RoutineId.parse routine = none) :
      Answered compiler given routine arguments e (.recoverable (.invalidRoutine routine))
  | lookupFailed (params : StartupParams) (id : RoutineId) (error : ModuleError)
      (r : ModuleRuntime) (host : Host)
      (looked : LooksUp (ModuleRuntime.launcher compiler given) routine e params id
        (.ok (.error error)) r host) :
      Answered compiler given routine arguments e (.recoverable (.ofModuleError id error))
  | executed (params : StartupParams) (id : RoutineId) (handle : RoutineHandle)
      (r : ModuleRuntime) (host : Host) (m : CompiledModule)
      (looked : LooksUp (ModuleRuntime.launcher compiler given) routine e params id
        (.ok (.ok handle)) r host) (executes : r.Executes compiler id handle m) :
      Answered compiler given routine arguments e
        (.ofRoutine (ModuleRuntime.told (r.execution m id arguments host.log).1))

/-- A call returns, and what it comes to is told by the lookup. -/
theorem answered_dispatch (serving : e.Serving) (compiler : Compiler)
    (given : List (String × String)) (routine : String) (arguments : List HostValue) :
    ∃ outcome,
      (e.dispatch (ModuleRuntime.launcher compiler given) routine arguments).1 = .ok outcome ∧
      Answered compiler given routine arguments e outcome := by
  have returns := ModuleRuntime.launcher_returns compiler given
  have ending := dispatched_dispatch (ModuleRuntime.launcher compiler given) routine arguments e
  generalize (e.dispatch (ModuleRuntime.launcher compiler given) routine arguments).1 = answer
    at ending
  generalize (e.dispatch (ModuleRuntime.launcher compiler given) routine arguments).2 = after
    at ending
  cases ending with
  | startupUnwound u started => exact absurd started (ensureReady_returns returns e u)
  | startupFailed error started => exact ⟨_, rfl, .startupFailed error started⟩
  | malformed started unread => exact ⟨_, rfl, .malformed started unread⟩
  | lookupUnwound params id u r host looked =>
    obtain ⟨before, -, asked⟩ := looked.looked
    exact absurd (congrArg Prod.fst asked) (returns.resolve id before _ u)
  | lookupFailed params id error r host looked =>
    exact ⟨_, rfl, .lookupFailed params id error r host looked⟩
  | called params id handle r last host final outcome looked call =>
    obtain ⟨m, executes⟩ := looked.executes serving
    have told : outcome = .ok (r.call compiler handle.id arguments host).1 :=
      (congrArg Prod.fst call).symm
    rw [told, executes.call_eq]
    exact ⟨_, rfl, .executed params id handle r host m looked executes⟩

/-- The errors of guests that a call never ends in, and why a routine is not to be had. -/
theorem Answered.managed {error : ManagedError}
    (h : Answered compiler given routine arguments e (.recoverable (.managed error))) :
    error.kind ≠ .loadFailed ∧ (error.kind = .missingExport →
      ∃ params id handle r host m f,
        LooksUp (ModuleRuntime.launcher compiler given) routine e params id (.ok (.ok handle)) r
          host ∧
        r.Executes compiler id handle m ∧ m.program.routine? id.exportName = some f ∧
        f.signature ≠ .plain ∧
        error.message = s!"export '{id.exportName}' must have the signature () -> ()") := by
  generalize answered : CallOutcome.recoverable (.managed error) = outcome at h
  cases h with
  | startupFailed error started => cases answered
  | malformed started unread => cases answered
  | lookupFailed params id refusal r host looked =>
    -- A failed load is an error of the lookup here, and not one of the guest.
    have other : CallError.ofModuleError id refusal ≠ .managed error := by
      unfold CallError.ofModuleError
      split <;> nofun
    exact absurd (CallOutcome.recoverable.inj answered).symm other
  | executed params id handle r host m looked executes =>
    -- The module exports the routine, so that only its type can stand in the way.
    have returned := ModuleRuntime.ofRoutine_told_eq_managed answered.symm
    obtain ⟨loads, missing⟩ := Program.execute_recoverable returned
    refine ⟨loads, fun kind => ?_⟩
    obtain ⟨uncallable, message⟩ := missing kind
    have exported := executes.serves.exported
    obtain ⟨f, found, typed⟩ := Program.exists_signature_ne_plain exported uncallable
    rw [Program.missing, if_pos exported] at message
    exact ⟨params, id, handle, r, host, m, f, looked, executes, found, typed, message⟩

/-- A call never finds the runtime down. -/
theorem Answered.ne_shutDown {outcome : CallOutcome}
    (h : Answered compiler given routine arguments e outcome) :
    outcome ≠ .fatal ModuleRuntime.shutDownFault := by
  cases h with
  | startupFailed error started => nofun
  | malformed started unread => nofun
  | lookupFailed params id error r host looked => nofun
  | executed params id handle r host m looked executes =>
    exact ModuleRuntime.ofRoutine_told_ne_shutDown _ _ _ _ _

/-- A call that fails to start the runtime was told so when it asked for the runtime. -/
theorem Answered.startup {error : StartupError}
    (h : Answered compiler given routine arguments e (.recoverable (.initialization error))) :
    (e.ensureReady (ModuleRuntime.launcher compiler given)).1 = .ok (.error error) := by
  generalize answered : CallOutcome.recoverable (.initialization error) = outcome at h
  cases h with
  | startupFailed other started =>
    cases answered
    exact started
  | malformed started unread => cases answered
  | lookupFailed params id refusal r host looked =>
    unfold CallError.ofModuleError at answered
    split at answered <;> cases answered
  | executed params id handle r host m looked executes =>
    generalize (r.execution m id arguments host.log).1 = ending at answered
    rcases ending with u | _ | _ | _ <;> cases answered

end Embedder

/-- **The code that runs is the code that was resolved.** In every run, whatever the files are: what
a lookup in a call has found is a kept module that exports the routine and has the fingerprint of
the handle, and the call executes it. So a call never ends in a failed load, in a routine that its
module has not, or in the fault of a runtime that is down, and after startup there is a runtime. All
of that is only for those who call a runtime directly. -/
theorem Bridge.resolved_code_runs {b : Bridge ModuleRuntime} {compiler : Compiler}
    {given : List (String × String)} (reached : b.Reached compiler given) (routine : String)
    (arguments : List HostValue) :
    let L := ModuleRuntime.launcher compiler given
    let e := b.embedder
    (∀ params id handle r host,
      Embedder.LooksUp L routine e params id (.ok (.ok handle)) r host →
        ∃ m, r.Executes compiler id handle m) ∧
      (∃ outcome, (e.dispatch L routine arguments).1 = .ok outcome ∧
        (b.call L routine arguments).1 = .ok (HostError.ofOutcome outcome) ∧
        Embedder.Answered compiler given routine arguments e outcome ∧
        outcome ≠ .fatal ModuleRuntime.shutDownFault ∧
        (∀ error, outcome = .recoverable (.initialization error) →
          (e.ensureReady L).1 = .ok (.error error)) ∧
        ∀ error, outcome = .recoverable (.managed error) →
          error.kind ≠ .loadFailed ∧ (error.kind = .missingExport →
            ∃ params id handle r host m f,
              Embedder.LooksUp L routine e params id (.ok (.ok handle)) r host ∧
              r.Executes compiler id handle m ∧ m.program.routine? id.exportName = some f ∧
              f.signature ≠ .plain ∧
              error.message = s!"export '{id.exportName}' must have the signature () -> ()")) ∧
      ((e.ensureReady L).1 = .ok (.ok ()) → (e.ensureReady L).2.lifecycle.state = .ready) ∧
      ∀ (r : ModuleRuntime) (id : RoutineId) (host : Host),
        r.Misdirected compiler id arguments host := by
  intro L e
  have serving : e.Serving := reached.serving
  obtain ⟨outcome, returned, answered⟩ :=
    Embedder.answered_dispatch serving compiler given routine arguments
  refine ⟨fun params id handle r host looked => looked.executes serving,
    ⟨outcome, returned, ?_, answered, answered.ne_shutDown, ?_, ?_⟩,
    (Embedder.ensureReady_eq_ok_iff L e).mp,
    fun r id host => r.misdirected compiler id arguments host⟩
  · rw [call_fst, returned]
    rfl
  · rintro error rfl
    exact answered.startup
  · rintro error rfl
    exact answered.managed

/-- A call of a routine of another type, with the module given at the launch. -/
theorem Bridge.resolved_code_runs_of_type :
    let p : Program := { routines := [{ name := "m", signature := .takesWord }] }
    let compiler : Compiler := ⟨fun _ => .ok p, fun _ => .ok p⟩
    let L := ModuleRuntime.launcher compiler [("m", "(module)")]
    let s : Settings.Store := ⟨[.table ⟨[("plwasm.module_path", ".")]⟩]⟩
    let b := (Bridge.new s {}).accessAll L [.operation (.embedder .ensureReady)]
    let error : ManagedError :=
      { kind := .missingExport, message := "export 'm' must have the signature () -> ()" }
    (b.embedder.dispatch L "m" []).1 = .ok (.recoverable (.managed error)) ∧
      ∃ (r : ModuleRuntime) (id : RoutineId) (handle : RoutineHandle) (m : CompiledModule),
        r.Executes compiler id handle m ∧
        ∃ f, m.program.routine? id.exportName = some f ∧ f.signature ≠ .plain := by
  intro p compiler L s b error
  have reached : b.Reached compiler [("m", "(module)")] := ⟨s, {}, _, rfl⟩
  have told : (b.embedder.dispatch L "m" []).1 = .ok (.recoverable (.managed error)) := by
    decide +kernel
  obtain ⟨-, ⟨outcome, returned, -, -, -, -, managed⟩, -⟩ := resolved_code_runs reached "m" []
  obtain rfl : outcome = .recoverable (.managed error) := Except.ok.inj (returned.symm.trans told)
  obtain ⟨-, missing⟩ := managed error rfl
  obtain ⟨params, id, handle, r, host, m, f, -, executes, found, typed, -⟩ := missing rfl
  exact ⟨told, r, id, handle, m, executes, f, found, typed⟩

end GuestRoutines
