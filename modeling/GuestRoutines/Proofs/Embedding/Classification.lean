import GuestRoutines.Command.Process
import GuestRoutines.Proofs.Embedding.Calls

/-!
# One report for every call

A call of a routine can go wrong in its startup, in the reading of the identifier, in the lookup and
in the routine itself. The first of these decides, and each is reported under a code of its own.

## Main definitions

* `CallEnding` — how a call that returns ends
* `Embedder.Ends` — when it ends so
* `CallEnding.report` — what the host is told
* `Launcher.Returns` — a launcher whose operations do not unwind

## Main results

* `Embedder.Ends.unique` — a call ends in one way
* `Bridge.call_classified` — the report, its code and the status of the process by the ending
-/

namespace GuestRoutines

/-- How a call that returns ends. -/
inductive CallEnding where
  /-- The runtime could not be started. -/
  | unstarted (error : StartupError)
  /-- The text is no identifier of a routine. -/
  | malformed
  | missing (id : RoutineId)
  | unloadable (id : RoutineId) (error : ModuleError)
  | returned (v : HostValue)
  | failed (error : ManagedError)
  | faulted (fault : NativeFault)

/-- What the host is told of a call. -/
def CallEnding.report (routine : String) : CallEnding → Except HostError HostValue
  | unstarted error =>
    .error { level := .error, code := .externalInvocation, message := error.message }
  | malformed =>
    .error { level := .error, code := .invalidName, message := RoutineId.invalidMessage routine }
  | missing id =>
    .error {
      level := .error
      code := .undefinedFunction
      message := s!"routine '{id.display}' does not exist" }
  | unloadable id error =>
    .error {
      level := .error
      code := .invalidDefinition
      message := s!"routine '{id.display}' could not be loaded: {error.message}" }
  | returned v => .ok v
  | failed error =>
    .error {
      level := .error
      code := .externalException
      message := error.message
      detail := some (match error.code with
        | some code => s!"{error.kind.text} ({code})"
        | none => error.kind.text) }
  | faulted fault =>
    .error {
      level := .fatal
      code := .internalError
      message := s!"Native fault: {fault.message}" }

/-- The code under which a call that ends so is reported, if it is an error. -/
def CallEnding.code? : CallEnding → Option String
  | unstarted _ => some "39000"
  | malformed => some "42602"
  | missing _ => some "42883"
  | unloadable _ _ => some "42P13"
  | returned _ => none
  | failed _ => some "38000"
  | faulted _ => some "XX000"

/-- A call is reported as an error under a code. -/
def ReportsCode (answer : Except HostError HostValue) (code : String) : Prop :=
  ∃ error, answer = .error error ∧ error.code.text = code

namespace Embedder

variable {ρ : Type} {L : Launcher ρ} {routine : String} {arguments : List HostValue}
  {e : Embedder ρ}

/-! ### Endings -/

/-- A call comes as far as the routine itself, which gives an outcome. -/
def Runs (L : Launcher ρ) (routine : String) (arguments : List HostValue) (e : Embedder ρ)
    (outcome : RoutineOutcome) : Prop :=
  ∃ params id handle between host, LooksUp L routine e params id (.ok (.ok handle)) between host ∧
    (L.call handle arguments between host).1 = .ok outcome

/-- The conditions under which a call ends in a way. Each of them includes that the call came as far
as the step in which it ends. -/
def Ends (L : Launcher ρ) (routine : String) (arguments : List HostValue) (e : Embedder ρ) :
    CallEnding → Prop
  | .unstarted error => (e.ensureReady L).1 = .ok (.error error)
  | .malformed => (e.ensureReady L).1 = .ok (.ok ()) ∧ RoutineId.parse routine = none
  | .missing id => ∃ params name runtime host,
      LooksUp L routine e params id (.ok (.error (.notFound name))) runtime host
  | .unloadable id error => (∀ name, error ≠ .notFound name) ∧ ∃ params runtime host,
      LooksUp L routine e params id (.ok (.error error)) runtime host
  | .returned v => Runs L routine arguments e (.success v)
  | .failed error => Runs L routine arguments e (.recoverable error)
  | .faulted fault => Runs L routine arguments e (.fatal fault)

/-- There is one lookup in a call. -/
theorem LooksUp.unique {params params' : StartupParams} {id id' : RoutineId}
    {answer answer' : Except Unwinding (Except ModuleError RoutineHandle)} {runtime runtime' : ρ}
    {host host' : Host} (first : LooksUp L routine e params id answer runtime host)
    (second : LooksUp L routine e params' id' answer' runtime' host') :
    id' = id ∧ answer' = answer ∧ runtime' = runtime ∧ host' = host := by
  obtain ⟨-, read, before, live, looked⟩ := first
  obtain ⟨-, read', before', live', looked'⟩ := second
  -- The same text is read, the same runtime is asked, and it gives one answer.
  obtain rfl : id = id' := Option.some.inj (read.symm.trans read')
  obtain ⟨-, rfl⟩ := Lifecycle.ready.inj (live.symm.trans live')
  obtain ⟨same, rest⟩ := Prod.mk.inj (looked.symm.trans looked')
  obtain ⟨rfl, rfl⟩ := Prod.mk.inj rest
  exact ⟨rfl, same.symm, rfl, rfl⟩

theorem Runs.unique {outcome outcome' : RoutineOutcome}
    (first : Runs L routine arguments e outcome)
    (second : Runs L routine arguments e outcome') : outcome' = outcome := by
  obtain ⟨params, id, handle, between, host, looks, call⟩ := first
  obtain ⟨params', id', handle', between', host', looks', call'⟩ := second
  obtain ⟨-, same, rfl, rfl⟩ := looks.unique looks'
  obtain rfl : handle' = handle := Except.ok.inj (Except.ok.inj same)
  exact Except.ok.inj (call'.symm.trans call)

/-! ### What is reported -/

theorem dispatch_of_lookupFailed {params : StartupParams} {id : RoutineId} {error : ModuleError}
    {runtime : ρ} {host : Host} (arguments : List HostValue)
    (looks : LooksUp L routine e params id (.ok (.error error)) runtime host) :
    (e.dispatch L routine arguments).1 = .ok (.recoverable (.ofModuleError id error)) := by
  obtain ⟨started, read, before, live, looked⟩ := looks
  have ready : e.ensureReady L = (.ok (.ok ()), (e.ensureReady L).2) := Prod.ext started rfl
  unfold dispatch
  rw [ready]
  simp only [read, live, resolveAndCall, resolveIn, looked]

theorem dispatch_of_runs {outcome : RoutineOutcome} (runs : Runs L routine arguments e outcome) :
    (e.dispatch L routine arguments).1 = .ok (.ofRoutine outcome) := by
  obtain ⟨params, id, handle, between, host, ⟨started, read, before, live, looked⟩, call⟩ := runs
  have ready : e.ensureReady L = (.ok (.ok ()), (e.ensureReady L).2) := Prod.ext started rfl
  unfold dispatch
  rw [ready]
  simp only [read, live, resolveAndCall, resolveIn, looked, callIn, noting, call]
  rfl

/-- The way in which a call ends decides what is reported. -/
theorem Ends.report_eq {ending : CallEnding} (ends : Ends L routine arguments e ending) :
    (e.dispatch L routine arguments).1.map HostError.ofOutcome = .ok (ending.report routine) := by
  cases ending with
  | unstarted error =>
    have settled : e.ensureReady L = (.ok (.error error), (e.ensureReady L).2) := Prod.ext ends rfl
    unfold dispatch
    rw [settled]
    rfl
  | malformed =>
    have ready : e.ensureReady L = (.ok (.ok ()), (e.ensureReady L).2) := Prod.ext ends.1 rfl
    unfold dispatch
    rw [ready]
    simp only [ends.2]
    rfl
  | missing id =>
    obtain ⟨params, name, runtime, host, looks⟩ := ends
    rw [dispatch_of_lookupFailed arguments looks]
    rfl
  | unloadable id error =>
    obtain ⟨other, params, runtime, host, looks⟩ := ends
    rw [dispatch_of_lookupFailed arguments looks]
    -- Of the errors of modules only one is reported as a missing routine.
    cases error with
    | notFound name => exact absurd rfl (other name)
    | compilation fault => rfl
    | file fault => rfl
    | configuration reason => rfl
  | returned v =>
    rw [dispatch_of_runs ends]
    rfl
  | failed error =>
    rw [dispatch_of_runs ends]
    obtain ⟨kind, message, _ | code⟩ := error <;> rfl
  | faulted fault =>
    rw [dispatch_of_runs ends]
    rfl

/-- A call that returns ends in one of the ways. -/
theorem exists_ends {outcome : CallOutcome}
    (returned : (e.dispatch L routine arguments).1 = .ok outcome) :
    ∃ ending, Ends L routine arguments e ending := by
  have ending := dispatched_dispatch L routine arguments e
  rw [returned] at ending
  generalize (e.dispatch L routine arguments).2 = after at ending
  generalize answered : Except.ok outcome = answer at ending
  cases ending with
  | startupUnwound u started => cases answered
  | startupFailed error started => exact ⟨.unstarted error, started⟩
  | malformed started unread => exact ⟨.malformed, started, unread⟩
  | lookupUnwound params id u runtime host looked => cases answered
  | lookupFailed params id error runtime host looked =>
    by_cases absent : ∃ name, error = .notFound name
    · obtain ⟨name, rfl⟩ := absent
      exact ⟨.missing id, params, name, runtime, host, looked⟩
    · exact ⟨.unloadable id error, fun name same => absent ⟨name, same⟩, params, runtime, host,
        looked⟩
  | called params id handle between after host last result looked call =>
    have ran : ∀ outcome, result = .ok outcome → Runs L routine arguments e outcome :=
      fun outcome same => ⟨params, id, handle, between, host, looked, by rw [call, same]⟩
    match result with
    | .error u => cases answered
    | .ok (.success v) => exact ⟨.returned v, ran _ rfl⟩
    | .ok (.recoverable error) => exact ⟨.failed error, ran _ rfl⟩
    | .ok (.fatal fault) => exact ⟨.faulted fault, ran _ rfl⟩

/-- A call ends in one way. Two ways are reported differently, or else differ only in what the same
step of the call gave. -/
theorem Ends.unique {ending other : CallEnding} (ends : Ends L routine arguments e ending)
    (again : Ends L routine arguments e other) : other = ending := by
  have same : ending.report routine = other.report routine :=
    Except.ok.inj (ends.report_eq.symm.trans again.report_eq)
  -- Ways of two kinds have different reports. Within one kind, the step in which the call ended
  -- gave one answer.
  cases ending with
  | unstarted error =>
    cases other with
    | unstarted error' => rw [Except.error.inj (Except.ok.inj (again.symm.trans ends))]
    | _ => simp [CallEnding.report] at same
  | malformed =>
    cases other with
    | malformed => rfl
    | _ => simp [CallEnding.report] at same
  | missing id =>
    obtain ⟨params, name, runtime, host, looks⟩ := ends
    cases other with
    | missing id' =>
      obtain ⟨params', name', runtime', host', looks'⟩ := again
      rw [(looks.unique looks').1]
    | _ => simp [CallEnding.report] at same
  | unloadable id error =>
    obtain ⟨-, params, runtime, host, looks⟩ := ends
    cases other with
    | unloadable id' error' =>
      obtain ⟨-, params', runtime', host', looks'⟩ := again
      obtain ⟨rfl, answer, -⟩ := looks.unique looks'
      rw [Except.error.inj (Except.ok.inj answer)]
    | _ => simp [CallEnding.report] at same
  | returned v =>
    cases other with
    | returned v' => rw [RoutineOutcome.success.inj (Runs.unique ends again)]
    | _ => simp [CallEnding.report] at same
  | failed error =>
    cases other with
    | failed error' => rw [RoutineOutcome.recoverable.inj (Runs.unique ends again)]
    | _ => simp [CallEnding.report] at same
  | faulted fault =>
    cases other with
    | faulted fault' => rw [RoutineOutcome.fatal.inj (Runs.unique ends again)]
    | _ => simp [CallEnding.report] at same

end Embedder

/-! ### Every call -/

section

variable {ρ : Type} {L : Launcher ρ}

/-- A launcher whose operations in a call return. -/
structure Launcher.Returns (L : Launcher ρ) : Prop where
  launch : ∀ params host u, (L.launch params host).1 ≠ .error u
  resolve : ∀ id runtime host u, (L.resolve id runtime host).1 ≠ .error u
  call : ∀ handle arguments runtime host u, (L.call handle arguments runtime host).1 ≠ .error u

theorem ModuleRuntime.launcher_returns (compiler : Compiler) (given : List (String × String)) :
    (launcher compiler given).Returns where
  launch _ _ _ := nofun
  resolve _ _ _ _ := nofun
  call _ _ _ _ _ := nofun

theorem Embedder.ensureReady_returns (returns : L.Returns) (e : Embedder ρ) (u : Unwinding) :
    (e.ensureReady L).1 ≠ .error u := by
  by_cases fresh : e.lifecycle.state = .uninitialized
  · obtain ⟨tier, h⟩ := Lifecycle.state_eq_uninitialized_iff.mp fresh
    intro unwound
    have started := started_ensureReady (L := L) h
    rw [unwound] at started
    generalize (e.ensureReady L).2 = after at started
    cases started with
    | unwound params u host read launch =>
      exact returns.launch params _ u (congrArg Prod.fst launch)
  · rw [ensureReady_of_tried fresh]
    exact nofun

theorem Embedder.dispatch_returns (returns : L.Returns) (routine : String)
    (arguments : List HostValue) (e : Embedder ρ) :
    ∃ outcome, (e.dispatch L routine arguments).1 = .ok outcome := by
  have ending := dispatched_dispatch L routine arguments e
  generalize (e.dispatch L routine arguments).1 = answer at ending
  generalize (e.dispatch L routine arguments).2 = after at ending
  cases ending with
  | startupUnwound u started => exact absurd started (ensureReady_returns returns e u)
  | startupFailed error started => exact ⟨_, rfl⟩
  | malformed started unread => exact ⟨_, rfl⟩
  | lookupUnwound params id u runtime host looks =>
    obtain ⟨-, -, before, -, looked⟩ := looks
    exact absurd (congrArg Prod.fst looked) (returns.resolve id before _ u)
  | lookupFailed params id error runtime host looked => exact ⟨_, rfl⟩
  | called params id handle between after host last result looked call =>
    match result with
    | .error u =>
      exact absurd (congrArg Prod.fst call) (returns.call handle arguments between host u)
    | .ok outcome => exact ⟨_, rfl⟩

/-- The answer to a call, by how the call ended. -/
structure Classified (L : Launcher ρ) (routine : String) (arguments : List HostValue)
    (e : Embedder ρ) (answer : Except HostError HostValue) : Prop where
  /-- There is exactly one way in which the call ended, and it decides every text of the report. -/
  ending : ∃ ending, Embedder.Ends L routine arguments e ending ∧
    (∀ other, Embedder.Ends L routine arguments e other → other = ending) ∧
    answer = ending.report routine
  /-- Startup comes first, whatever the text of the routine. -/
  unstarted : ReportsCode answer "39000" ↔ ∃ error, (e.ensureReady L).1 = .ok (.error error)
  malformed : ReportsCode answer "42602" ↔
    (e.ensureReady L).1 = .ok (.ok ()) ∧ RoutineId.parse routine = none
  missing : ReportsCode answer "42883" ↔ ∃ id params name runtime host,
    Embedder.LooksUp L routine e params id (.ok (.error (.notFound name))) runtime host
  unloadable : ReportsCode answer "42P13" ↔ ∃ id error, (∀ name, error ≠ .notFound name) ∧
    ∃ params runtime host,
      Embedder.LooksUp L routine e params id (.ok (.error error)) runtime host
  returned : ∀ v, answer = .ok v ↔ Embedder.Runs L routine arguments e (.success v)
  failed : ReportsCode answer "38000" ↔
    ∃ error, Embedder.Runs L routine arguments e (.recoverable error)
  faulted : ReportsCode answer "XX000" ↔ ∃ fault, Embedder.Runs L routine arguments e (.fatal fault)
  /-- Only a fault of the routine has the level after which the process must exit. -/
  fatal : ∀ error, answer = .error error →
    (error.isFatal ↔ ∃ fault, Embedder.Runs L routine arguments e (.fatal fault)) ∧
    error.level = if error.isFatal then .fatal else .error

theorem CallEnding.reportsCode_iff (routine : String) (ending : CallEnding) (code : String) :
    ReportsCode (ending.report routine) code ↔ ending.code? = some code := by
  cases ending <;> simp [ReportsCode, report, code?, SqlState.text]

theorem Embedder.Ends.classified {routine : String} {arguments : List HostValue} {e : Embedder ρ}
    {ending : CallEnding} (ends : Ends L routine arguments e ending) :
    Classified L routine arguments e (ending.report routine) := by
  -- Each condition of the classification says that the call ends in some way, and there is one.
  have only : ∀ other, Ends L routine arguments e other ↔ other = ending :=
    fun other => ⟨ends.unique, fun same => same ▸ ends⟩
  have ran : ∀ fault, Runs L routine arguments e (.fatal fault) ↔ .faulted fault = ending :=
    fun fault => only (.faulted fault)
  refine
    { ending := ⟨ending, ends, fun other => ends.unique, rfl⟩
      unstarted := ?_, malformed := ?_, missing := ?_, unloadable := ?_, returned := ?_
      failed := ?_, faulted := ?_, fatal := ?_ }
  · change _ ↔ ∃ error, Ends L routine arguments e (.unstarted error)
    cases ending <;> simp [CallEnding.reportsCode_iff, CallEnding.code?, only]
  · change _ ↔ Ends L routine arguments e .malformed
    cases ending <;> simp [CallEnding.reportsCode_iff, CallEnding.code?, only]
  · change _ ↔ ∃ id, Ends L routine arguments e (.missing id)
    cases ending <;> simp [CallEnding.reportsCode_iff, CallEnding.code?, only]
  · change _ ↔ ∃ id error, Ends L routine arguments e (.unloadable id error)
    cases ending <;> simp [CallEnding.reportsCode_iff, CallEnding.code?, only]
  · intro v
    change _ ↔ Ends L routine arguments e (.returned v)
    cases ending <;> simp [CallEnding.report, only, eq_comm]
  · change _ ↔ ∃ error, Ends L routine arguments e (.failed error)
    cases ending <;> simp [CallEnding.reportsCode_iff, CallEnding.code?, only]
  · simp only [ran]
    cases ending <;> simp [CallEnding.reportsCode_iff, CallEnding.code?]
  · intro error reported
    simp only [ran]
    cases ending <;> cases reported <;> simp [HostError.isFatal] <;> decide

/-- **One report for every call.** Whatever has been done with a bridge before, a call whose
launcher returns is answered, the answer is the one that its ending calls for, and the process that
makes the call exits with the status of the answer. -/
theorem Bridge.call_classified (returns : L.Returns) (b : Bridge ρ) (routine : String)
    (arguments : List HostValue) :
    ∃ answer, (b.call L routine arguments).1 = .ok answer ∧
      Classified L routine arguments b.embedder answer ∧
      ∀ words, arguments = words.map HostValue.ofWord →
        (Command.reportCall L routine words b).1.status =
          match answer with
          | .ok _ => 0
          | .error error => if error.isFatal then 70 else 1 := by
  obtain ⟨outcome, returned⟩ := b.embedder.dispatch_returns returns routine arguments
  obtain ⟨ending, ends⟩ := Embedder.exists_ends returned
  have answered : (b.call L routine arguments).1 = .ok (ending.report routine) := by
    rw [call_fst, ends.report_eq]
  refine ⟨ending.report routine, answered, ends.classified, ?_⟩
  -- The process looks at nothing but the answer.
  rintro words rfl
  have call : b.call L routine (words.map HostValue.ofWord) =
    (.ok (ending.report routine), (b.call L routine (words.map HostValue.ofWord)).2) :=
    Prod.ext answered rfl
  unfold Command.reportCall
  rw [call]
  rcases ending.report routine with error | v
  · rfl
  · rfl

end

/-- Without settings the runtime cannot be started, and a text that is no identifier is not even
read. -/
theorem Bridge.call_classified_without_settings :
    let L := ModuleRuntime.launcher ⟨fun _ => .error "no text", fun _ => .error "no binary"⟩ []
    let b : Bridge ModuleRuntime := Bridge.new ⟨[]⟩ {}
    RoutineId.parse "no routine" = none ∧
      ∃ answer, (b.call L "no routine" []).1 = .ok answer ∧ ReportsCode answer "39000" ∧
        (Command.reportCall L "no routine" [] b).1.status = 1 := by
  intro L b
  obtain ⟨answer, answered, classified, -⟩ :=
    Bridge.call_classified (ModuleRuntime.launcher_returns _ _) b "no routine" []
  have unstarted : ReportsCode answer "39000" :=
    classified.unstarted.mpr ⟨.missing Settings.Key.modulePath.name, rfl⟩
  exact ⟨by decide, answer, answered, unstarted, rfl⟩

end GuestRoutines
