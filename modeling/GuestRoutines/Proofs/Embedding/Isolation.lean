import GuestRoutines.Proofs.Call.Past
import GuestRoutines.Proofs.Embedding.Classification
import GuestRoutines.Proofs.Embedding.ModuleService

/-!
# Isolated calls of pinned code

Nothing of a call but its messages outlives it, and a routine that has been found once stays the
routine that was found. So a call does the same before and after any history, whatever the other
calls did and whatever became of the files.

## Main definitions

* `Log.Shares` — two logs of one host
* `Bridge.Access.Keeps` — an access that leaves the runtime up
* `Bridge.Up` — the runtime is ready with all that it had

## Main results

* `Embedder.dispatch_of_serves` — a call of a routine that was found, in full
* `Bridge.up_accessAll` — a ready bridge stays ready, with the same parameters and modules
* `Bridge.calls_isolated` — a call before and after any history
-/

namespace GuestRoutines

/-- Two logs of one host: levels are mapped alike, and the same messages are refused. -/
structure Log.Shares (g g' : Log) : Prop where
  levels : g'.levels = g.levels
  refusal : g'.refusal = g.refusal

theorem Log.Shares.refl (g : Log) : g.Shares g := ⟨rfl, rfl⟩

theorem Log.Shares.trans {g g' g'' : Log} (first : g.Shares g') (second : g'.Shares g'') :
    g.Shares g'' := ⟨second.levels.trans first.levels, second.refusal.trans first.refusal⟩

/-- A call leaves a log of the same host. -/
theorem Program.shares_execute (p : Program) (c : Conditions) (budget : Nat) (name : String)
    (context : CallContext) :
    context.log.Shares (p.execute c budget name context).2.log := by
  obtain ⟨last, gains, log, -⟩ := (p.ended_execute c budget name context).gains
  rw [log, gains.log]
  exact ⟨rfl, rfl⟩

theorem ModuleRuntime.shares_call (r : ModuleRuntime) (compiler : Compiler) (id : RoutineId)
    (arguments : List HostValue) (host : Host) :
    host.log.Shares (r.call compiler id arguments host).2.2.log := by
  unfold call
  split
  · exact .refl _
  · rcases r.load compiler host.files id.module with ⟨_ | m, _⟩
    · exact .refl _
    · exact m.program.shares_execute r.conditions r.params.runtime.limits.maxFuel.toNat
        id.exportName (context arguments host.log)

namespace Embedder

variable (compiler : Compiler) (given : List (String × String)) {e : Embedder ModuleRuntime}
  {params : StartupParams} {r : ModuleRuntime} {id : RoutineId} {handle : RoutineHandle}
  {m : CompiledModule} {routine : String}

/-! ### Calls of a ready runtime -/

/-- A call of a routine that was found: its module is executed in a context of its own, and nothing
of it is left but the log. -/
theorem dispatch_of_serves (ready : e.lifecycle = .ready params r) (live : r.live = true)
    (parsed : RoutineId.parse routine = some id) (serves : r.Serves id handle m)
    (arguments : List HostValue) :
    let ending := r.execution m id arguments e.host.log
    e.dispatch (ModuleRuntime.launcher compiler given) routine arguments =
      (.ok (.ofRoutine (ModuleRuntime.told ending.1)), { e with
        host := { e.host with log := ending.2.log }
        events := e.events ++ [.resolve id (some handle), .call handle] }) := by
  intro ending
  have tried : e.lifecycle.state ≠ .uninitialized := by simp [ready]
  have settled : e.settled = .ok () := by simp only [Embedder.settled, ready]
  -- Both the lookup and the call find the module in the catalogue, so that neither sees the files.
  have looked := resolveIn_launcher compiler given e params r id
  rw [serves.resolve_eq] at looked
  have called := ModuleRuntime.call_of_kept live serves.kept compiler arguments e.host
  rw [dispatch, ensureReady_of_tried tried, settled]
  simp only [parsed, ready, resolveAndCall, looked]
  rw [callIn_launcher, show handle.id = id by rw [serves.handle_eq], called]
  simp [Except.map, Except.toOption, ending]

/-- A call of a ready runtime leaves a log of the same host. -/
theorem shares_dispatch (tried : e.lifecycle.state ≠ .uninitialized) (routine : String)
    (arguments : List HostValue) :
    e.host.log.Shares
      (e.dispatch (ModuleRuntime.launcher compiler given) routine arguments).2.host.log := by
  have same : (e.ensureReady (ModuleRuntime.launcher compiler given)).2 = e := by
    rw [ensureReady_of_tried tried]
  -- A lookup does not touch the host.
  have unchanged {params : StartupParams} {id : RoutineId} {runtime : ModuleRuntime} {host : Host}
      {answer : Except Unwinding (Except ModuleError RoutineHandle)}
      (looked : LooksUp (ModuleRuntime.launcher compiler given) routine e params id answer runtime
        host) : host = e.host := by
    obtain ⟨before, -, asked⟩ := looked.looked
    rw [same] at asked
    exact (congrArg (·.2.2) asked).symm
  have ending := dispatched_dispatch (ModuleRuntime.launcher compiler given) routine arguments e
  generalize (e.dispatch (ModuleRuntime.launcher compiler given) routine arguments).1 = answer
    at ending
  generalize (e.dispatch (ModuleRuntime.launcher compiler given) routine arguments).2 = after
    at ending
  cases ending with
  | startupUnwound u started | startupFailed error started | malformed started unread =>
    rw [same]
    exact .refl _
  | lookupUnwound params id u runtime host looked
  | lookupFailed params id error runtime host looked =>
    rw [unchanged looked]
    exact .refl _
  | called params id handle between last host final outcome looked call =>
    have log := between.shares_call compiler handle.id arguments host
    have final_eq : (between.call compiler handle.id arguments host).2.2 = final :=
      congrArg (·.2.2) call
    rwa [final_eq, unchanged looked] at log

end Embedder

namespace Bridge

variable {b : Bridge ModuleRuntime} {compiler : Compiler} {given : List (String × String)}
  {params : StartupParams} {r : ModuleRuntime} {g : Log}

/-! ### Histories -/

/-- An access that leaves the runtime up and the log bound to the same host. Settings, files,
messages and the threshold may change in any way. -/
def Access.Keeps (g : Log) : Access → Prop
  | .operation .shutdown | .operation (.embedder .teardown) => False
  | .operation (.embedder (.hostChange _ host)) => g.Shares host.log
  | _ => True

/-- The runtime is ready with these parameters and with all that it had, in front of the host of a
log. -/
def Up (params : StartupParams) (r : ModuleRuntime) (g : Log) (b : Bridge ModuleRuntime) : Prop :=
  ∃ r', b.embedder.lifecycle = .ready params r' ∧ r.Continues r' ∧ g.Shares b.embedder.host.log

theorem Up.of_advances {b' : Bridge ModuleRuntime} (up : b.Up params r g)
    (advances : b.embedder.Advances b'.embedder)
    (log : b.embedder.host.log.Shares b'.embedder.host.log) : b'.Up params r g := by
  obtain ⟨r', ready, continues, shares⟩ := up
  obtain ⟨r'', ready', continues', -⟩ := advances.ready params r' ready
  exact ⟨r'', ready', continues.trans continues', shares.trans log⟩

/-- A ready bridge stays ready, and its runtime has all that it had. -/
theorem up_access (compiler : Compiler) (given : List (String × String)) (up : b.Up params r g)
    {a : Access} (keeps : a.Keeps g) :
    (b.access (ModuleRuntime.launcher compiler given) a).Up params r g := by
  obtain ⟨r', ready, continues, shares⟩ := id up
  have tried : b.embedder.lifecycle.state ≠ .uninitialized := by simp [ready]
  -- Where the embedder stays as it is, so does all that is said of it.
  have unchanged {b' : Bridge ModuleRuntime} (same : b'.embedder = b.embedder) :
      b'.Up params r g := ⟨r', by rw [same, ready], continues, by rwa [same]⟩
  match a with
  | .operation (.call routine arguments) =>
    have advances := b.embedder.advances_dispatch compiler given routine arguments
    rw [Embedder.ensureReady_of_tried tried] at advances
    have log := Embedder.shares_dispatch compiler given tried routine arguments
    rw [← embedder_call] at advances log
    exact up.of_advances advances log
  -- What is asked of the posture or of startup is settled once the runtime is up.
  | .operation (.setTrust trusted) =>
    have refused := embedder_setTrust trusted b
    rw [Embedder.setPosture_of_tried tried] at refused
    exact unchanged refused
  | .operation (.embedder .ensureReady) =>
    exact unchanged (congrArg Prod.snd (Embedder.ensureReady_of_tried tried))
  | .operation (.embedder (.setPosture tier)) =>
    exact unchanged (congrArg Prod.snd (Embedder.setPosture_of_tried tried tier))
  | .operation (.embedder .refreshLogLevel) =>
    refine up.of_advances (.of_eq (Embedder.lifecycle_refreshLogLevel b.embedder)
      (Embedder.events_refreshLogLevel b.embedder)) ?_
    simp only [access, perform, Embedder.perform, Embedder.refreshLogLevel]
    split <;> exact ⟨rfl, rfl⟩
  | .operation (.embedder (.hostChange settings host)) => exact ⟨r', ready, continues, keeps⟩
  -- The two ways to take the runtime down are excluded.
  | .operation .shutdown => cases keeps
  | .operation (.embedder .teardown) => cases keeps
  | .resolve id =>
    refine up.of_advances (b.embedder.advances_resolve compiler given id) ?_
    simp only [access, Embedder.resolve, ready, Embedder.resolveIn_launcher]
    exact .refl _
  | .call handle arguments =>
    refine up.of_advances (b.embedder.advances_callHandle compiler given handle arguments) ?_
    simp only [access, Embedder.callHandle, ready, Embedder.callIn_launcher]
    exact r'.shares_call compiler handle.id arguments b.embedder.host

theorem up_accessAll (compiler : Compiler) (given : List (String × String))
    (up : b.Up params r g) {history : List Access} (keeps : ∀ a ∈ history, a.Keeps g) :
    (b.accessAll (ModuleRuntime.launcher compiler given) history).Up params r g := by
  induction history generalizing b with
  | nil => exact up
  | cons a history ih =>
    obtain ⟨first, others⟩ := List.forall_mem_cons.mp keeps
    exact ih (up_access compiler given up first) others

/-- **Calls are isolated, and code is pinned.** Take a bridge that was brought to readiness by any
run, a routine that was found in it, and any history that leaves the runtime up: calls of any
routines with any outcomes, direct use of the runtime, changed settings, files and thresholds. The
bridge is still ready with its parameters, and whatever the arguments, a call of the routine gives
the same answer and adds the same messages to the log as it would have before the history, as long
as the threshold is the same. -/
theorem calls_isolated {history : List Access} {routine : String} {id : RoutineId}
    {handle : RoutineHandle} (reached : b.Reached compiler given)
    (ready : b.embedder.lifecycle.params? = some params)
    (parsed : RoutineId.parse routine = some id)
    (found : .resolve id (some handle) ∈ b.embedder.events)
    (keeps : ∀ a ∈ history, a.Keeps b.embedder.host.log) :
    let L := ModuleRuntime.launcher compiler given
    let after := b.accessAll L history
    after.embedder.lifecycle.state = .ready ∧
      after.embedder.lifecycle.params? = some params ∧
      (after.embedder.host.log.threshold = b.embedder.host.log.threshold →
        ∀ arguments, ∃ answer messages, ∀ c ∈ [b, after],
          (c.call L routine arguments).1 = .ok answer ∧
          (c.call L routine arguments).2.embedder.host.log.written =
            c.embedder.host.log.written ++ messages) := by
  intro L after
  obtain ⟨params', r, live⟩ := Lifecycle.state_eq_ready_iff.mp
    (Lifecycle.isSome_params?_iff.mp (by rw [ready]; rfl))
  obtain rfl : params' = params := by
    rw [live] at ready
    exact Option.some.inj ready
  obtain ⟨r', live', continues, shares⟩ := up_accessAll compiler given
    (⟨r, live, .refl r, .refl _⟩ : b.Up params' r b.embedder.host.log) keeps
  refine ⟨by rw [live']; rfl, by rw [live']; rfl, fun threshold arguments => ?_⟩
  -- The module of the routine is kept, and both calls run it under the same conditions.
  obtain ⟨m, serves⟩ := reached.serving.found params' r live id handle found
  have up : r.live = true := (reached.serving.live params' r live).2
  have called := Embedder.dispatch_of_serves compiler given live up parsed serves arguments
  have calledAfter := Embedder.dispatch_of_serves compiler given live'
    (continues.live.trans up) parsed (serves.continues continues) arguments
  rw [continues.execution_eq] at calledAfter
  obtain ⟨answer, messages, same⟩ := m.program.execute_of_agrees r.conditions
    r.params.runtime.limits.maxFuel.toNat id.exportName "" (arguments.map (·.toArgument))
    (⟨shares.levels, threshold, shares.refusal⟩ :
      b.embedder.host.log.Agrees after.embedder.host.log)
  have executed (c : Bridge ModuleRuntime) (member : c ∈ [b, after]) :
      (r.execution m id arguments c.embedder.host.log).1 = answer ∧
        (r.execution m id arguments c.embedder.host.log).2.log.written =
          c.embedder.host.log.written ++ messages := by
    have log : c.embedder.host.log ∈ [b, after].map (·.embedder.host.log) :=
      List.mem_map_of_mem member
    exact same c.embedder.host.log log
  refine ⟨HostError.ofOutcome (.ofRoutine (ModuleRuntime.told answer)), messages,
    fun c member => ?_⟩
  obtain ⟨answered, written⟩ := executed c member
  rw [List.mem_cons, List.mem_singleton] at member
  rcases member with rfl | rfl
  · rw [call_fst, embedder_call, called, answered]
    exact ⟨rfl, written⟩
  · rw [call_fst, embedder_call, calledAfter, answered]
    exact ⟨rfl, written⟩

/-- A file module is looked up. Then its file goes away and another of its routines traps: a call of
the routine is what it was. -/
theorem calls_isolated_after_deletion :
    let p : Program :=
      { memory := some { minimum := 1 }
        data := [{ offset := 0, bytes := "hi".toUTF8 }]
        routines := [
          { name := "m", body := .step (.log (.constant 19) (.constant 0) (.constant 2)) .done },
          { name := "broken", body := .step (.trap .unreachable) .done }] }
    let compiler : Compiler := ⟨fun _ => .ok p, fun _ => .ok p⟩
    let L := ModuleRuntime.launcher compiler []
    let s : Settings.Store := ⟨[.table ⟨[("plwasm.module_path", ".")]⟩]⟩
    let files := FileTree.empty.put ["m.wat"] (.file "(module)".toUTF8)
    let b := (new s { files }).accessAll L
      [.operation (.embedder .ensureReady), .resolve ⟨"m", "m"⟩]
    let history : List Access := [
      .operation (.embedder (.hostChange ⟨[]⟩ { b.embedder.host with files := .empty })),
      .operation (.call "m.broken" [])]
    let after := b.accessAll L history
    after.embedder.lifecycle.state = .ready ∧
      ∃ answer messages, ∀ c ∈ [b, after], (c.call L "m" []).1 = .ok answer ∧
        (c.call L "m" []).2.embedder.host.log.written =
          c.embedder.host.log.written ++ messages := by
  intro p compiler L s files b history after
  have reached : b.Reached compiler [] := ⟨s, { files }, _, rfl⟩
  obtain ⟨params, ready⟩ : ∃ params, b.embedder.lifecycle.params? = some params :=
    Option.isSome_iff_exists.mp (by decide +kernel)
  have found : .resolve ⟨"m", "m"⟩
      (some ⟨⟨"m", "m"⟩, some (Fingerprint.ofSource "(module)".toUTF8)⟩) ∈ b.embedder.events := by
    decide +kernel
  have keeps : ∀ a ∈ history, a.Keeps b.embedder.host.log :=
    List.forall_mem_cons.mpr ⟨⟨rfl, rfl⟩, List.forall_mem_cons.mpr ⟨trivial, nofun⟩⟩
  have parsed : RoutineId.parse "m" = some ⟨"m", "m"⟩ := by decide
  obtain ⟨up, -, same⟩ := calls_isolated reached ready parsed found keeps
  exact ⟨up, same (by decide +kernel) []⟩

end Bridge

end GuestRoutines
