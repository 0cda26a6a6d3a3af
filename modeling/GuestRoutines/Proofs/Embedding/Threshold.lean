import GuestRoutines.Embedding.Modules
import GuestRoutines.Embedding.Scripted
import GuestRoutines.Proofs.Call.Effects
import GuestRoutines.Proofs.Embedding.Calls
import GuestRoutines.Proofs.Embedding.Startup

/-!
# The threshold of the log

The threshold belongs to the host and outlives every launch. It is set for the launch and put back
if the launch fails; apart from that only the host itself and a refresh change it. A launch that
unwinds is the one case in which nobody puts it back.

## Main definitions

* `Launcher.LeavesThreshold` — a launcher and its runtimes do not set the threshold themselves
* `Embedder.configured` — the threshold that the settings ask for
* `Embedder.sets?`, `Bridge.lastSet?` — the threshold that an operation sets, and a run

## Main results

* `Script.launcher_leavesThreshold`, `ModuleRuntime.launcher_leavesThreshold` — two such launchers
* `Embedder.threshold_ensureReady`, `Embedder.threshold_dispatch` — startup and calls
* `Bridge.threshold_performAll` — the threshold after any run
* `Bridge.threshold_follows_settings` — what each operation makes of the threshold
-/

namespace GuestRoutines

variable {ρ : Type}

/-! ### Launchers that leave the threshold alone -/

/-- A launcher and its runtimes leave the threshold of the host's log as it is. They may write to
the log and touch the files. -/
structure Launcher.LeavesThreshold (L : Launcher ρ) : Prop where
  launch : ∀ params host, (L.launch params host).2.log.threshold = host.log.threshold
  resolve : ∀ id runtime host,
    (L.resolve id runtime host).2.2.log.threshold = host.log.threshold
  call : ∀ handle arguments runtime host,
    (L.call handle arguments runtime host).2.2.log.threshold = host.log.threshold
  shutdown : ∀ runtime host, (L.shutdown runtime host).2.log.threshold = host.log.threshold

theorem Log.threshold_emit (g : Log) (l : ManagedLevel) (message : String) :
    (g.emit l message).2.threshold = g.threshold := by
  rcases g.emit_cases l message with ⟨-, sent⟩ | ⟨text, -, -, sent⟩ | ⟨-, -, sent⟩
  all_goals rw [sent]

namespace Script

theorem threshold_logAll (host : Host) (messages : List (ManagedLevel × String)) :
    (logAll host messages).2.log.threshold = host.log.threshold := by
  induction messages generalizing host with
  | nil => rfl
  | cons message rest ih =>
    have first := host.log.threshold_emit message.1 message.2
    rw [logAll]
    split
    · next forwarded log sent =>
      rw [sent] at first
      exact (ih { host with log }).trans first
    · next u log sent => rwa [sent] at first

theorem threshold_launch (s : Script) (host : Host) :
    (s.launch host).2.log.threshold = host.log.threshold := by
  have logged := threshold_logAll host ((s.launchLog.map fun m => (.info, m)).toList)
  unfold launch
  split
  · next u after sent => rwa [sent] at logged
  · next after sent =>
    rw [sent] at logged
    -- The launch may still unwind or fail, but it does not touch the log any more.
    split
    all_goals exact logged

theorem threshold_call (s : Script) (id : RoutineId) (arguments : List HostValue) (host : Host) :
    (s.call id arguments host).2.log.threshold = host.log.threshold := by
  have logged := threshold_logAll host ((s.routines.lookup id.display).getD {}).logs
  unfold call
  dsimp only
  split
  · next u after sent => rwa [sent] at logged
  · next after sent =>
    rw [sent] at logged
    split
    all_goals exact logged

/-- A scripted runtime writes to the log at most. -/
theorem launcher_leavesThreshold (s : Script) : s.launcher.LeavesThreshold where
  launch _ host := s.threshold_launch host
  resolve _ _ _ := rfl
  call handle arguments _ host := s.threshold_call handle.id arguments host
  shutdown _ _ := rfl

end Script

namespace ModuleRuntime

theorem threshold_call (r : ModuleRuntime) (compiler : Compiler) (id : RoutineId)
    (arguments : List HostValue) (host : Host) :
    (r.call compiler id arguments host).2.2.log.threshold = host.log.threshold := by
  unfold call
  split
  · rfl
  · rcases r.load compiler host.files id.module with ⟨_ | m, _⟩
    · rfl
    · have ended := m.program.ended_execute r.conditions r.params.runtime.limits.maxFuel.toNat
        id.exportName (context arguments host.log)
      obtain ⟨last, gains, log, -⟩ := ended.gains
      have same := congrArg Log.threshold (log.trans gains.log)
      exact same

/-- A guest cannot reach the threshold: it writes to the log at most. -/
theorem launcher_leavesThreshold (compiler : Compiler) (given : List (String × String)) :
    (launcher compiler given).LeavesThreshold where
  launch _ _ := rfl
  resolve _ _ _ := rfl
  call handle arguments r host := r.threshold_call compiler handle.id arguments host
  shutdown _ _ := rfl

end ModuleRuntime

namespace Embedder

variable {L : Launcher ρ} {tier : TrustTier} {e after : Embedder ρ}
  {answer : Except Unwinding (Except StartupError Unit)}

/-- The threshold of the host's log. -/
def threshold (e : Embedder ρ) : Severity := e.host.log.threshold

/-- The threshold that the settings ask for: their log level on the common scale. -/
def configured (e : Embedder ρ) : Except StartupError Severity :=
  (logLevel e.settings).map e.host.log.levels.hostToCommon

/-! ### Startup -/

/-- The threshold that the runtime is launched with is the one that the settings ask for. -/
theorem configured_of_startupParams {params : StartupParams}
    (read : startupParams e.settings e.host.log.levels tier = .ok params) :
    e.configured = .ok params.logThreshold := by
  have decided := decided_startupParams e.settings e.host.log.levels tier
  rw [read] at decided
  cases decided with
  | @accepted v said kept =>
    have level : logLevel e.settings = .ok (v .logMinMessages) :=
      (logLevel_eq_value _).trans (Settings.Store.value_eq_ok_iff.mpr (said .logMinMessages))
    rw [configured, level]
    rfl

/-- The attempt to launch the runtime leaves the threshold that the settings ask for, unless it
ends with an error, which leaves the threshold that was there. -/
theorem Started.threshold (leaves : L.LeavesThreshold) (started : Started L tier e answer after) :
    (∃ error, answer = .ok (.error error)) ∧ after.threshold = e.threshold ∨
      (answer = .ok (.ok ()) ∨ ∃ u, answer = .error u) ∧ e.configured = .ok after.threshold := by
  -- A launch ends with the threshold that it was given.
  have kept {params : StartupParams} {host : Host}
      {given : Except Unwinding (Except StartupError ρ)}
      (launch : L.launch params (e.host.withThreshold params.logThreshold) = (given, host)) :
      host.log.threshold = params.logThreshold := by
    have same := leaves.launch params (e.host.withThreshold params.logThreshold)
    rwa [launch] at same
  cases started with
  | misconfigured error unread => exact .inl ⟨⟨error, rfl⟩, rfl⟩
  | refused params error host read launch => exact .inl ⟨⟨error, rfl⟩, rfl⟩
  | unwound params u host read launch =>
    refine .inr ⟨.inr ⟨u, rfl⟩, ?_⟩
    rw [configured_of_startupParams read, Embedder.threshold, kept launch]
  | launched params runtime host read launch =>
    refine .inr ⟨.inl rfl, ?_⟩
    rw [configured_of_startupParams read, Embedder.threshold, kept launch]

theorem threshold_of_fresh (leaves : L.LeavesThreshold)
    (fresh : e.lifecycle.state = .uninitialized) :
    (∃ error, (e.ensureReady L).1 = .ok (.error error)) ∧
        (e.ensureReady L).2.threshold = e.threshold ∨
      ((e.ensureReady L).1 = .ok (.ok ()) ∨ ∃ u, (e.ensureReady L).1 = .error u) ∧
        e.configured = .ok (e.ensureReady L).2.threshold := by
  obtain ⟨tier, fresh⟩ := Lifecycle.state_eq_uninitialized_iff.mp fresh
  exact (started_ensureReady fresh).threshold leaves

theorem threshold_of_tried (tried : e.lifecycle.state ≠ .uninitialized) :
    (e.ensureReady L).2.threshold = e.threshold := by
  rw [ensureReady_of_tried tried]

/-- An error leaves the threshold that was there, whoever is told of it. -/
theorem threshold_of_error (leaves : L.LeavesThreshold) {error : StartupError}
    (failed : (e.ensureReady L).1 = .ok (.error error)) :
    (e.ensureReady L).2.threshold = e.threshold := by
  by_cases fresh : e.lifecycle.state = .uninitialized
  · rcases threshold_of_fresh leaves fresh with ⟨-, kept⟩ | ⟨ready | ⟨u, unwound⟩, -⟩
    · exact kept
    · simp [ready] at failed
    · simp [unwound] at failed
  · exact threshold_of_tried fresh

theorem configured_of_ready (leaves : L.LeavesThreshold)
    (fresh : e.lifecycle.state = .uninitialized) (ready : (e.ensureReady L).1 = .ok (.ok ())) :
    e.configured = .ok (e.ensureReady L).2.threshold := by
  rcases threshold_of_fresh leaves fresh with ⟨⟨error, failed⟩, -⟩ | ⟨-, asked⟩
  · simp [failed] at ready
  · exact asked

/-- A launch that unwinds leaves the threshold that was set for it. -/
theorem configured_of_unwound (leaves : L.LeavesThreshold) {u : Unwinding}
    (unwound : (e.ensureReady L).1 = .error u) :
    e.configured = .ok (e.ensureReady L).2.threshold := by
  by_cases fresh : e.lifecycle.state = .uninitialized
  · rcases threshold_of_fresh leaves fresh with ⟨⟨error, failed⟩, -⟩ | ⟨-, asked⟩
    · simp [failed] at unwound
    · exact asked
  · -- Only the attempt itself can unwind.
    rw [ensureReady_of_tried fresh] at unwound
    cases unwound

/-! ### Any operation -/

/-- The threshold that an operation sets, if it sets one: an attempt to launch the runtime that does
not end with an error, a refresh, and whatever the host does itself. -/
def sets? (L : Launcher ρ) (e : Embedder ρ) : Operation → Option Severity
  | .ensureReady =>
    match e.lifecycle, (e.ensureReady L).1 with
    | .uninitialized _, .ok (.ok ()) | .uninitialized _, .error _ => e.configured.toOption
    | _, _ => none
  | .refreshLogLevel => e.configured.toOption
  | .hostChange _ host => some host.log.threshold
  | .setPosture _ | .teardown => none

theorem threshold_ensureReady (leaves : L.LeavesThreshold) (e : Embedder ρ) :
    (e.ensureReady L).2.threshold = (e.sets? L .ensureReady).getD e.threshold := by
  by_cases fresh : e.lifecycle.state = .uninitialized
  · obtain ⟨tier, live⟩ := Lifecycle.state_eq_uninitialized_iff.mp fresh
    rcases threshold_of_fresh leaves fresh with
      ⟨⟨error, failed⟩, kept⟩ | ⟨ready | ⟨u, unwound⟩, asked⟩
    · simp only [sets?, live, failed, kept, Option.getD_none]
    · simp only [sets?, live, ready, asked, Except.toOption, Option.getD_some]
    · simp only [sets?, live, unwound, asked, Except.toOption, Option.getD_some]
  · -- Nobody tries a second time.
    have idle : e.sets? L .ensureReady = none := by
      rw [sets?]
      split
      · next live _ => simp [live] at fresh
      · next live _ => simp [live] at fresh
      · rfl
    rw [threshold_of_tried fresh, idle, Option.getD_none]

theorem refreshLogLevel_of_error {error : StartupError} (asked : e.configured = .error error) :
    e.refreshLogLevel = (.error error, e) := by
  unfold configured at asked
  unfold refreshLogLevel
  cases level : logLevel e.settings with
  | error error' =>
    rw [level] at asked
    cases asked
    rfl
  | ok l =>
    rw [level] at asked
    cases asked

theorem refreshLogLevel_of_ok {s : Severity} (asked : e.configured = .ok s) :
    e.refreshLogLevel = (.ok s, e.withThreshold s) := by
  unfold configured at asked
  unfold refreshLogLevel
  cases level : logLevel e.settings with
  | error error =>
    rw [level] at asked
    cases asked
  | ok l =>
    rw [level] at asked
    cases asked
    rfl

theorem threshold_setPosture (tier : TrustTier) (e : Embedder ρ) :
    (e.setPosture tier).2.threshold = e.threshold := by
  unfold setPosture
  split
  all_goals rfl

theorem threshold_teardown (leaves : L.LeavesThreshold) (e : Embedder ρ) :
    (e.teardown L).2.threshold = e.threshold := by
  unfold teardown
  split
  · exact leaves.shutdown _ e.host
  · rfl

/-- The threshold after an operation is the one that it sets, or else the one before. -/
theorem threshold_perform (leaves : L.LeavesThreshold) (e : Embedder ρ) (op : Operation) :
    (e.perform L op).threshold = (e.sets? L op).getD e.threshold := by
  cases op with
  | ensureReady => exact threshold_ensureReady leaves e
  | setPosture tier => exact threshold_setPosture tier e
  | refreshLogLevel =>
    cases asked : e.configured with
    | error error =>
      simp only [perform, sets?, asked, refreshLogLevel_of_error asked, Except.toOption,
        Option.getD_none]
    | ok s =>
      simp only [perform, sets?, asked, refreshLogLevel_of_ok asked, Except.toOption,
        Option.getD_some]
      rfl
  | teardown => exact threshold_teardown leaves e
  | hostChange settings host => rfl

/-- Of a call, only startup changes the threshold, however the call ends. -/
theorem threshold_dispatch (leaves : L.LeavesThreshold) (e : Embedder ρ) (routine : String)
    (arguments : List HostValue) :
    (e.dispatch L routine arguments).2.threshold = (e.ensureReady L).2.threshold := by
  -- A lookup leaves the threshold that startup left.
  have lookup {params : StartupParams} {id : RoutineId} {runtime : ρ} {host : Host}
      {answer : Except Unwinding (Except ModuleError RoutineHandle)}
      (looked : LooksUp L routine e params id answer runtime host) :
      host.log.threshold = (e.ensureReady L).2.threshold := by
    obtain ⟨before, -, asked⟩ := looked.looked
    have same := leaves.resolve id before (e.ensureReady L).2.host
    rwa [asked] at same
  have ending := dispatched_dispatch L routine arguments e
  generalize (e.dispatch L routine arguments).1 = outcome at ending
  generalize (e.dispatch L routine arguments).2 = after at ending
  cases ending with
  | startupUnwound u started => rfl
  | startupFailed error started => rfl
  | malformed started unread => rfl
  | lookupUnwound params id u runtime host looked => exact lookup looked
  | lookupFailed params id error runtime host looked => exact lookup looked
  | called params id handle between last host final outcome looked call =>
    have same := leaves.call handle arguments between host
    rw [call] at same
    exact same.trans (lookup looked)

end Embedder

/-! ### Runs -/

namespace Bridge

variable {L : Launcher ρ}

/-- The threshold that an operation sets, if it sets one. A call sets what its startup sets. -/
def sets? (L : Launcher ρ) (b : Bridge ρ) : Operation → Option Severity
  | .call _ _ => b.embedder.sets? L .ensureReady
  | .setTrust _ | .shutdown => none
  | .embedder op => b.embedder.sets? L op

/-- The threshold that the last operation of a run sets, of those that set one. -/
def lastSet? (L : Launcher ρ) (b : Bridge ρ) : List Operation → Option Severity
  | [] => none
  | op :: ops => ((b.perform L op).lastSet? L ops).or (b.sets? L op)

theorem threshold_perform (leaves : L.LeavesThreshold) (b : Bridge ρ) (op : Operation) :
    (b.perform L op).embedder.threshold = (b.sets? L op).getD b.embedder.threshold := by
  cases op with
  | call routine arguments =>
    rw [perform, embedder_call, Embedder.threshold_dispatch leaves]
    exact Embedder.threshold_ensureReady leaves b.embedder
  | setTrust trusted =>
    rw [perform, embedder_setTrust]
    exact Embedder.threshold_setPosture _ b.embedder
  | shutdown => exact Embedder.threshold_teardown leaves b.embedder
  | embedder op => exact Embedder.threshold_perform leaves b.embedder op

/-- The threshold after a run is the one that was set last in it, or else the one before. -/
theorem threshold_performAll (leaves : L.LeavesThreshold) (b : Bridge ρ) (ops : List Operation) :
    (b.performAll L ops).embedder.threshold = (b.lastSet? L ops).getD b.embedder.threshold := by
  induction ops generalizing b with
  | nil => rfl
  | cons op ops ih =>
    rw [performAll_cons, ih, threshold_perform leaves, lastSet?]
    cases (b.perform L op).lastSet? L ops with
    | none => rfl
    | some s => rfl

/-- **The threshold follows the settings where an operation succeeds, and stays where one fails.**
The exception is a launch that unwinds: it leaves the threshold that was set for it. -/
theorem threshold_follows_settings (leaves : L.LeavesThreshold) (b : Bridge ρ) :
    let e := b.embedder
    -- Startup.
    (∀ error, (e.ensureReady L).1 = .ok (.error error) →
      (e.ensureReady L).2.threshold = e.threshold) ∧
    (e.lifecycle.state ≠ .uninitialized → (e.ensureReady L).2.threshold = e.threshold) ∧
    (e.lifecycle.state = .uninitialized → (e.ensureReady L).1 = .ok (.ok ()) →
      e.configured = .ok (e.ensureReady L).2.threshold) ∧
    (∀ u, (e.ensureReady L).1 = .error u → e.configured = .ok (e.ensureReady L).2.threshold) ∧
    -- A refresh, in any state.
    (∀ error, e.configured = .error error → e.refreshLogLevel = (.error error, e)) ∧
    (∀ s, e.configured = .ok s →
      e.refreshLogLevel.1 = .ok s ∧ e.refreshLogLevel.2.threshold = s) ∧
    -- The other operations.
    (∀ tier, (e.setPosture tier).2.threshold = e.threshold) ∧
    (e.teardown L).2.threshold = e.threshold ∧
    (∀ routine arguments,
      (b.call L routine arguments).2.embedder.threshold = (e.ensureReady L).2.threshold) ∧
    -- Any run of them.
    ∀ ops, (b.performAll L ops).embedder.threshold = (b.lastSet? L ops).getD e.threshold := by
  intro e
  refine ⟨fun error => Embedder.threshold_of_error leaves, Embedder.threshold_of_tried,
    Embedder.configured_of_ready leaves, fun u => Embedder.configured_of_unwound leaves,
    fun error => Embedder.refreshLogLevel_of_error, ?_, ?_, ?_, ?_, ?_⟩
  · intro s asked
    rw [Embedder.refreshLogLevel_of_ok asked]
    exact ⟨rfl, rfl⟩
  · intro tier
    exact Embedder.threshold_setPosture tier e
  · exact Embedder.threshold_teardown leaves e
  · intro routine arguments
    rw [embedder_call]
    exact Embedder.threshold_dispatch leaves e routine arguments
  · exact threshold_performAll leaves b

/-- A launch that fails puts the threshold back. -/
theorem threshold_follows_settings_refused :
    let L := Script.launcher { launchError := some (.failed "no memory") }
    let b : Bridge Unit :=
      .new (.ofTable ⟨[("plwasm.module_path", "p"), ("plwasm.log_min_messages", "info")]⟩) {}
    L.LeavesThreshold ∧ (b.embedder.ensureReady L).1 = .ok (.error (.failed "no memory")) ∧
      b.embedder.configured = .ok .info ∧ b.embedder.threshold = .warning ∧
      (b.embedder.ensureReady L).2.threshold = .warning := by
  intro L b
  have leaves : L.LeavesThreshold := Script.launcher_leavesThreshold _
  have failed : (b.embedder.ensureReady L).1 = .ok (.error (.failed "no memory")) := rfl
  exact ⟨leaves, failed, rfl, rfl, (threshold_follows_settings leaves b).1 _ failed⟩

/-- A launch that unwinds does not put the threshold back. -/
theorem threshold_changed_by_unwinding :
    let L := Script.launcher { launchUnwinds := some "boom" }
    let b : Bridge Unit :=
      .new (.ofTable ⟨[("plwasm.module_path", "p"), ("plwasm.log_min_messages", "info")]⟩) {}
    L.LeavesThreshold ∧ (b.embedder.ensureReady L).1 = .error ⟨"boom"⟩ ∧
      (b.embedder.ensureReady L).2.lifecycle.state = .initializing ∧
      b.embedder.threshold = .warning ∧ (b.embedder.ensureReady L).2.threshold = .info := by
  intro L b
  exact ⟨Script.launcher_leavesThreshold _, rfl, rfl, rfl, rfl⟩

end Bridge

end GuestRoutines
