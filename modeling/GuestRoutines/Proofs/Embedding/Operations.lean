import GuestRoutines.Embedding.Bridge

/-!
# What is done with an embedder

An embedder is used one operation after the other. Nothing is assumed about the order, about the
runtime, or about what the host does to its settings, its log and its files in the meantime.

## Main definitions

* `Embedder.Started` — the four ways in which the attempt to launch the runtime ends
* `Embedder.Operation`, `Embedder.performAll` — what is done with an embedder, and a run of it

## Main results

* `Embedder.started_start` — the attempt ends in one of the four ways
* `Embedder.lifecycle_performAll_of_tried` — once tried, the lifecycle changes only by a teardown
-/

namespace GuestRoutines

/-- The host with the threshold of its log replaced. -/
def Host.withThreshold (h : Host) (s : Severity) : Host :=
  { h with log := (h.log.setThreshold s).2 }

namespace Lifecycle

variable {ρ : Type} {l : Lifecycle ρ}

@[simp] theorem state_uninitialized (tier : TrustTier) :
    (uninitialized tier : Lifecycle ρ).state = .uninitialized := rfl

@[simp] theorem state_initializing (tier : TrustTier) :
    (initializing tier : Lifecycle ρ).state = .initializing := rfl

@[simp] theorem state_ready (params : StartupParams) (runtime : ρ) :
    (ready params runtime).state = .ready := rfl

@[simp] theorem state_failed (error : StartupError) (tier : TrustTier) :
    (failed error tier : Lifecycle ρ).state = .failed := rfl

@[simp] theorem state_shuttingDown (tier : TrustTier) :
    (shuttingDown tier : Lifecycle ρ).state = .shuttingDown := rfl

theorem state_eq_uninitialized_iff :
    l.state = .uninitialized ↔ ∃ tier, l = .uninitialized tier := by
  cases l <;> simp

theorem state_eq_ready_iff : l.state = .ready ↔ ∃ params runtime, l = .ready params runtime := by
  cases l <;> simp

theorem isSome_runtime?_iff : l.runtime?.isSome ↔ l.state = .ready := by
  cases l <;> simp [runtime?]

theorem isSome_params?_iff : l.params?.isSome ↔ l.state = .ready := by
  cases l <;> simp [params?]

end Lifecycle

namespace Embedder

variable {ρ : Type}

/-- An embedder whose runtime nobody has tried to launch. -/
def new (settings : Settings.Store) (host : Host) : Embedder ρ := { settings, host }

/-! ### Startup -/

/-- How the attempt to launch the runtime ends: what the caller is told, and the embedder
afterwards. The launcher sees the host with the threshold of the new parameters. -/
inductive Started (L : Launcher ρ) (tier : TrustTier) (e : Embedder ρ) :
    Except Unwinding (Except StartupError Unit) → Embedder ρ → Prop where
  | misconfigured (error : StartupError)
      (unread : startupParams e.settings e.host.log.levels tier = .error error) :
      Started L tier e (.ok (.error error))
        { e with lifecycle := .failed error tier, attempts := e.attempts + 1 }
  | unwound (params : StartupParams) (u : Unwinding) (host : Host)
      (read : startupParams e.settings e.host.log.levels tier = .ok params)
      (launch : L.launch params (e.host.withThreshold params.logThreshold) = (.error u, host)) :
      Started L tier e (.error u)
        { e with
          lifecycle := .initializing tier
          attempts := e.attempts + 1
          host
          events := e.events ++ [.launch params false] }
  | refused (params : StartupParams) (error : StartupError) (host : Host)
      (read : startupParams e.settings e.host.log.levels tier = .ok params)
      (launch : L.launch params (e.host.withThreshold params.logThreshold) =
        (.ok (.error error), host)) :
      Started L tier e (.ok (.error error))
        { e with
          lifecycle := .failed error tier
          attempts := e.attempts + 1
          host := host.withThreshold e.host.log.threshold
          events := e.events ++ [.launch params false] }
  | launched (params : StartupParams) (runtime : ρ) (host : Host)
      (read : startupParams e.settings e.host.log.levels tier = .ok params)
      (launch : L.launch params (e.host.withThreshold params.logThreshold) =
        (.ok (.ok runtime), host)) :
      Started L tier e (.ok (.ok ()))
        { e with
          lifecycle := .ready params runtime
          attempts := e.attempts + 1
          host
          events := e.events ++ [.launch params true] }

theorem started_start (L : Launcher ρ) (tier : TrustTier) (e : Embedder ρ) :
    Started L tier e (e.start L tier).1 (e.start L tier).2 := by
  cases read : startupParams e.settings e.host.log.levels tier with
  | error error =>
    simp only [start, read]
    exact .misconfigured error read
  | ok params =>
    rcases launch : L.launch params (e.host.withThreshold params.logThreshold) with ⟨answer, host⟩
    -- `start` sets the threshold in the embedder and not in the host, so the host is written out.
    have launch' : L.launch params
        { e.host with log := (e.host.log.setThreshold params.logThreshold).2 } = (answer, host) :=
      launch
    simp only [start, read, withThreshold, launch']
    match answer with
    | .error u => exact .unwound params u host read launch
    | .ok (.error error) => exact .refused params error host read launch
    | .ok (.ok runtime) => exact .launched params runtime host read launch

theorem ensureReady_of_uninitialized {L : Launcher ρ} {e : Embedder ρ} {tier : TrustTier}
    (h : e.lifecycle = .uninitialized tier) : e.ensureReady L = e.start L tier := by
  simp only [ensureReady, h]

theorem started_ensureReady {L : Launcher ρ} {e : Embedder ρ} {tier : TrustTier}
    (h : e.lifecycle = .uninitialized tier) :
    Started L tier e (e.ensureReady L).1 (e.ensureReady L).2 := by
  rw [ensureReady_of_uninitialized h]
  exact started_start L tier e

theorem ensureReady_of_tried {L : Launcher ρ} {e : Embedder ρ}
    (tried : e.lifecycle.state ≠ .uninitialized) : e.ensureReady L = (.ok e.settled, e) := by
  unfold ensureReady
  split
  · next h => simp [h] at tried
  · rfl

/-! ### The other operations -/

theorem setPosture_of_uninitialized {e : Embedder ρ} {before : TrustTier}
    (h : e.lifecycle = .uninitialized before) (tier : TrustTier) :
    e.setPosture tier = (.ok before, { e with lifecycle := .uninitialized tier }) := by
  simp only [setPosture, h]

theorem setPosture_of_tried {e : Embedder ρ} (tried : e.lifecycle.state ≠ .uninitialized)
    (tier : TrustTier) : e.setPosture tier = (.error (.postureFixed e.lifecycle.state), e) := by
  unfold setPosture
  split
  · next h => simp [h] at tried
  · rfl

theorem lifecycle_refreshLogLevel (e : Embedder ρ) :
    e.refreshLogLevel.2.lifecycle = e.lifecycle := by
  unfold refreshLogLevel
  split <;> rfl

theorem attempts_refreshLogLevel (e : Embedder ρ) : e.refreshLogLevel.2.attempts = e.attempts := by
  unfold refreshLogLevel
  split <;> rfl

theorem events_refreshLogLevel (e : Embedder ρ) : e.refreshLogLevel.2.events = e.events := by
  unfold refreshLogLevel
  split <;> rfl

theorem lifecycle_teardown (L : Launcher ρ) (e : Embedder ρ) :
    (e.teardown L).2.lifecycle = .shuttingDown e.lifecycle.tier := by
  unfold teardown
  split <;> rfl

theorem attempts_teardown (L : Launcher ρ) (e : Embedder ρ) :
    (e.teardown L).2.attempts = e.attempts := by
  unfold teardown
  split <;> rfl

/-- A teardown shuts the runtime down exactly if it is ready. -/
theorem events_teardown (L : Launcher ρ) (e : Embedder ρ) :
    (e.teardown L).2.events =
      e.events ++ if e.lifecycle.state = .ready then [.shutdown] else [] := by
  unfold teardown
  split
  · next h => simp [h, noting]
  · next h =>
    have idle : e.lifecycle.state ≠ .ready := fun ready => by
      obtain ⟨params, runtime, live⟩ := Lifecycle.state_eq_ready_iff.mp ready
      exact h params runtime live
    simp [idle]

/-! ### Runs of an embedder -/

/-- What is done with an embedder. -/
inductive Operation where
  | ensureReady
  | setPosture (tier : TrustTier)
  | refreshLogLevel
  | teardown
  /-- The host changes its settings, its log or its files. -/
  | hostChange (settings : Settings.Store) (host : Host)

/-- The embedder after an operation. -/
def perform (L : Launcher ρ) (e : Embedder ρ) : Operation → Embedder ρ
  | .ensureReady => (e.ensureReady L).2
  | .setPosture tier => (e.setPosture tier).2
  | .refreshLogLevel => e.refreshLogLevel.2
  | .teardown => (e.teardown L).2
  | .hostChange settings host => { e with settings, host }

/-- The embedder after some operations, one after the other. -/
def performAll (L : Launcher ρ) (e : Embedder ρ) (ops : List Operation) : Embedder ρ :=
  ops.foldl (perform L) e

@[simp] theorem performAll_nil (L : Launcher ρ) (e : Embedder ρ) : e.performAll L [] = e := rfl

@[simp] theorem performAll_cons (L : Launcher ρ) (e : Embedder ρ) (op : Operation)
    (ops : List Operation) : e.performAll L (op :: ops) = (e.perform L op).performAll L ops := rfl

@[simp] theorem performAll_append (L : Launcher ρ) (e : Embedder ρ) (ops more : List Operation) :
    e.performAll L (ops ++ more) = (e.performAll L ops).performAll L more :=
  List.foldl_append

/-- Once a launch has been tried, or the runtime torn down, only a teardown changes the
lifecycle. -/
theorem lifecycle_perform_of_tried (L : Launcher ρ) {e : Embedder ρ} {op : Operation}
    (tried : e.lifecycle.state ≠ .uninitialized) (kept : op ≠ .teardown) :
    (e.perform L op).lifecycle = e.lifecycle := by
  cases op with
  | ensureReady => simp only [perform, ensureReady_of_tried tried]
  | setPosture tier => simp only [perform, setPosture_of_tried tried]
  | refreshLogLevel => exact lifecycle_refreshLogLevel e
  | teardown => exact absurd rfl kept
  | hostChange settings host => rfl

theorem lifecycle_performAll_of_tried (L : Launcher ρ) {e : Embedder ρ} {ops : List Operation}
    (tried : e.lifecycle.state ≠ .uninitialized) (kept : .teardown ∉ ops) :
    (e.performAll L ops).lifecycle = e.lifecycle := by
  induction ops generalizing e with
  | nil => rfl
  | cons op ops ih =>
    -- The first operation keeps the lifecycle, so the others begin with one that has been tried.
    have first : (e.perform L op).lifecycle = e.lifecycle :=
      lifecycle_perform_of_tried L tried fun h => kept (h ▸ List.mem_cons_self)
    rw [performAll_cons, ih (by rwa [first]) fun h => kept (List.mem_cons_of_mem op h), first]

theorem lifecycle_perform_of_shuttingDown (L : Launcher ρ) {e : Embedder ρ} {tier : TrustTier}
    (h : e.lifecycle = .shuttingDown tier) (op : Operation) :
    (e.perform L op).lifecycle = .shuttingDown tier := by
  -- A second teardown takes over the tier of the first one.
  by_cases torn : op = .teardown
  · rw [torn]
    exact (lifecycle_teardown L e).trans (by rw [h]; rfl)
  · rw [lifecycle_perform_of_tried L (by simp [h]) torn, h]

theorem lifecycle_performAll_of_shuttingDown (L : Launcher ρ) {e : Embedder ρ} {tier : TrustTier}
    (h : e.lifecycle = .shuttingDown tier) (ops : List Operation) :
    (e.performAll L ops).lifecycle = .shuttingDown tier := by
  induction ops generalizing e with
  | nil => exact h
  | cons op ops ih => exact ih (lifecycle_perform_of_shuttingDown L h op)

end Embedder

end GuestRoutines
