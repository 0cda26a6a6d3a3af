import GuestRoutines.Proofs.Embedding.Operations

/-!
# One startup, remembered

The runtime is launched at most once, and what came of the launch decides every later answer until
the teardown. States only move forward, and a runtime that is ready keeps its parameters.

## Main definitions

* `LifecycleState.Leads` — the moves from state to state
* `LifecycleState.progress` — how far a state is from the beginning
* `Embedder.Tried` — a run in which a launch was tried

## Main results

* `Embedder.state_perform` — an operation keeps the state or makes one of the moves
* `Embedder.attempts_performAll` — the attempts of a run are counted exactly
* `Embedder.startup_is_remembered` — all of it, for every run
-/

namespace GuestRoutines

namespace LifecycleState

/-- A state that may follow another one. A launch that unwinds leads to `initializing`. -/
inductive Leads : LifecycleState → LifecycleState → Prop where
  | launched : Leads .uninitialized .ready
  | refused : Leads .uninitialized .failed
  | unwound : Leads .uninitialized .initializing
  | tornDown {s : LifecycleState} (standing : s ≠ .shuttingDown) : Leads s .shuttingDown

/-- How far a state is from the beginning. -/
def progress : LifecycleState → Nat
  | uninitialized => 0
  | initializing | ready | failed => 1
  | shuttingDown => 2

theorem Leads.progress_lt {s t : LifecycleState} (h : Leads s t) : s.progress < t.progress := by
  cases h with
  | launched => decide
  | refused => decide
  | unwound => decide
  | tornDown standing => cases s <;> simp_all [progress]

end LifecycleState

namespace Embedder

variable {ρ : Type} {L : Launcher ρ} {e : Embedder ρ}

/-! ### Moves -/

theorem Started.leads {tier : TrustTier} {answer : Except Unwinding (Except StartupError Unit)}
    {after : Embedder ρ} (h : Started L tier e answer after) :
    LifecycleState.Leads .uninitialized after.lifecycle.state := by
  cases h with
  | misconfigured error unread => exact .refused
  | unwound params u host read launch => exact .unwound
  | refused params error host read launch => exact .refused
  | launched params runtime host read launch => exact .launched

theorem Started.tried {tier : TrustTier} {answer : Except Unwinding (Except StartupError Unit)}
    {after : Embedder ρ} (h : Started L tier e answer after) :
    after.lifecycle.state ≠ .uninitialized := by
  have leads := h.leads
  intro back
  rw [back] at leads
  cases leads

theorem Started.attempts_eq {tier : TrustTier}
    {answer : Except Unwinding (Except StartupError Unit)} {after : Embedder ρ}
    (h : Started L tier e answer after) : after.attempts = e.attempts + 1 := by
  cases h <;> rfl

theorem state_ensureReady (L : Launcher ρ) (e : Embedder ρ) :
    (e.ensureReady L).2.lifecycle.state = e.lifecycle.state ∨
      LifecycleState.Leads e.lifecycle.state (e.ensureReady L).2.lifecycle.state := by
  by_cases fresh : e.lifecycle.state = .uninitialized
  · obtain ⟨tier, h⟩ := Lifecycle.state_eq_uninitialized_iff.mp fresh
    right
    rw [fresh]
    exact (started_ensureReady h).leads
  · left
    rw [ensureReady_of_tried fresh]

theorem tried_ensureReady (L : Launcher ρ) (e : Embedder ρ) :
    (e.ensureReady L).2.lifecycle.state ≠ .uninitialized := by
  by_cases fresh : e.lifecycle.state = .uninitialized
  · obtain ⟨tier, h⟩ := Lifecycle.state_eq_uninitialized_iff.mp fresh
    exact (started_ensureReady h).tried
  · rwa [ensureReady_of_tried fresh]

/-- An operation keeps the state or makes one of the moves. -/
theorem state_perform (L : Launcher ρ) (e : Embedder ρ) (op : Operation) :
    (e.perform L op).lifecycle.state = e.lifecycle.state ∨
      LifecycleState.Leads e.lifecycle.state (e.perform L op).lifecycle.state := by
  cases op with
  | ensureReady => exact state_ensureReady L e
  | setPosture tier =>
    -- Before the attempt only the tier changes, and afterwards nothing does.
    left
    by_cases fresh : e.lifecycle.state = .uninitialized
    · obtain ⟨before, h⟩ := Lifecycle.state_eq_uninitialized_iff.mp fresh
      simp only [perform, setPosture_of_uninitialized h, h, Lifecycle.state_uninitialized]
    · simp only [perform, setPosture_of_tried fresh]
  | refreshLogLevel =>
    left
    exact congrArg Lifecycle.state (lifecycle_refreshLogLevel e)
  | teardown =>
    have down : (e.perform L .teardown).lifecycle.state = .shuttingDown :=
      congrArg Lifecycle.state (lifecycle_teardown L e)
    rw [down]
    by_cases closed : e.lifecycle.state = .shuttingDown
    · exact .inl closed.symm
    · exact .inr (.tornDown closed)
  | hostChange settings host => exact .inl rfl

/-- A run keeps the state or brings it forward. -/
theorem progress_performAll (L : Launcher ρ) (e : Embedder ρ) (ops : List Operation) :
    (e.performAll L ops).lifecycle.state = e.lifecycle.state ∨
      e.lifecycle.state.progress < (e.performAll L ops).lifecycle.state.progress := by
  induction ops generalizing e with
  | nil => exact .inl rfl
  | cons op ops ih =>
    -- Every move brings the state forward, and what follows keeps it or brings it further.
    rw [performAll_cons]
    rcases state_perform L e op with same | leads
    · rw [← same]
      exact ih (e.perform L op)
    · right
      rcases ih (e.perform L op) with same | later
      · rw [same]
        exact leads.progress_lt
      · exact Nat.lt_trans leads.progress_lt later

/-- A state that has been left does not come back. -/
theorem state_performAll_ne (L : Launcher ρ) {e : Embedder ρ} {ops : List Operation}
    (left : (e.performAll L ops).lifecycle.state ≠ e.lifecycle.state) (more : List Operation) :
    ((e.performAll L ops).performAll L more).lifecycle.state ≠ e.lifecycle.state := by
  have gone : e.lifecycle.state.progress < (e.performAll L ops).lifecycle.state.progress :=
    (progress_performAll L e ops).resolve_left left
  intro back
  rcases progress_performAll L (e.performAll L ops) more with same | later
  · exact left (same.symm.trans back)
  · rw [back] at later
    omega

/-! ### Attempts -/

theorem attempts_ensureReady (L : Launcher ρ) (e : Embedder ρ) :
    (e.ensureReady L).2.attempts =
      e.attempts + if e.lifecycle.state = .uninitialized then 1 else 0 := by
  by_cases fresh : e.lifecycle.state = .uninitialized
  · obtain ⟨tier, h⟩ := Lifecycle.state_eq_uninitialized_iff.mp fresh
    rw [if_pos fresh]
    exact (started_ensureReady h).attempts_eq
  · rw [ensureReady_of_tried fresh, if_neg fresh, Nat.add_zero]

theorem attempts_perform_of_ne (L : Launcher ρ) (e : Embedder ρ) {op : Operation}
    (other : op ≠ .ensureReady) : (e.perform L op).attempts = e.attempts := by
  cases op with
  | ensureReady => exact absurd rfl other
  | setPosture tier =>
    simp only [perform, setPosture]
    split <;> rfl
  | refreshLogLevel => exact attempts_refreshLogLevel e
  | teardown => exact attempts_teardown L e
  | hostChange settings host => rfl

/-- In the course of some operations a launch is tried. -/
def Tried (L : Launcher ρ) (e : Embedder ρ) (ops : List Operation) : Prop :=
  ∃ before rest, ops = before ++ .ensureReady :: rest ∧
    (e.performAll L before).lifecycle.state = .uninitialized

theorem tried_cons_iff {op : Operation} {ops : List Operation} :
    e.Tried L (op :: ops) ↔
      (op = .ensureReady ∧ e.lifecycle.state = .uninitialized) ∨ (e.perform L op).Tried L ops := by
  constructor
  · rintro ⟨before, rest, split, fresh⟩
    cases before with
    | nil => exact .inl ⟨List.head_eq_of_cons_eq split, fresh⟩
    | cons first before =>
      obtain ⟨rfl, rfl⟩ := List.cons.inj split
      exact .inr ⟨before, rest, rfl, fresh⟩
  · rintro (⟨rfl, fresh⟩ | ⟨before, rest, rfl, fresh⟩)
    · exact ⟨[], ops, rfl, fresh⟩
    · exact ⟨op :: before, rest, rfl, fresh⟩

theorem state_performAll_of_tried (L : Launcher ρ) {e : Embedder ρ}
    (tried : e.lifecycle.state ≠ .uninitialized) (ops : List Operation) :
    (e.performAll L ops).lifecycle.state ≠ .uninitialized := by
  intro back
  rcases progress_performAll L e ops with same | later
  · exact tried (same.symm.trans back)
  · rw [back] at later
    exact Nat.not_lt_zero _ later

theorem not_tried_of_tried (tried : e.lifecycle.state ≠ .uninitialized) (ops : List Operation) :
    ¬ e.Tried L ops := by
  rintro ⟨before, rest, -, fresh⟩
  exact state_performAll_of_tried L tried before fresh

/-- A run adds one attempt if a launch is tried in it, and none otherwise. -/
theorem attempts_performAll (L : Launcher ρ) (e : Embedder ρ) (ops : List Operation) :
    (e.Tried L ops → (e.performAll L ops).attempts = e.attempts + 1) ∧
      (¬ e.Tried L ops → (e.performAll L ops).attempts = e.attempts) := by
  induction ops generalizing e with
  | nil =>
    refine ⟨?_, fun _ => rfl⟩
    rintro ⟨before, rest, split, -⟩
    simp at split
  | cons op ops ih =>
    obtain ⟨once, never⟩ := ih (e.perform L op)
    rw [tried_cons_iff, performAll_cons]
    by_cases attempt : op = .ensureReady ∧ e.lifecycle.state = .uninitialized
    · -- The first operation is the attempt, and no other one follows it.
      obtain ⟨rfl, fresh⟩ := attempt
      have counted := attempts_ensureReady L e
      rw [if_pos fresh] at counted
      refine ⟨fun _ => ?_, fun none => absurd (.inl ⟨rfl, fresh⟩) none⟩
      rw [never (not_tried_of_tried (tried_ensureReady L e) ops)]
      exact counted
    · -- The first operation adds nothing, so the others decide.
      have kept : (e.perform L op).attempts = e.attempts := by
        by_cases h : op = .ensureReady
        · subst h
          simp only [perform, attempts_ensureReady, if_neg fun fresh => attempt ⟨rfl, fresh⟩,
            Nat.add_zero]
        · exact attempts_perform_of_ne L e h
      rw [← kept]
      exact ⟨fun tried => once (tried.resolve_left attempt),
        fun none => never fun h => none (.inr h)⟩

/-! ### Answers -/

theorem settled_of_tried (tried : e.lifecycle.state ≠ .uninitialized) :
    e.settled = .ok () ↔ e.lifecycle.state = .ready := by
  unfold settled
  split <;> simp_all [Lifecycle.state]

/-- Whoever asks for the runtime is told that it is ready exactly when it is. -/
theorem ensureReady_eq_ok_iff (L : Launcher ρ) (e : Embedder ρ) :
    (e.ensureReady L).1 = .ok (.ok ()) ↔ (e.ensureReady L).2.lifecycle.state = .ready := by
  by_cases fresh : e.lifecycle.state = .uninitialized
  · obtain ⟨tier, h⟩ := Lifecycle.state_eq_uninitialized_iff.mp fresh
    have started := started_ensureReady (L := L) h
    generalize (e.ensureReady L).1 = answer at started
    generalize (e.ensureReady L).2 = after at started
    cases started <;> simp
  · rw [ensureReady_of_tried fresh]
    simpa using settled_of_tried fresh

theorem Started.lifecycle_of_error {tier : TrustTier} {error : StartupError}
    {after : Embedder ρ} (h : Started L tier e (.ok (.error error)) after) :
    after.lifecycle = .failed error tier := by
  cases h <;> rfl

theorem Started.lifecycle_of_unwinding {tier : TrustTier} {u : Unwinding} {after : Embedder ρ}
    (h : Started L tier e (.error u) after) : after.lifecycle = .initializing tier := by
  cases h
  rfl

/-- Once a launch has been tried, the answer before the teardown is what came of it. -/
theorem ensureReady_performAll_of_tried (L : Launcher ρ) {e : Embedder ρ} {more : List Operation}
    (tried : e.lifecycle.state ≠ .uninitialized) (kept : .teardown ∉ more) :
    (e.performAll L more).lifecycle.state = e.lifecycle.state ∧
      ((e.performAll L more).ensureReady L).1 = .ok e.settled := by
  have same : (e.performAll L more).lifecycle = e.lifecycle :=
    lifecycle_performAll_of_tried L tried kept
  refine ⟨congrArg Lifecycle.state same, ?_⟩
  rw [ensureReady_of_tried (by rwa [same])]
  simp only [settled, same]

/-- An error of the first attempt is given again to whoever asks before the teardown. -/
theorem ensureReady_remembers_error {error : StartupError} {more : List Operation}
    (fresh : e.lifecycle.state = .uninitialized)
    (first : (e.ensureReady L).1 = .ok (.error error)) (kept : .teardown ∉ more) :
    ((e.ensureReady L).2.performAll L more).lifecycle.state = .failed ∧
      (((e.ensureReady L).2.performAll L more).ensureReady L).1 = .ok (.error error) := by
  obtain ⟨tier, h⟩ := Lifecycle.state_eq_uninitialized_iff.mp fresh
  have started := started_ensureReady (L := L) h
  rw [first] at started
  have failed : (e.ensureReady L).2.lifecycle = .failed error tier := started.lifecycle_of_error
  have tried : (e.ensureReady L).2.lifecycle.state ≠ .uninitialized := by simp [failed]
  obtain ⟨state, answer⟩ := ensureReady_performAll_of_tried L tried kept
  simp only [state, answer, settled, failed, Lifecycle.state_failed, and_self]

/-- After a launch that unwound, whoever asks before the teardown is told of an interruption. -/
theorem ensureReady_remembers_unwinding {u : Unwinding} {more : List Operation}
    (fresh : e.lifecycle.state = .uninitialized)
    (first : (e.ensureReady L).1 = .error u) (kept : .teardown ∉ more) :
    ((e.ensureReady L).2.performAll L more).lifecycle.state = .initializing ∧
      (((e.ensureReady L).2.performAll L more).ensureReady L).1 = .ok (.error .interrupted) := by
  obtain ⟨tier, h⟩ := Lifecycle.state_eq_uninitialized_iff.mp fresh
  have started := started_ensureReady (L := L) h
  rw [first] at started
  have unwound : (e.ensureReady L).2.lifecycle = .initializing tier :=
    started.lifecycle_of_unwinding
  have tried : (e.ensureReady L).2.lifecycle.state ≠ .uninitialized := by simp [unwound]
  obtain ⟨state, answer⟩ := ensureReady_performAll_of_tried L tried kept
  simp only [state, answer, settled, unwound, Lifecycle.state_initializing, and_self]

theorem ensureReady_of_shuttingDown (L : Launcher ρ) (down : e.lifecycle.state = .shuttingDown) :
    (e.ensureReady L).1 = .ok (.error .shutDown) := by
  rw [ensureReady_of_tried (by simp [down])]
  unfold settled
  split <;> simp_all

/-- After the teardown, whoever asks is told of it. -/
theorem ensureReady_after_teardown (L : Launcher ρ) (e : Embedder ρ) (more : List Operation) :
    ((e.teardown L).2.performAll L more).lifecycle.state = .shuttingDown ∧
      (((e.teardown L).2.performAll L more).ensureReady L).1 = .ok (.error .shutDown) := by
  have later := lifecycle_performAll_of_shuttingDown L (lifecycle_teardown L e) more
  have down : ((e.teardown L).2.performAll L more).lifecycle.state = .shuttingDown := by
    rw [later]
    rfl
  exact ⟨down, ensureReady_of_shuttingDown L down⟩

/-- The parameters of a runtime that is ready stay the same until the teardown. -/
theorem params?_performAll {params : StartupParams} {more : List Operation}
    (live : e.lifecycle.params? = some params) (kept : .teardown ∉ more) :
    (e.performAll L more).lifecycle.params? = some params := by
  have ready : e.lifecycle.state = .ready := Lifecycle.isSome_params?_iff.mp (by simp [live])
  rw [lifecycle_performAll_of_tried L (by simp [ready]) kept, live]

/-- An attempt unwinds exactly when it leaves the lifecycle between the states. -/
theorem ensureReady_unwinds_iff (L : Launcher ρ) (e : Embedder ρ) :
    (∃ u, (e.ensureReady L).1 = .error u) ↔
      e.lifecycle.state = .uninitialized ∧
        (e.ensureReady L).2.lifecycle.state = .initializing := by
  by_cases fresh : e.lifecycle.state = .uninitialized
  · obtain ⟨tier, h⟩ := Lifecycle.state_eq_uninitialized_iff.mp fresh
    have started := started_ensureReady (L := L) h
    generalize (e.ensureReady L).1 = answer at started
    generalize (e.ensureReady L).2 = after at started
    cases started <;> simp [fresh]
  · simp [ensureReady_of_tried fresh, fresh]

/-! ### Every run -/

/-- **One startup, remembered.** Whatever is done with an embedder, and whatever its launcher does:
a launch is tried at most once, states move forward only, and every answer of `ensureReady` is
decided by what came of the one attempt. -/
theorem startup_is_remembered (L : Launcher ρ) (settings : Settings.Store) (host : Host)
    (ops : List Operation) :
    let fresh : Embedder ρ := new settings host
    let e := fresh.performAll L ops
    -- The attempts are counted exactly.
    e.attempts ≤ 1 ∧ (e.attempts = 1 ↔ fresh.Tried L ops) ∧
    -- States move along `Leads` only, and one that has been left does not come back.
    (∀ op, (e.perform L op).lifecycle.state = e.lifecycle.state ∨
      LifecycleState.Leads e.lifecycle.state (e.perform L op).lifecycle.state) ∧
    (∀ more later, (e.performAll L more).lifecycle.state ≠ e.lifecycle.state →
      ((e.performAll L more).performAll L later).lifecycle.state ≠ e.lifecycle.state) ∧
    ((∃ u, (e.ensureReady L).1 = .error u) ↔
      e.lifecycle.state = .uninitialized ∧
        (e.ensureReady L).2.lifecycle.state = .initializing) ∧
    -- Readiness, the runtime and its parameters go together.
    ((e.ensureReady L).1 = .ok (.ok ()) ↔ (e.ensureReady L).2.lifecycle.state = .ready) ∧
    (e.lifecycle.runtime?.isSome ↔ e.lifecycle.state = .ready) ∧
    (e.lifecycle.params?.isSome ↔ e.lifecycle.state = .ready) ∧
    (∀ params more, e.lifecycle.params? = some params → .teardown ∉ more →
      (e.performAll L more).lifecycle.params? = some params) ∧
    -- What came of the first attempt is remembered until the teardown.
    (∀ more, e.lifecycle.state = .uninitialized → .teardown ∉ more →
      let later := (e.ensureReady L).2.performAll L more
      (∀ error, (e.ensureReady L).1 = .ok (.error error) →
        later.lifecycle.state = .failed ∧ (later.ensureReady L).1 = .ok (.error error)) ∧
      (∀ u, (e.ensureReady L).1 = .error u →
        later.lifecycle.state = .initializing ∧
          (later.ensureReady L).1 = .ok (.error .interrupted))) ∧
    -- The teardown is remembered for ever.
    (∀ more, let later := (e.teardown L).2.performAll L more
      later.lifecycle.state = .shuttingDown ∧
        (later.ensureReady L).1 = .ok (.error .shutDown)) := by
  intro fresh e
  obtain ⟨once, never⟩ := attempts_performAll L fresh ops
  have counted : e.attempts ≤ 1 ∧ (e.attempts = 1 ↔ fresh.Tried L ops) := by
    by_cases tried : fresh.Tried L ops
    · have one : e.attempts = 1 := once tried
      simp [one, tried]
    · have none : e.attempts = 0 := never tried
      simp [none, tried]
  refine ⟨counted.1, counted.2, state_perform L e, fun more later left =>
    state_performAll_ne L left later, ensureReady_unwinds_iff L e, ensureReady_eq_ok_iff L e,
    Lifecycle.isSome_runtime?_iff, Lifecycle.isSome_params?_iff, fun params more live kept =>
    params?_performAll live kept,
    fun more untouched kept => ⟨fun error first => ?_, fun u first => ?_⟩,
    ensureReady_after_teardown L e⟩
  · exact ensureReady_remembers_error untouched first kept
  · exact ensureReady_remembers_unwinding untouched first kept

end Embedder

end GuestRoutines
