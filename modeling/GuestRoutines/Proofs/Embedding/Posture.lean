import GuestRoutines.Proofs.Embedding.RuntimeUse
import Mathlib.Data.List.TakeWhile

/-!
# The trust posture

The tier in which guests run can be chosen as long as nobody has needed the runtime. The first
operation that needs it, or gives it up, seals the choice: whatever becomes of the launch, the tier
stays, and it is the tier that the launch was given.

## Main definitions

* `Bridge.Operation.seals` — an operation after which no tier can be chosen
* `Bridge.chosen` — the tier that some operations choose
* `Embedder.Granted` — every launch was given the tier, with what the tier opens

## Main results

* `Bridge.state_performAll_iff`, `Bridge.tier_performAll` — whether the choice is open after a run,
  and the tier, told from the operations alone
* `Embedder.ensureReady_congr` — only what a launcher does with the tier makes a difference
* `Bridge.posture_sealed` — all of it, for every run
-/

namespace GuestRoutines

namespace Embedder

variable {ρ : Type} {L : Launcher ρ} {e : Embedder ρ}

/-! ### The tier of an embedder -/

theorem trust_startupParams {s : Settings.Store} {levels : LevelMapping} {tier : TrustTier}
    {params : StartupParams} (read : startupParams s levels tier = .ok params) :
    params.trust = .ofTier tier := by
  simp only [startupParams, bind, Except.bind, pure, Except.pure] at read
  repeat' split at read
  all_goals cases read
  rfl

/-- However the attempt to launch the runtime ends, the tier is the one it was begun with. -/
theorem Started.tier_eq {tier : TrustTier} {answer : Except Unwinding (Except StartupError Unit)}
    {after : Embedder ρ} (h : Started L tier e answer after) : after.lifecycle.tier = tier := by
  cases h with
  | misconfigured error unread => rfl
  | unwound params u host read launch => rfl
  | refused params error host read launch => rfl
  | launched params runtime host read launch =>
    exact congrArg TrustPolicy.tier (trust_startupParams read)

theorem tier_ensureReady (L : Launcher ρ) (e : Embedder ρ) :
    (e.ensureReady L).2.lifecycle.tier = e.lifecycle.tier := by
  by_cases fresh : e.lifecycle.state = .uninitialized
  · obtain ⟨tier, h⟩ := Lifecycle.state_eq_uninitialized_iff.mp fresh
    rw [(started_ensureReady h).tier_eq, h]
    rfl
  · rw [ensureReady_of_tried fresh]

/-- Of a launcher, only what it does with the policy of the tier makes a difference. -/
theorem ensureReady_congr {L' : Launcher ρ}
    (same : ∀ params host, params.trust = .ofTier e.lifecycle.tier →
      L'.launch params host = L.launch params host) :
    e.ensureReady L' = e.ensureReady L := by
  by_cases fresh : e.lifecycle.state = .uninitialized
  · obtain ⟨tier, h⟩ := Lifecycle.state_eq_uninitialized_iff.mp fresh
    rw [h] at same
    rw [ensureReady_of_uninitialized h, ensureReady_of_uninitialized h]
    cases read : startupParams e.settings e.host.log.levels tier with
    | error error => simp only [start, read]
    | ok params => simp only [start, read, same params _ (trust_startupParams read)]
  · rw [ensureReady_of_tried fresh, ensureReady_of_tried fresh]

/-- An operation on the embedder keeps the tier, unless it chooses one in time. -/
theorem tier_perform (L : Launcher ρ) (e : Embedder ρ) {op : Operation}
    (late : e.lifecycle.state = .uninitialized → ∀ tier, op ≠ .setPosture tier) :
    (e.perform L op).lifecycle.tier = e.lifecycle.tier := by
  cases op with
  | ensureReady => exact tier_ensureReady L e
  | setPosture tier =>
    have tried : e.lifecycle.state ≠ .uninitialized := fun fresh => late fresh tier rfl
    rw [perform, setPosture_of_tried tried]
  | refreshLogLevel => rw [perform, lifecycle_refreshLogLevel]
  | teardown =>
    rw [perform, lifecycle_teardown]
    rfl
  | hostChange settings host => rfl

/-- A call begins with startup, and keeps the state and the tier that startup leaves. -/
theorem Dispatched.kept {routine : String} {arguments : List HostValue}
    {outcome : Except Unwinding CallOutcome} {after : Embedder ρ}
    (dispatched : Dispatched L routine arguments e outcome after) :
    after.lifecycle.state = (e.ensureReady L).2.lifecycle.state ∧
      after.lifecycle.params? = (e.ensureReady L).2.lifecycle.params? ∧
      after.lifecycle.tier = (e.ensureReady L).2.lifecycle.tier := by
  -- A call that comes as far as the lookup puts a runtime in the place of another one.
  have live {params : StartupParams} {id : RoutineId} {runtime after : ρ} {host : Host}
      {answer : Except Unwinding (Except ModuleError RoutineHandle)}
      (looked : LooksUp L routine e params id answer runtime host) :
      (Lifecycle.ready params after).state = (e.ensureReady L).2.lifecycle.state ∧
        (Lifecycle.ready params after).params? = (e.ensureReady L).2.lifecycle.params? ∧
        (Lifecycle.ready params after).tier = (e.ensureReady L).2.lifecycle.tier := by
    obtain ⟨before, ready, -⟩ := looked.looked
    rw [ready]
    exact ⟨rfl, rfl, rfl⟩
  cases dispatched with
  | startupUnwound u started => exact ⟨rfl, rfl, rfl⟩
  | startupFailed error started => exact ⟨rfl, rfl, rfl⟩
  | malformed started unread => exact ⟨rfl, rfl, rfl⟩
  | lookupUnwound params id u runtime host looked => exact live looked
  | lookupFailed params id error runtime host looked => exact live looked
  | called params id handle between last host final outcome looked call => exact live looked

/-! ### What a launch is given -/

/-- Every launch was given the tier, with what the tier opens, and so was the runtime that is
live. -/
structure Granted (e : Embedder ρ) : Prop where
  tried : ∀ params launched, .launch params launched ∈ e.events →
    params.trust = .ofTier e.lifecycle.tier
  live : ∀ params, e.lifecycle.params? = some params → params.trust = .ofTier e.lifecycle.tier

theorem Started.granted {tier : TrustTier} {answer : Except Unwinding (Except StartupError Unit)}
    {after : Embedder ρ} (started : Started L tier e answer after) (untouched : e.events = []) :
    after.Granted := by
  have kept := started.tier_eq
  cases started with
  | misconfigured error unread => exact ⟨by simp [untouched], by simp [Lifecycle.params?]⟩
  | unwound params u host read launch =>
    have given := trust_startupParams read
    exact ⟨by simpa [untouched, kept] using given, by simp [Lifecycle.params?]⟩
  | refused params error host read launch =>
    have given := trust_startupParams read
    exact ⟨by simpa [untouched, kept] using given, by simp [Lifecycle.params?]⟩
  | launched params runtime host read launch =>
    have given := trust_startupParams read
    exact ⟨by simpa [untouched, kept] using given, by simpa [Lifecycle.params?, kept] using given⟩

theorem granted_ensureReady (L : Launcher ρ) (h : e.Granted)
    (untouched : e.lifecycle.state = .uninitialized → e.events = []) :
    (e.ensureReady L).2.Granted := by
  by_cases fresh : e.lifecycle.state = .uninitialized
  · obtain ⟨tier, first⟩ := Lifecycle.state_eq_uninitialized_iff.mp fresh
    exact (started_ensureReady first).granted (untouched fresh)
  · rwa [ensureReady_of_tried fresh]

theorem granted_perform (L : Launcher ρ) (h : e.Granted)
    (untouched : e.lifecycle.state = .uninitialized → e.events = []) (op : Operation) :
    (e.perform L op).Granted := by
  cases op with
  | ensureReady => exact granted_ensureReady L h untouched
  | setPosture tier =>
    by_cases fresh : e.lifecycle.state = .uninitialized
    · obtain ⟨before, first⟩ := Lifecycle.state_eq_uninitialized_iff.mp fresh
      rw [perform, setPosture_of_uninitialized first]
      exact ⟨by simp [untouched fresh], by simp [Lifecycle.params?]⟩
    · rwa [perform, setPosture_of_tried fresh]
  | refreshLogLevel =>
    refine ⟨?_, ?_⟩
    · rw [perform, lifecycle_refreshLogLevel, events_refreshLogLevel]
      exact h.tried
    · rw [perform, lifecycle_refreshLogLevel]
      exact h.live
  | teardown =>
    refine ⟨fun params launched member => ?_, ?_⟩
    · rw [perform, events_teardown] at member
      have earlier : .launch params launched ∈ e.events := by
        rcases List.mem_append.mp member with earlier | last
        · exact earlier
        · split at last <;> simp at last
      rw [perform, lifecycle_teardown]
      exact h.tried params launched earlier
    · rw [perform, lifecycle_teardown]
      simp [Lifecycle.params?]
  | hostChange settings host => exact ⟨h.tried, h.live⟩

theorem Dispatched.granted {routine : String} {arguments : List HostValue}
    {outcome : Except Unwinding CallOutcome} {after : Embedder ρ}
    (dispatched : Dispatched L routine arguments e outcome after)
    (first : (e.ensureReady L).2.Granted) : after.Granted := by
  obtain ⟨-, params_eq, tier_eq⟩ := dispatched.kept
  refine ⟨fun params launched member => ?_, ?_⟩
  · -- A call adds lookups and calls to the record, and no launch.
    have earlier : .launch params launched ∈ (e.ensureReady L).2.events := by
      cases dispatched <;> simpa using member
    rw [tier_eq]
    exact first.tried params launched earlier
  · rw [params_eq, tier_eq]
    exact first.live

end Embedder

/-! ### Operations that choose a tier, and operations that seal it -/

namespace Bridge

variable {ρ : Type} {b : Bridge ρ}

/-- The operation needs the runtime or gives it up, and no tier can be chosen after it. -/
def Operation.seals : Operation → Bool
  | call .. | shutdown | embedder .ensureReady | embedder .teardown => true
  | _ => false

/-- The tier that the operation asks for. -/
def Operation.tier? : Operation → Option TrustTier
  | setTrust trusted => some (.ofTrusted trusted)
  | embedder (.setPosture tier) => some tier
  | _ => none

/-- The tier after some operations that seal nothing: the last one that was asked for, or the one
before. -/
def chosen (before : TrustTier) (ops : List Operation) : TrustTier :=
  (ops.filterMap Operation.tier?).getLast?.getD before

theorem chosen_cons (before : TrustTier) (op : Operation) (ops : List Operation) :
    chosen before (op :: ops) = chosen (op.tier?.getD before) ops := by
  unfold chosen
  cases asked : op.tier? with
  | none => rw [List.filterMap_cons_none asked, Option.getD_none]
  | some tier => rw [List.filterMap_cons_some asked, List.getLast?_cons, Option.getD_some,
      Option.getD_some]

/-- An operation that seals the tier keeps it. -/
theorem perform_of_seals (L : Launcher ρ) (b : Bridge ρ) {op : Operation} (seals : op.seals) :
    (b.perform L op).embedder.lifecycle.state ≠ .uninitialized ∧
      (b.perform L op).embedder.lifecycle.tier = b.embedder.lifecycle.tier := by
  have down : (b.embedder.teardown L).2.lifecycle.state ≠ .uninitialized ∧
      (b.embedder.teardown L).2.lifecycle.tier = b.embedder.lifecycle.tier := by
    rw [Embedder.lifecycle_teardown]
    exact ⟨nofun, rfl⟩
  have started := And.intro (Embedder.tried_ensureReady L b.embedder)
    (Embedder.tier_ensureReady L b.embedder)
  match op with
  | .call routine arguments =>
    rw [perform, embedder_call]
    obtain ⟨state_eq, -, tier_eq⟩ :=
      (Embedder.dispatched_dispatch L routine arguments b.embedder).kept
    rwa [state_eq, tier_eq]
  | .shutdown => exact down
  | .embedder .ensureReady => exact started
  | .embedder .teardown => exact down
  | .setTrust trusted => cases seals
  | .embedder (.setPosture tier) => cases seals
  | .embedder .refreshLogLevel => cases seals
  | .embedder (.hostChange settings host) => cases seals

/-- As long as the choice is open, an operation that does not seal it only chooses. -/
theorem perform_of_open (L : Launcher ρ) {op : Operation}
    (fresh : b.embedder.lifecycle.state = .uninitialized) (unsealed : op.seals = false) :
    (b.perform L op).embedder.lifecycle.state = .uninitialized ∧
      (b.perform L op).embedder.lifecycle.tier =
        op.tier?.getD b.embedder.lifecycle.tier := by
  obtain ⟨before, h⟩ := Lifecycle.state_eq_uninitialized_iff.mp fresh
  have chooses (tier : TrustTier) :
      (b.embedder.setPosture tier).2.lifecycle = .uninitialized tier := by
    rw [Embedder.setPosture_of_uninitialized h]
  match op with
  | .setTrust trusted =>
    rw [perform, embedder_setTrust, chooses]
    exact ⟨rfl, rfl⟩
  | .embedder (.setPosture tier) =>
    rw [perform, Embedder.perform, chooses]
    exact ⟨rfl, rfl⟩
  | .embedder .refreshLogLevel =>
    rw [perform, Embedder.perform, Embedder.lifecycle_refreshLogLevel]
    exact ⟨fresh, rfl⟩
  | .embedder (.hostChange settings host) => exact ⟨fresh, rfl⟩
  | .call routine arguments => cases unsealed
  | .shutdown => cases unsealed
  | .embedder .ensureReady => cases unsealed
  | .embedder .teardown => cases unsealed

/-- Once the choice is sealed, no operation opens it again or changes the tier. -/
theorem perform_of_sealed (L : Launcher ρ)
    (tried : b.embedder.lifecycle.state ≠ .uninitialized) (op : Operation) :
    (b.perform L op).embedder.lifecycle.state ≠ .uninitialized ∧
      (b.perform L op).embedder.lifecycle.tier = b.embedder.lifecycle.tier := by
  by_cases seals : op.seals = true
  · exact perform_of_seals L b seals
  · rcases embedder_perform L b op with ⟨routine, arguments, rfl⟩ | ⟨inner, same⟩
    · exact absurd rfl seals
    · rw [same]
      exact ⟨Embedder.state_performAll_of_tried L tried [inner],
        Embedder.tier_perform L b.embedder fun fresh => absurd fresh tried⟩

/-! ### Runs -/

theorem performAll_of_sealed (L : Launcher ρ)
    (tried : b.embedder.lifecycle.state ≠ .uninitialized) (ops : List Operation) :
    (b.performAll L ops).embedder.lifecycle.state ≠ .uninitialized ∧
      (b.performAll L ops).embedder.lifecycle.tier = b.embedder.lifecycle.tier := by
  induction ops generalizing b with
  | nil => exact ⟨tried, rfl⟩
  | cons op ops ih =>
    obtain ⟨still, kept⟩ := perform_of_sealed L tried op
    obtain ⟨ended, same⟩ := ih still
    exact ⟨ended, same.trans kept⟩

/-- The choice is open after a run exactly if no operation of it seals the tier. -/
theorem state_performAll_iff (L : Launcher ρ)
    (fresh : b.embedder.lifecycle.state = .uninitialized) (ops : List Operation) :
    (b.performAll L ops).embedder.lifecycle.state = .uninitialized ↔
      ∀ op ∈ ops, op.seals = false := by
  induction ops generalizing b with
  | nil => simp [fresh]
  | cons op ops ih =>
    rw [performAll_cons, List.forall_mem_cons]
    by_cases seals : op.seals = true
    · have sealed := performAll_of_sealed L (perform_of_seals L b seals).1 ops
      simp [sealed.1, seals]
    · have unsealed : op.seals = false := Bool.eq_false_iff.mpr seals
      rw [ih (perform_of_open L fresh unsealed).1]
      simp [unsealed]

/-- The tier after a run is the one that was chosen before the first operation that seals it. -/
theorem tier_performAll (L : Launcher ρ) (fresh : b.embedder.lifecycle.state = .uninitialized)
    (ops : List Operation) :
    (b.performAll L ops).embedder.lifecycle.tier =
      chosen b.embedder.lifecycle.tier (ops.takeWhile fun op => !op.seals) := by
  induction ops generalizing b with
  | nil => rfl
  | cons op ops ih =>
    rw [performAll_cons]
    by_cases seals : op.seals = true
    · obtain ⟨tried, kept⟩ := perform_of_seals L b seals
      rw [(performAll_of_sealed L tried ops).2, kept, List.takeWhile_cons_of_neg (by simp [seals])]
      rfl
    · have unsealed : op.seals = false := Bool.eq_false_iff.mpr seals
      obtain ⟨still, kept⟩ := perform_of_open L fresh unsealed
      rw [ih still, kept, List.takeWhile_cons_of_pos (by simp [unsealed]), chosen_cons]

theorem granted_performAll (L : Launcher ρ)
    (history : RuntimeEvent.History b.embedder.lifecycle.state b.embedder.events)
    (h : b.embedder.Granted) (ops : List Operation) :
    (b.performAll L ops).embedder.Granted := by
  induction ops generalizing b with
  | nil => exact h
  | cons op ops ih =>
    refine ih (history_perform L history op) ?_
    -- While the choice is open there is no launch in the record, so choosing contradicts none.
    have untouched (fresh : b.embedder.lifecycle.state = .uninitialized) :
        b.embedder.events = [] := by
      rw [fresh] at history
      exact history.events_of_uninitialized
    rcases embedder_perform L b op with ⟨routine, arguments, rfl⟩ | ⟨inner, same⟩
    · rw [perform, embedder_call]
      exact (Embedder.dispatched_dispatch L routine arguments b.embedder).granted
        (Embedder.granted_ensureReady L h untouched)
    · rw [same]
      exact Embedder.granted_perform L h untouched inner

theorem setTrust_of_uninitialized {before : TrustTier}
    (h : b.embedder.lifecycle = .uninitialized before) (trusted : Bool) :
    b.setTrust trusted = (.ok (), { b with
      embedder := { b.embedder with lifecycle := .uninitialized (.ofTrusted trusted) } }) := by
  rw [setTrust, Embedder.setPosture_of_uninitialized h]

theorem setTrust_of_tried (tried : b.embedder.lifecycle.state ≠ .uninitialized)
    (trusted : Bool) :
    b.setTrust trusted =
      (.error (.ofMisuse (.postureFixed b.embedder.lifecycle.state)), b) := by
  rw [setTrust, Embedder.setPosture_of_tried tried]

/-- **The trust posture is sealed by the attempt to launch the runtime.** Whatever is done with a
bridge, and whatever its launcher and its runtime answer: a tier can be chosen until the first
operation that needs the runtime or gives it up; from then on every choice is refused, and the tier
stays as it is, for the launch too. -/
theorem posture_sealed (L : Launcher ρ) (settings : Settings.Store) (host : Host)
    (ops : List Operation) :
    let b := (new settings host : Bridge ρ).performAll L ops
    let e := b.embedder
    -- The operations alone say whether the choice is open, and which tier has been chosen.
    (e.lifecycle.state = .uninitialized ↔ ∀ op ∈ ops, op.seals = false) ∧
    e.lifecycle.tier = chosen .trusted (ops.takeWhile fun op => !op.seals) ∧
    -- While it is open, a choice succeeds, changes the tier and tells the one before.
    (e.lifecycle.state = .uninitialized →
      e.lifecycle.tier = chosen .trusted ops ∧
      (∀ tier, e.setPosture tier =
        (.ok (chosen .trusted ops), { e with lifecycle := .uninitialized tier })) ∧
      ∀ trusted, b.setTrust trusted = (.ok (),
        { b with embedder := { e with lifecycle := .uninitialized (.ofTrusted trusted) } })) ∧
    -- Afterwards a choice is refused, even of the same tier, and changes nothing.
    (e.lifecycle.state ≠ .uninitialized →
      (∀ tier, e.setPosture tier = (.error (.postureFixed e.lifecycle.state), e)) ∧
      (∀ trusted, ∃ error, b.setTrust trusted = (.error error, b) ∧
        error.level = .error ∧ error.code.text = "55000" ∧
        error.message = (Misuse.postureFixed e.lifecycle.state).reason) ∧
      -- Nothing opens the choice again or changes the tier.
      ∀ more, (b.performAll L more).embedder.lifecycle.state ≠ .uninitialized ∧
        (b.performAll L more).embedder.lifecycle.tier = e.lifecycle.tier) ∧
    -- A launch is given the tier with what the tier opens, and keeps it.
    (∀ params launched, .launch params launched ∈ e.events →
      params.trust = ⟨e.lifecycle.tier, e.lifecycle.tier.capabilities⟩) ∧
    (∀ params, e.lifecycle.params? = some params →
      params.trust = ⟨e.lifecycle.tier, e.lifecycle.tier.capabilities⟩) ∧
    ∀ L' : Launcher ρ, (∀ params host,
        params.trust = ⟨e.lifecycle.tier, e.lifecycle.tier.capabilities⟩ →
          L'.launch params host = L.launch params host) →
      e.ensureReady L' = e.ensureReady L := by
  intro b e
  have opened := state_performAll_iff L (b := new settings host) rfl ops
  have tier_eq : e.lifecycle.tier = chosen .trusted (ops.takeWhile fun op => !op.seals) :=
    tier_performAll L rfl ops
  have begun : (new settings host : Bridge ρ).embedder.Granted :=
    ⟨fun _ _ => nofun, fun _ => nofun⟩
  have granted : e.Granted := granted_performAll L (b := new settings host) .untouched begun ops
  refine ⟨opened, tier_eq, fun fresh => ?_, fun tried => ⟨fun tier => ?_, fun trusted => ?_, ?_⟩,
    granted.tried, granted.live, fun L' same => Embedder.ensureReady_congr same⟩
  · obtain ⟨before, h⟩ := Lifecycle.state_eq_uninitialized_iff.mp fresh
    have all : e.lifecycle.tier = chosen .trusted ops := by
      rw [tier_eq, List.takeWhile_eq_self_iff.mpr]
      intro op member
      simp [opened.mp fresh op member]
    have told : before = chosen .trusted ops := by
      rw [← all, h]
      rfl
    refine ⟨all, fun tier => ?_, fun trusted => setTrust_of_uninitialized h trusted⟩
    rw [Embedder.setPosture_of_uninitialized h, told]
  · exact Embedder.setPosture_of_tried tried tier
  · exact ⟨_, setTrust_of_tried tried trusted, rfl, rfl, rfl⟩
  · exact performAll_of_sealed L tried

end Bridge

end GuestRoutines
