import GuestRoutines.Proofs.Embedding.Requests
import Mathlib.Data.List.Basic

/-!
# The runtime is used while it is live

An embedder writes down what it asks of the launcher and of the runtime, request by request. The
record has one shape, whatever the host does and however the runtime answers: nothing before the
launch, nothing but lookups and calls while the runtime is live, and one shutdown at the end.

## Main definitions

* `RuntimeEvent.Uses` — what is asked of a live runtime
* `RuntimeEvent.History` — the records that a state of the lifecycle admits

## Main results

* `Embedder.history_perform`, `Bridge.history_perform` — every operation keeps the shape
* `Bridge.runtime_used_while_live` — what the shape says of a bridge that goes out of scope
-/

namespace GuestRoutines

namespace RuntimeEvent

/-- The event is a launch. -/
def isLaunch : RuntimeEvent → Bool
  | launch .. => true
  | _ => false

/-- The event needs a live runtime: it is a lookup or a call. -/
def isUse : RuntimeEvent → Bool
  | resolve .. | call .. => true
  | _ => false

/-- What is asked of a live runtime: lookups, and after each one that finds a handle a call with
that handle. -/
inductive Uses : List RuntimeEvent → Prop where
  | nil : Uses []
  | missed {events : List RuntimeEvent} (id : RoutineId) (h : Uses events) :
      Uses (events ++ [.resolve id none])
  | called {events : List RuntimeEvent} (id : RoutineId) (handle : RoutineHandle)
      (h : Uses events) : Uses (events ++ [.resolve id (some handle), .call handle])

/-- What has been asked when the lifecycle is in a state. -/
inductive History : LifecycleState → List RuntimeEvent → Prop where
  | untouched : History .uninitialized []
  /-- No launch was tried, or it gave no runtime. -/
  | unlaunched {state : LifecycleState} {events : List RuntimeEvent}
      (tried : state ≠ .uninitialized) (down : state ≠ .ready)
      (h : events = [] ∨ ∃ params, events = [.launch params false]) : History state events
  | live {params : StartupParams} {uses : List RuntimeEvent} (h : Uses uses) :
      History .ready (.launch params true :: uses)
  | closed {params : StartupParams} {uses : List RuntimeEvent} (h : Uses uses) :
      History .shuttingDown (.launch params true :: uses ++ [.shutdown])

theorem Uses.isUse {events : List RuntimeEvent} (h : Uses events) :
    ∀ event ∈ events, event.isUse = true := by
  induction h with
  | nil => simp
  | missed id h ih =>
    intro event member
    rcases List.mem_append.mp member with earlier | last
    · exact ih event earlier
    · rw [List.mem_singleton.mp last]
      rfl
  | called id handle h ih =>
    intro event member
    rcases List.mem_append.mp member with earlier | last
    · exact ih event earlier
    · simp only [List.mem_cons, List.not_mem_nil, or_false] at last
      rcases last with rfl | rfl <;> rfl

theorem History.events_of_uninitialized {events : List RuntimeEvent}
    (h : History .uninitialized events) : events = [] := by
  cases h with
  | untouched => rfl
  | unlaunched tried => exact absurd rfl tried

theorem History.uses_of_ready {events : List RuntimeEvent} (h : History .ready events) :
    ∃ params uses, Uses uses ∧ events = .launch params true :: uses := by
  cases h with
  | unlaunched tried down => exact absurd rfl down
  | live uses => exact ⟨_, _, uses, rfl⟩

end RuntimeEvent

namespace Embedder

open RuntimeEvent

variable {ρ : Type} {L : Launcher ρ} {e : Embedder ρ}

/-! ### Operations on the embedder -/

theorem Started.history {tier : TrustTier} {answer : Except Unwinding (Except StartupError Unit)}
    {after : Embedder ρ} (h : Started L tier e answer after) (untouched : e.events = []) :
    History after.lifecycle.state after.events := by
  cases h with
  | misconfigured error unread => exact .unlaunched (by simp) (by simp) (.inl untouched)
  | unwound params u host read launch =>
    exact .unlaunched (by simp) (by simp) (.inr ⟨params, by simp [untouched]⟩)
  | refused params error host read launch =>
    exact .unlaunched (by simp) (by simp) (.inr ⟨params, by simp [untouched]⟩)
  | launched params runtime host read launch =>
    have begun : History .ready [.launch params true] := .live .nil
    simpa [untouched] using begun

theorem history_ensureReady (L : Launcher ρ) (h : History e.lifecycle.state e.events) :
    History (e.ensureReady L).2.lifecycle.state (e.ensureReady L).2.events := by
  by_cases fresh : e.lifecycle.state = .uninitialized
  · obtain ⟨tier, first⟩ := Lifecycle.state_eq_uninitialized_iff.mp fresh
    rw [fresh] at h
    exact (started_ensureReady first).history h.events_of_uninitialized
  · rwa [ensureReady_of_tried fresh]

theorem history_teardown (L : Launcher ρ) (h : History e.lifecycle.state e.events) :
    History .shuttingDown (e.teardown L).2.events := by
  rw [events_teardown]
  split
  · next ready =>
    rw [ready] at h
    obtain ⟨params, uses, used, same⟩ := h.uses_of_ready
    rw [same]
    exact .closed used
  · next idle =>
    rw [List.append_nil]
    generalize e.events = events at h
    generalize e.lifecycle.state = state at h idle
    cases h with
    | untouched => exact .unlaunched (by simp) (by simp) (.inl rfl)
    | unlaunched tried down none => exact .unlaunched (by simp) (by simp) none
    | live used => exact absurd rfl idle
    | closed used => exact .closed used

theorem history_perform (L : Launcher ρ) (h : History e.lifecycle.state e.events)
    (op : Operation) : History (e.perform L op).lifecycle.state (e.perform L op).events := by
  cases op with
  | ensureReady => exact history_ensureReady L h
  | setPosture tier =>
    by_cases fresh : e.lifecycle.state = .uninitialized
    · obtain ⟨before, first⟩ := Lifecycle.state_eq_uninitialized_iff.mp fresh
      simp only [perform, setPosture_of_uninitialized first, Lifecycle.state_uninitialized]
      rwa [← fresh]
    · simpa only [perform, setPosture_of_tried fresh] using h
  | refreshLogLevel =>
    simpa only [perform, lifecycle_refreshLogLevel, events_refreshLogLevel] using h
  | teardown =>
    simpa only [perform, lifecycle_teardown, Lifecycle.state_shuttingDown] using
      history_teardown L h
  | hostChange settings host => exact h

theorem events_ensureReady (L : Launcher ρ) (e : Embedder ρ) :
    ∃ asked, (e.ensureReady L).2.events = e.events ++ asked ∧
      ∀ event ∈ asked, event.isUse = false := by
  by_cases fresh : e.lifecycle.state = .uninitialized
  · obtain ⟨tier, first⟩ := Lifecycle.state_eq_uninitialized_iff.mp fresh
    have started := started_ensureReady (L := L) first
    generalize (e.ensureReady L).1 = answer at started
    generalize (e.ensureReady L).2 = after at started
    cases started with
    | misconfigured error unread => exact ⟨[], by simp, by simp⟩
    | unwound params u host read launch => exact ⟨[.launch params false], rfl, by simp [isUse]⟩
    | refused params error host read launch =>
      exact ⟨[.launch params false], rfl, by simp [isUse]⟩
    | launched params runtime host read launch =>
      exact ⟨[.launch params true], rfl, by simp [isUse]⟩
  · exact ⟨[], by simp [ensureReady_of_tried fresh], by simp⟩

/-- An operation on the embedder asks for a launch or a shutdown at most, and never for a use. -/
theorem events_perform (L : Launcher ρ) (e : Embedder ρ) (op : Operation) :
    ∃ asked, (e.perform L op).events = e.events ++ asked ∧
      ∀ event ∈ asked, event.isUse = false := by
  cases op with
  | ensureReady => exact events_ensureReady L e
  | setPosture tier =>
    refine ⟨[], ?_, by simp⟩
    simp only [perform, setPosture]
    split <;> simp
  | refreshLogLevel => exact ⟨[], by simp [perform, events_refreshLogLevel], by simp⟩
  | teardown =>
    refine ⟨_, events_teardown L e, ?_⟩
    split <;> simp [isUse]
  | hostChange settings host => exact ⟨[], by simp [perform], by simp⟩

/-! ### Calls -/

theorem Dispatched.history {routine : String} {arguments : List HostValue}
    {outcome : Except Unwinding CallOutcome} {after : Embedder ρ}
    (dispatched : Dispatched L routine arguments e outcome after)
    (h : History e.lifecycle.state e.events) :
    History after.lifecycle.state after.events := by
  have first := history_ensureReady L h
  -- A call that comes as far as the lookup finds the record of a live runtime, and adds to it.
  have live {params : StartupParams} {id : RoutineId} {runtime : ρ} {host : Host}
      {answer : Except Unwinding (Except ModuleError RoutineHandle)}
      (looked : LooksUp L routine e params id answer runtime host) :
      ∃ params uses, Uses uses ∧
        (e.ensureReady L).2.events = .launch params true :: uses := by
    rw [(ensureReady_eq_ok_iff L e).mp looked.started] at first
    exact first.uses_of_ready
  cases dispatched with
  | startupUnwound u started => exact first
  | startupFailed error started => exact first
  | malformed started unread => exact first
  | lookupUnwound params id u runtime host looked =>
    obtain ⟨launched, uses, used, same⟩ := live looked
    have more : History .ready (.launch launched true :: (uses ++ [.resolve id none])) :=
      .live (.missed id used)
    simpa [same] using more
  | lookupFailed params id error runtime host looked =>
    obtain ⟨launched, uses, used, same⟩ := live looked
    have more : History .ready (.launch launched true :: (uses ++ [.resolve id none])) :=
      .live (.missed id used)
    simpa [same] using more
  | called params id handle between last host final outcome looked call =>
    obtain ⟨launched, uses, used, same⟩ := live looked
    have more : History .ready
        (.launch launched true :: (uses ++ [.resolve id (some handle), .call handle])) :=
      .live (.called id handle used)
    simpa [same] using more

/-- What a call asks of the runtime: nothing before startup has succeeded and the identifier is
read, and a call only right after a lookup, with the handle that the lookup gave. -/
theorem Dispatched.events {routine : String} {arguments : List HostValue}
    {outcome : Except Unwinding CallOutcome} {after : Embedder ρ}
    (dispatched : Dispatched L routine arguments e outcome after) :
    ∃ asked, after.events = e.events ++ asked ∧
      (∀ event ∈ asked, event.isUse = true →
        (e.ensureReady L).1 = .ok (.ok ()) ∧ (RoutineId.parse routine).isSome) ∧
      (∀ first handle last, asked = first ++ .call handle :: last →
        ∃ init id, first = init ++ [.resolve id (some handle)]) := by
  obtain ⟨startup, same, idle⟩ := events_ensureReady L e
  -- Startup uses nothing, so a call in the record is the one that `dispatch` adds at its end.
  have uncalled (handle : RoutineHandle) : .call handle ∉ startup := fun member =>
    Bool.noConfusion (idle _ member)
  have read {params : StartupParams} {id : RoutineId} {runtime : ρ} {host : Host}
      {answer : Except Unwinding (Except ModuleError RoutineHandle)}
      (looked : LooksUp L routine e params id answer runtime host) :
      (e.ensureReady L).1 = .ok (.ok ()) ∧ (RoutineId.parse routine).isSome :=
    ⟨looked.started, by simp [looked.read]⟩
  have ended : ∃ asked, (e.ensureReady L).2.events = e.events ++ asked ∧
      (∀ event ∈ asked, event.isUse = true →
        (e.ensureReady L).1 = .ok (.ok ()) ∧ (RoutineId.parse routine).isSome) ∧
      (∀ first handle last, asked = first ++ .call handle :: last →
        ∃ init id, first = init ++ [.resolve id (some handle)]) := by
    refine ⟨startup, same, fun event member use => ?_, fun first handle last split => ?_⟩
    · rw [idle event member] at use
      exact Bool.noConfusion use
    · exact absurd (by simp [split]) (uncalled handle)
  have missed (id : RoutineId) (first : List RuntimeEvent) (handle : RoutineHandle)
      (last : List RuntimeEvent)
      (split : startup ++ [.resolve id none] = first ++ .call handle :: last) :
      ∃ init id, first = init ++ [.resolve id (some handle)] := by
    have member : .call handle ∈ startup ++ [.resolve id none] := by simp [split]
    simp [uncalled handle] at member
  cases dispatched with
  | startupUnwound u started => exact ended
  | startupFailed error started => exact ended
  | malformed started unread => exact ended
  | lookupUnwound params id u runtime host looked =>
    exact ⟨startup ++ [.resolve id none], by simp [same], fun _ _ _ => read looked, missed id⟩
  | lookupFailed params id error runtime host looked =>
    exact ⟨startup ++ [.resolve id none], by simp [same], fun _ _ _ => read looked, missed id⟩
  | called params id handle between last host final outcome looked call =>
    refine ⟨startup ++ [.resolve id (some handle), .call handle], by simp [same],
      fun _ _ _ => read looked, fun first other rest split => ?_⟩
    rw [show startup ++ [.resolve id (some handle), .call handle] =
      (startup ++ [.resolve id (some handle)]) ++ .call handle :: [] by simp,
      List.append_cons_inj_of_notMem (by simp [uncalled other]) (by simp)] at split
    obtain ⟨rfl, same, -⟩ := split
    exact ⟨startup, id, by rw [RuntimeEvent.call.inj same]⟩

end Embedder

namespace Bridge

open RuntimeEvent

variable {ρ : Type}

theorem history_perform (L : Launcher ρ) {b : Bridge ρ}
    (h : History b.embedder.lifecycle.state b.embedder.events) (op : Operation) :
    History (b.perform L op).embedder.lifecycle.state (b.perform L op).embedder.events := by
  rcases embedder_perform L b op with ⟨routine, arguments, rfl⟩ | ⟨inner, same⟩
  · rw [perform, embedder_call]
    exact (Embedder.dispatched_dispatch L routine arguments b.embedder).history h
  · rw [same]
    exact Embedder.history_perform L h inner

theorem history_performAll (L : Launcher ρ) {b : Bridge ρ}
    (h : History b.embedder.lifecycle.state b.embedder.events) (ops : List Operation) :
    History (b.performAll L ops).embedder.lifecycle.state (b.performAll L ops).embedder.events := by
  induction ops generalizing b with
  | nil => exact h
  | cons op ops ih => exact ih (history_perform L h op)

/-- What an operation asks of the runtime. -/
theorem events_perform (L : Launcher ρ) (b : Bridge ρ) (op : Operation) :
    ∃ asked, (b.perform L op).embedder.events = b.embedder.events ++ asked ∧
      (∀ event ∈ asked, event.isUse = true →
        ∃ routine arguments, op = .call routine arguments ∧
          (b.embedder.ensureReady L).1 = .ok (.ok ()) ∧ (RoutineId.parse routine).isSome) ∧
      (∀ first handle last, asked = first ++ .call handle :: last →
        ∃ init id, first = init ++ [.resolve id (some handle)]) := by
  rcases embedder_perform L b op with ⟨routine, arguments, rfl⟩ | ⟨inner, same⟩
  · obtain ⟨asked, same, uses, calls⟩ :=
      (Embedder.dispatched_dispatch L routine arguments b.embedder).events
    refine ⟨asked, by rw [perform, embedder_call, same], fun event member use => ?_, calls⟩
    exact ⟨routine, arguments, rfl, uses event member use⟩
  · obtain ⟨asked, more, idle⟩ := Embedder.events_perform L b.embedder inner
    refine ⟨asked, by rw [same, more], fun event member use => ?_,
      fun first handle last split => ?_⟩
    · rw [idle event member] at use
      exact Bool.noConfusion use
    · exact Bool.noConfusion (idle (.call handle) (by simp [split]))

end Bridge

/-! ### A whole record -/

namespace RuntimeEvent.History

variable {trace : List RuntimeEvent}

theorem shape_of_shuttingDown (h : History .shuttingDown trace) :
    (trace = [] ∨ ∃ params, trace = [.launch params false]) ∨
      ∃ params uses, Uses uses ∧ trace = .launch params true :: uses ++ [.shutdown] := by
  cases h with
  | unlaunched tried down none => exact .inl none
  | closed used => exact .inr ⟨_, _, used, rfl⟩

theorem launches_le_one (h : History .shuttingDown trace) : trace.countP isLaunch ≤ 1 := by
  obtain (rfl | ⟨params, rfl⟩) | ⟨params, uses, used, rfl⟩ := h.shape_of_shuttingDown
  · simp
  · simp [isLaunch]
  · have none : uses.countP isLaunch = 0 := by
      rw [List.countP_eq_zero]
      intro event member launch
      have use := used.isUse event member
      cases event <;> simp [isLaunch, isUse] at launch use
    simp [List.countP_cons, List.countP_append, none, isLaunch]

/-- Whatever is not a launch comes after one that gave a runtime. -/
theorem launched_before (h : History .shuttingDown trace) {before after : List RuntimeEvent}
    {event : RuntimeEvent} (split : trace = before ++ event :: after)
    (other : event.isLaunch = false) : ∃ params, .launch params true ∈ before := by
  obtain (rfl | ⟨params, rfl⟩) | ⟨params, uses, used, rfl⟩ := h.shape_of_shuttingDown
  · simp at split
  · cases before with
    | nil => simp [← (List.cons.inj split).1, isLaunch] at other
    | cons first before => simp at split
  · cases before with
    | nil => simp [← (List.cons.inj split).1, isLaunch] at other
    | cons first before => exact ⟨params, by simp [← (List.cons.inj split).1]⟩

/-- Nothing comes after a shutdown. -/
theorem shutdown_last (h : History .shuttingDown trace) {before after : List RuntimeEvent}
    (split : trace = before ++ .shutdown :: after) : after = [] := by
  obtain (rfl | ⟨params, rfl⟩) | ⟨params, uses, used, rfl⟩ := h.shape_of_shuttingDown
  · simp at split
  · have member : .shutdown ∈ [RuntimeEvent.launch params false] := by simp [split]
    simp at member
  · have unused : .shutdown ∉ uses := fun member => Bool.noConfusion (used.isUse _ member)
    rw [List.append_cons_inj_of_notMem (by simpa using unused) (by simp)] at split
    exact split.2.2.symm

/-- A runtime that was launched is shut down once, and nothing else is. -/
theorem count_shutdown (h : History .shuttingDown trace) :
    ((∃ params, .launch params true ∈ trace) → trace.count .shutdown = 1) ∧
      ((∀ params, .launch params true ∉ trace) → trace.count .shutdown = 0) := by
  obtain (rfl | ⟨params, rfl⟩) | ⟨params, uses, used, rfl⟩ := h.shape_of_shuttingDown
  · simp
  · simp
  · have none : uses.count .shutdown = 0 :=
      List.count_eq_zero.mpr fun member => Bool.noConfusion (used.isUse _ member)
    refine ⟨fun _ => ?_, fun never => absurd (by simp) (never params)⟩
    simp [List.count_append, none]

end RuntimeEvent.History

namespace Bridge

open RuntimeEvent

variable {ρ : Type}

/-- **The runtime is used while it is live.** Whatever is done with a bridge until it goes out of
scope, and whatever launcher and runtime answer. -/
theorem runtime_used_while_live (L : Launcher ρ) (settings : Settings.Store) (host : Host)
    (ops : List Operation) :
    let final := (new settings host : Bridge ρ).performAll L ops
    let trace := (final.drop L).embedder.events
    -- There is one launch at most, and everything else comes after one that gave a runtime.
    trace.countP isLaunch ≤ 1 ∧
    (∀ before event after, trace = before ++ event :: after → event.isLaunch = false →
      ∃ params, .launch params true ∈ before) ∧
    -- Nothing comes after a shutdown, and there is one exactly if a launch gave a runtime.
    (∀ before after, trace = before ++ .shutdown :: after → after = []) ∧
    ((∃ params, .launch params true ∈ trace) → trace.count .shutdown = 1) ∧
    ((∀ params, .launch params true ∉ trace) → trace.count .shutdown = 0) ∧
    -- Each operation adds its own part to the record, and going out of scope a shutdown at most.
    -- Every entry is a request that the launcher answers, and nothing else is asked of it.
    (∃ asked, asked = (if final.embedder.lifecycle.state = .ready then [.shutdown] else []) ∧
      trace = final.embedder.events ++ asked ∧
      L.Conversation final.embedder.lifecycle.runtime? final.embedder.host asked none
        (final.drop L).embedder.host) ∧
    (∀ before op after, ops = before ++ op :: after →
      let b := (new settings host).performAll L before
      ∃ asked, (b.perform L op).embedder.events = b.embedder.events ++ asked ∧
        L.Conversation b.embedder.lifecycle.runtime? (op.hostAt b.embedder.host) asked
          (b.perform L op).embedder.lifecycle.runtime? (b.perform L op).embedder.host ∧
        -- Lookups and calls come only from a call that finds the runtime ready and can be read.
        (∀ event ∈ asked, event.isUse = true →
          ∃ routine arguments, op = .call routine arguments ∧
            (b.embedder.ensureReady L).1 = .ok (.ok ()) ∧ (RoutineId.parse routine).isSome) ∧
        -- A call comes right after a lookup, with the handle that the lookup gave.
        (∀ first handle last, asked = first ++ .call handle :: last →
          ∃ init id, first = init ++ [.resolve id (some handle)])) := by
  intro final trace
  have began : History (new settings host : Bridge ρ).embedder.lifecycle.state
      (new settings host : Bridge ρ).embedder.events := .untouched
  -- The drop brings every record into the shape of one that is closed.
  have ended : History .shuttingDown trace :=
    Embedder.history_teardown L (history_performAll L began ops)
  refine ⟨ended.launches_le_one, fun before event after split other =>
    ended.launched_before split other, fun before after split => ended.shutdown_last split,
    ended.count_shutdown.1, ended.count_shutdown.2, ?_, fun before op after _ => ?_⟩
  · obtain ⟨recorded, answered⟩ := Embedder.asks_teardown L final.embedder
    rw [Embedder.lifecycle_teardown] at answered
    exact ⟨_, rfl, recorded, answered⟩
  · obtain ⟨asked, recorded, uses, calls⟩ := events_perform L (performAll L _ before) op
    obtain ⟨same, recorded', answered⟩ := exists_conversation_perform L (performAll L _ before) op
    obtain rfl : same = asked := List.append_cancel_left (recorded'.symm.trans recorded)
    exact ⟨same, recorded, answered, uses, calls⟩

end Bridge

end GuestRoutines
