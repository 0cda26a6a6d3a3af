import GuestRoutines.Proofs.Embedding.Calls

/-!
# What the launcher is asked

An embedder writes down what it asks of the launcher and of the runtime. Each entry of that record
stands for one request, which the launcher answers with the runtime and the host from there on. What
an operation does with the runtime is in the record as a whole: no request is left out of it, and no
entry is made up.

## Main definitions

* `Launcher.Answers` — a request, with the runtime and the host before and after it
* `Launcher.Conversation` — requests one after the other
* `Embedder.Asks` — what an embedder asks on the way to another state

## Main results

* `Embedder.asks_teardown` — a teardown asks a runtime that is ready to shut down
* `Embedder.Dispatched.exists_asks` — what a call asks
* `Bridge.exists_conversation_perform` — what any operation asks
-/

namespace GuestRoutines

namespace Launcher

variable {ρ : Type} {L : Launcher ρ}

/-- How a launcher answers a request: the runtime and the host before it, the entry that stands for
it, and the runtime and the host after it. There is no runtime before a launch, and none after a
shutdown, however that ends. -/
inductive Answers (L : Launcher ρ) :
    Option ρ → Host → RuntimeEvent → Option ρ → Host → Prop where
  | launched {params : StartupParams} {runtime : ρ} {host after : Host}
      (launch : L.launch params host = (.ok (.ok runtime), after)) :
      Answers L none host (.launch params true) (some runtime) after
  /-- The launch gives an error, or unwinds. -/
  | unlaunched {params : StartupParams} {answer : Except Unwinding (Except StartupError ρ)}
      {host after : Host} (launch : L.launch params host = (answer, after))
      (failed : ∀ runtime, answer ≠ .ok (.ok runtime)) :
      Answers L none host (.launch params false) none after
  | found {id : RoutineId} {handle : RoutineHandle} {runtime next : ρ} {host after : Host}
      (resolve : L.resolve id runtime host = (.ok (.ok handle), next, after)) :
      Answers L (some runtime) host (.resolve id (some handle)) (some next) after
  /-- The lookup gives an error, or unwinds. -/
  | missed {id : RoutineId} {answer : Except Unwinding (Except ModuleError RoutineHandle)}
      {runtime next : ρ} {host after : Host}
      (resolve : L.resolve id runtime host = (answer, next, after))
      (failed : ∀ handle, answer ≠ .ok (.ok handle)) :
      Answers L (some runtime) host (.resolve id none) (some next) after
  | called {handle : RoutineHandle} {arguments : List HostValue}
      {outcome : Except Unwinding RoutineOutcome} {runtime next : ρ} {host after : Host}
      (call : L.call handle arguments runtime host = (outcome, next, after)) :
      Answers L (some runtime) host (.call handle) (some next) after
  | shutDown {ending : Except Unwinding Unit} {runtime : ρ} {host after : Host}
      (shutdown : L.shutdown runtime host = (ending, after)) :
      Answers L (some runtime) host .shutdown none after

/-- Requests one after the other. Between them the threshold of the log may be set, and nothing else
changes. -/
inductive Conversation (L : Launcher ρ) :
    Option ρ → Host → List RuntimeEvent → Option ρ → Host → Prop where
  | done {runtime : Option ρ} {host : Host} : Conversation L runtime host [] runtime host
  | threshold {runtime last : Option ρ} {host after : Host} {events : List RuntimeEvent}
      (s : Severity) (rest : Conversation L runtime (host.withThreshold s) events last after) :
      Conversation L runtime host events last after
  | asked {runtime next last : Option ρ} {host between after : Host} {event : RuntimeEvent}
      {events : List RuntimeEvent} (first : Answers L runtime host event next between)
      (rest : Conversation L next between events last after) :
      Conversation L runtime host (event :: events) last after

variable {runtime next last : Option ρ} {host between after : Host}
  {events more : List RuntimeEvent}

theorem Answers.conversation {event : RuntimeEvent}
    (h : Answers L runtime host event next after) :
    Conversation L runtime host [event] next after :=
  .asked h .done

theorem Conversation.append (h : Conversation L runtime host events next between)
    (later : Conversation L next between more last after) :
    Conversation L runtime host (events ++ more) last after := by
  induction h with
  | done => exact later
  | threshold s rest ih => exact .threshold s (ih later)
  | asked first rest ih => exact .asked first (ih later)

end Launcher

namespace Embedder

open Launcher

variable {ρ : Type} {L : Launcher ρ} {e between after : Embedder ρ}
  {asked more : List RuntimeEvent}

/-- What an embedder asks on the way to another state: it is added to the record, and it accounts
for what has become of the runtime and of the host. -/
structure Asks (L : Launcher ρ) (e : Embedder ρ) (asked : List RuntimeEvent)
    (after : Embedder ρ) : Prop where
  recorded : after.events = e.events ++ asked
  answered : L.Conversation e.lifecycle.runtime? e.host asked after.lifecycle.runtime? after.host

theorem Asks.trans (h : Asks L e asked between) (later : Asks L between more after) :
    Asks L e (asked ++ more) after :=
  ⟨by rw [later.recorded, h.recorded, List.append_assoc], h.answered.append later.answered⟩

theorem Asks.exists_conversation (h : Asks L e asked after) :
    ∃ asked, after.events = e.events ++ asked ∧
      L.Conversation e.lifecycle.runtime? e.host asked after.lifecycle.runtime? after.host :=
  ⟨asked, h.recorded, h.answered⟩

/-! ### Startup -/

theorem Started.exists_asks {tier : TrustTier}
    {answer : Except Unwinding (Except StartupError Unit)} (h : Started L tier e answer after)
    (down : e.lifecycle.runtime? = none) : ∃ asked, Asks L e asked after := by
  cases h with
  | misconfigured error unread =>
    refine ⟨[], by simp, ?_⟩
    rw [down]
    exact .done
  | unwound params u host read launch =>
    refine ⟨[.launch params false], rfl, ?_⟩
    rw [down]
    exact .threshold params.logThreshold (Answers.unlaunched launch (by simp)).conversation
  | refused params error host read launch =>
    refine ⟨[.launch params false], rfl, ?_⟩
    rw [down]
    -- The threshold is set before the request, and put back after it.
    exact .threshold params.logThreshold
      (.asked (.unlaunched launch (by simp)) (.threshold e.host.log.threshold .done))
  | launched params runtime host read launch =>
    refine ⟨[.launch params true], rfl, ?_⟩
    rw [down]
    exact .threshold params.logThreshold (Answers.launched launch).conversation

theorem exists_asks_ensureReady (L : Launcher ρ) (e : Embedder ρ) :
    ∃ asked, Asks L e asked (e.ensureReady L).2 := by
  by_cases fresh : e.lifecycle.state = .uninitialized
  · obtain ⟨tier, first⟩ := Lifecycle.state_eq_uninitialized_iff.mp fresh
    exact (started_ensureReady first).exists_asks (by rw [first]; rfl)
  · rw [ensureReady_of_tried fresh]
    exact ⟨[], by simp, .done⟩

/-! ### The other operations -/

theorem asks_setPosture (L : Launcher ρ) (tier : TrustTier) (e : Embedder ρ) :
    Asks L e [] (e.setPosture tier).2 := by
  by_cases fresh : e.lifecycle.state = .uninitialized
  · obtain ⟨before, first⟩ := Lifecycle.state_eq_uninitialized_iff.mp fresh
    rw [setPosture_of_uninitialized first]
    refine ⟨by simp, ?_⟩
    rw [first]
    exact .done
  · rw [setPosture_of_tried fresh]
    exact ⟨by simp, .done⟩

theorem asks_refreshLogLevel (L : Launcher ρ) (e : Embedder ρ) :
    Asks L e [] e.refreshLogLevel.2 := by
  refine ⟨by rw [events_refreshLogLevel, List.append_nil], ?_⟩
  rw [lifecycle_refreshLogLevel]
  unfold refreshLogLevel
  split
  · exact .done
  · exact .threshold _ .done

/-- A teardown asks for a shutdown exactly if there is a runtime, which is then gone. -/
theorem asks_teardown (L : Launcher ρ) (e : Embedder ρ) :
    Asks L e (if e.lifecycle.state = .ready then [.shutdown] else []) (e.teardown L).2 := by
  refine ⟨events_teardown L e, ?_⟩
  rw [lifecycle_teardown]
  by_cases ready : e.lifecycle.state = .ready
  · obtain ⟨params, runtime, live⟩ := Lifecycle.state_eq_ready_iff.mp ready
    rw [if_pos ready]
    simp only [teardown, live]
    exact (Answers.shutDown rfl).conversation
  · have down : e.lifecycle.runtime? = none := by
      rw [← Option.not_isSome_iff_eq_none, Lifecycle.isSome_runtime?_iff]
      exact ready
    have same : (e.teardown L).2.host = e.host := by
      unfold teardown
      split
      · next live => exact absurd (by rw [live]; rfl) ready
      · rfl
    rw [if_neg ready, same, down]
    exact .done

/-- The host in which an operation asks. What the host itself changes is changed before. -/
def Operation.hostAt : Operation → Host → Host
  | .hostChange _ host, _ => host
  | _, host => host

theorem exists_conversation_perform (L : Launcher ρ) (e : Embedder ρ) (op : Operation) :
    ∃ asked, (e.perform L op).events = e.events ++ asked ∧
      L.Conversation e.lifecycle.runtime? (op.hostAt e.host) asked
        (e.perform L op).lifecycle.runtime? (e.perform L op).host := by
  cases op with
  | ensureReady =>
    obtain ⟨asked, asks⟩ := exists_asks_ensureReady L e
    exact asks.exists_conversation
  | setPosture tier => exact (asks_setPosture L tier e).exists_conversation
  | refreshLogLevel => exact (asks_refreshLogLevel L e).exists_conversation
  | teardown => exact (asks_teardown L e).exists_conversation
  | hostChange settings host => exact ⟨[], by simp [perform], .done⟩

/-! ### Calls -/

/-- A call that comes as far as the lookup has a runtime to ask. -/
theorem LooksUp.exists_asks {routine : String} {params : StartupParams} {id : RoutineId}
    {answer : Except Unwinding (Except ModuleError RoutineHandle)} {runtime : ρ} {host : Host}
    (h : LooksUp L routine e params id answer runtime host) {entry : RuntimeEvent}
    (answers : ∀ before, L.resolve id before (e.ensureReady L).2.host = (answer, runtime, host) →
      L.Answers (some before) (e.ensureReady L).2.host entry (some runtime) host) :
    ∃ asked, Asks L e asked
      { (e.ensureReady L).2 with
        lifecycle := .ready params runtime
        host
        events := (e.ensureReady L).2.events ++ [entry] } := by
  obtain ⟨asked, startup⟩ := exists_asks_ensureReady L e
  obtain ⟨before, live, looked⟩ := h.looked
  refine ⟨asked ++ [entry], startup.trans ⟨rfl, ?_⟩⟩
  rw [live]
  exact (answers before looked).conversation

theorem Dispatched.exists_asks {routine : String} {arguments : List HostValue}
    {outcome : Except Unwinding CallOutcome} (h : Dispatched L routine arguments e outcome after) :
    ∃ asked, Asks L e asked after := by
  cases h with
  | startupUnwound u started => exact exists_asks_ensureReady L e
  | startupFailed error started => exact exists_asks_ensureReady L e
  | malformed started unread => exact exists_asks_ensureReady L e
  | lookupUnwound params id u runtime host looked =>
    exact looked.exists_asks fun _ resolve => .missed resolve (by simp)
  | lookupFailed params id error runtime host looked =>
    exact looked.exists_asks fun _ resolve => .missed resolve (by simp)
  | called params id handle next last host final outcome looked call =>
    obtain ⟨asked, lookup⟩ := looked.exists_asks fun _ resolve => .found resolve
    refine ⟨asked ++ [.call handle], lookup.trans ⟨by simp, ?_⟩⟩
    exact (Answers.called call).conversation

end Embedder

namespace Bridge

variable {ρ : Type}

/-- The host in which an operation asks. -/
def Operation.hostAt : Operation → Host → Host
  | .embedder op, host => op.hostAt host
  | _, host => host

/-- Whatever is done with a bridge, what it asks is in the record, and the launcher's answers
account for the runtime and for the host. -/
theorem exists_conversation_perform (L : Launcher ρ) (b : Bridge ρ) (op : Operation) :
    ∃ asked, (b.perform L op).embedder.events = b.embedder.events ++ asked ∧
      L.Conversation b.embedder.lifecycle.runtime? (op.hostAt b.embedder.host) asked
        (b.perform L op).embedder.lifecycle.runtime? (b.perform L op).embedder.host := by
  cases op with
  | call routine arguments =>
    obtain ⟨asked, asks⟩ :=
      (Embedder.dispatched_dispatch L routine arguments b.embedder).exists_asks
    rw [perform, embedder_call]
    exact asks.exists_conversation
  | setTrust trusted =>
    rw [perform, embedder_setTrust]
    exact (Embedder.asks_setPosture L (.ofTrusted trusted) b.embedder).exists_conversation
  | shutdown => exact Embedder.exists_conversation_perform L b.embedder .teardown
  | embedder inner => exact Embedder.exists_conversation_perform L b.embedder inner

end Bridge

end GuestRoutines
