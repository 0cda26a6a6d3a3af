import GuestRoutines.Proofs.Call.Convention
import GuestRoutines.Proofs.Call.Phases
import GuestRoutines.Proofs.Log.Emission

/-!
# The effects of a call

What a guest does to its host is the work of its host calls: messages that go to the log, and the
result. Both are told from the steps of the call, those of the start routine first.

## Main definitions

* `Step.message?`, `Step.payload?` — what a step hands to the host
* `Log.with` — a log after some messages
* `Program.steps`, `Program.hostCalls` — the steps of a call, and the host calls among them
* `Program.Accounted` — what a call makes of its host calls

## Main results

* `Traced.log_eq`, `Traced.result_eq` — a run adds up what its steps hand to the host
* `Body.run_append` — code runs up to where it stops, and then what follows it
* `Program.execute_accounted` — the account of every call
-/

namespace GuestRoutines

/-! ### What a step hands to the host -/

namespace Machine

/-- The bytes of the range that two operands name. -/
def range? (m : Machine) (pointer length : Operand) : Option ByteArray := do
  let p ← (m.value pointer).toOption
  let n ← (m.value length).toOption
  return m.memory.bytesAt p.toInt.toNat n.toInt.toNat

/-- The message that three operands name: the code of its level, and the range of its text. -/
def message? (m : Machine) (code pointer length : Operand) : Option (ManagedLevel × String) := do
  let l ← (m.value code).toOption
  let b ← m.range? pointer length
  return (.ofCode l.toInt, ← Text.ofBytes? b)

end Machine

theorem Instruction.Reads.range? {m : Machine} {pointer length : Operand} {b : ByteArray}
    (h : Reads m pointer length b) : m.range? pointer length = some b := by
  obtain ⟨p, n, first, second, read⟩ := h
  obtain ⟨-, -, -, rfl⟩ := Convention.readRange_eq_ok_iff.mp read
  simp [Machine.range?, first, second, Except.toOption]

theorem Instruction.Logs.message? {m : Machine} {code pointer length : Operand}
    {level : ManagedLevel} {text : String} (h : Logs m code pointer length level text) :
    m.message? code pointer length = some (level, text) := by
  obtain ⟨l, p, n, first, second, third, rfl, logged⟩ := h
  cases read : Convention.readRange m.memory p n with
  | error v =>
    rw [Convention.logged, read] at logged
    cases logged
  | ok b =>
    have range : m.range? pointer length = some b :=
      Reads.range? ⟨p, n, second, third, read⟩
    have decoded : Text.ofBytes? b = some text := by
      rw [Convention.logged, read] at logged
      cases decoded : Text.ofBytes? b with
      | none => simp [decoded, bind, Except.bind] at logged
      | some s => simpa [decoded, bind, Except.bind, pure, Except.pure] using logged
    simp [Machine.message?, first, range, decoded, Except.toOption]

namespace Step

/-- The message that a step sends: it is a log call, and it succeeds. -/
def message? (c : Conditions) (s : Step) : Option (ManagedLevel × String) :=
  match s.instruction, s.flow c with
  | .log code pointer length, .onward => s.before.message? code pointer length
  | _, _ => none

/-- The bytes that a step sets as the result: it is a call that sets one, and it succeeds. -/
def payload? (c : Conditions) (s : Step) : Option ByteArray :=
  match s.instruction, s.flow c with
  | .setResult pointer length, .onward => s.before.range? pointer length
  | _, _ => none

variable {c : Conditions} {s : Step}

theorem message?_of_stopped (stops : s.flow c ≠ .onward) : s.message? c = none := by
  unfold message?
  split
  · next flow => exact absurd flow stops
  · rfl

theorem payload?_of_stopped (stops : s.flow c ≠ .onward) : s.payload? c = none := by
  unfold payload?
  split
  · next flow => exact absurd flow stops
  · rfl

theorem message?_of_plain (plain : s.instruction.isPlain) : s.message? c = none := by
  unfold message?
  split
  · next instruction _ => simp [instruction, Instruction.isPlain] at plain
  · rfl

theorem payload?_of_plain (plain : s.instruction.isPlain) : s.payload? c = none := by
  unfold payload?
  split
  · next instruction _ => simp [instruction, Instruction.isPlain] at plain
  · rfl

theorem isHostCall_of_message? (sent : s.message? c ≠ none) : s.instruction.isHostCall := by
  unfold message? at sent
  split at sent
  · next instruction _ => simp [instruction, Instruction.isHostCall]
  · exact absurd rfl sent

theorem isHostCall_of_payload? (sent : s.payload? c ≠ none) : s.instruction.isHostCall := by
  unfold payload? at sent
  split at sent
  · next instruction _ => simp [instruction, Instruction.isHostCall]
  · exact absurd rfl sent

end Step

/-! ### One step -/

namespace Log

/-- What a log writes of some messages: those that pass the threshold, each at its level of the
host. -/
def delivers (g : Log) (messages : List (ManagedLevel × String)) : List (HostLevel × String) :=
  (messages.filter fun message => g.isEnabled message.1).map fun message =>
    (g.levels.hostLevel message.1, message.2)

/-- The log after some messages. -/
def after (g : Log) (messages : List (ManagedLevel × String)) : Log :=
  { g with written := g.written ++ g.delivers messages }

@[simp] theorem after_nil (g : Log) : g.after [] = g := by simp [after, delivers]

theorem after_append (g : Log) (first second : List (ManagedLevel × String)) :
    (g.after first).after second = g.after (first ++ second) := by
  have same : (g.after first).delivers second = g.delivers second := rfl
  have both : g.delivers (first ++ second) = g.delivers first ++ g.delivers second := by
    simp [delivers]
  rw [after, same, after, after, both, List.append_assoc]

theorem emit_of_ok {g log : Log} {l : ManagedLevel} {message : String} {forwarded : Bool}
    (emitted : g.emit l message = (.ok forwarded, log)) : log = g.after [(l, message)] := by
  rw [emit_eq] at emitted
  split at emitted
  · next enabled =>
    split at emitted
    · cases emitted
    · cases emitted
      simp [after, delivers, enabled]
  · next disabled =>
    cases emitted
    simp [after, delivers, disabled]

theorem emit_of_error {g log : Log} {l : ManagedLevel} {message : String} {u : Unwinding}
    (emitted : g.emit l message = (.error u, log)) : log = g := by
  rw [emit_eq] at emitted
  split at emitted
  · split at emitted
    · cases emitted
      rfl
    · cases emitted
  · cases emitted

end Log

namespace CallContext

variable {c context : CallContext} {l : ManagedLevel} {message : String}

theorem record_of_ok {forwarded : Bool} (recorded : c.record l message = (.ok forwarded, context)) :
    context.log = c.log.after [(l, message)] ∧ context.result = c.result := by
  unfold record at recorded
  split at recorded
  · next emitted =>
    cases recorded
    exact ⟨Log.emit_of_ok emitted, rfl⟩
  · cases recorded

theorem record_of_error {u : Unwinding} (recorded : c.record l message = (.error u, context)) :
    context = c := by
  unfold record at recorded
  split at recorded
  · cases recorded
  · next emitted =>
    cases recorded
    rw [Log.emit_of_error emitted]

end CallContext

namespace Step

variable (c : Conditions) (s : Step)

/-- A step that does not go on leaves context and memory as it met them. -/
theorem after_of_stopped (stops : s.flow c ≠ .onward) :
    (s.after c).context = s.before.context ∧ (s.after c).memory = s.before.memory := by
  obtain ⟨i, before⟩ := s
  have ran := Step.ran c ⟨i, before⟩
  generalize Step.flow c ⟨i, before⟩ = flow at ran stops
  generalize Step.after c ⟨i, before⟩ = last at ran
  cases ran with
  | failed f admitted => exact ⟨rfl, rfl⟩
  | raised b read => exact ⟨rfl, rfl⟩
  | exhausted => exact ⟨rfl, rfl⟩
  | left => exact ⟨rfl, rfl⟩
  | resultSet b read => exact absurd rfl stops
  | logged level message forwarded context read recorded => exact absurd rfl stops
  | unwound level message u context read recorded =>
    exact ⟨CallContext.record_of_error recorded, rfl⟩
  | computed memory plain => exact absurd rfl stops

/-- What a step hands to the host: nothing, a message or a result. -/
inductive Hands : Prop where
  | nothing (silent : s.message? c = none) (kept : s.payload? c = none)
      (same : (s.after c).context = s.before.context) : Hands
  | message (level : ManagedLevel) (text : String) (sent : s.message? c = some (level, text))
      (kept : s.payload? c = none)
      (log : (s.after c).context.log = s.before.context.log.after [(level, text)])
      (result : (s.after c).context.result = s.before.context.result) : Hands
  | payload (b : ByteArray) (silent : s.message? c = none) (set : s.payload? c = some b)
      (same : (s.after c).context = s.before.context.setResult b) : Hands

/-- A step hands over what its instruction can do in the way that the step went. -/
theorem hands : s.Hands c := by
  by_cases goes : s.flow c = .onward
  · obtain ⟨i, before⟩ := s
    have ran := Step.ran c ⟨i, before⟩
    rw [goes] at ran
    generalize after : Step.after c ⟨i, before⟩ = last at ran
    cases ran with
    | @resultSet pointer length b read =>
      have set : Step.payload? c ⟨.setResult pointer length, before⟩ = some b := by
        simp only [payload?, goes, read.range?]
      exact .payload b rfl set (by rw [after])
    | @logged code pointer length level text forwarded context read recorded =>
      have sent : Step.message? c ⟨.log code pointer length, before⟩ = some (level, text) := by
        simp only [message?, goes, read.message?]
      obtain ⟨log, result⟩ := CallContext.record_of_ok recorded
      exact .message level text sent rfl (by rw [after, log]) (by rw [after, result])
    | computed memory plain =>
      exact .nothing (message?_of_plain plain) (payload?_of_plain plain) (by rw [after])
  · exact .nothing (message?_of_stopped goes) (payload?_of_stopped goes)
      (s.after_of_stopped c goes).1

/-- A step adds its message to the log of the host, if it sends one. -/
theorem log_after : (s.after c).context.log = s.before.context.log.after (s.message? c).toList := by
  cases s.hands c with
  | nothing silent kept same =>
    rw [silent, same]
    exact (Log.after_nil _).symm
  | message level text sent kept log result =>
    rw [sent, log]
    rfl
  | payload b silent set same =>
    rw [silent, same]
    exact (Log.after_nil _).symm

/-- A step replaces the result by its payload, if it has one. -/
theorem result_after :
    (s.after c).context.result = (s.payload? c).or s.before.context.result := by
  cases s.hands c with
  | nothing silent kept same =>
    rw [kept, same]
    rfl
  | message level text sent kept log result =>
    rw [kept, result]
    rfl
  | payload b silent set same =>
    rw [set, same]
    rfl

end Step

/-! ### Runs -/

namespace Traced

variable {c : Conditions} {m : Machine} {steps : List Step} {ending : Flow × Machine}

/-- A run adds the messages of its steps to the log of the host, in their order. -/
theorem log_eq (run : Traced c m steps ending) :
    ending.2.context.log = m.context.log.after (steps.filterMap (·.message? c)) := by
  induction run with
  | onward m => exact (Log.after_nil _).symm
  | trapped m t => exact (Log.after_nil _).symm
  | stopped s stops =>
    rw [s.log_after c]
    simp [Step.message?_of_stopped stops]
  | step s goes rest ih =>
    rw [ih, s.log_after c, Log.after_append]
    cases sent : s.message? c with
    | none => simp [sent]
    | some message => simp [sent]

/-- The result after a run is the last payload of its steps, or else the result before it. -/
theorem result_eq (run : Traced c m steps ending) :
    ending.2.context.result = (steps.filterMap (·.payload? c)).getLast?.or m.context.result := by
  induction run with
  | onward m => rfl
  | trapped m t => rfl
  | stopped s stops =>
    rw [s.result_after c]
    simp [Step.payload?_of_stopped stops]
  | step s goes rest ih =>
    -- What the first step sets counts only if no later step sets anything.
    rw [ih, s.result_after c]
    cases set : s.payload? c with
    | none => simp [set]
    | some b =>
      rw [List.filterMap_cons_some set, List.getLast?_cons]
      cases (List.filterMap _ _).getLast? <;> rfl

end Traced

/-! ### Code after code -/

namespace Body

/-- Code, and more code after it. -/
def append : Body → Body → Body
  | done, more => more
  | step i rest, more => step i (rest.append more)
  | branch x negative other rest, more => branch x negative other (rest.append more)

/-- Code runs up to where it stops, and if it does not stop, what follows it is run. -/
theorem run_append (c : Conditions) (b more : Body) (m : Machine) :
    (b.append more).run c m = andThen (b.run c m) (b.run c m) (more.run c) := by
  induction b generalizing m with
  | done => rfl
  | step i rest ih =>
    rw [append, run_step, run_step]
    rcases i.run c m with ⟨_ | _ | _ | _, after⟩
    · exact ih after
    · rfl
    · rfl
    · rfl
  | branch x negative other rest _ _ ih =>
    rw [append]
    cases value : m.value x with
    | error f => simp only [run, value, andThen]
    | ok n =>
      rw [run_branch value, run_branch value]
      generalize (if n.toInt < 0 then negative.run c m else other.run c m) = chosen
      rcases chosen with ⟨_ | _ | _ | _, after⟩
      · exact ih after
      · rfl
      · rfl
      · rfl

/-- What follows code adds its steps to those of the code, if the code does not stop. -/
theorem steps_append (c : Conditions) (b more : Body) (m : Machine) :
    (b.append more).steps c m = b.steps c m ++ andThen (b.run c m) [] (more.steps c) := by
  induction b generalizing m with
  | done => rfl
  | step i rest ih =>
    rw [append, steps, steps, run_step]
    rcases i.run c m with ⟨_ | _ | _ | _, after⟩
    · exact congrArg (_ :: ·) (ih after)
    · rfl
    · rfl
    · rfl
  | branch x negative other rest _ _ ih =>
    rw [append]
    cases value : m.value x with
    | error f => simp [steps, run, value, andThen]
    | ok n =>
      rw [run_branch value]
      simp only [steps, value]
      generalize (if n.toInt < 0 then negative.run c m else other.run c m) = chosen
      rcases chosen with ⟨_ | _ | _ | _, after⟩
      · simp [andThen, ih after]
      · simp [andThen]
      · simp [andThen]
      · simp [andThen]

end Body

/-! ### The account of a call -/

/-- No failure gives a value. -/
theorem Failure.outcome_ne_success (f : Failure) (phase : Phase) (v : HostValue) :
    f.outcome phase ≠ .success v := by
  cases f with
  | raised message => exact nofun
  | violation violation => exact nofun
  | trapped t => cases t <;> exact nofun
  | fault e => cases phase <;> exact nofun

/-- A context after some steps: the log has their messages, and the result is their last payload if
they have one. -/
structure CallContext.Gains (c : Conditions) (context : CallContext) (steps : List Step)
    (after : CallContext) : Prop where
  log : after.log = context.log.after (steps.filterMap (·.message? c))
  result : after.result = (steps.filterMap (·.payload? c)).getLast?.or context.result

namespace CallContext.Gains

variable {c : Conditions} {context between after : CallContext} {steps more : List Step}

theorem none (c : Conditions) (context : CallContext) : Gains c context [] context :=
  ⟨(Log.after_nil _).symm, rfl⟩

theorem trans (first : Gains c context steps between) (second : Gains c between more after) :
    Gains c context (steps ++ more) after := by
  constructor
  · rw [second.log, first.log, Log.after_append, List.filterMap_append]
  · rw [second.result, first.result, List.filterMap_append, List.getLast?_append, Option.or_assoc]

end CallContext.Gains

theorem Body.gains_enter (c : Conditions) (b : Body) (m : Machine) :
    CallContext.Gains c m.context (b.enteredSteps c m) (b.enter c m).2.context :=
  ⟨(b.traced_enter c m).log_eq, (b.traced_enter c m).result_eq⟩

namespace Program

open CallContext

variable (p : Program) (c : Conditions)

theorem gains_instantiate (fuel : Nat) (context : CallContext) :
    Gains c context (p.startSteps c fuel context) (p.instantiate c fuel context).2.context := by
  obtain ⟨flow, memory, prepared, rfl | ⟨f, rfl⟩⟩ := p.prepare_cases c fuel context
  · obtain ⟨entered, same, run⟩ := traced_instantiate p c prepared
    have gains : Gains c entered.context _ _ := ⟨run.log_eq, run.result_eq⟩
    rwa [same] at gains
  · -- An instance that cannot be prepared has the context of the call.
    rw [instantiate_eq, startSteps, prepared]
    exact .none c context

/-- The steps of a call: those of the start routine, and then those of the routine. -/
def steps (fuel : Nat) (name : String) (context : CallContext) : List Step :=
  p.startSteps c fuel context ++ p.routineSteps c fuel name context

/-- The calls of host functions among the steps of a call. -/
def hostCalls (fuel : Nat) (name : String) (context : CallContext) : List Step :=
  (p.steps c fuel name context).filter (·.instruction.isHostCall)

/-- A call comes to its end: the instance is there, the routine is found, and it runs through. -/
def Completes (fuel : Nat) (name : String) (context : CallContext) : Prop :=
  ∃ m b flow last, p.Reaches c fuel context m ∧ p.callable? name = some b ∧
    b.enter c m = (flow, last) ∧ flow.isEnd

variable {p c} {fuel : Nat} {name : String} {context : CallContext} {m last : Machine} {b : Body}
  {flow : Flow}

theorem steps_of_reaches (reached : p.Reaches c fuel context m)
    (callable : p.callable? name = some b) :
    p.steps c fuel name context = p.startSteps c fuel context ++ b.enteredSteps c m := by
  rw [steps, routineSteps_of_reaches reached callable]

theorem steps_of_missing (absent : p.callable? name = none) :
    p.steps c fuel name context = p.startSteps c fuel context := by
  rw [steps, routineSteps]
  split <;> simp [absent]

theorem steps_of_unreached (instantiated : p.instantiate c fuel context = (flow, m))
    (stops : flow.isEnd = false) :
    p.steps c fuel name context = p.startSteps c fuel context := by
  rw [steps, routineSteps, instantiated]
  cases flow with
  | onward => cases stops
  | left => cases stops
  | failed f => simp
  | unwound u => simp

theorem Reaches.gains (reached : p.Reaches c fuel context m) :
    Gains c context (p.startSteps c fuel context) m.context := by
  obtain ⟨flow, instantiated, -⟩ := reached
  have gains := p.gains_instantiate c fuel context
  rwa [instantiated] at gains

theorem Reaches.gains_enter (reached : p.Reaches c fuel context m)
    (callable : p.callable? name = some b) (run : b.enter c m = (flow, last)) :
    Gains c context (p.steps c fuel name context) last.context := by
  rw [steps_of_reaches reached callable]
  have gains := reached.gains.trans (b.gains_enter c m)
  rwa [run] at gains

/-- What the steps of a call hand to the host comes from its host calls. -/
theorem filterMap_hostCalls {α : Type} (handed : Step → Option α)
    (host : ∀ s, handed s ≠ none → s.instruction.isHostCall) (fuel : Nat) (name : String)
    (context : CallContext) :
    (p.hostCalls c fuel name context).filterMap handed =
      (p.steps c fuel name context).filterMap handed := by
  rw [hostCalls, List.filterMap_filter]
  congr 1
  funext s
  by_cases call : s.instruction.isHostCall
  · rw [if_pos call]
  · rw [if_neg call]
    cases sent : handed s with
    | none => rfl
    | some a => exact absurd (host s (by rw [sent]; exact nofun)) call

/-- A step that fails is the last step of the call, and ends the run that it belongs to. -/
theorem last_of_failed {before rest : List Step} {s : Step} {f : Failure}
    (split : p.steps c fuel name context = before ++ s :: rest) (failed : s.flow c = .failed f) :
    rest = [] ∧
      (p.instantiate c fuel context = (.failed f, s.after c) ∨
        ∃ m b, p.Reaches c fuel context m ∧ p.callable? name = some b ∧
          b.enter c m = (.failed f, s.after c)) := by
  have stops : s.flow c ≠ .onward := by rw [failed]; exact nofun
  by_cases start : s ∈ p.startSteps c fuel context
  · have instantiated := instantiate_of_failed_step start failed
    rw [steps_of_unreached instantiated rfl] at split
    obtain ⟨entered, run⟩ := traced_of_mem_startSteps start
    exact ⟨run.eq_nil_of_stopped split stops, .inl instantiated⟩
  · -- The step belongs to the routine, whose steps follow those of the start routine.
    obtain ⟨first, routine⟩ : ∃ first, p.routineSteps c fuel name context = first ++ s :: rest := by
      rcases List.append_eq_append_iff.mp split with ⟨first, -, routine⟩ | ⟨first, same, tail⟩
      · exact ⟨first, routine⟩
      · cases first with
        | nil => exact ⟨[], tail.symm⟩
        | cons x first =>
          obtain ⟨rfl, -⟩ := List.cons.inj tail
          exact absurd (by simp [same]) start
    have mem : s ∈ p.routineSteps c fuel name context := by simp [routine]
    obtain ⟨m, b, reached, callable, run⟩ := enter_of_failed_step mem failed
    rw [routineSteps_of_reaches reached callable] at routine
    exact ⟨(b.traced_enter c m).eq_nil_of_stopped routine stops,
      .inr ⟨m, b, reached, callable, run⟩⟩

/-- What a call makes of the host calls in its course: how it ends, and the context afterwards. -/
structure Accounted (p : Program) (c : Conditions) (fuel : Nat) (name : String)
    (context : CallContext) (answer : Except Unwinding RoutineOutcome) (after : CallContext) :
    Prop where
  /-- However the call ends, the log of the host gains the messages of the log calls that succeed,
  in their order, as far as they pass the threshold. -/
  written : after.log.written = context.log.written ++
    context.log.delivers ((p.hostCalls c fuel name context).filterMap (·.message? c))
  /-- A call succeeds exactly if it comes to its end. -/
  success : (∃ v, answer = .ok (.success v)) ↔ p.Completes c fuel name context
  /-- The value is what was set last, in the start routine or in the routine. -/
  value : ∀ v, answer = .ok (.success v) →
    v = .ofResult ((p.hostCalls c fuel name context).filterMap (·.payload? c)).getLast?
  /-- Nothing is executed after a step that fails, and it changes nothing itself. The failure is all
  that the answer tells, whatever result was set before it. -/
  failed : ∀ before s rest f, p.steps c fuel name context = before ++ s :: rest →
    s.flow c = .failed f → rest = [] ∧
      { after with metrics := s.before.context.metrics } = s.before.context ∧
      (∃ phase, answer = .ok (f.outcome phase)) ∧ ∀ v, answer ≠ .ok (.success v)
  /-- Without a callable routine of the name there are only the steps of the start routine. -/
  missing : ∀ m, p.Reaches c fuel context m → p.callable? name = none →
    p.steps c fuel name context = p.startSteps c fuel context ∧
      answer = .ok (.recoverable { kind := .missingExport, message := p.missing name })

/-- The log after a call, and the value of one that succeeds, come from a context that its steps
have brought about. -/
theorem Ended.gains {budget : Nat} {answer : Except Unwinding RoutineOutcome}
    {after : CallContext} (ended : Ended p c budget name context answer after) :
    ∃ last, Gains c context (p.steps c (c.initialFuel budget) name context) last ∧
      after.log = last.log ∧ ∀ v, answer = .ok (.success v) → v = .ofResult last.result := by
  have started {flow : Flow} {m : Machine}
      (instantiated : p.instantiate c (c.initialFuel budget) context = (flow, m)) :
      Gains c context (p.startSteps c (c.initialFuel budget) context) m.context := by
    have gains := p.gains_instantiate c (c.initialFuel budget) context
    rwa [instantiated] at gains
  cases ended with
  | startUnwound u m instantiated =>
    rw [steps_of_unreached instantiated rfl]
    exact ⟨m.context, started instantiated, rfl, nofun⟩
  | startFailed f m instantiated =>
    rw [steps_of_unreached instantiated rfl]
    refine ⟨m.context, started instantiated, rfl, fun v same => ?_⟩
    exact absurd (Except.ok.inj same) (f.outcome_ne_success .instantiation v)
  | missing m reached absent =>
    rw [steps_of_missing absent]
    exact ⟨m.context, reached.gains, rfl, nofun⟩
  | unwound m last b u reached callable run =>
    exact ⟨last.context, reached.gains_enter callable run, rfl, nofun⟩
  | failed m last b f reached callable run =>
    refine ⟨last.context, reached.gains_enter callable run, rfl, fun v same => ?_⟩
    exact absurd (Except.ok.inj same) (f.outcome_ne_success .routine v)
  | returned m last b flow reached callable run ends =>
    refine ⟨last.context, reached.gains_enter callable run, rfl, fun v same => ?_⟩
    cases same
    rfl

/-- A call succeeds exactly if it comes to its end. -/
theorem execute_eq_success_iff (budget : Nat) :
    (∃ v, (p.execute c budget name context).1 = .ok (.success v)) ↔
      p.Completes c (c.initialFuel budget) name context := by
  constructor
  · rintro ⟨v, succeeded⟩
    have ended := p.ended_execute c budget name context
    rw [succeeded] at ended
    generalize (p.execute c budget name context).2 = after at ended
    generalize answered : Except.ok (RoutineOutcome.success v) = answer at ended
    cases ended with
    | startUnwound u m instantiated => cases answered
    | startFailed f m instantiated =>
      exact absurd (Except.ok.inj answered).symm (f.outcome_ne_success .instantiation v)
    | missing m reached absent => cases answered
    | unwound m last b u reached callable run => cases answered
    | failed m last b f reached callable run =>
      exact absurd (Except.ok.inj answered).symm (f.outcome_ne_success .routine v)
    | returned m last b flow reached callable run ends =>
      exact ⟨m, b, flow, last, reached, callable, run, ends⟩
  · rintro ⟨m, b, flow, last, reached, callable, run, ends⟩
    rw [execute_of_returned reached callable run ends]
    exact ⟨_, rfl⟩

/-- What is left of a call when a step of it fails. -/
theorem execute_of_failed_step {budget : Nat} {before rest : List Step} {s : Step} {f : Failure}
    (split : p.steps c (c.initialFuel budget) name context = before ++ s :: rest)
    (failed : s.flow c = .failed f) :
    ∃ phase, p.execute c budget name context =
      (.ok (f.outcome phase), (s.after c).finish (c.initialFuel budget)) := by
  rcases (last_of_failed split failed).2 with instantiated | ⟨m, b, reached, callable, run⟩
  · exact ⟨.instantiation, execute_of_startFailed instantiated name⟩
  · exact ⟨.routine, execute_of_failed reached callable run⟩

theorem accounted (p : Program) (c : Conditions) (budget : Nat) (name : String)
    (fresh : context.result = none) :
    p.Accounted c (c.initialFuel budget) name context (p.execute c budget name context).1
      (p.execute c budget name context).2 := by
  obtain ⟨last, gains, log, value⟩ := (p.ended_execute c budget name context).gains
  refine
    { written := ?_, success := execute_eq_success_iff budget, value := ?_, failed := ?_
      missing := ?_ }
  · rw [filterMap_hostCalls _ fun s => s.isHostCall_of_message?, log, gains.log]
    rfl
  · intro v succeeded
    rw [filterMap_hostCalls _ fun s => s.isHostCall_of_payload?, value v succeeded, gains.result,
      fresh, Option.or_none]
  · intro before s rest f split failed
    have stops : s.flow c ≠ .onward := by rw [failed]; exact nofun
    obtain ⟨phase, ended⟩ := execute_of_failed_step split failed
    rw [ended]
    refine ⟨(last_of_failed split failed).1, ?_, ⟨phase, rfl⟩, fun v same => ?_⟩
    · rw [← (s.after_of_stopped c stops).1]
      rfl
    · exact f.outcome_ne_success phase v (Except.ok.inj same)
  · intro m reached absent
    rw [execute_of_missing reached absent]
    exact ⟨steps_of_missing absent, rfl⟩

/-- **The effects of a call are those of its host calls.** A call begins with a context of its own.
The log of the host gains the messages of the host calls in its course, the value is the result set
last, and neither of them comes from anything behind a failure: code that stops runs the same
whatever code follows it. -/
theorem execute_accounted (p : Program) (c : Conditions) (budget : Nat) (name callId : String)
    (arguments : List (Option ByteArray)) (log : Log) :
    let context : CallContext := { callId, arguments, log }
    let ending := p.execute c budget name context
    p.Accounted c (c.initialFuel budget) name context ending.1 ending.2 ∧
    ∀ (b more : Body) (m : Machine), (b.run c m).1 ≠ .onward →
      (b.append more).run c m = b.run c m ∧ (b.append more).steps c m = b.steps c m := by
  intro context ending
  refine ⟨p.accounted c budget name rfl, fun b more m stops => ⟨?_, ?_⟩⟩
  · rw [Body.run_append, andThen_of_stopped stops]
  · rw [Body.steps_append, andThen_of_stopped stops, List.append_nil]

end Program

end GuestRoutines
