import GuestRoutines.Embedding.Scripted
import GuestRoutines.Proofs.Embedding.Classification
import Mathlib.Data.List.Induction

/-!
# Every answer is counted once

The counts of a bridge are kept where a call ends, and they are told apart by what the host is told:
a value, an error after which it goes on, or an error after which it must exit. A call that unwinds
tells the host nothing and is not counted. So the counts of any run are those of the answers that
were given in it.

## Main definitions

* `CallAnswer` — what the host is told of a call
* `CallCounts.answered`, `CallCounts.tally` — the counts with one more answer, and those of a list
* `Bridge.answers` — what the host is told in a run
* `Embedder.Refuses` — a call is refused before any routine is looked up

## Main results

* `CallCounts.record_eq_answered` — counting by the outcome is counting by the answer
* `Bridge.counts_perform`, `Bridge.counts_performAll` — one operation, and a run
* `Bridge.counts_conserved` — all of it, for every run
-/

namespace GuestRoutines

/-- What the host is told of a call. -/
abbrev CallAnswer := Except HostError HostValue

namespace CallAnswer

/-- The host is told of a value. -/
def isValue : CallAnswer → Bool
  | .ok _ => true
  | .error _ => false

/-- The host is told of an error after which it goes on. -/
def isRecoverable : CallAnswer → Bool
  | .ok _ => false
  | .error error => !error.isFatal

/-- The host is told of an error after which it must exit. -/
def isFatal : CallAnswer → Bool
  | .ok _ => false
  | .error error => error.isFatal

end CallAnswer

/-! ### Counts of answers -/

namespace HostError

theorem isFatal_ofCallError (error : CallError) : (ofCallError error).isFatal = false := rfl

theorem isFatal_ofFault (fault : NativeFault) : (ofFault fault).isFatal = true := rfl

end HostError

namespace CallCounts

/-- The counts with one more answer. -/
def answered (c : CallCounts) : CallAnswer → CallCounts
  | .ok _ => { c with calls := c.calls + 1, successes := c.successes + 1 }
  | .error error =>
    if error.isFatal then { c with calls := c.calls + 1, fatal := c.fatal + 1 }
    else { c with calls := c.calls + 1, recoverable := c.recoverable + 1 }

/-- The counts of some answers. -/
def tally (answers : List CallAnswer) : CallCounts where
  calls := answers.length
  successes := answers.countP CallAnswer.isValue
  recoverable := answers.countP CallAnswer.isRecoverable
  fatal := answers.countP CallAnswer.isFatal

/-- Every count belongs to one way in which calls end. -/
def AddsUp (c : CallCounts) : Prop := c.calls = c.successes + c.recoverable + c.fatal

/-- The bridge counts by the outcome of the call, and it might as well count by what the host is
told. -/
theorem record_eq_answered (c : CallCounts) (outcome : CallOutcome) :
    c.record outcome = c.answered (HostError.ofOutcome outcome) := by
  cases outcome with
  | success v => rfl
  | recoverable error => simp [record, answered, HostError.ofOutcome, HostError.isFatal_ofCallError]
  | fatal fault => simp [record, answered, HostError.ofOutcome, HostError.isFatal_ofFault]

theorem tally_concat (answers : List CallAnswer) (answer : CallAnswer) :
    tally (answers ++ [answer]) = (tally answers).answered answer := by
  cases answer with
  | ok v =>
    simp [tally, answered, CallAnswer.isValue, CallAnswer.isRecoverable, CallAnswer.isFatal]
  | error error =>
    cases fatal : error.isFatal <;>
      simp [tally, answered, CallAnswer.isValue, CallAnswer.isRecoverable, CallAnswer.isFatal,
        fatal]

theorem AddsUp.answered {c : CallCounts} (h : c.AddsUp) (answer : CallAnswer) :
    (c.answered answer).AddsUp := by
  unfold AddsUp at *
  cases answer with
  | ok v =>
    simp only [CallCounts.answered]
    omega
  | error error =>
    simp only [CallCounts.answered]
    split
    · dsimp only
      omega
    · dsimp only
      omega

/-- The answers of the three kinds are all answers. -/
theorem addsUp_tally (answers : List CallAnswer) : (tally answers).AddsUp := by
  -- The answers are counted one after the other, so the last one is taken off.
  induction answers using List.reverseRecOn with
  | nil => rfl
  | append_singleton answers answer ih =>
    rw [tally_concat]
    exact ih.answered answer

end CallCounts

/-! ### Refusals -/

namespace Embedder

variable {ρ : Type} {L : Launcher ρ} {routine : String} {e : Embedder ρ}

/-- A call is refused before any routine is looked up. -/
inductive Refuses (L : Launcher ρ) (routine : String) (e : Embedder ρ) : Prop where
  | unstarted (error : StartupError) (h : (e.ensureReady L).1 = .ok (.error error))
  | malformed (started : (e.ensureReady L).1 = .ok (.ok ()))
      (unread : RoutineId.parse routine = none)
  | tornDown (h : e.lifecycle.state = .shuttingDown)

/-- A refusal is an ending of its own, and the host goes on after it. -/
theorem Refuses.exists_ends (refuses : e.Refuses L routine) (arguments : List HostValue) :
    ∃ ending error, e.Ends L routine arguments ending ∧
      ending.report routine = .error error ∧ error.isFatal = false := by
  cases refuses with
  | unstarted error h => exact ⟨.unstarted error, _, h, rfl, rfl⟩
  | malformed started unread => exact ⟨.malformed, _, ⟨started, unread⟩, rfl, rfl⟩
  | tornDown h => exact ⟨.unstarted .shutDown, _, ensureReady_of_shuttingDown L h, rfl, rfl⟩

end Embedder

/-! ### Runs -/

namespace Bridge

variable {ρ : Type}

/-- The operation is a call. -/
def Operation.isCall : Operation → Bool
  | .call _ _ => true
  | _ => false

/-- What the host is told by an operation, if that is a call and returns. -/
def answer? (L : Launcher ρ) (b : Bridge ρ) : Operation → Option CallAnswer
  | .call routine arguments => (b.call L routine arguments).1.toOption
  | _ => none

/-- What the host is told by the calls of a run, in order. -/
def answers (L : Launcher ρ) (b : Bridge ρ) : List Operation → List CallAnswer
  | [] => []
  | op :: ops => (b.answer? L op).toList ++ (b.perform L op).answers L ops

theorem counts_call_of_returns {L : Launcher ρ} {b : Bridge ρ} {routine : String}
    {arguments : List HostValue} {answer : CallAnswer}
    (returned : (b.call L routine arguments).1 = .ok answer) :
    (b.call L routine arguments).2.counts = b.counts.answered answer := by
  rw [call_fst] at returned
  rcases ending : b.embedder.dispatch L routine arguments with ⟨u | outcome, after⟩
  · rw [ending] at returned
    cases returned
  · rw [ending] at returned
    have told : HostError.ofOutcome outcome = answer := Except.ok.inj returned
    simp only [call, CallCounts.invoke, ending, CallCounts.record_eq_answered, told]

theorem counts_call_of_unwinds {L : Launcher ρ} {b : Bridge ρ} {routine : String}
    {arguments : List HostValue} {u : Unwinding}
    (unwound : (b.call L routine arguments).1 = .error u) :
    (b.call L routine arguments).2.counts = b.counts := by
  rw [call_fst] at unwound
  rcases ending : b.embedder.dispatch L routine arguments with ⟨u | outcome, after⟩
  · simp only [call, CallCounts.invoke, ending]
  · rw [ending] at unwound
    cases unwound

theorem counts_perform_of_not_isCall (L : Launcher ρ) (b : Bridge ρ) {op : Operation}
    (other : op.isCall = false) : (b.perform L op).counts = b.counts := by
  cases op with
  | call routine arguments => cases other
  | setTrust trusted =>
    simp only [perform, setTrust]
    split <;> rfl
  | shutdown => rfl
  | embedder op => rfl

theorem answer?_of_not_isCall (L : Launcher ρ) (b : Bridge ρ) {op : Operation}
    (other : op.isCall = false) : b.answer? L op = none := by
  cases op with
  | call routine arguments => cases other
  | setTrust trusted => rfl
  | shutdown => rfl
  | embedder op => rfl

/-- An operation adds its answer to those that have been counted. -/
theorem counts_perform (L : Launcher ρ) {b : Bridge ρ} {told : List CallAnswer}
    (h : b.counts = .tally told) (op : Operation) :
    (b.perform L op).counts = .tally (told ++ (b.answer? L op).toList) := by
  cases called : op.isCall with
  | false =>
    rw [counts_perform_of_not_isCall L b called, answer?_of_not_isCall L b called, h]
    simp
  | true =>
    cases op with
    | call routine arguments =>
      simp only [perform, answer?]
      cases ending : (b.call L routine arguments).1 with
      | error u =>
        rw [counts_call_of_unwinds ending, h]
        simp [Except.toOption]
      | ok answer =>
        rw [counts_call_of_returns ending, h, ← CallCounts.tally_concat]
        rfl
    | _ => cases called

/-- A run adds its answers. -/
theorem counts_performAll (L : Launcher ρ) {b : Bridge ρ} {told : List CallAnswer}
    (h : b.counts = .tally told) (ops : List Operation) :
    (b.performAll L ops).counts = .tally (told ++ b.answers L ops) := by
  -- What the host has been told before the run grows with each of its operations.
  induction ops generalizing b told with
  | nil => simpa [answers] using h
  | cons op ops ih =>
    rw [performAll_cons, ih (counts_perform L h op), answers, List.append_assoc]

/-- There are no more answers than calls. -/
theorem length_answers_le (L : Launcher ρ) (b : Bridge ρ) (ops : List Operation) :
    (b.answers L ops).length ≤ ops.countP Operation.isCall := by
  induction ops generalizing b with
  | nil => exact Nat.le_refl 0
  | cons op ops ih =>
    rw [answers, List.length_append, List.countP_cons, Nat.add_comm]
    refine Nat.add_le_add (ih (b.perform L op)) ?_
    cases called : op.isCall with
    | false => simp [answer?_of_not_isCall L b called]
    | true =>
      -- A call that unwinds has no answer.
      cases b.answer? L op <;> simp

theorem call_of_refuses {L : Launcher ρ} {b : Bridge ρ} {routine : String}
    (refuses : b.embedder.Refuses L routine) (arguments : List HostValue) :
    ∃ error, (b.call L routine arguments).1 = .ok (.error error) ∧ error.isFatal = false ∧
      (b.call L routine arguments).2.counts = { b.counts with
        calls := b.counts.calls + 1
        recoverable := b.counts.recoverable + 1 } := by
  obtain ⟨ending, error, ends, reported, going⟩ := refuses.exists_ends arguments
  have answered : (b.call L routine arguments).1 = .ok (.error error) := by
    rw [call_fst, ends.report_eq, reported]
  refine ⟨error, answered, going, ?_⟩
  rw [counts_call_of_returns answered]
  simp [CallCounts.answered, going]

/-- **The counts are conserved.** Whatever is done with a bridge, and whatever its launcher and its
runtime do, the counts add up and are those of the answers that the host was given. No count is
larger than the number of calls, so that counters of 64 bits hold them for fewer than `2 ^ 64`
calls. -/
theorem counts_conserved (L : Launcher ρ) (settings : Settings.Store) (host : Host)
    (ops : List Operation) :
    let fresh : Bridge ρ := new settings host
    let b := fresh.performAll L ops
    b.counts.calls = b.counts.successes + b.counts.recoverable + b.counts.fatal ∧
    b.counts = .tally (fresh.answers L ops) ∧
    b.counts.calls ≤ ops.countP Operation.isCall ∧
    -- A call that returns adds one to the calls, and one to the counter of what the host is told.
    (∀ routine arguments,
      let after := (b.call L routine arguments).2.counts
      (∀ v, (b.call L routine arguments).1 = .ok (.ok v) →
        after = { b.counts with
          calls := b.counts.calls + 1, successes := b.counts.successes + 1 }) ∧
      (∀ error, (b.call L routine arguments).1 = .ok (.error error) → error.isFatal = false →
        after = { b.counts with
          calls := b.counts.calls + 1, recoverable := b.counts.recoverable + 1 }) ∧
      (∀ error, (b.call L routine arguments).1 = .ok (.error error) → error.isFatal = true →
        after = { b.counts with calls := b.counts.calls + 1, fatal := b.counts.fatal + 1 }) ∧
      -- A call that is refused returns all the same, with an error after which the host goes on.
      (b.embedder.Refuses L routine →
        ∃ error, (b.call L routine arguments).1 = .ok (.error error) ∧ error.isFatal = false ∧
          after = { b.counts with
            calls := b.counts.calls + 1, recoverable := b.counts.recoverable + 1 }) ∧
      -- A call that unwinds adds nothing.
      (∀ u, (b.call L routine arguments).1 = .error u → after = b.counts)) ∧
    -- Neither does anything that is no call.
    (∀ op, op.isCall = false → (b.perform L op).counts = b.counts) := by
  intro fresh b
  have none : fresh.counts = .tally [] := rfl
  have counted : b.counts = .tally (fresh.answers L ops) := counts_performAll L none ops
  have addsUp : b.counts.AddsUp := counted ▸ CallCounts.addsUp_tally (fresh.answers L ops)
  have bounded : b.counts.calls ≤ ops.countP Operation.isCall := by
    rw [counted]
    exact length_answers_le L fresh ops
  refine ⟨addsUp, counted, bounded, fun routine arguments => ⟨fun v returned => ?_,
    fun error returned going => ?_, fun error returned fatal => ?_,
    fun refuses => call_of_refuses refuses arguments, fun u unwound =>
    counts_call_of_unwinds unwound⟩, fun op other => counts_perform_of_not_isCall L b other⟩
  · exact counts_call_of_returns returned
  · exact (counts_call_of_returns returned).trans (by simp [CallCounts.answered, going])
  · exact (counts_call_of_returns returned).trans (by simp [CallCounts.answered, fatal])

/-- A call that unwinds is not counted. One that is refused is counted, be it for its identifier or
because it comes after the shutdown. -/
example :
    let L := Script.launcher
      { routines := [("m.echo", { ending := .echo 0 }), ("m.stop", { ending := .unwinds "stop" })] }
    let b := (new (.ofTable (.ofList [("plwasm.module_path", "p")])) {}).performAll L
      [.call "m.echo" [], .call "m.stop" [], .call "no routine" [], .shutdown, .call "m.echo" []]
    b.counts = ⟨3, 1, 2, 0⟩ := rfl

end Bridge

end GuestRoutines
