import GuestRoutines.Call.Convention
import GuestRoutines.Proofs.Level.Safety
import GuestRoutines.Proofs.Log.Emission

/-!
# Filtering over whole runs

The threshold of a log is replaced again and again while guests ask and log. What is written is told
from the answers that the operations gave, and the answers from the thresholds that were installed.

## Main definitions

* `LogOperation`, `LogAnswer` — what is done with a log and a context that logs to it
* `CallContext.perform`, `CallContext.performAll` — one operation, and a run
* `CallContext.transcript` — the operations of a run with the answers they got
* `LogOperation.inForce` — the threshold that a run leaves in force

## Main results

* `CallContext.log_perform`, `CallContext.log_performAll`, `CallContext.records_performAll` — what
  an operation and a run leave
* `Log.bounds_of_isEnabled` — how severe a message is that passes the threshold
* `CallContext.filtering_exact` — all of it, for every mapping and every run
-/

namespace GuestRoutines

open Scale

/-- What is done with the log of a host, and with the context of a call that logs to it. -/
inductive LogOperation where
  | setThreshold (s : Severity)
  | setHostThreshold (l : HostLevel)
  /-- The host is asked whether it would write a message. -/
  | ask (l : ManagedLevel)
  /-- A guest asks, and names the level by number. -/
  | askCode (code : Int32)
  /-- A message is offered to the log, past the records of the call. -/
  | emit (l : ManagedLevel) (message : String)
  /-- A message of the routine is recorded, and offered to the log. -/
  | record (l : ManagedLevel) (message : String)
  deriving DecidableEq

/-- What an operation on a log answers. -/
inductive LogAnswer where
  /-- The threshold that was in force before. -/
  | threshold (before : Severity)
  | enabled (answer : Bool)
  | word (answer : Int32)
  /-- Whether the message was written, unless the host refused it. -/
  | offered (written : Except Unwinding Bool)

namespace LogOperation

/-- The threshold that an operation installs. -/
def installs? (t : LevelMapping) : LogOperation → Option Severity
  | setThreshold s => some s
  | setHostThreshold l => some (t.hostToCommon l)
  | _ => none

/-- The message that an operation offers to the log. -/
def offers? : LogOperation → Option (ManagedLevel × String)
  | emit l message | record l message => some (l, message)
  | _ => none

/-- The message that an operation records with the call. -/
def records? : LogOperation → Option (ManagedLevel × String)
  | record l message => some (l, message)
  | _ => none

/-- The threshold in force after some operations: the one that was installed last. -/
def inForce (t : LevelMapping) (first : Severity) (ops : List LogOperation) : Severity :=
  ops.foldl (fun s op => (op.installs? t).getD s) first

/-- The entry that an operation with its answer leaves in the log of the host. -/
def sent? (t : LevelMapping) : LogOperation × LogAnswer → Option (HostLevel × String)
  | (emit l message, .offered (.ok true)) | (record l message, .offered (.ok true)) =>
    some (t.hostLevel l, message)
  | _ => none

/-- The entry that an operation with its answer leaves in the records of the call. -/
def recorded? : LogOperation × LogAnswer → Option LogRecord
  | (record l message, .offered (.ok forwarded)) => some ⟨l, message, forwarded⟩
  | _ => none

end LogOperation

/-- A message that passes the threshold is written at a host level that reaches it: read back on the
common scale, and against the host level that the threshold was taken from. -/
theorem Log.bounds_of_isEnabled {g : Log} {l : ManagedLevel} (enabled : g.isEnabled l) :
    g.threshold ≤ g.levels.hostToCommon (g.levels.hostLevel l) ∧
      ∀ m, g.threshold = g.levels.hostToCommon m →
        min (rank m) (rank HostLevel.fatal) ≤ rank (g.levels.hostLevel l) := by
  have reached : g.threshold ≤ g.levels.managedToCommon l := isEnabled_iff.mp enabled
  refine ⟨?_, ?_⟩
  · exact Nat.le_trans reached (g.levels.le_hostToCommon_commonToHost _)
  · intro m taken
    calc min (rank m) (rank HostLevel.fatal)
        ≤ rank g.threshold := by
          rw [taken]
          exact g.levels.rank_hostToCommon m
      _ ≤ rank (g.levels.managedToCommon l) := Severity.le_iff_rank.mp reached
      _ ≤ rank (g.levels.hostLevel l) := g.levels.rank_commonToHost _

namespace CallContext

open LogOperation

/-- One operation on a context and its log, with its answer. -/
def perform (c : CallContext) : LogOperation → LogAnswer × CallContext
  | .setThreshold s =>
    let (before, c) := c.setThreshold s
    (.threshold before, c)
  | .setHostThreshold l =>
    let (before, log) := c.log.setHostThreshold l
    (.threshold before, { c with log })
  | .ask l => (.enabled (c.log.isEnabled l), c)
  | .askCode code => (.word (Convention.logEnabled c code), c)
  | .emit l message =>
    let (written, log) := c.log.emit l message
    (.offered written, { c with log })
  | .record l message =>
    let (written, c) := c.record l message
    (.offered written, c)

/-- A run of operations. -/
def performAll (c : CallContext) (ops : List LogOperation) : CallContext :=
  ops.foldl (fun c op => (c.perform op).2) c

/-- The operations of a run, each with the answer it got. -/
def transcript (c : CallContext) : List LogOperation → List (LogOperation × LogAnswer)
  | [] => []
  | op :: ops => (op, (c.perform op).1) :: (c.perform op).2.transcript ops

variable (c : CallContext)

@[simp] theorem performAll_cons (op : LogOperation) (ops : List LogOperation) :
    c.performAll (op :: ops) = (c.perform op).2.performAll ops := rfl

@[simp] theorem transcript_cons (op : LogOperation) (ops : List LogOperation) :
    c.transcript (op :: ops) = (op, (c.perform op).1) :: (c.perform op).2.transcript ops := rfl

theorem transcript_concat (ops : List LogOperation) (op : LogOperation) :
    c.transcript (ops ++ [op]) = c.transcript ops ++ [(op, ((c.performAll ops).perform op).1)] := by
  induction ops generalizing c with
  | nil => rfl
  | cons first ops ih => rw [List.cons_append, transcript_cons, ih, transcript_cons]; rfl

/-! ### One operation -/

/-- A message that is recorded is offered, and recorded unless the host refuses it. -/
theorem record_eq (l : ManagedLevel) (message : String) :
    c.record l message = ((c.log.emit l message).1, { c with
      log := (c.log.emit l message).2
      records := c.records ++
        (recorded? (.record l message, .offered (c.log.emit l message).1)).toList }) := by
  rcases emitted : c.log.emit l message with ⟨_ | forwarded, log⟩
  · simp [record, emitted, recorded?]
  · simp [record, emitted, recorded?]

/-- An operation that offers a message answers what the log does. -/
theorem perform_of_offers {op : LogOperation} {l : ManagedLevel} {message : String}
    (offers : op.offers? = some (l, message)) :
    (c.perform op).1 = .offered (c.log.emit l message).1 ∧
      (c.perform op).2.log = (c.log.emit l message).2 := by
  cases op <;> cases offers
  · exact ⟨rfl, rfl⟩
  · rw [perform, record_eq]
    exact ⟨rfl, rfl⟩

/-- An offered message is in the log exactly if the answer says so. -/
theorem sent?_of_offers {t : LevelMapping} {op : LogOperation} {l : ManagedLevel}
    {message : String} (offers : op.offers? = some (l, message)) (answer : Except Unwinding Bool) :
    sent? t (op, .offered answer) =
      match answer with
      | .ok true => some (t.hostLevel l, message)
      | _ => none := by
  cases op <;> cases offers <;> rcases answer with _ | _ | _ <;> rfl

theorem log_perform_of_offers (op : LogOperation) {l : ManagedLevel} {message : String}
    (offers : op.offers? = some (l, message)) :
    (c.perform op).2.log = { c.log with
      written := c.log.written ++ (sent? c.log.levels (op, (c.perform op).1)).toList } := by
  obtain ⟨answer, log⟩ := c.perform_of_offers offers
  rw [answer, log, sent?_of_offers offers]
  rcases c.log.emit_cases l message with ⟨-, emitted⟩ | ⟨text, -, -, emitted⟩ | ⟨-, -, emitted⟩ <;>
    simp [emitted]

/-- Of the log, an operation replaces the threshold and adds an entry, and nothing else. -/
theorem log_perform (op : LogOperation) :
    (c.perform op).2.log = { c.log with
      threshold := (op.installs? c.log.levels).getD c.log.threshold
      written := c.log.written ++ (sent? c.log.levels (op, (c.perform op).1)).toList } := by
  cases op with
  | setThreshold s => simp [perform, CallContext.setThreshold, Log.setThreshold, sent?, installs?]
  | setHostThreshold l =>
    simp [perform, Log.setHostThreshold, Log.setThreshold, sent?, installs?]
  | ask l => simp [perform, sent?, installs?]
  | askCode code => simp [perform, sent?, installs?]
  | emit l message => exact c.log_perform_of_offers (.emit l message) rfl
  | record l message => exact c.log_perform_of_offers (.record l message) rfl

theorem records_perform (op : LogOperation) :
    (c.perform op).2.records = c.records ++ (recorded? (op, (c.perform op).1)).toList := by
  cases op with
  | record l message =>
    rw [perform, record_eq]
  | setThreshold s => simp [perform, CallContext.setThreshold, recorded?]
  | setHostThreshold l => simp [perform, recorded?]
  | ask l => simp [perform, recorded?]
  | askCode code => simp [perform, recorded?]
  | emit l message => simp [perform, recorded?]

/-- An offered message is answered with whether the log would have written it, and only the host's
refusal leaves it without an answer. -/
theorem answer_of_offers (op : LogOperation) {l : ManagedLevel} {message : String}
    (offers : op.offers? = some (l, message)) :
    (c.log.refusal message = none → (c.perform op).1 = .offered (.ok (c.log.isEnabled l))) ∧
      ∀ written, (c.perform op).1 = .offered (.ok written) → written = c.log.isEnabled l := by
  rw [(c.perform_of_offers offers).1]
  rcases c.log.emit_cases l message with
    ⟨disabled, emitted⟩ | ⟨text, enabled, refused, emitted⟩ | ⟨enabled, accepted, emitted⟩
  · rw [emitted, disabled]
    exact ⟨fun _ => rfl, by rintro _ ⟨⟩; rfl⟩
  · rw [emitted, refused]
    exact ⟨nofun, nofun⟩
  · rw [emitted, enabled]
    exact ⟨fun _ => rfl, by rintro _ ⟨⟩; rfl⟩

/-- A guest that names a level by number is told what the host would be told. -/
theorem logEnabled_eq_one_iff (code : Int32) :
    Convention.logEnabled c code = 1 ↔ c.log.isEnabled (.ofCode code.toInt) = true := by
  unfold Convention.logEnabled
  split
  · next enabled => simp [enabled]
  · next disabled => simp [disabled]

/-! ### Runs -/

theorem log_performAll (ops : List LogOperation) :
    (c.performAll ops).log = { c.log with
      threshold := inForce c.log.levels c.log.threshold ops
      written := c.log.written ++ (c.transcript ops).filterMap (sent? c.log.levels) } := by
  induction ops generalizing c with
  | nil => simp [performAll, transcript, inForce]
  | cons op ops ih =>
    have step := c.log_perform op
    rw [performAll_cons, ih, step, transcript_cons]
    simp only [inForce, List.foldl_cons, Log.mk.injEq, true_and]
    cases left : sent? c.log.levels (op, (c.perform op).1) <;> simp [left]

theorem records_performAll (ops : List LogOperation) :
    (c.performAll ops).records = c.records ++ (c.transcript ops).filterMap recorded? := by
  induction ops generalizing c with
  | nil => simp [performAll, transcript]
  | cons op ops ih =>
    rw [performAll_cons, ih, records_perform, transcript_cons]
    cases left : recorded? (op, (c.perform op).1) <;> simp [left]

/-- Where the host refuses nothing, every message of the routine is recorded. -/
theorem records_performAll_of_accepting (accepts : ∀ message, c.log.refusal message = none)
    (ops : List LogOperation) :
    (c.performAll ops).records.map (fun r => (r.level, r.message)) =
      c.records.map (fun r => (r.level, r.message)) ++ ops.filterMap records? := by
  induction ops generalizing c with
  | nil => simp [performAll]
  | cons op ops ih =>
    have same : (c.perform op).2.log.refusal = c.log.refusal := by rw [log_perform]
    have left : (recorded? (op, (c.perform op).1)).map (fun r => (r.level, r.message)) =
        op.records? := by
      cases op with
      | record l message =>
        rw [(c.answer_of_offers (.record l message) rfl).1 (accepts message)]
        rfl
      | _ => rfl
    rw [performAll_cons, ih _ (by simpa [same] using accepts), records_perform, List.filterMap_cons,
      ← left]
    cases recorded? (op, (c.perform op).1) <;> simp

/-- **Filtering is exact over whole runs.** For every mapping of levels and every sequence of
operations: the log of the host and the records of the call hold what the answers say, in order, and
every answer is the one that the thresholds installed so far give. -/
theorem filtering_exact (c : CallContext) (ops : List LogOperation) :
    let t := c.log.levels
    let after := c.performAll ops
    let threshold := inForce t c.log.threshold ops
    -- The run: the threshold installed last is in force, the log holds exactly the messages that
    -- were answered as written, and the records every message of the routine with its answer.
    after.log.threshold = threshold ∧ after.log.levels = t ∧
    after.log.written = c.log.written ++ (c.transcript ops).filterMap (sent? t) ∧
    after.records = c.records ++ (c.transcript ops).filterMap recorded? ∧
    ((∀ message, c.log.refusal message = none) →
      after.records.map (fun r => (r.level, r.message)) =
        c.records.map (fun r => (r.level, r.message)) ++ ops.filterMap records?) ∧
    -- The next operation is put down with its answer, and what was put down stays.
    (∀ op, c.transcript (ops ++ [op]) = c.transcript ops ++ [(op, (after.perform op).1)]) ∧
    -- Replacing the threshold tells the one that was in force.
    (∀ s, (after.perform (.setThreshold s)).1 = .threshold threshold) ∧
    (∀ m, (after.perform (.setHostThreshold m)).1 = .threshold threshold) ∧
    -- Asking compares with it and changes nothing, whether the host asks or a guest by number.
    (∀ l, after.perform (.ask l) = (.enabled (decide (threshold ≤ t.managedToCommon l)), after)) ∧
    (∀ code, after.perform (.askCode code) =
      (.word (if threshold ≤ t.managedToCommon (.ofCode code.toInt) then 1 else 0), after)) ∧
    ∀ op l message, op.offers? = some (l, message) →
      -- A message is answered unless the host refuses it, with what asking would have answered.
      (c.log.refusal message = none → ∃ written, (after.perform op).1 = .offered (.ok written)) ∧
      ∀ written, (after.perform op).1 = .offered (.ok written) →
        (after.perform (.ask l)).1 = .enabled written ∧
        (∀ code : Int32, .ofCode code.toInt = l →
          (written = true ↔ (after.perform (.askCode code)).1 = .word 1)) ∧
        -- What is written is as severe as the threshold demands, on either scale.
        (written = true → threshold ≤ t.hostToCommon (t.hostLevel l) ∧
          ∀ m, threshold = t.hostToCommon m →
            min (rank m) (rank HostLevel.fatal) ≤ rank (t.hostLevel l)) := by
  intro t after threshold
  have log_eq : after.log = { c.log with
      threshold := threshold
      written := c.log.written ++ (c.transcript ops).filterMap (sent? t) } := c.log_performAll ops
  have threshold_eq : after.log.threshold = threshold := by rw [log_eq]
  have levels_eq : after.log.levels = t := by rw [log_eq]
  have asked (l : ManagedLevel) :
      after.log.isEnabled l = decide (threshold ≤ t.managedToCommon l) := by
    rw [Log.isEnabled, threshold_eq, levels_eq]
  have askedByCode (code : Int32) : Convention.logEnabled after code =
      if threshold ≤ t.managedToCommon (.ofCode code.toInt) then 1 else 0 := by
    simp only [Convention.logEnabled, asked, decide_eq_true_eq]
  refine ⟨threshold_eq, levels_eq, by rw [log_eq], c.records_performAll ops,
    fun accepts => c.records_performAll_of_accepting accepts ops, c.transcript_concat ops,
    fun s => ?_, fun m => ?_, fun l => ?_, fun code => ?_, ?_⟩
  · rw [← threshold_eq]
    rfl
  · rw [← threshold_eq]
    rfl
  · rw [← asked]
    rfl
  · rw [← askedByCode]
    rfl
  · intro op l message offers
    obtain ⟨answered, told⟩ := after.answer_of_offers _ offers
    have refusal_eq : after.log.refusal = c.log.refusal := by rw [log_eq]
    refine ⟨fun accepted => ⟨_, answered (by rw [refusal_eq, accepted])⟩, ?_⟩
    intro written answer
    have agrees : written = after.log.isEnabled l := told written answer
    refine ⟨?_, ?_, ?_⟩
    · rw [agrees]
      rfl
    · rintro code rfl
      rw [agrees, ← logEnabled_eq_one_iff]
      simp [perform]
    · intro passed
      have enabled : after.log.isEnabled l = true := agrees.symm.trans passed
      simpa only [threshold_eq, levels_eq] using Log.bounds_of_isEnabled enabled

end CallContext

end GuestRoutines
