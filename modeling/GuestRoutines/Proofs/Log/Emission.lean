import GuestRoutines.Log.Basic

/-!
# Offering a message to the log

A log can be asked whether it would write a message, and it can be offered one. The two compare the
severity with the threshold each in its own way, and they agree.

## Main results

* `Log.emit_of_disabled`, `Log.emit_of_refused`, `Log.emit_of_accepted` — what becomes of a message
* `Log.emit_eq` — a message is offered in vain exactly if the log would not write it
-/

namespace GuestRoutines.Log

variable {g : Log} {l : ManagedLevel} {message : String}

theorem isEnabled_iff : g.isEnabled l ↔ g.threshold ≤ g.levels.managedToCommon l :=
  decide_eq_true_iff

/-- The log would write a message unless its severity is below the threshold. -/
theorem isEnabled_eq_false_iff :
    g.isEnabled l = false ↔
      Scale.position (g.levels.managedToCommon l) < Scale.position g.threshold := by
  rw [← Bool.not_eq_true, isEnabled_iff]
  exact Nat.not_le

theorem emit_of_disabled (disabled : g.isEnabled l = false) :
    g.emit l message = (.ok false, g) := by
  have below := isEnabled_eq_false_iff.mp disabled
  simp only [emit, if_pos below]

theorem emit_of_refused {text : String} (enabled : g.isEnabled l)
    (refused : g.refusal message = some text) : g.emit l message = (.error ⟨text⟩, g) := by
  have reached : ¬ Scale.position (g.levels.managedToCommon l) < Scale.position g.threshold :=
    Nat.not_lt.mpr (isEnabled_iff.mp enabled)
  simp only [emit, if_neg reached, refused]

theorem emit_of_accepted (enabled : g.isEnabled l) (accepted : g.refusal message = none) :
    g.emit l message =
      (.ok true, { g with written := g.written ++ [(g.levels.hostLevel l, message)] }) := by
  have reached : ¬ Scale.position (g.levels.managedToCommon l) < Scale.position g.threshold :=
    Nat.not_lt.mpr (isEnabled_iff.mp enabled)
  simp only [emit, if_neg reached, accepted]
  rfl

/-- What becomes of a message, by whether the log would write it. -/
theorem emit_eq (g : Log) (l : ManagedLevel) (message : String) :
    g.emit l message =
      if g.isEnabled l then
        match g.refusal message with
        | some text => (.error ⟨text⟩, g)
        | none => (.ok true, { g with written := g.written ++ [(g.levels.hostLevel l, message)] })
      else (.ok false, g) := by
  by_cases enabled : g.isEnabled l
  · rw [if_pos enabled]
    cases refused : g.refusal message with
    | some text => exact emit_of_refused enabled refused
    | none => exact emit_of_accepted enabled refused
  · rw [if_neg enabled]
    exact emit_of_disabled (Bool.eq_false_iff.mpr enabled)

/-- A message is dropped below the threshold, refused, or written. -/
theorem emit_cases (g : Log) (l : ManagedLevel) (message : String) :
    (g.isEnabled l = false ∧ g.emit l message = (.ok false, g)) ∨
    (∃ text, g.isEnabled l = true ∧ g.refusal message = some text ∧
      g.emit l message = (.error ⟨text⟩, g)) ∨
    (g.isEnabled l = true ∧ g.refusal message = none ∧
      g.emit l message =
        (.ok true, { g with written := g.written ++ [(g.levels.hostLevel l, message)] })) := by
  cases enabled : g.isEnabled l with
  | false => exact .inl ⟨rfl, emit_of_disabled enabled⟩
  | true =>
    cases refused : g.refusal message with
    | some text => exact .inr (.inl ⟨text, rfl, rfl, emit_of_refused enabled refused⟩)
    | none => exact .inr (.inr ⟨rfl, rfl, emit_of_accepted enabled refused⟩)

end GuestRoutines.Log
