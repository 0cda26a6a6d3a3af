import GuestRoutines.Settings.Value

/-!
# What a store says

A setting has a type of values and a way to read them from a raw text. Of the layers of a store only
the first that has the name counts, and what it has is read or refused: neither a default nor a
lower layer stands in for a text that cannot be read.

## Main definitions

* `Settings.Key.Value`, `Settings.Key.parse`, `Settings.Key.default?` — values, how a text denotes
  them, and the value of a setting that is not stored
* `Settings.Key.readingOrder` — the order in which startup reads
* `Settings.Store.Says` — the value of a setting in a store
* `Settings.Store.value` — the value, or why there is none

## Main results

* `Settings.Store.lookup?_eq_some_iff` — the first layer that has a name decides
* `Settings.Store.value_eq_ok_iff`, `Settings.Store.value_eq_error_iff` — the two ways it may end
* `Settings.Store.readOr_eq_value`, `Settings.Store.require_eq_value` — readings with a key
-/

namespace GuestRoutines

namespace Settings

/-! ### Keys and their values -/

namespace Key

/-- What a setting may say. -/
@[reducible] def Value : Key → Type
  | modulePath => List String
  | logMinMessages => HostLevel
  | maxFuel | timeoutMs => UInt64
  | maxMemoryMb | maxInstances => UInt32
  | fuelMetering | poolingAllocator | epochInterruption => Bool

/-- What a setting says that no layer has; the module path has no default. -/
def default? : (k : Key) → Option k.Value
  | modulePath => none
  | logMinMessages => some HostLevel.warning
  | maxFuel => some (10000000 : UInt64)
  | fuelMetering => some true
  | timeoutMs => some (1000 : UInt64)
  | maxMemoryMb => some (128 : UInt32)
  | poolingAllocator => some false
  | maxInstances => some (16 : UInt32)
  | epochInterruption => some true

/-- The order in which startup reads the settings. -/
def readingOrder : List Key :=
  [modulePath, logMinMessages, poolingAllocator, maxInstances, epochInterruption, maxFuel,
    timeoutMs, maxMemoryMb, fuelMetering]

theorem mem_readingOrder (k : Key) : k ∈ readingOrder := by
  cases k <;> decide

end Key

/-! ### Raw texts -/

/-- The truth value that a raw text denotes. -/
def parseBool (raw : String) : Except Fault Bool :=
  let word := Text.lowerAscii (Text.trim raw)
  match Setting.truthOf? word with
  | some b => .ok b
  | none => .error (.notBoolean word)

/-- The number of at most 64 bits that a raw text denotes; underscores do not matter. -/
def parseUInt64 (raw : String) : Except Fault UInt64 :=
  match Unsigned.parse UInt64.size ((Text.trimChars raw.toList).filter (· != '_')) with
  | .ok n => .ok (.ofNat n)
  | .error fault => .error (.notUnsigned fault)

/-- The number of at most 32 bits that a raw text denotes. -/
def parseUInt32 (raw : String) : Except Fault UInt32 :=
  match parseUInt64 raw with
  | .ok n => if n.toNat < UInt32.size then .ok (.ofNat n.toNat) else .error (.outOfRange n.toNat)
  | .error fault => .error fault

/-- The paths that a raw text lists. -/
def parsePaths (raw : String) : Except Fault (List String) :=
  match (Setting.splitPaths (Text.trimChars raw.toList)).filter (· ≠ []) with
  | [] => .error .noPaths
  | paths => .ok (paths.map String.ofList)

/-- The host level that a raw text names. -/
def parseLevel (raw : String) : Except Fault HostLevel :=
  match HostLevel.parse raw with
  | some l => .ok l
  | none => .error (.unknownLevel raw)

/-- What a raw text says as the value of a setting. -/
def Key.parse : (k : Key) → String → Except Fault k.Value
  | modulePath => parsePaths
  | logMinMessages => parseLevel
  | maxFuel | timeoutMs => parseUInt64
  | maxMemoryMb | maxInstances => parseUInt32
  | fuelMetering | poolingAllocator | epochInterruption => parseBool

end Settings

/-! ### Readings

A reading says what the text denotes, and its errors name the setting. -/

@[simp] theorem mapError_ok {ε ε' α : Type} (f : ε → ε') (a : α) :
    (.ok a : Except ε α).mapError f = .ok a := rfl

@[simp] theorem mapError_error {ε ε' α : Type} (f : ε → ε') (fault : ε) :
    (.error fault : Except ε α).mapError f = .error (f fault) := rfl

namespace Setting

open Settings

variable (name raw : String)

theorem asBool_eq : asBool ⟨name, raw⟩ = (parseBool raw).mapError (.invalid name) := by
  simp only [asBool, parseBool]
  generalize Text.lowerAscii (Text.trim raw) = word
  generalize truthOf? word = answer
  cases answer <;> rfl

theorem asUInt64_eq : asUInt64 ⟨name, raw⟩ = (parseUInt64 raw).mapError (.invalid name) := by
  simp only [asUInt64, parseUInt64, digits]
  generalize Unsigned.parse UInt64.size _ = read
  cases read <;> rfl

theorem asUInt32_eq : asUInt32 ⟨name, raw⟩ = (parseUInt32 raw).mapError (.invalid name) := by
  unfold asUInt32 parseUInt32
  rw [asUInt64_eq]
  cases parseUInt64 raw with
  | error fault => rfl
  | ok n =>
    by_cases fits : n.toNat < UInt32.size
    · simp [fits, bind, Except.bind]
    · simp [fits, bind, Except.bind, refuse]

theorem asPaths_eq : asPaths ⟨name, raw⟩ = (parsePaths raw).mapError (.invalid name) := by
  simp only [asPaths, parsePaths]
  generalize (splitPaths (Text.trimChars raw.toList)).filter (· ≠ []) = paths
  cases paths <;> rfl

theorem asHostLevel_eq : asHostLevel ⟨name, raw⟩ = (parseLevel raw).mapError (.invalid name) := by
  unfold asHostLevel parseLevel
  cases HostLevel.parse raw <;> rfl

end Setting

/-! ### Stores -/

namespace Settings.Store

variable {s s' : Store} {k : Key}

/-- The first layer that has a name decides, and no layer below it matters. -/
theorem lookup?_eq_some_iff {name raw : String} :
    s.lookup? name = some raw ↔
      ∃ above layer below, s.layers = above ++ layer :: below ∧
        layer.lookup? name = some raw ∧ ∀ higher ∈ above, higher.lookup? name = none :=
  List.findSome?_eq_some_iff

/-- A store says a value under a key: its raw text denotes the value, or it has no text and the
value is the default. -/
inductive Says (s : Store) (k : Key) (v : k.Value) : Prop where
  | stored {raw : String} (first : s.lookup? k.name = some raw) (denotes : k.parse raw = .ok v)
  | unset (absent : s.lookup? k.name = none) (standard : k.default? = some v)

/-- What a store says under a key, or why startup cannot use it. -/
def value (s : Store) (k : Key) : Except StartupError k.Value :=
  match s.lookup? k.name with
  | some raw => (k.parse raw).mapError (.invalid k.name)
  | none =>
    match k.default? with
    | some v => .ok v
    | none => .error (.missing k.name)

theorem value_eq_ok_iff {v : k.Value} : s.value k = .ok v ↔ s.Says k v := by
  unfold value
  constructor
  · intro h
    cases first : s.lookup? k.name with
    | some raw =>
      cases denotes : k.parse raw with
      | ok w =>
        simp only [first, denotes, mapError_ok, Except.ok.injEq] at h
        exact .stored first (h ▸ denotes)
      | error fault => simp [first, denotes] at h
    | none =>
      cases standard : k.default? with
      | some w =>
        simp only [first, standard, Except.ok.injEq] at h
        exact .unset first (h ▸ standard)
      | none => simp [first, standard] at h
  · rintro (⟨first, denotes⟩ | ⟨absent, standard⟩)
    · simp [first, denotes]
    · simp [absent, standard]

/-- A store says at most one value under a key. -/
theorem Says.unique {v w : k.Value} (hv : s.Says k v) (hw : s.Says k w) : v = w := by
  rw [← value_eq_ok_iff] at hv hw
  exact Except.ok.inj (hv.symm.trans hw)

/-- Only the module path has to be stored, and every other error is about a text that is. -/
theorem value_eq_error_iff {error : StartupError} :
    s.value k = .error error ↔
      (s.lookup? k.name = none ∧ k = .modulePath ∧ error = .missing k.name) ∨
        ∃ raw fault, s.lookup? k.name = some raw ∧ k.parse raw = .error fault ∧
          error = .invalid k.name fault := by
  have required : k.default? = none ↔ k = .modulePath := by cases k <;> simp [Key.default?]
  unfold value
  cases first : s.lookup? k.name with
  | some raw => cases parsed : k.parse raw <;> simp [parsed, eq_comm]
  | none => cases standard : k.default? <;> simp [← required, standard, eq_comm]

/-- Reading with a key gives what the store says under it. -/
theorem readOr_eq_value {standard : k.Value} {read : Setting → Except StartupError k.Value}
    (unset : k.default? = some standard)
    (reads : ∀ raw, read ⟨k.name, raw⟩ = (k.parse raw).mapError (.invalid k.name)) :
    s.readOr k.name standard read = s.value k := by
  unfold readOr setting? value
  cases s.lookup? k.name with
  | some raw => exact reads raw
  | none => simp [unset]

theorem require_eq_value :
    (s.require Key.modulePath.name >>= Setting.asPaths) = s.value .modulePath := by
  unfold require setting? value
  cases s.lookup? Key.modulePath.name with
  | some raw => exact Setting.asPaths_eq _ raw
  | none => rfl

theorem value_congr (same : s'.lookup? k.name = s.lookup? k.name) : s'.value k = s.value k := by
  unfold value
  rw [same]

end Settings.Store

end GuestRoutines
