import GuestRoutines.Proofs.Embedding.Startup
import GuestRoutines.Proofs.Number.Decimal
import GuestRoutines.Proofs.Settings.Entries

/-!
# Settings in native form

A document writes numbers and truth values as such, and the store keeps texts of them, which are
read again as numbers and truth values. Nothing is lost on this way, and nothing is taken for
something else, except that zero and one also say a truth value.

## Main definitions

* `Settings.Native` — a number or a truth value in a document
* `Settings.Writes` — the table of a document in which some settings stand
* `Settings.Store.Keeps` — a store that keeps these settings and no other ones
* `Settings.Misfit` — a value that does not fit its setting, and how it is reported

## Main results

* `Settings.Writes.keeps` — what a document writes is what the store keeps
* `Settings.Key.parse_of_native`, `Settings.Key.parse_of_misfit`, `Settings.Key.fits_or_misfit` —
  a native value is read back, or does not fit
* `RuntimeSettings.native_settings_read_back` — the settings of the runtime, by way of a document
-/

namespace GuestRoutines

namespace Settings

/-! ### Documents -/

@[simp] theorem Store.lookup?_ofTable (t : Table) (name : String) :
    (Store.ofTable t).lookup? name = t.lookup? name := by
  simp [Store.ofTable, Store.lookup?, Layer.lookup?]

/-- A value that a document writes as such and not as a text. -/
inductive Native where
  | int (n : Int)
  | bool (b : Bool)
  deriving DecidableEq, Repr

namespace Native

/-- The value in a document. -/
def toToml : Native → Toml.Value
  | int n => .int n
  | bool b => .bool b

/-- The raw text as which the value is stored. -/
def text : Native → String
  | int n => HostValue.intText n
  | bool b => if b then "on" else "off"

theorem flattenValue_toToml (key : String) (v : Native) :
    flattenValue key v.toToml = .ok [(key, v.text)] := by
  cases v with
  | int n => simp [toToml, flattenValue, rawText, text]
  | bool b => simp [toToml, flattenValue, rawText, text]

end Native

/-- The name of the table in which the settings of the bridge may stand. -/
def tableName : String := "plwasm"

/-- The name of a setting in the table of the settings of the bridge. -/
def Key.member : Key → String
  | modulePath => "module_path"
  | logMinMessages => "log_min_messages"
  | maxFuel => "max_fuel"
  | fuelMetering => "fuel_metering"
  | timeoutMs => "timeout_ms"
  | maxMemoryMb => "max_memory_mb"
  | poolingAllocator => "pooling_allocator"
  | maxInstances => "max_instances"
  | epochInterruption => "epoch_interruption"

theorem nested_member (k : Key) : nested tableName k.member = k.name := by
  cases k <;> rfl

theorem Key.name_injective : Function.Injective Key.name := by
  have found (k : Key) : Key.all.find? (·.name == k.name) = some k := by cases k <;> rfl
  intro k k' same
  have both := (found k).symm.trans (same ▸ found k')
  exact Option.some.inj both

/-- A table of settings writes native values under keys: each one by its whole name, or in a table
of the settings of the bridge. -/
inductive Writes : Toml.Members → List (Key × Native) → Prop where
  | nil : Writes [] []
  | quoted {ms : Toml.Members} {as : List (Key × Native)} (k : Key) (v : Native)
      (rest : Writes ms as) : Writes ((k.name, v.toToml) :: ms) ((k, v) :: as)
  | table {ms : Toml.Members} {as : List (Key × Native)} (inner : List (Key × Native))
      (rest : Writes ms as) :
      Writes ((tableName, .table (inner.map fun a => (a.1.member, a.2.toToml))) :: ms) (inner ++ as)

/-- Any values can be written, some of them in the table of the bridge and the others beside it. -/
theorem Writes.document (inner whole : List (Key × Native)) :
    Writes
      ((tableName, .table (inner.map fun a => (a.1.member, a.2.toToml))) ::
        whole.map fun a => (a.1.name, a.2.toToml))
      (inner ++ whole) := by
  apply Writes.table
  induction whole with
  | nil => exact .nil
  | cons a whole ih => exact .quoted a.1 a.2 ih

/-- A store keeps native values under keys, and nothing under any other key. -/
structure Store.Keeps (s : Store) (as : List (Key × Native)) : Prop where
  stored : ∀ k v, (k, v) ∈ as → s.lookup? k.name = some v.text
  absent : ∀ k, k ∉ as.map (·.1) → s.lookup? k.name = none

variable {ms : Toml.Members} {as : List (Key × Native)}

theorem flattenBelow_tableName (inner : List (Key × Native)) :
    flattenBelow tableName (inner.map fun a => (a.1.member, a.2.toToml)) =
      .ok (inner.map fun a => (a.1.name, a.2.text)) := by
  induction inner with
  | nil => simp [flattenBelow]
  | cons a inner ih =>
    simp only [List.map_cons, flattenBelow, nested_member, Native.flattenValue_toToml, ih, bind,
      Except.bind]
    rfl

theorem Writes.flattenBelow_eq (h : Writes ms as) :
    flattenBelow "" ms = .ok (as.map fun a => (a.1.name, a.2.text)) := by
  induction h with
  | nil => simp [flattenBelow]
  | quoted k v rest ih =>
    simp only [flattenBelow, nested_empty, Native.flattenValue_toToml, ih, bind, Except.bind]
    rfl
  | table inner rest ih =>
    simp only [flattenBelow, flattenValue, nested_empty, flattenBelow_tableName, ih, bind,
      Except.bind]
    simp [pure, Except.pure]

/-- What a document writes is what the store keeps. -/
theorem Writes.keeps (h : Writes ms as) (once : (as.map (·.1)).Nodup) :
    ∃ t, flatten ms = .ok t ∧ (Store.ofTable t).Keeps as := by
  have names : (as.map fun a => (a.1.name, a.2.text)).map (·.1) = (as.map (·.1)).map Key.name := by
    simp
  have distinct : ((as.map fun a => (a.1.name, a.2.text)).map (·.1)).Nodup := by
    rw [names]
    exact List.Nodup.map Key.name_injective once
  refine ⟨_, by rw [flatten, h.flattenBelow_eq]; rfl, ?_, ?_⟩
  · intro k v member
    rw [Store.lookup?_ofTable]
    apply Table.lookup?_ofList_of_mem distinct
    exact List.mem_map.mpr ⟨(k, v), member, rfl⟩
  · intro k absent
    rw [Store.lookup?_ofTable]
    apply Table.lookup?_ofList_of_not_mem
    rw [names]
    intro member
    obtain ⟨k', member, same⟩ := List.mem_map.mp member
    exact absent (Key.name_injective same ▸ member)

/-! ### Reading native values -/

section Texts

variable {n : Int}

/-- The text of a number holds neither outer blanks nor underscores. -/
theorem digits_intText (n : Int) :
    (Text.trimChars (HostValue.intText n).toList).filter (· != '_') =
      (HostValue.intText n).toList := by
  rw [HostValue.trimChars_intText, List.filter_eq_self]
  intro c member
  have other : c ≠ '_' := by
    rintro rfl
    rcases HostValue.of_mem_intText member with digit | sign
    · cases digit
    · cases sign
  simpa using other

theorem parseUInt64_natCast (n : Nat) :
    parseUInt64 (HostValue.intText n) =
      if n < UInt64.size then .ok (.ofNat n) else .error (.notUnsigned .tooLarge) := by
  have nonneg : (0 : Int) ≤ n := Int.natCast_nonneg n
  rw [parseUInt64, digits_intText, HostValue.toList_intText_of_nonneg nonneg, Int.toNat_natCast,
    Unsigned.parse_ofNat (by decide)]
  by_cases fits : n < UInt64.size
  · rw [if_pos fits, if_pos fits]
  · rw [if_neg fits, if_neg fits]

theorem parseUInt64_of_neg (negative : n < 0) :
    parseUInt64 (HostValue.intText n) = .error (.notUnsigned .invalidDigit) := by
  rw [parseUInt64, digits_intText, HostValue.toList_intText_of_neg negative,
    Unsigned.parse_of_not_isDigit _ (by decide) (by decide)]

theorem parseUInt32_natCast (n : Nat) :
    parseUInt32 (HostValue.intText n) =
      if n < UInt32.size then .ok (.ofNat n)
      else if n < UInt64.size then .error (.outOfRange n)
      else .error (.notUnsigned .tooLarge) := by
  rw [parseUInt32, parseUInt64_natCast]
  by_cases long : n < UInt64.size
  · have same : (UInt64.ofNat n).toNat = n := UInt64.toNat_ofNat_of_lt long
    simp only [if_pos long, same]
  · have past : ¬ n < UInt32.size := fun short => long (Nat.lt_trans short (by decide))
    simp only [if_neg long, if_neg past]

/-- A number is written in the same way whatever the case of its letters, as it has none. -/
theorem lowerAscii_trim_intText (n : Int) :
    Text.lowerAscii (Text.trim (HostValue.intText n)) = HostValue.intText n := by
  have small : (HostValue.intText n).toList.map Char.toLower = (HostValue.intText n).toList := by
    calc (HostValue.intText n).toList.map Char.toLower
        = (HostValue.intText n).toList.map id := by
          apply List.map_congr_left
          intro c member
          rcases HostValue.of_mem_intText member with digit | rfl
          · exact Digits.toLower_of_isDigit digit
          · rfl
      _ = (HostValue.intText n).toList := List.map_id _
  rw [Text.lowerAscii, Text.trim, HostValue.trimChars_intText, String.toList_ofList, small,
    String.ofList_toList]

/-- Of the texts of numbers, only zero and one say a truth value. -/
theorem truthOf?_intText (nonzero : n ≠ 0) (other : n ≠ 1) :
    Setting.truthOf? (HostValue.intText n) = none := by
  -- The other words have letters.
  have letters : ∀ word ∈ ["on", "true", "yes", "off", "false", "no"],
      word.toList.any (fun c => !c.isDigit && c != '-') = true := by decide
  have unlike : ∀ word ∈ ["on", "true", "yes", "off", "false", "no"],
      HostValue.intText n ≠ word := by
    rintro word member rfl
    obtain ⟨c, letter, neither⟩ := List.any_eq_true.mp (letters _ member)
    rcases HostValue.of_mem_intText letter with digit | rfl
    · simp [digit] at neither
    · cases neither
  have zero : HostValue.intText n ≠ "0" := by
    intro same
    exact nonzero (HostValue.eq_of_intText_eq rfl same)
  have one : HostValue.intText n ≠ "1" := by
    intro same
    exact other (HostValue.eq_of_intText_eq rfl same)
  simp only [List.forall_mem_cons] at unlike
  simp [Setting.truthOf?, unlike, zero, one]

theorem parseBool_intText (nonzero : n ≠ 0) (other : n ≠ 1) :
    parseBool (HostValue.intText n) = .error (.notBoolean (HostValue.intText n)) := by
  simp only [parseBool, lowerAscii_trim_intText, truthOf?_intText nonzero other]

theorem parseBool_bool (b : Bool) : parseBool (Native.bool b).text = .ok b := by
  cases b <;> rfl

theorem parseUInt64_bool (b : Bool) :
    parseUInt64 (Native.bool b).text = .error (.notUnsigned .invalidDigit) := by
  cases b <;> rfl

theorem parseUInt32_bool (b : Bool) :
    parseUInt32 (Native.bool b).text = .error (.notUnsigned .invalidDigit) := by
  rw [parseUInt32, parseUInt64_bool]

end Texts

/-! ### Values that fit -/

/-- What a setting of the runtime says in a document. -/
inductive Kind where
  /-- A whole number below a bound. -/
  | number (bound : Nat)
  | truth

namespace Key

/-- The settings of the runtime, in the order in which they are read. -/
def runtime : List Key :=
  [poolingAllocator, maxInstances, epochInterruption, maxFuel, timeoutMs, maxMemoryMb,
    fuelMetering]

/-- What a setting of the runtime says. -/
def kind? : Key → Option Kind
  | maxFuel | timeoutMs => some (.number UInt64.size)
  | maxMemoryMb | maxInstances => some (.number UInt32.size)
  | fuelMetering | poolingAllocator | epochInterruption => some .truth
  | modulePath | logMinMessages => none

theorem isSome_kind?_iff {k : Key} : k.kind?.isSome ↔ k ∈ runtime := by
  cases k <;> decide

/-- The native form of what a setting of the runtime says. -/
def native? : (k : Key) → k.Value → Option Native
  | maxFuel, n => some (.int (UInt64.toNat n))
  | timeoutMs, n => some (.int (UInt64.toNat n))
  | maxMemoryMb, n => some (.int (UInt32.toNat n))
  | maxInstances, n => some (.int (UInt32.toNat n))
  | fuelMetering, b => some (.bool b)
  | poolingAllocator, b => some (.bool b)
  | epochInterruption, b => some (.bool b)
  | modulePath, _ => none
  | logMinMessages, _ => none

/-- A value is read back from its native form. -/
theorem parse_of_native {k : Key} {w : k.Value} {v : Native} (native : k.native? w = some v) :
    k.parse v.text = .ok w := by
  have long (n : UInt64) : parseUInt64 (HostValue.intText n.toNat) = .ok n := by
    rw [parseUInt64_natCast, if_pos n.toNat_lt, UInt64.ofNat_toNat]
  have short (n : UInt32) : parseUInt32 (HostValue.intText n.toNat) = .ok n := by
    rw [parseUInt32_natCast, if_pos n.toNat_lt, UInt32.ofNat_toNat]
  cases k with
  | maxFuel | timeoutMs =>
    obtain rfl := Option.some.inj native
    exact long w
  | maxMemoryMb | maxInstances =>
    obtain rfl := Option.some.inj native
    exact short w
  | fuelMetering | poolingAllocator | epochInterruption =>
    obtain rfl := Option.some.inj native
    exact parseBool_bool w
  | modulePath | logMinMessages => cases native

end Key

/-- A native value that does not fit its setting, and how it is reported. -/
inductive Misfit (k : Key) : Native → Fault → Prop where
  | negative {bound : Nat} {n : Int} (number : k.kind? = some (.number bound)) (below : n < 0) :
      Misfit k (.int n) (.notUnsigned .invalidDigit)
  | truth {bound : Nat} (b : Bool) (number : k.kind? = some (.number bound)) :
      Misfit k (.bool b) (.notUnsigned .invalidDigit)
  | outOfRange {bound n : Nat} (number : k.kind? = some (.number bound)) (past : bound ≤ n)
      (read : n < UInt64.size) : Misfit k (.int n) (.outOfRange n)
  /-- The numbers of a document have 64 bits with their sign and do not come so far. -/
  | tooLarge {bound n : Nat} (number : k.kind? = some (.number bound)) (past : UInt64.size ≤ n) :
      Misfit k (.int n) (.notUnsigned .tooLarge)
  | number {n : Int} (truth : k.kind? = some .truth) (nonzero : n ≠ 0) (other : n ≠ 1) :
      Misfit k (.int n) (.notBoolean (HostValue.intText n))

namespace Misfit

variable {k : Key} {v : Native} {fault : Fault}

theorem parseUInt64_eq (h : Misfit k v fault) (long : k.kind? = some (.number UInt64.size)) :
    parseUInt64 v.text = .error fault := by
  cases h with
  | negative number below => exact parseUInt64_of_neg below
  | truth b number => exact parseUInt64_bool b
  | outOfRange number past read =>
    obtain rfl : UInt64.size = _ := by simpa [long] using number
    exact absurd read (Nat.not_lt.mpr past)
  | tooLarge number past =>
    rw [Native.text, parseUInt64_natCast, if_neg (Nat.not_lt.mpr past)]
  | number truth nonzero other => simp [long] at truth

theorem parseUInt32_eq (h : Misfit k v fault) (short : k.kind? = some (.number UInt32.size)) :
    parseUInt32 v.text = .error fault := by
  cases h with
  | negative number below => rw [parseUInt32, Native.text, parseUInt64_of_neg below]
  | truth b number => exact parseUInt32_bool b
  | outOfRange number past read =>
    obtain rfl : UInt32.size = _ := by simpa [short] using number
    rw [Native.text, parseUInt32_natCast, if_neg (Nat.not_lt.mpr past), if_pos read]
  | tooLarge number past =>
    have further := Nat.le_trans (by decide : UInt32.size ≤ UInt64.size) past
    rw [Native.text, parseUInt32_natCast, if_neg (Nat.not_lt.mpr further),
      if_neg (Nat.not_lt.mpr past)]
  | number truth nonzero other => simp [short] at truth

theorem parseBool_eq (h : Misfit k v fault) (truth : k.kind? = some .truth) :
    parseBool v.text = .error fault := by
  cases h with
  | number _ nonzero other => exact parseBool_intText nonzero other
  | negative number | truth _ number | outOfRange number | tooLarge number =>
    simp [truth] at number

/-- A value that does not fit is refused as it is reported. -/
theorem parse_eq (h : Misfit k v fault) : k.parse v.text = .error fault := by
  cases k with
  | maxFuel | timeoutMs => exact h.parseUInt64_eq rfl
  | maxMemoryMb | maxInstances => exact h.parseUInt32_eq rfl
  | fuelMetering | poolingAllocator | epochInterruption => exact h.parseBool_eq rfl
  | modulePath | logMinMessages => cases h <;> contradiction

/-- A value is a natural number, or it does not fit a setting that calls for a number. -/
theorem natCast_or_misfit {bound : Nat} (number : k.kind? = some (.number bound)) (v : Native) :
    (∃ n : Nat, v = .int n) ∨ ∃ fault, Misfit k v fault := by
  cases v with
  | bool b => exact .inr ⟨_, .truth b number⟩
  | int n =>
    by_cases below : n < 0
    · exact .inr ⟨_, .negative number below⟩
    · obtain ⟨m, rfl⟩ := Int.eq_ofNat_of_zero_le (Int.not_lt.mp below)
      exact .inl ⟨m, rfl⟩

theorem long_or_misfit (long : k.kind? = some (.number UInt64.size)) (v : Native) :
    (∃ w, parseUInt64 v.text = .ok w) ∨ ∃ fault, Misfit k v fault := by
  rcases natCast_or_misfit long v with ⟨n, rfl⟩ | misfit
  · by_cases fits : n < UInt64.size
    · exact .inl ⟨_, (parseUInt64_natCast n).trans (if_pos fits)⟩
    · exact .inr ⟨_, .tooLarge long (Nat.not_lt.mp fits)⟩
  · exact .inr misfit

theorem short_or_misfit (short : k.kind? = some (.number UInt32.size)) (v : Native) :
    (∃ w, parseUInt32 v.text = .ok w) ∨ ∃ fault, Misfit k v fault := by
  rcases natCast_or_misfit short v with ⟨n, rfl⟩ | misfit
  · by_cases fits : n < UInt32.size
    · exact .inl ⟨_, (parseUInt32_natCast n).trans (if_pos fits)⟩
    · by_cases read : n < UInt64.size
      · exact .inr ⟨_, .outOfRange short (Nat.not_lt.mp fits) read⟩
      · exact .inr ⟨_, .tooLarge short (Nat.not_lt.mp read)⟩
  · exact .inr misfit

theorem truth_or_misfit (truth : k.kind? = some .truth) (v : Native) :
    (∃ w, parseBool v.text = .ok w) ∨ ∃ fault, Misfit k v fault := by
  cases v with
  | bool b => exact .inl ⟨b, parseBool_bool b⟩
  | int n =>
    by_cases zero : n = 0
    · subst zero
      exact .inl ⟨false, rfl⟩
    by_cases one : n = 1
    · subst one
      exact .inl ⟨true, rfl⟩
    exact .inr ⟨_, .number truth zero one⟩

end Misfit

/-- A native value of a setting of the runtime can be read, or it does not fit. -/
theorem Key.fits_or_misfit {k : Key} (member : k ∈ Key.runtime) (v : Native) :
    (∃ w, k.parse v.text = .ok w) ∨ ∃ fault, Misfit k v fault := by
  cases k with
  | maxFuel | timeoutMs => exact Misfit.long_or_misfit rfl v
  | maxMemoryMb | maxInstances => exact Misfit.short_or_misfit rfl v
  | fuelMetering | poolingAllocator | epochInterruption => exact Misfit.truth_or_misfit rfl v
  | modulePath | logMinMessages => contradiction

/-! ### Settings that a store keeps -/

namespace Store.Keeps

variable {s : Store} {as : List (Key × Native)} {k : Key} {v : Native} {error : StartupError}

theorem value_of_mem (keeps : s.Keeps as) (member : (k, v) ∈ as) :
    s.value k = (k.parse v.text).mapError (.invalid k.name) := by
  rw [value, keeps.stored k v member]

theorem value_of_not_mem (keeps : s.Keeps as) (absent : k ∉ as.map (·.1)) {w : k.Value}
    (standard : k.default? = some w) : s.value k = .ok w := by
  simp only [value, keeps.absent k absent, standard]

/-- Startup cannot use a setting of the runtime exactly if the value that is kept does not fit. -/
theorem problem?_eq_some_iff (keeps : s.Keeps as) (runtime : k ∈ Key.runtime) :
    s.problem? k = some error ↔
      ∃ v fault, (k, v) ∈ as ∧ Misfit k v fault ∧ error = .invalid k.name fault := by
  rw [Store.problem?_eq_some_iff]
  constructor
  · intro refused
    by_cases kept : k ∈ as.map (·.1)
    · obtain ⟨⟨k, v⟩, member, rfl⟩ := List.mem_map.mp kept
      rw [keeps.value_of_mem member] at refused
      rcases Key.fits_or_misfit runtime v with ⟨w, read⟩ | ⟨fault, misfit⟩
      · simp [read] at refused
      · refine ⟨v, fault, member, misfit, ?_⟩
        simpa [misfit.parse_eq, eq_comm] using refused
    · have standard : k.default? ≠ none := by
        cases k <;> first | contradiction | exact nofun
      obtain ⟨w, standard⟩ := Option.ne_none_iff_exists'.mp standard
      rw [keeps.value_of_not_mem kept standard] at refused
      cases refused
  · rintro ⟨v, fault, member, misfit, rfl⟩
    rw [keeps.value_of_mem member, misfit.parse_eq]
    rfl

end Store.Keeps

/-- The first setting of the runtime in the order of reading whose value does not fit. -/
def FirstMisfit (as : List (Key × Native)) (k : Key) (fault : Fault) : Prop :=
  ∃ before after v, Key.runtime = before ++ k :: after ∧ (k, v) ∈ as ∧ Misfit k v fault ∧
    ∀ earlier ∈ before, ∀ v fault, (earlier, v) ∈ as → ¬ Misfit earlier v fault

end Settings

namespace RuntimeSettings

open Settings

variable {s : Store} {c : RuntimeSettings} {as : List (Key × Native)} {ms : Toml.Members}

/-- What settings of the runtime say under a key. -/
def value? (c : RuntimeSettings) : (k : Key) → Option k.Value
  | .poolingAllocator => some c.engine.poolingAllocator
  | .maxInstances => some c.engine.maxInstances
  | .epochInterruption => some c.engine.epochInterruption
  | .maxFuel => some c.limits.maxFuel
  | .timeoutMs => some c.limits.timeoutMs
  | .maxMemoryMb => some c.limits.maxMemoryMb
  | .fuelMetering => some c.limits.fuelMetering
  | .modulePath | .logMinMessages => none

/-- The native form of what settings of the runtime say under a key. -/
def native? (c : RuntimeSettings) (k : Key) : Option Native := (c.value? k).bind k.native?

/-- The settings of the runtime that are not stored have the values of the standard ones. -/
theorem default?_eq {k : Key} {w : k.Value} (told : value? {} k = some w) :
    k.default? = some w := by
  cases k <;> first | exact told | cases told

/-- The first setting that cannot be used is reported. -/
theorem ofStore_of_problem {error : StartupError}
    (first : Key.runtime.findSome? s.problem? = some error) : ofStore s = .error error := by
  simp only [ofStore, read_eq, bind_assoc]
  refine Store.bind_of_problem first fun _ first => ?_
  refine Store.bind_of_problem first fun _ first => ?_
  refine Store.bind_of_problem first fun _ first => ?_
  refine Store.bind_of_problem first fun _ first => ?_
  refine Store.bind_of_problem first fun _ first => ?_
  refine Store.bind_of_problem first fun _ first => ?_
  refine Store.bind_of_problem first fun _ first => ?_
  cases first

/-- A store that says what valid settings say gives these settings. The size of a place in a pool
and the interval of the clock are not stored. -/
theorem ofStore_of_values
    (place : c.engine.instanceMemoryMb = ({} : EngineSettings).instanceMemoryMb)
    (tick : c.engine.epochTickMs = ({} : EngineSettings).epochTickMs)
    (valid : c.validate = .ok ()) (told : ∀ k w, c.value? k = some w → s.value k = .ok w) :
    ofStore s = .ok c := by
  have read : read s = .ok c := by
    rw [read_eq, told .poolingAllocator _ rfl, told .maxInstances _ rfl,
      told .epochInterruption _ rfl, told .maxFuel _ rfl, told .timeoutMs _ rfl,
      told .maxMemoryMb _ rfl, told .fuelMetering _ rfl]
    obtain ⟨⟨_, _, _, _, _⟩, _⟩ := c
    subst place tick
    rfl
  simp only [ofStore, read, valid, bind, Except.bind]
  rfl

/-- A store that keeps what valid settings say gives these settings, as long as it keeps all of it
that is not standard. -/
theorem ofStore_of_keeps (keeps : s.Keeps as)
    (place : c.engine.instanceMemoryMb = ({} : EngineSettings).instanceMemoryMb)
    (tick : c.engine.epochTickMs = ({} : EngineSettings).epochTickMs)
    (valid : c.validate = .ok ()) (same : ∀ k v, (k, v) ∈ as → c.native? k = some v)
    (covers : ∀ k, c.value? k ≠ value? {} k → k ∈ as.map (·.1)) : ofStore s = .ok c := by
  apply ofStore_of_values place tick valid
  intro k w told
  by_cases kept : k ∈ as.map (·.1)
  · obtain ⟨⟨k, v⟩, member, rfl⟩ := List.mem_map.mp kept
    have native : k.native? w = some v := by simpa [native?, told] using same k v member
    rw [keeps.value_of_mem member, Key.parse_of_native native]
    rfl
  · have standard : value? {} k = some w := by
      rw [← told]
      by_contra other
      exact kept (covers k fun same => other same.symm)
    exact keeps.value_of_not_mem kept (default?_eq standard)

/-- A store that keeps a value that does not fit its setting is refused with the first such
setting. -/
theorem ofStore_of_misfit (keeps : s.Keeps as) {k : Key} {v : Native} {fault : Fault}
    (member : (k, v) ∈ as) (misfit : Misfit k v fault) :
    ∃ k fault, FirstMisfit as k fault ∧ ofStore s = .error (.invalid k.name fault) := by
  have runtime : k ∈ Key.runtime := by
    apply Key.isSome_kind?_iff.mp
    cases misfit <;> simp [*]
  have problem : s.problem? k = some (.invalid k.name fault) :=
    (keeps.problem?_eq_some_iff runtime).mpr ⟨v, fault, member, misfit, rfl⟩
  cases first : Key.runtime.findSome? s.problem? with
  | none =>
    have fine := List.findSome?_eq_none_iff.mp first k runtime
    rw [problem] at fine
    cases fine
  | some error =>
    obtain ⟨before, k, after, order, problem, none⟩ := List.findSome?_eq_some_iff.mp first
    have part : ∀ key ∈ before ++ k :: after, key ∈ Key.runtime := fun key h => order ▸ h
    obtain ⟨v, fault, member, misfit, rfl⟩ :=
      (keeps.problem?_eq_some_iff (part k (by simp))).mp problem
    refine ⟨k, fault, ⟨before, after, v, order, member, misfit, ?_⟩, ofStore_of_problem first⟩
    -- An earlier value that does not fit would have been reported in its place.
    intro earlier above v fault member misfit
    have reported : s.problem? earlier = some (.invalid earlier.name fault) :=
      (keeps.problem?_eq_some_iff (part earlier (by simp [above]))).mpr
        ⟨v, fault, member, misfit, rfl⟩
    rw [none earlier above] at reported
    cases reported

/-- **Settings that a document writes in native form are read back unchanged.** Whatever part of
the settings is written, and wherever each of them stands, reading gives the settings that were
written, if what is left out is standard; and if values do not fit, the first of them in the order
of reading is reported. -/
theorem native_settings_read_back (written : Writes ms as) (once : (as.map (·.1)).Nodup) :
    ∃ t, flatten ms = .ok t ∧
      (∀ c : RuntimeSettings,
        c.engine.instanceMemoryMb = ({} : EngineSettings).instanceMemoryMb →
        c.engine.epochTickMs = ({} : EngineSettings).epochTickMs →
        c.validate = .ok () →
        (∀ k v, (k, v) ∈ as → c.native? k = some v) →
        (∀ k, c.value? k ≠ value? {} k → k ∈ as.map (·.1)) →
        ofStore (.ofTable t) = .ok c) ∧
      ((∃ k v fault, (k, v) ∈ as ∧ Misfit k v fault) →
        ∃ k fault, FirstMisfit as k fault ∧
          ofStore (.ofTable t) = .error (.invalid k.name fault)) := by
  obtain ⟨t, flat, keeps⟩ := written.keeps once
  refine ⟨t, flat, ?_, ?_⟩
  · intro c place tick valid same covers
    exact ofStore_of_keeps keeps place tick valid same covers
  · rintro ⟨k, v, fault, member, misfit⟩
    exact ofStore_of_misfit keeps member misfit

/-- Two settings stand in the table of the bridge, and one beside it under its whole name. -/
theorem native_settings_read_back_of_three :
    let ms : Toml.Members :=
      [("plwasm", .table [("max_fuel", .int 5000000), ("pooling_allocator", .bool true)]),
        ("plwasm.timeout_ms", .int 20)]
    ∃ t, flatten ms = .ok t ∧
      ofStore (.ofTable t) =
        .ok { engine := { poolingAllocator := true }
              limits := { maxFuel := 5000000, timeoutMs := 20 } } := by
  intro ms
  have written : Writes ms
      ([(.maxFuel, .int 5000000), (.poolingAllocator, .bool true)] ++ [(.timeoutMs, .int 20)]) :=
    .document [(.maxFuel, .int 5000000), (.poolingAllocator, .bool true)] [(.timeoutMs, .int 20)]
  obtain ⟨t, flat, read, -⟩ := native_settings_read_back written (by decide)
  refine ⟨t, flat, read _ rfl rfl rfl ?_ ?_⟩
  · intro k v member
    simp only [List.cons_append, List.nil_append, List.mem_cons, Prod.mk.injEq, List.not_mem_nil,
      or_false] at member
    rcases member with ⟨rfl, rfl⟩ | ⟨rfl, rfl⟩ | ⟨rfl, rfl⟩
    all_goals rfl
  · intro k other
    cases k with
    | maxFuel | poolingAllocator | timeoutMs => decide
    | _ => exact absurd rfl other

end RuntimeSettings

end GuestRoutines
