import GuestRoutines.Proofs.Embedding.Operations
import GuestRoutines.Proofs.Settings.Reading
import Mathlib.Tactic.Choose

/-!
# Startup as the settings decide it

Nine settings decide what becomes of the one attempt to launch the runtime. They are read in a fixed
order, then four rules on their combination are checked, and only settings that pass both reach the
launcher.

## Main definitions

* `RuntimeSettings.Rule` — a combination of settings that the engine cannot honour
* `StartupParams.ofValues` — the parameters that nine values make
* `Embedder.Decided` — what startup makes of a store

## Main results

* `RuntimeSettings.validate_eq` — the first rule that is broken is reported
* `Embedder.decided_startupParams`, `Embedder.Decided.unique` — a store decides startup, in one way
* `Embedder.startup_decided` — what comes of an attempt, and on what it depends
-/

namespace GuestRoutines

open Settings

namespace RuntimeSettings

/-! ### Rules -/

/-- A combination of settings that the engine cannot honour, and how it is reported. -/
structure Rule where
  key : Key
  fault : Fault
  broken : RuntimeSettings → Bool

/-- The rules in the order in which they are checked. -/
def Rule.all : List Rule :=
  [⟨.maxFuel, .zeroFuel, fun c => c.limits.fuelMetering ∧ c.limits.maxFuel = 0⟩,
    ⟨.timeoutMs, .zeroTimeout, fun c => c.engine.epochInterruption ∧ c.limits.timeoutMs = 0⟩,
    ⟨.maxInstances, .zeroInstances,
      fun c => c.engine.poolingAllocator ∧ c.engine.maxInstances = 0⟩,
    ⟨.maxMemoryMb, .zeroMemory, fun c => c.limits.maxMemoryMb = 0⟩]

/-- The report of the first rule that is broken. -/
def Rule.report (rules : List Rule) (c : RuntimeSettings) : Except StartupError Unit :=
  match rules.find? (·.broken c) with
  | some rule => .error (.invalid rule.key.name rule.fault)
  | none => .ok ()

theorem Rule.report_cons (rule : Rule) (rules : List Rule) (c : RuntimeSettings) :
    report (rule :: rules) c =
      if rule.broken c then .error (.invalid rule.key.name rule.fault) else report rules c := by
  cases broken : rule.broken c <;> simp [report, broken]

/-- Settings are refused with the first rule that they break. -/
theorem validate_eq (c : RuntimeSettings) : c.validate = Rule.report Rule.all c := by
  simp only [Rule.all, Rule.report_cons, decide_eq_true_eq]
  rfl

/-- The settings of the runtime are read one after the other. -/
theorem read_eq (s : Settings.Store) :
    read s = do
      let poolingAllocator ← s.value .poolingAllocator
      let maxInstances ← s.value .maxInstances
      let epochInterruption ← s.value .epochInterruption
      let maxFuel ← s.value .maxFuel
      let timeoutMs ← s.value .timeoutMs
      let maxMemoryMb ← s.value .maxMemoryMb
      let fuelMetering ← s.value .fuelMetering
      return {
        engine := { poolingAllocator, maxInstances, epochInterruption }
        limits := { maxFuel, timeoutMs, maxMemoryMb, fuelMetering } } := by
  rw [← Store.readOr_eq_value (k := .poolingAllocator) rfl (Setting.asBool_eq _),
    ← Store.readOr_eq_value (k := .maxInstances) rfl (Setting.asUInt32_eq _),
    ← Store.readOr_eq_value (k := .epochInterruption) rfl (Setting.asBool_eq _),
    ← Store.readOr_eq_value (k := .maxFuel) rfl (Setting.asUInt64_eq _),
    ← Store.readOr_eq_value (k := .timeoutMs) rfl (Setting.asUInt64_eq _),
    ← Store.readOr_eq_value (k := .maxMemoryMb) rfl (Setting.asUInt32_eq _),
    ← Store.readOr_eq_value (k := .fuelMetering) rfl (Setting.asBool_eq _)]
  rfl

/-- The settings of the runtime that nine values make. The size of a place in a pool and the
interval of the clock cannot be set. -/
def ofValues (v : (k : Key) → k.Value) : RuntimeSettings where
  engine :=
    { poolingAllocator := v .poolingAllocator
      maxInstances := v .maxInstances
      instanceMemoryMb := 128
      epochInterruption := v .epochInterruption
      epochTickMs := 1 }
  limits :=
    { maxFuel := v .maxFuel
      timeoutMs := v .timeoutMs
      maxMemoryMb := v .maxMemoryMb
      fuelMetering := v .fuelMetering }

end RuntimeSettings

/-- What the runtime is launched with when the settings have nine values. -/
def StartupParams.ofValues (levels : LevelMapping) (tier : TrustTier) (v : (k : Key) → k.Value) :
    StartupParams where
  trust := .ofTier tier
  modulePath := v .modulePath
  logThreshold := levels.hostToCommon (v .logMinMessages)
  runtime := .ofValues v

namespace Settings.Store

variable {s : Store} {error : StartupError}

/-- Why startup cannot use what a store has under a key. -/
def problem? (s : Store) (k : Key) : Option StartupError :=
  match s.value k with
  | .ok _ => none
  | .error error => some error

theorem problem?_eq_some_iff {k : Key} : s.problem? k = some error ↔ s.value k = .error error := by
  unfold problem?
  cases value : s.value k <;> simp

theorem problem?_eq_none_iff {k : Key} : s.problem? k = none ↔ ∃ v, s.Says k v := by
  simp only [← value_eq_ok_iff, problem?]
  cases value : s.value k <;> simp

/-- Reading a setting and going on reports the first problem, if going on does so. -/
theorem bind_of_problem {α : Type} {k : Key} {ks : List Key}
    {next : k.Value → Except StartupError α}
    (first : (k :: ks).findSome? s.problem? = some error)
    (rest : ∀ v, ks.findSome? s.problem? = some error → next v = .error error) :
    (s.value k >>= next) = .error error := by
  rw [List.findSome?_cons, problem?] at first
  cases value : s.value k with
  | error problem =>
    rw [value] at first
    cases first
    rfl
  | ok v =>
    rw [value] at first
    exact rest v first

end Settings.Store

namespace Embedder

open RuntimeSettings

variable {s s' : Settings.Store} {levels : LevelMapping} {tier : TrustTier}

/-! ### The settings one after the other -/

theorem logLevel_eq_value (s : Settings.Store) : logLevel s = s.value .logMinMessages :=
  Store.readOr_eq_value rfl (Setting.asHostLevel_eq _)

/-- Startup reads the settings one after the other, and then checks the rules. -/
theorem startupParams_eq (s : Settings.Store) (levels : LevelMapping) (tier : TrustTier) :
    startupParams s levels tier = do
      let modulePath ← s.value .modulePath
      let level ← s.value .logMinMessages
      let poolingAllocator ← s.value .poolingAllocator
      let maxInstances ← s.value .maxInstances
      let epochInterruption ← s.value .epochInterruption
      let maxFuel ← s.value .maxFuel
      let timeoutMs ← s.value .timeoutMs
      let maxMemoryMb ← s.value .maxMemoryMb
      let fuelMetering ← s.value .fuelMetering
      let runtime : RuntimeSettings := {
        engine := { poolingAllocator, maxInstances, epochInterruption }
        limits := { maxFuel, timeoutMs, maxMemoryMb, fuelMetering } }
      runtime.validate
      return {
        trust := .ofTier tier
        modulePath
        logThreshold := levels.hostToCommon level
        runtime } := by
  simp only [startupParams, ofStore, read_eq, logLevel_eq_value, ← Store.require_eq_value,
    bind_assoc, pure_bind]

/-- The first setting that startup cannot use is reported. -/
theorem startupParams_of_problem {error : StartupError}
    (first : Key.readingOrder.findSome? s.problem? = some error) :
    startupParams s levels tier = .error error := by
  rw [startupParams_eq]
  -- One setting after the other: it is the problem, or it can be read and a later one is.
  refine Store.bind_of_problem first fun _ first => ?_
  refine Store.bind_of_problem first fun _ first => ?_
  refine Store.bind_of_problem first fun _ first => ?_
  refine Store.bind_of_problem first fun _ first => ?_
  refine Store.bind_of_problem first fun _ first => ?_
  refine Store.bind_of_problem first fun _ first => ?_
  refine Store.bind_of_problem first fun _ first => ?_
  refine Store.bind_of_problem first fun _ first => ?_
  refine Store.bind_of_problem first fun _ first => ?_
  cases first

/-- Settings that can all be used are checked against the rules. -/
theorem startupParams_of_said {v : (k : Key) → k.Value} (said : ∀ k, s.Says k (v k)) :
    startupParams s levels tier =
      (Rule.report Rule.all (.ofValues v)).map fun _ => .ofValues levels tier v := by
  have value (k : Key) : s.value k = .ok (v k) := Store.value_eq_ok_iff.mpr (said k)
  have checked : startupParams s levels tier = (do
      validate (.ofValues v)
      return .ofValues levels tier v) := by
    simp only [startupParams_eq, value]
    rfl
  rw [checked, validate_eq]
  cases Rule.report Rule.all (.ofValues v) <;> rfl

/-! ### What startup makes of a store -/

/-- What startup makes of a store: the first setting that is missing or cannot be read, then the
first rule that is broken, and otherwise the parameters. -/
inductive Decided (s : Settings.Store) (levels : LevelMapping) (tier : TrustTier) :
    Except StartupError StartupParams → Prop where
  | missing (absent : s.lookup? Key.modulePath.name = none) :
      Decided s levels tier (.error (.missing Key.modulePath.name))
  | malformed {before after : List Key} {k : Key} {raw : String} {fault : Fault}
      (order : Key.readingOrder = before ++ k :: after)
      (readable : ∀ earlier ∈ before, ∃ v, s.Says earlier v)
      (stored : s.lookup? k.name = some raw) (unread : k.parse raw = .error fault) :
      Decided s levels tier (.error (.invalid k.name fault))
  | broken {v : (k : Key) → k.Value} {before after : List Rule} {rule : Rule}
      (said : ∀ k, s.Says k (v k)) (order : Rule.all = before ++ rule :: after)
      (kept : ∀ earlier ∈ before, earlier.broken (.ofValues v) = false)
      (breaks : rule.broken (.ofValues v) = true) :
      Decided s levels tier (.error (.invalid rule.key.name rule.fault))
  | accepted {v : (k : Key) → k.Value} (said : ∀ k, s.Says k (v k))
      (kept : ∀ rule ∈ Rule.all, rule.broken (.ofValues v) = false) :
      Decided s levels tier (.ok (.ofValues levels tier v))

theorem decided_startupParams (s : Settings.Store) (levels : LevelMapping) (tier : TrustTier) :
    Decided s levels tier (startupParams s levels tier) := by
  cases first : Key.readingOrder.findSome? s.problem? with
  | some error =>
    rw [startupParams_of_problem first]
    obtain ⟨before, k, after, order, problem, none⟩ := List.findSome?_eq_some_iff.mp first
    rcases Store.value_eq_error_iff.mp (Store.problem?_eq_some_iff.mp problem) with
      ⟨absent, rfl, rfl⟩ | ⟨raw, fault, stored, unread, rfl⟩
    · exact .missing absent
    · have readable (earlier : Key) (member : earlier ∈ before) : ∃ v, s.Says earlier v :=
        Store.problem?_eq_none_iff.mp (none earlier member)
      exact .malformed order readable stored unread
  | none =>
    have readable (k : Key) : ∃ v, s.Says k v :=
      Store.problem?_eq_none_iff.mp (List.findSome?_eq_none_iff.mp first k k.mem_readingOrder)
    choose v said using readable
    rw [startupParams_of_said said, Rule.report]
    cases broken : Rule.all.find? (·.broken (.ofValues v)) with
    | some rule =>
      obtain ⟨breaks, before, after, order, kept⟩ := List.find?_eq_some_iff_append.mp broken
      exact .broken said order (by simpa using kept) breaks
    | none => exact .accepted said (by simpa using List.find?_eq_none.mp broken)

/-- A store decides startup in one way only. -/
theorem Decided.startupParams_eq {verdict : Except StartupError StartupParams}
    (h : Decided s levels tier verdict) : startupParams s levels tier = verdict := by
  cases h with
  | missing absent =>
    have problem : s.problem? .modulePath = some (.missing Key.modulePath.name) :=
      Store.problem?_eq_some_iff.mpr (Store.value_eq_error_iff.mpr (.inl ⟨absent, rfl, rfl⟩))
    exact startupParams_of_problem (List.findSome?_eq_some_iff.mpr ⟨[], _, _, rfl, problem, nofun⟩)
  | @malformed before after k raw fault order readable stored unread =>
    have problem : s.problem? k = some (.invalid k.name fault) :=
      Store.problem?_eq_some_iff.mpr
        (Store.value_eq_error_iff.mpr (.inr ⟨raw, fault, stored, unread, rfl⟩))
    have first : ∀ earlier ∈ before, s.problem? earlier = none := by
      intro earlier member
      exact Store.problem?_eq_none_iff.mpr (readable earlier member)
    exact startupParams_of_problem
      (List.findSome?_eq_some_iff.mpr ⟨before, k, after, order, problem, first⟩)
  | @broken v before after rule said order kept breaks =>
    have first : Rule.all.find? (·.broken (.ofValues v)) = some rule :=
      List.find?_eq_some_iff_append.mpr ⟨breaks, before, after, order, by simpa using kept⟩
    rw [startupParams_of_said said, Rule.report, first]
    rfl
  | @accepted v said kept =>
    have none : Rule.all.find? (·.broken (.ofValues v)) = none :=
      List.find?_eq_none.mpr (by simpa using kept)
    rw [startupParams_of_said said, Rule.report, none]
    rfl

/-- Of a store, only what it has under the nine keys makes a difference. -/
theorem startupParams_congr (levels : LevelMapping) (tier : TrustTier)
    (agree : ∀ k : Key, s'.lookup? k.name = s.lookup? k.name) :
    startupParams s' levels tier = startupParams s levels tier := by
  simp only [Embedder.startupParams_eq, Store.value_congr (agree _)]

/-! ### The attempt -/

variable {ρ : Type} {L : Launcher ρ} {e : Embedder ρ}

theorem ensureReady_of_refused {error : StartupError} (fresh : e.lifecycle = .uninitialized tier)
    (refused : startupParams e.settings e.host.log.levels tier = .error error) :
    e.ensureReady L = (.ok (.error error),
      { e with lifecycle := .failed error tier, attempts := e.attempts + 1 }) := by
  simp only [ensureReady_of_uninitialized fresh, start, refused]

/-- Settings that are accepted reach the launcher, and its answer is the caller's. -/
theorem ensureReady_of_accepted {params : StartupParams}
    (fresh : e.lifecycle = .uninitialized tier)
    (accepted : startupParams e.settings e.host.log.levels tier = .ok params) :
    let answer := (L.launch params (e.host.withThreshold params.logThreshold)).1
    (e.ensureReady L).1 = answer.map (·.map fun _ => ()) ∧
      (e.ensureReady L).2.events =
        e.events ++ [.launch params (answer matches .ok (.ok _))] ∧
      (answer matches .ok (.ok _) → (e.ensureReady L).2.lifecycle.params? = some params) := by
  have started := started_ensureReady (L := L) fresh
  generalize (e.ensureReady L).1 = told at started
  generalize (e.ensureReady L).2 = after at started
  intro answer
  cases started with
  | misconfigured error unread => cases unread.symm.trans accepted
  | unwound params' u host read launch =>
    cases read.symm.trans accepted
    simp [answer, launch, Except.map]
  | refused params' error host read launch =>
    cases read.symm.trans accepted
    simp [answer, launch, Except.map]
  | launched params' runtime host read launch =>
    cases read.symm.trans accepted
    simp [answer, launch, Except.map, Lifecycle.params?]

/-- An attempt does the same with any store that has the same under the nine keys. -/
theorem ensureReady_of_agree (agree : ∀ k : Key, s'.lookup? k.name = e.settings.lookup? k.name) :
    { e with settings := s' }.ensureReady L =
      ((e.ensureReady L).1, { (e.ensureReady L).2 with settings := s' }) := by
  by_cases fresh : e.lifecycle.state = .uninitialized
  · obtain ⟨tier, h⟩ := Lifecycle.state_eq_uninitialized_iff.mp fresh
    have same := startupParams_congr e.host.log.levels tier agree
    rw [ensureReady_of_uninitialized (e := { e with settings := s' }) h,
      ensureReady_of_uninitialized h]
    cases read : startupParams e.settings e.host.log.levels tier with
    | error error => simp only [start, same, read]
    | ok params =>
      simp only [start, same, read, withThreshold]
      rcases L.launch params _ with ⟨_ | _ | _, host⟩ <;> rfl
  · rw [ensureReady_of_tried (e := { e with settings := s' }) fresh, ensureReady_of_tried fresh]
    rfl

/-- **Startup is decided by nine settings.** For every stack of layers, the first attempt to launch
the runtime ends with the first setting that is missing or cannot be read, in the order of reading,
or else with the first rule that is broken; only otherwise is the launcher asked, with exactly the
values that the store says. -/
theorem startup_decided (L : Launcher ρ) (e : Embedder ρ) {tier : TrustTier}
    (fresh : e.lifecycle = .uninitialized tier) :
    let s := e.settings
    let levels := e.host.log.levels
    -- The store decides in exactly one way.
    (∃! verdict, Decided s levels tier verdict) ∧
    -- A setting has the text of the first layer that has it, whatever the layers below say,
    (∀ (k : Key) raw, s.lookup? k.name = some raw ↔
      ∃ above layer below, s.layers = above ++ layer :: below ∧
        layer.lookup? k.name = some raw ∧ ∀ higher ∈ above, higher.lookup? k.name = none) ∧
    -- and that text is read or refused: no default and no lower layer takes its place.
    (∀ (k : Key) raw fault, s.lookup? k.name = some raw → k.parse raw = .error fault →
      (∀ v, ¬ s.Says k v) ∧ ∀ params, ¬ Decided s levels tier (.ok params)) ∧
    -- What is refused is told and remembered, and the launcher is not asked.
    (∀ error, Decided s levels tier (.error error) →
      e.ensureReady L = (.ok (.error error),
        { e with lifecycle := .failed error tier, attempts := e.attempts + 1 })) ∧
    -- What is accepted reaches the launcher, once, and its answer is the caller's.
    (∀ params, Decided s levels tier (.ok params) →
      let answer := (L.launch params (e.host.withThreshold params.logThreshold)).1
      (e.ensureReady L).1 = answer.map (·.map fun _ => ()) ∧
        (e.ensureReady L).2.events =
          e.events ++ [.launch params (answer matches .ok (.ok _))] ∧
        (answer matches .ok (.ok _) → (e.ensureReady L).2.lifecycle.params? = some params)) ∧
    -- Nothing else in a store makes a difference.
    ∀ s' : Settings.Store, (∀ k : Key, s'.lookup? k.name = s.lookup? k.name) →
      { e with settings := s' }.ensureReady L =
        ((e.ensureReady L).1, { (e.ensureReady L).2 with settings := s' }) := by
  intro s levels
  have decided := decided_startupParams s levels tier
  refine ⟨⟨_, decided, fun verdict h => h.startupParams_eq.symm⟩,
    fun k raw => Store.lookup?_eq_some_iff, fun k raw fault stored unread => ?_,
    fun error h => ensureReady_of_refused fresh h.startupParams_eq,
    fun params h => ensureReady_of_accepted fresh h.startupParams_eq,
    fun s' agree => ensureReady_of_agree agree⟩
  have unsaid (v : k.Value) : ¬ s.Says k v := by
    intro said
    have refused : s.value k = .error (.invalid k.name fault) :=
      Store.value_eq_error_iff.mpr (.inr ⟨raw, fault, stored, unread, rfl⟩)
    cases (Store.value_eq_ok_iff.mpr said).symm.trans refused
  refine ⟨unsaid, ?_⟩
  rintro params ⟨⟩
  next v said kept => exact unsaid _ (said k)

/-- A text that is no number is refused, although the layer below has one and a later setting is
malformed, too. -/
theorem startup_decided_malformed_above :
    let L : Launcher Unit := ⟨fun _ host => (.ok (.ok ()), host), fun _ runtime host =>
      (.error ⟨"never"⟩, runtime, host), fun _ _ runtime host => (.error ⟨"never"⟩, runtime, host),
      fun _ host => (.ok (), host)⟩
    let s : Settings.Store := ⟨[
      .table ⟨[("plwasm.module_path", "mods"), ("plwasm.max_fuel", "much")]⟩,
      .table ⟨[("plwasm.max_fuel", "5"), ("plwasm.timeout_ms", "soon")]⟩]⟩
    let e : Embedder Unit := new s {}
    e.lifecycle = .uninitialized .trusted ∧
      e.ensureReady L = (.ok (.error (.invalid "plwasm.max_fuel" (.notUnsigned .invalidDigit))),
        { e with
          lifecycle := .failed (.invalid "plwasm.max_fuel" (.notUnsigned .invalidDigit)) .trusted
          attempts := 1 }) := by
  intro L s e
  obtain ⟨-, -, -, refused, -⟩ := startup_decided L e (rfl : e.lifecycle = .uninitialized .trusted)
  have verdict : Decided s e.host.log.levels .trusted
      (.error (.invalid Key.maxFuel.name (.notUnsigned .invalidDigit))) := by
    have readable : ∀ earlier ∈ Key.readingOrder.take 5, ∃ v, s.Says earlier v := by
      simp only [Key.readingOrder, List.take, List.forall_mem_cons]
      exact ⟨⟨["mods"], .stored rfl rfl⟩, ⟨_, .unset rfl rfl⟩, ⟨_, .unset rfl rfl⟩,
        ⟨_, .unset rfl rfl⟩, ⟨_, .unset rfl rfl⟩, nofun⟩
    exact .malformed rfl readable (rfl : s.lookup? Key.maxFuel.name = some "much") rfl
  exact ⟨rfl, refused _ verdict⟩

end Embedder

end GuestRoutines
