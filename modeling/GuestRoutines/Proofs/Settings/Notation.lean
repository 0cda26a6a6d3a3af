import GuestRoutines.Proofs.Embedding.Startup
import GuestRoutines.Proofs.Json.Record
import GuestRoutines.Proofs.Json.Writer
import GuestRoutines.Settings.Notation

/-!
# Settings survive JSON

The JSON text of some settings is read as these settings. Fields or whole sections of it may be left
out, and then have their defaults, whatever else is put in between.

## Main definitions

* `RuntimeSettings.Kept`, `RuntimeSettings.keeping` — the settings of which only some are kept
* `RuntimeSettings.Edited` — the JSON values that become of some settings

## Main results

* `EngineSettings.ofJson?_of_edited`, `CallLimits.ofJson?_of_edited` — the sections
* `RuntimeSettings.edited_survives` — the settings as a whole
-/

namespace GuestRoutines

variable {kept : String → Bool} {members : List (String × Json)}

namespace EngineSettings

/-- The fields by name. -/
def fields (e : EngineSettings) : List (String × Json) :=
  [("pooling_allocator", .bool e.poolingAllocator), ("max_instances", .ofInt e.maxInstances.toNat),
    ("instance_memory_mb", .ofInt e.instanceMemoryMb.toNat),
    ("epoch_interruption", .bool e.epochInterruption),
    ("epoch_tick_ms", .ofInt e.epochTickMs.toNat)]

/-- The settings of which only some fields are kept, and all others are the defaults. -/
def keeping (kept : String → Bool) (e : EngineSettings) : EngineSettings :=
  let standard : EngineSettings := {}
  { poolingAllocator :=
      if kept "pooling_allocator" then e.poolingAllocator else standard.poolingAllocator
    maxInstances := if kept "max_instances" then e.maxInstances else standard.maxInstances
    instanceMemoryMb :=
      if kept "instance_memory_mb" then e.instanceMemoryMb else standard.instanceMemoryMb
    epochInterruption :=
      if kept "epoch_interruption" then e.epochInterruption else standard.epochInterruption
    epochTickMs := if kept "epoch_tick_ms" then e.epochTickMs else standard.epochTickMs }

/-- The fields that are kept are read as they were, and the others as their defaults. -/
theorem ofJson?_of_edited {e : EngineSettings} (edited : Json.Edited kept e.fields members) :
    ofJson? (.ofMembers members) = some (e.keeping kept) := by
  obtain ⟨f, read, gives⟩ := edited.exists_gives (show _ = fieldNames from rfl) (by decide)
  simp only [Json.Fields.Gives, fields, List.forall_mem_cons] at gives
  obtain ⟨pooling, instances, memory, epoch, tick, -⟩ := gives
  simp only [ofJson?, read, Option.bind_eq_bind, Option.bind_some, Option.pure_def,
    Json.Fields.get?_eq_some pooling (Json.asBool?_bool _),
    Json.Fields.get?_eq_some instances (Json.asUInt32?_ofInt _),
    Json.Fields.get?_eq_some memory (Json.asUInt32?_ofInt _),
    Json.Fields.get?_eq_some epoch (Json.asBool?_bool _),
    Json.Fields.get?_eq_some tick (Json.asUInt64?_ofInt _)]
  rfl

end EngineSettings

namespace CallLimits

/-- The fields by name. -/
def fields (l : CallLimits) : List (String × Json) :=
  [("max_fuel", .ofInt l.maxFuel.toNat), ("timeout_ms", .ofInt l.timeoutMs.toNat),
    ("max_memory_mb", .ofInt l.maxMemoryMb.toNat), ("fuel_metering", .bool l.fuelMetering)]

/-- The limits of which only some fields are kept, and all others are the defaults. -/
def keeping (kept : String → Bool) (l : CallLimits) : CallLimits :=
  let standard : CallLimits := {}
  { maxFuel := if kept "max_fuel" then l.maxFuel else standard.maxFuel
    timeoutMs := if kept "timeout_ms" then l.timeoutMs else standard.timeoutMs
    maxMemoryMb := if kept "max_memory_mb" then l.maxMemoryMb else standard.maxMemoryMb
    fuelMetering := if kept "fuel_metering" then l.fuelMetering else standard.fuelMetering }

/-- The fields that are kept are read as they were, and the others as their defaults. -/
theorem ofJson?_of_edited {l : CallLimits} (edited : Json.Edited kept l.fields members) :
    ofJson? (.ofMembers members) = some (l.keeping kept) := by
  obtain ⟨f, read, gives⟩ := edited.exists_gives (show _ = fieldNames from rfl) (by decide)
  simp only [Json.Fields.Gives, fields, List.forall_mem_cons] at gives
  obtain ⟨fuel, timeout, memory, metering, -⟩ := gives
  simp only [ofJson?, read, Option.bind_eq_bind, Option.bind_some, Option.pure_def,
    Json.Fields.get?_eq_some fuel (Json.asUInt64?_ofInt _),
    Json.Fields.get?_eq_some timeout (Json.asUInt64?_ofInt _),
    Json.Fields.get?_eq_some memory (Json.asUInt32?_ofInt _),
    Json.Fields.get?_eq_some metering (Json.asBool?_bool _)]
  rfl

end CallLimits

namespace RuntimeSettings

/-- Which sections are kept, and which fields in each of them. -/
structure Kept where
  sections : String → Bool
  engine : String → Bool
  limits : String → Bool

/-- The settings of which only some sections and fields are kept, and all others are the
defaults. -/
def keeping (kept : Kept) (c : RuntimeSettings) : RuntimeSettings :=
  let standard : RuntimeSettings := {}
  { engine := if kept.sections "engine" then c.engine.keeping kept.engine else standard.engine
    limits := if kept.sections "execution" then c.limits.keeping kept.limits else standard.limits }

/-- The objects that become of some settings when sections and fields are left out and others put
in. -/
inductive Edited (kept : Kept) (c : RuntimeSettings) : Json → Prop where
  | object {engine limits members : List (String × Json)}
      (engineEdited : Json.Edited kept.engine c.engine.fields engine)
      (limitsEdited : Json.Edited kept.limits c.limits.fields limits)
      (sectionsEdited : Json.Edited kept.sections
        [("engine", .ofMembers engine), ("execution", .ofMembers limits)] members) :
      Edited kept c (.ofMembers members)

variable {kept : Kept} {c : RuntimeSettings} {v : Json} {s : String}

theorem Edited.ofJson? (edited : Edited kept c v) : ofJson? v = some (c.keeping kept) := by
  obtain ⟨engineEdited, limitsEdited, sectionsEdited⟩ := edited
  obtain ⟨f, read, gives⟩ := sectionsEdited.exists_gives (show _ = fieldNames from rfl) (by decide)
  simp only [Json.Fields.Gives, List.forall_mem_cons] at gives
  obtain ⟨engine, limits, -⟩ := gives
  simp only [RuntimeSettings.ofJson?, read, Option.bind_eq_bind, Option.bind_some, Option.pure_def,
    Json.Fields.get?_eq_some engine (EngineSettings.ofJson?_of_edited engineEdited),
    Json.Fields.get?_eq_some limits (CallLimits.ofJson?_of_edited limitsEdited)]
  rfl

theorem Edited.parseJson? (edited : Edited kept c v) (spelled : Json.Spells s v) :
    parseJson? s = some (c.keeping kept) := by
  rw [RuntimeSettings.parseJson?, Json.parse?_eq_some_iff.mpr spelled, Option.bind_some,
    edited.ofJson?]

/-- The object of all settings. -/
theorem edited_toJson (c : RuntimeSettings) :
    Edited ⟨fun _ => true, fun _ => true, fun _ => true⟩ c c.toJson :=
  .object (.refl _) (.refl _) (.refl _)

/-- Nothing is left of the settings. -/
theorem edited_nil (c : RuntimeSettings) :
    Edited ⟨fun _ => false, fun _ => false, fun _ => false⟩ c (.ofMembers []) :=
  .object (.nil _) (.nil _) (.nil _)

theorem isWritable_toJson (c : RuntimeSettings) : c.toJson.IsWritable := by
  have engine : c.engine.toJson.IsWritable :=
    Json.isWritable_ofMembers (by simp [Json.isWritable_ofInt, Json.IsWritable])
  have limits : c.limits.toJson.IsWritable :=
    Json.isWritable_ofMembers (by simp [Json.isWritable_ofInt, Json.IsWritable])
  exact Json.isWritable_ofMembers (by simp [engine, limits])

/-- **Settings survive JSON as a whole and in part.** Sections and fields that are left out have
their defaults, members that are no fields do not matter, and neither does the order; the verdict on
the settings depends on nothing but the fields that are left. -/
theorem edited_survives (c : RuntimeSettings) :
    parseJson? c.toJson.compact = some c ∧
      (∀ kept v s, Edited kept c v → Json.Spells s v →
        parseJson? s = some (c.keeping kept) ∧
          (parseJson? s).map validate = some (Rule.report Rule.all (c.keeping kept)) ∧
          ∀ c' v' s', Edited kept c' v' → Json.Spells s' v' → c'.keeping kept = c.keeping kept →
            (parseJson? s').map validate = (parseJson? s).map validate) ∧
      ∀ s, Json.Spells s (.object []) → parseJson? s = some {} := by
  refine ⟨?_, fun kept v s edited spelled => ?_, fun s spelled => ?_⟩
  · exact (edited_toJson c).parseJson? (isWritable_toJson c).spells_compact
  · have read := edited.parseJson? spelled
    refine ⟨read, ?_, fun c' v' s' edited' spelled' same => ?_⟩
    · rw [read, Option.map_some, validate_eq]
    · rw [read, edited'.parseJson? spelled', same]
  · exact (edited_nil c).parseJson? spelled

theorem edited_survives_greatest_timeout :
    parseJson?
          "\x7b\"x\":[1],\"execution\":\x7b\"timeout_ms\":18446744073709551615,\"x\":0\x7d\x7d" =
        some { limits := { timeoutMs := 18446744073709551615 } } ∧
      (parseJson? "\x7b\"execution\":\x7b\"timeout_ms\":18446744073709551615\x7d\x7d").map
        validate = some (.ok ()) ∧
      parseJson? " \x7b \x7d" = some {} := by
  let kept : Kept := ⟨(· == "execution"), fun _ => true, (· == "timeout_ms")⟩
  let settings (fuel : UInt64) : RuntimeSettings :=
    { limits := { maxFuel := fuel, timeoutMs := 18446744073709551615 } }
  let timeout : String × Json := ("timeout_ms", .ofInt 18446744073709551615)
  have edited : Edited kept (settings 0) (.ofMembers
      [("x", .array [.ofInt 1]), ("execution", .ofMembers [timeout, ("x", .ofInt 0)])]) :=
    .object (.refl _) ⟨[("x", .ofInt 0)], by simp [CallLimits.fields], .refl _⟩
      ⟨[("x", .array [.ofInt 1])], by simp, .swap _ _ _⟩
  have bare : Edited kept (settings 1) (.ofMembers [("execution", .ofMembers [timeout])]) :=
    .object (.refl _) ⟨[], nofun, .refl _⟩ ⟨[], nofun, .refl _⟩
  obtain ⟨-, read, standard⟩ := edited_survives (settings 0)
  obtain ⟨same, -, verdict⟩ := read kept _
    "\x7b\"x\":[1],\"execution\":\x7b\"timeout_ms\":18446744073709551615,\"x\":0\x7d\x7d"
    edited (Json.parse?_eq_some_iff.mp rfl)
  refine ⟨same, ?_, standard _ (Json.parse?_eq_some_iff.mp rfl)⟩
  rw [verdict _ _ _ bare (Json.parse?_eq_some_iff.mp rfl) rfl, same]
  rfl

end RuntimeSettings

end GuestRoutines
