import GuestRoutines.Proofs.Json.Writer
import GuestRoutines.Value.Notation
import Mathlib.Data.Set.List

/-!
# Values without a tag

The JSON form of a value does not say of which kind the value is, and yet it is read as the value
that was written. The only exceptions are floats, which may look like integers. Bytes are read from
an array of their numbers and from nothing else, and integers from their one numeral.

## Main results

* `HostValue.parseJson?_eq_some_iff` — what is read from a text
* `HostValue.parseJson?_toJson` — what is written is read back
* `HostValue.untagged_unambiguous` — all of it
-/

namespace GuestRoutines.HostValue

/-- The JSON value of some bytes: the array of their numbers. -/
def bytesJson (b : ByteArray) : Json := .array (b.data.toList.map fun x => .ofInt x.toNat)

variable {s : String} {v : Json} {u : HostValue}

/-! ### Numbers -/

/-- A number is read as an integer or as a float, whichever its numeral stands for. -/
theorem ofJson?_number_eq_some_iff {n : Json.Numeral} :
    ofJson? (.number n) = some u ↔
      (∃ k, n.scalar? = some (.int k) ∧ u = ofInt k) ∨
        ∃ x, n.scalar? = some (.float x) ∧ u = float x := by
  unfold ofJson?
  dsimp only
  split
  · next k scalar => simp [scalar, eq_comm]
  · next x scalar => simp [scalar, eq_comm]
  · next scalar => simp [scalar]

/-- A whole number becomes the integer that it is, or a float if it does not fit. -/
theorem ofInt_cases (k : Int) : (∃ n : Int64, n.toInt = k ∧ ofInt k = int n) ∨
    ∃ x, ofInt k = float x := by
  unfold ofInt
  split
  · next range =>
    refine .inl ⟨_, ?_, rfl⟩
    exact Int64.toInt_ofInt_of_le (Int.le_trans (by decide) range.1)
      (Int.lt_of_le_of_lt range.2 (by decide))
  · exact .inr ⟨_, rfl⟩

/-! ### Sound values -/

theorem exists_of_byteOfJson? {x : UInt8} (read : byteOfJson? v = some x) :
    ∃ n, v = .number n ∧ n.scalar? = some (.int x.toNat) := by
  unfold byteOfJson? at read
  split at read
  · next n =>
    split at read
    · next k scalar =>
      rw [Option.ite_none_right_eq_some, Option.some.injEq] at read
      obtain ⟨⟨lower, upper⟩, rfl⟩ := read
      have small : k.toNat < UInt8.size := (Int.toNat_lt lower).mpr upper
      have same : (UInt8.ofNat k.toNat).toNat = k.toNat := UInt8.toNat_ofNat_of_lt' small
      refine ⟨n, rfl, ?_⟩
      rw [scalar, same, Int.toNat_of_nonneg lower]
    · cases read
  · cases read

theorem byteOfJson?_ofInt (x : UInt8) : byteOfJson? (.ofInt x.toNat) = some x := by
  have small : x.toNat < 256 := x.toNat_lt
  have scalar : (Json.Numeral.ofInt x.toNat).scalar? = some (.int x.toNat) := by
    apply Json.Numeral.scalar?_ofInt
    · exact Int.le_trans (by decide) (Int.natCast_nonneg _)
    · have bound : Json.wordBound = 18446744073709551616 := rfl
      omega
  simp only [byteOfJson?, Json.ofInt, scalar]
  rw [if_pos (by omega), Int.toNat_natCast, UInt8.ofNat_toNat]

/-- Items that are bytes are numerals in range. -/
theorem sound_items {items : List Json} {bs : List UInt8}
    (read : items.mapM byteOfJson? = some bs) :
    Json.depthOfItems items = 0 ∧ Json.areWhole items = true := by
  induction items generalizing bs with
  | nil => exact ⟨rfl, rfl⟩
  | cons v items ih =>
    simp only [List.mapM_cons, Option.bind_eq_bind, Option.bind_eq_some_iff] at read
    obtain ⟨x, first, xs, others, -⟩ := read
    obtain ⟨n, rfl, scalar⟩ := exists_of_byteOfJson? first
    obtain ⟨flat, whole⟩ := ih others
    exact ⟨by simp [Json.depthOfItems, Json.depth, flat],
      by simp [Json.areWhole, Json.isWhole, scalar, whole]⟩

/-- What stands for a value can be used as a whole. -/
theorem isSound_of_ofJson? (read : ofJson? v = some u) : v.isSound = true := by
  cases v with
  | null => rfl
  | bool b => rfl
  | number n =>
    have scalar : n.scalar?.isSome := by
      rcases ofJson?_number_eq_some_iff.mp read with ⟨k, scalar, -⟩ | ⟨x, scalar, -⟩
      · rw [scalar]; rfl
      · rw [scalar]; rfl
    simp [Json.isSound, Json.depth, Json.isWhole, scalar]
  | text s =>
    obtain ⟨t, rfl, -⟩ := Option.map_eq_some_iff.mp read
    rfl
  | array items =>
    obtain ⟨bs, found, -⟩ := Option.map_eq_some_iff.mp read
    obtain ⟨flat, whole⟩ := sound_items found
    simp [Json.isSound, Json.depth, Json.isWhole, flat, whole, Json.maxDepth]
  | object members => cases read

/-- A text is read as the value for which the JSON value stands that it spells. -/
theorem parseJson?_eq_some_iff :
    parseJson? s = some u ↔ ∃ v, Json.Spells s v ∧ ofJson? v = some u := by
  simp only [parseJson?, Json.parseSound?, Option.bind_eq_some_iff, Option.filter_eq_some_iff,
    Json.parse?_eq_some_iff]
  constructor
  · rintro ⟨v, ⟨spelled, -⟩, read⟩
    exact ⟨v, spelled, read⟩
  · rintro ⟨v, spelled, read⟩
    exact ⟨v, ⟨spelled, isSound_of_ofJson? read⟩, read⟩

theorem parseJson?_of_spells (spelled : Json.Spells s v) : parseJson? s = ofJson? v := by
  refine Option.ext fun u => ?_
  rw [parseJson?_eq_some_iff]
  constructor
  · rintro ⟨w, spelled', read⟩
    rwa [spelled.unique spelled']
  · exact fun read => ⟨v, spelled, read⟩

/-! ### Integers and bytes -/

theorem ofInt_toInt (n : Int64) : ofInt n.toInt = int n := by
  rw [ofInt, if_pos ⟨n.minValue_le_toInt, n.toInt_le⟩, Int64.ofInt_toInt]

theorem scalar?_ofInt_toInt (n : Int64) :
    (Json.Numeral.ofInt n.toInt).scalar? = some (.int n.toInt) := by
  have upper : n.toInt ≤ Int64.maxValue.toInt := n.toInt_le
  exact Json.Numeral.scalar?_ofInt n.minValue_le_toInt (Int.lt_of_le_of_lt upper (by decide))

theorem ofJson?_ofInt (n : Int64) : ofJson? (.ofInt n.toInt) = some (int n) := by
  simp only [ofJson?, Json.ofInt, scalar?_ofInt_toInt, ofInt_toInt]

/-- An integer is read from a number only that stands for it as a whole number. -/
theorem exists_of_ofJson?_int {n : Int64} (read : ofJson? v = some (int n)) :
    ∃ m, v = .number m ∧ m.scalar? = some (.int n.toInt) := by
  cases v with
  | number m =>
    rcases ofJson?_number_eq_some_iff.mp read with ⟨k, scalar, same⟩ | ⟨x, -, same⟩
    · rcases ofInt_cases k with ⟨n', rfl, become⟩ | ⟨x, become⟩
      · obtain rfl := int.inj (same.trans become)
        exact ⟨m, rfl, scalar⟩
      · cases same.trans become
    · cases same
  | text s => obtain ⟨t, -, same⟩ := Option.map_eq_some_iff.mp read; cases same
  | array items => obtain ⟨bs, -, same⟩ := Option.map_eq_some_iff.mp read; cases same
  | _ => cases read

/-- Items are read as bytes if they are the numerals of the bytes. -/
theorem mapM_byteOfJson?_eq_some_iff {items : List Json} {bs : List UInt8}
    (canonical : ∀ n k, .number n ∈ items → n.scalar? = some (.int k) → n = .ofInt k) :
    items.mapM byteOfJson? = some bs ↔ items = bs.map fun x => .ofInt x.toNat := by
  induction items generalizing bs with
  | nil => cases bs <;> simp
  | cons v items ih =>
    have rest := fun n k member => canonical n k (List.mem_cons_of_mem v member)
    simp only [List.mapM_cons, Option.bind_eq_bind, Option.bind_eq_some_iff, Option.pure_def,
      Option.some.injEq]
    constructor
    · rintro ⟨x, first, xs, others, rfl⟩
      obtain ⟨n, rfl, scalar⟩ := exists_of_byteOfJson? first
      rw [canonical n _ List.mem_cons_self scalar, (ih rest).mp others]
      rfl
    · intro same
      obtain ⟨x, xs, rfl, rfl, rfl⟩ := List.map_eq_cons_iff.mp same.symm
      exact ⟨x, byteOfJson?_ofInt x, xs, (ih rest).mpr rfl, rfl⟩

theorem parseJson?_of_spells_array {items : List Json} (spelled : Json.Spells s (.array items))
    {b : ByteArray} : parseJson? s = some (bytes b) ↔ .array items = bytesJson b := by
  have canonical (n : Json.Numeral) (k : Int) (member : .number n ∈ items)
      (scalar : n.scalar? = some (.int k)) : n = .ofInt k :=
    spelled.eq_ofInt (Json.number_mem_tokens_array member) scalar
  rw [parseJson?_of_spells spelled, bytesJson, Json.array.injEq,
    ← mapM_byteOfJson?_eq_some_iff canonical, ofJson?, Option.map_eq_some_iff]
  constructor
  · rintro ⟨bs, read, same⟩
    obtain rfl : ⟨bs.toArray⟩ = b := bytes.inj same
    exact read
  · exact fun read => ⟨_, read, rfl⟩

/-- Bytes are read from the array of their numbers and from nothing else. -/
theorem parseJson?_eq_bytes_iff {b : ByteArray} :
    parseJson? s = some (bytes b) ↔ Json.Spells s (bytesJson b) := by
  constructor
  · intro read
    obtain ⟨v, spelled, found⟩ := parseJson?_eq_some_iff.mp read
    cases v with
    | array items => exact (parseJson?_of_spells_array spelled).mp read ▸ spelled
    | number n =>
      rcases ofJson?_number_eq_some_iff.mp found with ⟨k, -, same⟩ | ⟨x, -, same⟩
      · rcases ofInt_cases k with ⟨n, -, become⟩ | ⟨x, become⟩
        · cases same.trans become
        · cases same.trans become
      · cases same
    | text t => obtain ⟨t, -, same⟩ := Option.map_eq_some_iff.mp found; cases same
    | _ => cases found
  · exact fun spelled => (parseJson?_of_spells_array spelled).mpr rfl

/-- An integer is read from its numeral and from nothing else. -/
theorem parseJson?_eq_int_iff {n : Int64} :
    parseJson? s = some (int n) ↔ Json.Spells s (.ofInt n.toInt) := by
  constructor
  · intro read
    obtain ⟨v, spelled, found⟩ := parseJson?_eq_some_iff.mp read
    obtain ⟨m, rfl, scalar⟩ := exists_of_ofJson?_int found
    obtain rfl := spelled.eq_ofInt (List.mem_singleton.mpr rfl) scalar
    exact spelled
  · intro spelled
    rw [parseJson?_of_spells spelled, ofJson?_ofInt]

/-- An array of anything but bytes is refused. -/
theorem parseJson?_eq_none_iff {items : List Json} (spelled : Json.Spells s (.array items)) :
    parseJson? s = none ↔ ∃ v ∈ items, ∀ k < 256, v ≠ .ofInt (k : Nat) := by
  -- The arrays that are read are the images of lists of bytes, so their items decide one by one.
  have bytes_iff : (∃ b, .array items = bytesJson b) ↔
      items ∈ Set.range (List.map fun x : UInt8 => Json.ofInt x.toNat) := by
    simp only [bytesJson, Json.array.injEq]
    exact ⟨fun ⟨b, same⟩ => ⟨_, same.symm⟩, fun ⟨bs, same⟩ => ⟨⟨bs.toArray⟩, same.symm⟩⟩
  have item_iff (v : Json) : v ∈ Set.range (fun x : UInt8 => Json.ofInt x.toNat) ↔
      ∃ k < 256, v = .ofInt (k : Nat) := by
    constructor
    · rintro ⟨x, rfl⟩
      exact ⟨x.toNat, x.toNat_lt, rfl⟩
    · rintro ⟨k, small, rfl⟩
      exact ⟨UInt8.ofNat k, congrArg (fun n : Nat => Json.ofInt n) (UInt8.toNat_ofNat_of_lt' small)⟩
  have read_iff : parseJson? s ≠ none ↔ ∃ b, .array items = bytesJson b := by
    constructor
    · intro read
      obtain ⟨u, read⟩ := Option.ne_none_iff_exists'.mp read
      have found : ofJson? (.array items) = some u := (parseJson?_of_spells spelled).symm.trans read
      obtain ⟨bs, -, rfl⟩ := Option.map_eq_some_iff.mp found
      exact ⟨_, (parseJson?_of_spells_array spelled).mp read⟩
    · rintro ⟨b, same⟩
      rw [(parseJson?_of_spells_array spelled).mpr same]
      exact Option.some_ne_none _
  rw [← not_iff_not, ← ne_eq, read_iff, bytes_iff, Set.range_list_map]
  simp [item_iff]

/-! ### Writing -/

theorem areWritable_ofInt (bs : List UInt8) :
    Json.AreWritable (bs.map fun x => .ofInt x.toNat) := by
  induction bs with
  | nil => trivial
  | cons x bs ih => exact ⟨Json.isWritable_ofInt _, ih⟩

/-- What is written of a value that is no float is read as this value. -/
theorem parseJson?_toJson (exact : ∀ x, u ≠ float x) : parseJson? u.toJson = some u := by
  have scalar {v : Json} (writable : v.IsWritable) (read : ofJson? v = some u) :
      parseJson? v.compact = some u :=
    parseJson?_eq_some_iff.mpr ⟨v, writable.spells_compact, read⟩
  cases u with
  | null => exact scalar trivial rfl
  | bool b => exact scalar trivial rfl
  | int n => exact scalar (Json.isWritable_ofInt _) (ofJson?_ofInt n)
  | float x => exact absurd rfl (exact x)
  | text s => exact scalar rfl rfl
  | bytes b =>
    have writable : (bytesJson b).IsWritable := areWritable_ofInt b.data.toList
    exact parseJson?_eq_bytes_iff.mpr writable.spells_compact

/-- **The JSON form of a value needs no tag.** What is written of anything but a float is read back,
and a text is read as bytes or as an integer only if it could have been written of them. -/
theorem untagged_unambiguous :
    (∀ u, (∀ x, u ≠ float x) → parseJson? u.toJson = some u) ∧
      ∀ s, (∀ b, parseJson? s = some (bytes b) ↔ Json.Spells s (bytesJson b)) ∧
        (∀ n, parseJson? s = some (int n) ↔ Json.Spells s (.ofInt n.toInt)) ∧
        (∀ members, Json.Spells s (.object members) → parseJson? s = none) ∧
        ∀ items, Json.Spells s (.array items) →
          (parseJson? s = none ↔ ∃ v ∈ items, ∀ k < 256, v ≠ .ofInt (k : Nat)) := by
  refine ⟨fun u => parseJson?_toJson, fun s => ⟨fun b => parseJson?_eq_bytes_iff,
    fun n => parseJson?_eq_int_iff, fun members spelled => ?_, fun items => parseJson?_eq_none_iff⟩⟩
  rw [parseJson?_of_spells spelled]
  rfl

theorem untagged_unambiguous_edges :
    parseJson? (text "\x00\"\\\n𝕊").toJson = some (text "\x00\"\\\n𝕊") ∧
      parseJson? (int Int64.minValue).toJson = some (int Int64.minValue) ∧
      parseJson? (bytes ⟨#[]⟩).toJson = some (bytes ⟨#[]⟩) ∧
      parseJson? "[0, 256]" = none ∧ parseJson? "\x7b\"a\": 1\x7d" = none := by
  obtain ⟨back, read⟩ := untagged_unambiguous
  obtain ⟨-, -, -, array⟩ := read "[0, 256]"
  obtain ⟨-, -, object, -⟩ := read "\x7b\"a\": 1\x7d"
  refine ⟨back _ nofun, back _ nofun, back _ nofun, ?_, ?_⟩
  · have spelled : Json.Spells "[0, 256]" (.array [.ofInt 0, .ofInt 256]) :=
      Json.parse?_eq_some_iff.mp rfl
    refine (array _ spelled).mpr ⟨.ofInt 256, by simp, fun k small same => ?_⟩
    have whole : Digits.ofNat 256 = Digits.ofNat k := by
      simpa [Json.ofInt, Json.Numeral.ofInt] using same
    have value := congrArg Digits.value whole
    rw [Digits.value_ofNat, Digits.value_ofNat] at value
    omega
  · exact object [(some "a", .ofInt 1)] (Json.parse?_eq_some_iff.mp rfl)

end GuestRoutines.HostValue
