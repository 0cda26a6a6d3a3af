import GuestRoutines.Proofs.Settings.Entries
import GuestRoutines.Proofs.Toml.Distinct
import GuestRoutines.Settings.File

/-!
# Settings of a table as a flat list

Storing the settings of a table goes through its leaves, one after the other: each one is refused,
or becomes an entry under the names that lead to it. Two leaves can have the same name in the store
if there are points in the names of the table or if some of them are empty, and then the later one
stays. Without such names nothing is lost.

## Main definitions

* `Settings.FirstRefused` — the leaf at which storing ends
* `Settings.LastNamed` — the leaf that stays

## Main results

* `Settings.flattenBelow_eq` — storing a table goes through its leaves
* `Settings.flatten_eq_error_iff` — storing fails at the first leaf that is refused
* `Settings.mem_ofList_leaves_iff` — the last leaf with a name stays
* `ConfigurationFile.ordered_settings` — a file gives its settings in order
* `Settings.flatten_faithful` — all of it, for every table
-/

namespace GuestRoutines

namespace Settings

open Toml (leavesOf)

/-! ### Lists of results -/

section

variable {ε α β : Type} {f : α → Except ε β} {as : List α}

theorem mapM_eq_ok {g : α → β} (success : ∀ a ∈ as, f a = .ok (g a)) :
    as.mapM f = .ok (as.map g) := by
  induction as with
  | nil => rfl
  | cons a as ih =>
    have first := success a List.mem_cons_self
    have others := ih fun b member => success b (List.mem_cons_of_mem a member)
    rw [List.mapM_cons, first, others]
    rfl

/-- The first failure is the failure of the whole list. -/
theorem mapM_eq_error_iff {e : ε} :
    as.mapM f = .error e ↔
      ∃ before a after, as = before ++ a :: after ∧ (∀ b ∈ before, ∃ x, f b = .ok x) ∧
        f a = .error e := by
  induction as with
  | nil => simp [pure, Except.pure]
  | cons a as ih =>
    rw [List.mapM_cons]
    cases first : f a with
    | error e' =>
      -- The first item fails before any other one is looked at.
      constructor
      · rintro ⟨⟩
        exact ⟨[], a, as, rfl, by simp, first⟩
      · rintro ⟨before, b, after, split, success, failure⟩
        rcases List.cons_eq_append_iff.mp split with ⟨rfl, same⟩ | ⟨before, rfl, -⟩
        · cases same
          cases first.symm.trans failure
          rfl
        · obtain ⟨x, contrary⟩ := success a List.mem_cons_self
          cases first.symm.trans contrary
    | ok x =>
      -- The first item is passed over, on both sides.
      have whole : (as.mapM f >>= fun xs => pure (x :: xs)) = .error e ↔ as.mapM f = .error e := by
        cases as.mapM f <;> simp [bind, Except.bind, pure, Except.pure]
      refine whole.trans (ih.trans ⟨?_, ?_⟩)
      · rintro ⟨before, b, after, rfl, success, failure⟩
        exact ⟨a :: before, b, after, rfl, List.forall_mem_cons.mpr ⟨⟨x, first⟩, success⟩, failure⟩
      · rintro ⟨before, b, after, split, success, failure⟩
        rcases List.cons_eq_append_iff.mp split with ⟨rfl, same⟩ | ⟨before, rfl, rfl⟩
        · cases same
          cases first.symm.trans failure
        · exact ⟨before, b, after, rfl, (List.forall_mem_cons.mp success).2, failure⟩

end

/-! ### Walking a table -/

variable {ms : Toml.Members} {v : Toml.Value}

/-- A leaf as an entry of the store. -/
def entry (key : String) (v : Toml.Value) : Except FlatError (String × String) :=
  match rawText v with
  | .ok raw => .ok (key, raw)
  | .error fault => .error ⟨key, fault⟩

theorem entry_eq_ok_iff {key : String} {e : String × String} :
    entry key v = .ok e ↔ ∃ raw, rawText v = .ok raw ∧ e = (key, raw) := by
  unfold entry
  cases rawText v <;> simp [eq_comm]

theorem entry_eq_error_iff {key : String} {e : FlatError} :
    entry key v = .error e ↔ ∃ fault, Refuses v fault ∧ e = ⟨key, fault⟩ := by
  simp only [← rawText_eq_error_iff]
  unfold entry
  cases rawText v <;> simp [eq_comm]

theorem flattenValue_of_not_table (key : String) (other : ∀ ms, v ≠ .table ms) :
    flattenValue key v = v.leaves.mapM fun l => entry (l.1.foldl nested key) l.2 := by
  -- What is no table is its own only leaf.
  have one : flattenValue key v = (entry key v).map fun e => [e] := by
    cases v with
    | table ms => exact absurd rfl (other ms)
    | array items =>
      rw [flattenValue, entry]
      · cases rawText (.array items) <;> rfl
      · nofun
    | _ => simp only [flattenValue, entry, rawText]; rfl
  have leaf : v.leaves = [([], v)] := by
    rcases v.leaves_cases with ⟨ms, table, -⟩ | leaf
    · exact absurd table (other ms)
    · exact leaf
  rw [one, leaf, List.mapM_cons, List.mapM_nil, List.foldl_nil]
  cases entry key v <;> rfl

mutual

theorem flattenValue_eq (key : String) : (v : Toml.Value) →
    flattenValue key v = v.leaves.mapM fun l => entry (l.1.foldl nested key) l.2
  | .table ms => by
    rw [flattenValue, Toml.Value.leaves]
    exact flattenBelow_eq key ms
  | .text _ | .int _ | .float _ | .bool _ | .moment _ | .array _ =>
    flattenValue_of_not_table key nofun

/-- Storing the members of a table goes through its leaves. -/
theorem flattenBelow_eq (above : String) : (ms : List (String × Toml.Value)) →
    flattenBelow above ms = (leavesOf ms).mapM fun l => entry (l.1.foldl nested above) l.2
  | [] => by
    rw [flattenBelow, leavesOf, List.mapM_nil]
    rfl
  | (name, v) :: rest => by
    rw [flattenBelow, leavesOf, List.mapM_append, List.mapM_map,
      flattenValue_eq (nested above name) v, flattenBelow_eq above rest]
    rfl

end

theorem flatten_eq (ms : Toml.Members) :
    flatten ms = ((leavesOf ms).mapM fun l => entry (storedName l.1) l.2).map Table.ofList := by
  simp only [flatten, flattenBelow_eq, foldl_nested]

/-- The leaf at which storing a table ends. -/
def FirstRefused (ms : Toml.Members) (l : List String × Toml.Value) (fault : ListFault) : Prop :=
  ∃ before after, leavesOf ms = before ++ l :: after ∧
    (∀ l' ∈ before, ∀ fault', ¬ Refuses l'.2 fault') ∧ Refuses l.2 fault

/-- The leaf that stays under a name of the store. -/
def LastNamed (ms : Toml.Members) (key : String) (l : List String × Toml.Value) : Prop :=
  ∃ before after, leavesOf ms = before ++ l :: after ∧ storedName l.1 = key ∧
    ∀ l' ∈ after, storedName l'.1 ≠ key

/-- Storing a table fails at the first leaf that cannot be stored. -/
theorem flatten_eq_error_iff {e : FlatError} :
    flatten ms = .error e ↔ ∃ l fault, FirstRefused ms l fault ∧ e = ⟨storedName l.1, fault⟩ := by
  have same : flatten ms = .error e ↔
      ((leavesOf ms).mapM fun l => entry (storedName l.1) l.2) = .error e := by
    rw [flatten_eq]
    cases (leavesOf ms).mapM fun l => entry (storedName l.1) l.2 <;> simp [Except.map]
  have stored (l : List String × Toml.Value) :
      (∃ x, entry (storedName l.1) l.2 = .ok x) ↔ ∀ fault, ¬ Refuses l.2 fault := by
    simp only [← rawText_eq_error_iff]
    unfold entry
    cases rawText l.2 <;> simp
  rw [same, mapM_eq_error_iff]
  simp only [entry_eq_error_iff, stored, FirstRefused]
  constructor
  · rintro ⟨before, l, after, split, success, fault, refused, rfl⟩
    exact ⟨l, fault, ⟨before, after, split, success, refused⟩, rfl⟩
  · rintro ⟨l, fault, ⟨before, after, split, success, refused⟩, rfl⟩
    exact ⟨before, l, after, split, success, fault, refused, rfl⟩

theorem exists_firstRefused {l : List String × Toml.Value} (member : l ∈ leavesOf ms)
    (refused : ∃ fault, Refuses l.2 fault) : ∃ l fault, FirstRefused ms l fault := by
  classical
  have found : ((leavesOf ms).find? fun l => decide (∃ fault, Refuses l.2 fault)).isSome :=
    List.find?_isSome.mpr ⟨l, member, decide_eq_true refused⟩
  obtain ⟨first, found⟩ := Option.isSome_iff_exists.mp found
  obtain ⟨refused, before, after, split, earlier⟩ := List.find?_eq_some_iff_append.mp found
  obtain ⟨fault, refused⟩ := of_decide_eq_true refused
  exact ⟨first, fault, before, after, split, by simpa using earlier, refused⟩

/-- If every leaf can be stored, so can the table. -/
theorem exists_flatten (stored : ∀ l ∈ leavesOf ms, ∀ fault, ¬ Refuses l.2 fault) :
    ∃ text : List String × Toml.Value → String, (∀ l ∈ leavesOf ms, rawText l.2 = .ok (text l)) ∧
      flatten ms = .ok (.ofList ((leavesOf ms).map fun l => (storedName l.1, text l))) := by
  choose! text texts using fun l member => exists_rawText (stored l member)
  refine ⟨text, texts, ?_⟩
  have entries : ((leavesOf ms).mapM fun l => entry (storedName l.1) l.2) =
      .ok ((leavesOf ms).map fun l => (storedName l.1, text l)) :=
    mapM_eq_ok fun l member => entry_eq_ok_iff.mpr ⟨text l, texts l member, rfl⟩
  rw [flatten_eq, entries]
  rfl

/-- An entry of the store is the last leaf with its name. -/
theorem mem_ofList_leaves_iff {text : List String × Toml.Value → String}
    (texts : ∀ l ∈ leavesOf ms, rawText l.2 = .ok (text l)) (key raw : String) :
    (key, raw) ∈ (Table.ofList ((leavesOf ms).map fun l => (storedName l.1, text l))).entries ↔
      ∃ l, LastNamed ms key l ∧ rawText l.2 = .ok raw := by
  rw [Table.mem_ofList_iff]
  constructor
  · rintro ⟨before, after, split, later⟩
    obtain ⟨earlier, others, leaves, -, split⟩ := List.map_eq_append_iff.mp split
    obtain ⟨l, rest, rfl, same, rfl⟩ := List.map_eq_cons_iff.mp split
    cases same
    refine ⟨l, ⟨earlier, rest, leaves, rfl, fun l' member => ?_⟩, texts l (by simp [leaves])⟩
    exact later _ (List.mem_map_of_mem member)
  · rintro ⟨l, ⟨earlier, rest, leaves, rfl, later⟩, read⟩
    have same : text l = raw := by
      have given := texts l (by simp [leaves])
      exact Except.ok.inj (given.symm.trans read)
    refine ⟨earlier.map fun l => (storedName l.1, text l),
      rest.map fun l => (storedName l.1, text l), ?_, List.forall_mem_map.mpr later⟩
    rw [leaves, List.map_append, List.map_cons, same]

/-- Different leaves have different names in the store if no name is empty or holds a point. -/
theorem nodup_storedNames (ordered : Toml.Ordered ms)
    (plain : ∀ l ∈ leavesOf ms, PlainPath l.1) :
    ((leavesOf ms).map fun l => storedName l.1).Nodup := by
  refine List.pairwise_map.mpr (ordered.leaves_increase.imp_of_mem ?_)
  intro l l' member member' before same
  have paths : l.1 = l'.1 :=
    storedName_inj (Toml.path_ne_nil member) (Toml.path_ne_nil member') (plain l member)
      (plain l' member') same
  exact List.lt_irrefl l'.1 (paths ▸ before)

end Settings

/-! ### Files -/

namespace ConfigurationFile

/-- The settings of a file are those of its table of them, if there is one. -/
theorem settings_of_ofMembers? {members : Toml.Members} {c : ConfigurationFile}
    (parts : ofMembers? members = some c) :
    c.settings = [] ∨ ∃ v, members.lookup "settings" = some v ∧
      (v.members?.bind Toml.settleMembers?).map Toml.sortMembers = some c.settings := by
  simp only [ofMembers?, bind] at parts
  cases found : members.lookup "settings" with
  | none =>
    rw [found] at parts
    left
    split at parts
    all_goals
      obtain ⟨host, -, same⟩ := Option.bind_eq_some_iff.mp parts
      cases same
      rfl
  | some v =>
    rw [found] at parts
    refine .inr ⟨v, rfl, ?_⟩
    split at parts
    all_goals
      obtain ⟨host, -, rest⟩ := Option.bind_eq_some_iff.mp parts
      obtain ⟨settings, read, same⟩ := Option.bind_eq_some_iff.mp rest
      cases same
      exact read

/-- The settings of a configuration file come in the order of their names, at each level. -/
theorem ordered_settings {s : String} {c : ConfigurationFile} (parsed : parse? s = some c) :
    Toml.Ordered c.settings := by
  obtain ⟨members, read, parts⟩ := Option.bind_eq_some_iff.mp parsed
  rcases settings_of_ofMembers? parts with none | ⟨v, found, settled⟩
  · rw [none]
    exact .intro .nil nofun
  · obtain ⟨ms', settled, same⟩ := Option.map_eq_some_iff.mp settled
    obtain ⟨ms, table, settled⟩ := Option.bind_eq_some_iff.mp settled
    have distinct : v.Distinct := by
      cases Toml.distinct_of_parse? read with
      | table names inner => exact inner _ (mem_of_lookup found)
      | other no_table => exact absurd rfl (no_table members)
    rw [← same]
    exact Toml.ordered_of_members? distinct table settled

end ConfigurationFile

namespace Settings

open Toml (leavesOf)

/-- **Storing the settings of a table loses nothing and invents nothing.** It fails if a leaf is an
array with an item that is no text or holds a separator, and the error tells of the first such leaf.
Otherwise the names in the store are those of the leaves, each one once, and under each name is the
text of the last leaf that has it. If the names in the table are neither empty nor hold points, no
two leaves have the same name in the store, all of them stay, and their names tell where in the
table they were. -/
theorem flatten_faithful (ms : Toml.Members) :
    ((∃ e, flatten ms = .error e) ↔
      ∃ l ∈ leavesOf ms, ∃ items, l.2 = .array items ∧
        ∃ item ∈ items, (∀ s, item ≠ .text s) ∨
          ∃ s, item = .text s ∧ Setting.pathSeparator ∈ s.toList) ∧
    (∀ e, flatten ms = .error e ↔
      ∃ l fault, FirstRefused ms l fault ∧ e = ⟨storedName l.1, fault⟩) ∧
    (∀ s c, ConfigurationFile.parse? s = some c → c.settings = ms → Toml.Ordered ms) ∧
    (Toml.Ordered ms → (leavesOf ms).Pairwise fun a b => a.1 < b.1) ∧
    ∀ t, flatten ms = .ok t →
      (t.entries.map (·.1)).Nodup ∧
      (∀ key, key ∈ t.entries.map (·.1) ↔ ∃ l ∈ leavesOf ms, storedName l.1 = key) ∧
      (∀ key raw, (key, raw) ∈ t.entries ↔ ∃ l, LastNamed ms key l ∧ rawText l.2 = .ok raw) ∧
      (Toml.Ordered ms → (∀ l ∈ leavesOf ms, PlainPath l.1) →
        ((leavesOf ms).map fun l => storedName l.1).Nodup ∧
        t.size = (leavesOf ms).length ∧
        (∀ l ∈ leavesOf ms, ∃ raw, rawText l.2 = .ok raw ∧ (storedName l.1, raw) ∈ t.entries) ∧
        ∀ l ∈ leavesOf ms, ((storedName l.1).toList.splitOn '.').map String.ofList = l.1) := by
  have fails : (∃ e, flatten ms = .error e) ↔ ∃ l ∈ leavesOf ms, ∃ fault, Refuses l.2 fault := by
    simp only [flatten_eq_error_iff]
    constructor
    · rintro ⟨e, l, fault, ⟨before, after, split, -, refused⟩, -⟩
      exact ⟨l, by simp [split], fault, refused⟩
    · rintro ⟨l, member, refused⟩
      obtain ⟨first, fault, refused⟩ := exists_firstRefused member refused
      exact ⟨_, first, fault, refused, rfl⟩
  have in_order :
      ∀ s c, ConfigurationFile.parse? s = some c → c.settings = ms → Toml.Ordered ms := by
    rintro s c parsed rfl
    exact ConfigurationFile.ordered_settings parsed
  refine ⟨fails.trans (by simp only [refuses_iff]), fun e => flatten_eq_error_iff, in_order,
    Toml.Ordered.leaves_increase, fun t stored => ?_⟩
  -- Since storing has not failed, each leaf has a text.
  have stored_leaves : ∀ l ∈ leavesOf ms, ∀ fault, ¬ Refuses l.2 fault := by
    intro l member fault refused
    obtain ⟨e, failed⟩ := fails.mpr ⟨l, member, fault, refused⟩
    cases stored.symm.trans failed
  obtain ⟨text, texts, flat⟩ := exists_flatten stored_leaves
  obtain rfl := Except.ok.inj (stored.symm.trans flat)
  refine ⟨Table.nodup_ofList _, fun key => ?_, mem_ofList_leaves_iff texts, fun ordered plain => ?_⟩
  · rw [Table.mem_names_ofList_iff, List.map_map]
    exact List.mem_map
  · have once := nodup_storedNames ordered plain
    have entries : (Table.ofList ((leavesOf ms).map fun l => (storedName l.1, text l))).entries =
        (leavesOf ms).map fun l => (storedName l.1, text l) :=
      Table.entries_ofList (by rwa [List.map_map])
    refine ⟨once, ?_, fun l member => ⟨text l, texts l member, ?_⟩,
      fun l member => split_storedName (Toml.path_ne_nil member) (plain l member)⟩
    · rw [Table.size, entries, List.length_map]
    · rw [entries]
      exact List.mem_map_of_mem member

/-- In a nested table each leaf is found under the names that lead to it, with its text. -/
theorem flatten_faithful_nested :
    ∃ t, flatten [("a", .table [("b", .int 1), ("c", .array [.text "/x", .text "/y"])]),
        ("d", .bool true)] = .ok t ∧
      t.size = 3 ∧ ("a.b", "1") ∈ t.entries ∧ ("a.c", "/x:/y") ∈ t.entries ∧
      ("d", "on") ∈ t.entries := by
  let inner : Toml.Members := [("b", .int 1), ("c", .array [.text "/x", .text "/y"])]
  let ms : Toml.Members := [("a", .table inner), ("d", .bool true)]
  have leaves : leavesOf ms =
      [(["a", "b"], .int 1), (["a", "c"], .array [.text "/x", .text "/y"]),
        (["d"], .bool true)] := by
    simp [ms, inner, leavesOf, Toml.Value.leaves]
  have inner_ordered : Toml.Ordered inner := by
    refine .intro (by decide) fun name within member => ?_
    simp [inner] at member
  have ordered : Toml.Ordered ms := by
    refine .intro (by decide) fun name within member => ?_
    obtain ⟨-, rfl⟩ : name = "a" ∧ within = inner := by simpa [ms] using member
    exact inner_ordered
  have plain : ∀ l ∈ leavesOf ms, PlainPath l.1 := by
    simp [leaves, PlainPath]
  let t : Table := ⟨[("a.b", "1"), ("a.c", "/x:/y"), ("d", "on")]⟩
  have flat : flatten ms = .ok t := by rfl
  obtain ⟨-, -, -, -, stored⟩ := flatten_faithful ms
  obtain ⟨-, -, -, whole⟩ := stored _ flat
  obtain ⟨-, size, kept, -⟩ := whole ordered plain
  have told (path : List String) {v : Toml.Value} {raw : String} (listed : (path, v) ∈ leavesOf ms)
      (stores : Stores v raw) : (storedName path, raw) ∈ t.entries := by
    obtain ⟨raw', text, member⟩ := kept _ listed
    cases stores.rawText_eq.symm.trans text
    exact member
  have separate : ∀ p ∈ ["/x", "/y"], Setting.pathSeparator ∉ p.toList := by decide
  refine ⟨t, flat, size.trans (by rw [leaves]; rfl), ?_, ?_, ?_⟩
  · exact told ["a", "b"] (by simp [leaves]) (.int 1)
  · exact told ["a", "c"] (by simp [leaves]) (.paths separate)
  · exact told ["d"] (by simp [leaves]) .on

end Settings

end GuestRoutines
