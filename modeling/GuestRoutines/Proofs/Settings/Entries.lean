import GuestRoutines.Proofs.Settings.Paths
import GuestRoutines.Proofs.Text.Named
import Mathlib.Data.List.Induction

/-!
# Entries of the store

What the store keeps of a nested setting is an entry: the names that lead to the setting, and its
text. If no name holds a point and none is empty, the points of the stored name tell where the names
in it end. Of two entries with one name the later one is kept, so that no entry is lost from a list
in which every name stands once.

## Main definitions

* `Settings.storedName` — the name under which a nested setting is stored
* `Settings.PlainPath` — names without points
* `Settings.Stores`, `Settings.Refuses` — the text of a leaf, or why it cannot be stored

## Main results

* `Settings.foldl_nested` — nesting name after name gives the stored name
* `Settings.split_storedName` — a stored name gives back the names in it
* `Settings.rawText_eq_ok_iff`, `Settings.rawText_eq_error_iff` — the texts of leaves, and which of
  them are refused
* `Settings.Table.mem_ofList_iff` — which entries are kept
* `Settings.Table.lookup?_ofList_of_mem` — an entry is found again
-/

namespace GuestRoutines.Settings

/-! ### Names -/

/-- The name under which a leaf is stored: the names that lead to it with points between them, where
empty names at the start do not count. -/
def storedName (path : List String) : String := ".".intercalate (path.dropWhile (· = ""))

theorem nested_empty (name : String) : nested "" name = name := if_pos rfl

theorem foldl_nested_of_ne {above : String} (nonempty : above ≠ "") (path : List String) :
    path.foldl nested above = ".".intercalate (above :: path) := by
  induction path generalizing above with
  | nil => rw [String.intercalate_singleton, List.foldl_nil]
  | cons name path ih =>
    have below : nested above name = above ++ "." ++ name := if_neg nonempty
    have longer : above ++ "." ++ name ≠ "" := by simp
    rw [List.foldl_cons, below, ih longer, String.intercalate_cons_append,
      String.intercalate_cons_cons]

/-- A name nests all others from where it is not empty. -/
theorem foldl_nested (path : List String) : path.foldl nested "" = storedName path := by
  induction path with
  | nil => rfl
  | cons name path ih =>
    rw [List.foldl_cons, nested_empty, storedName]
    by_cases empty : name = ""
    · rw [empty, ih, List.dropWhile_cons_of_pos (by simp), storedName]
    · rw [foldl_nested_of_ne empty, List.dropWhile_cons_of_neg (by simpa using empty)]

/-- Names that are not empty and hold no point. -/
def PlainPath (path : List String) : Prop := ∀ name ∈ path, name ≠ "" ∧ '.' ∉ name.toList

variable {path path' : List String}

/-- The points of a stored name separate the names in it. -/
theorem split_storedName (nonempty : path ≠ []) (plain : PlainPath path) :
    ((storedName path).toList.splitOn '.').map String.ofList = path := by
  -- The first name is not empty, so that none is dropped.
  have undropped : path.dropWhile (· = "") = path := by
    cases path with
    | nil => rfl
    | cons name path =>
      exact List.dropWhile_cons_of_neg (by simpa using (plain name List.mem_cons_self).1)
  have separate : ∀ cs ∈ path.map String.toList, '.' ∉ cs := by
    simpa using fun name member => (plain name member).2
  have point : ".".toList = ['.'] := rfl
  rw [storedName, undropped, String.toList_intercalate, point,
    List.splitOn_intercalate '.' separate (by simpa using nonempty), List.map_map]
  exact List.map_id'' (fun _ => String.ofList_toList) path

theorem storedName_inj (nonempty : path ≠ []) (nonempty' : path' ≠ []) (plain : PlainPath path)
    (plain' : PlainPath path') (same : storedName path = storedName path') : path = path' := by
  rw [← split_storedName nonempty plain, same, split_storedName nonempty' plain']

/-! ### Values -/

/-- A value cannot be stored, for the given reason. -/
inductive Refuses : Toml.Value → ListFault → Prop where
  | notText {items : List Toml.Value} {item : Toml.Value} (member : item ∈ items)
      (other : ∀ s, item ≠ .text s) : Refuses (.array items) .notText
  | separator {paths : List String} {p : String} (member : p ∈ paths)
      (found : Setting.pathSeparator ∈ p.toList) : Refuses (.array (paths.map .text)) .separator

/-- A leaf is stored as a text. -/
inductive Stores : Toml.Value → String → Prop where
  | text (s : String) : Stores (.text s) s
  | int (n : Int) : Stores (.int n) (HostValue.intText n)
  | float (x : Binary64) : Stores (.float x) x.display
  | on : Stores (.bool true) "on"
  | off : Stores (.bool false) "off"
  | moment (m : Toml.Moment) : Stores (.moment m) m.display
  | paths {paths : List String} (separate : ∀ p ∈ paths, Setting.pathSeparator ∉ p.toList) :
      Stores (.array (paths.map .text)) (":".intercalate paths)

variable {v : Toml.Value} {raw : String} {fault : ListFault}

/-- An array is a list of texts, or some item of it is no text. -/
theorem texts_or_other (items : List Toml.Value) :
    (∃ paths : List String, items = paths.map .text) ∨
      items.mapM Toml.Value.asText? = none ∧ ∃ item ∈ items, ∀ s, item ≠ .text s := by
  induction items with
  | nil => exact .inl ⟨[], rfl⟩
  | cons item items ih =>
    cases item with
    | text s =>
      rcases ih with ⟨paths, rfl⟩ | ⟨unread, other, member, no_text⟩
      · exact .inl ⟨s :: paths, rfl⟩
      · refine .inr ⟨?_, other, List.mem_cons_of_mem _ member, no_text⟩
        rw [List.mapM_cons, unread]
        rfl
    | _ =>
      refine .inr ⟨by simp [List.mapM_cons, Toml.Value.asText?], _, List.mem_cons_self, ?_⟩
      intro s same
      cases same

theorem Stores.rawText_eq (h : Stores v raw) : rawText v = .ok raw := by
  cases h with
  | paths separate =>
    rw [rawText, joinItems_texts]
    exact joinPaths_eq_ok_iff.mpr ⟨separate, rfl⟩
  | _ => rfl

/-- The texts of leaves. -/
theorem rawText_eq_ok_iff (leaf : ∀ ms, v ≠ .table ms) : rawText v = .ok raw ↔ Stores v raw := by
  refine ⟨fun stored => ?_, Stores.rawText_eq⟩
  cases v with
  | text s | int n | float x | moment m =>
    cases stored
    constructor
  | bool b =>
    cases stored
    cases b
    · exact .off
    · exact .on
  | array items =>
    rw [rawText] at stored
    rcases texts_or_other items with ⟨paths, rfl⟩ | ⟨unread, -⟩
    · rw [joinItems_texts, joinPaths_eq_ok_iff] at stored
      obtain ⟨separate, rfl⟩ := stored
      exact .paths separate
    · rw [joinItems, unread] at stored
      cases stored
  | table ms => exact absurd rfl (leaf ms)

/-- The values that cannot be stored. -/
theorem rawText_eq_error_iff : rawText v = .error fault ↔ Refuses v fault := by
  constructor
  · intro refused
    cases v with
    | array items =>
      rw [rawText] at refused
      rcases texts_or_other items with ⟨paths, rfl⟩ | ⟨unread, item, member, other⟩
      · rw [joinItems_texts, joinPaths_eq_error_iff] at refused
        obtain ⟨⟨p, member, found⟩, rfl⟩ := refused
        exact .separator member found
      · rw [joinItems, unread] at refused
        cases refused
        exact .notText member other
    | _ => cases refused
  · rintro (@⟨items, item, member, other⟩ | ⟨member, found⟩)
    · rw [rawText]
      rcases texts_or_other items with ⟨paths, rfl⟩ | ⟨unread, -⟩
      · obtain ⟨s, -, rfl⟩ := List.mem_map.mp member
        exact absurd rfl (other s)
      · rw [joinItems, unread]
    · rw [rawText, joinItems_texts, joinPaths_eq_error_iff]
      exact ⟨⟨_, member, found⟩, rfl⟩

/-- A value that cannot be stored is an array with an item that is no text or holds a separator. -/
theorem refuses_iff :
    (∃ fault, Refuses v fault) ↔
      ∃ items, v = .array items ∧
        ∃ item ∈ items, (∀ s, item ≠ .text s) ∨
          ∃ s, item = .text s ∧ Setting.pathSeparator ∈ s.toList := by
  constructor
  · rintro ⟨fault, @⟨items, item, member, other⟩ | @⟨paths, p, member, found⟩⟩
    · exact ⟨items, rfl, item, member, .inl other⟩
    · exact ⟨_, rfl, .text p, List.mem_map_of_mem member, .inr ⟨p, rfl, found⟩⟩
  · rintro ⟨items, rfl, item, member, other | ⟨s, rfl, found⟩⟩
    · exact ⟨.notText, .notText member other⟩
    · rcases texts_or_other items with ⟨paths, rfl⟩ | ⟨-, item, first, other⟩
      · obtain ⟨p, given, same⟩ := List.mem_map.mp member
        cases same
        exact ⟨.separator, .separator given found⟩
      · exact ⟨.notText, .notText first other⟩

theorem exists_rawText (stored : ∀ fault, ¬ Refuses v fault) : ∃ raw, rawText v = .ok raw := by
  cases text : rawText v with
  | ok raw => exact ⟨raw, rfl⟩
  | error fault => exact absurd (rawText_eq_error_iff.mp text) (stored fault)

/-! ### Entries -/

namespace Table

variable {t : Table} {es : List (String × String)} {name raw : String}

theorem mem_insert_iff {e : String × String} :
    e ∈ (t.insert name raw).entries ↔ e = (name, raw) ∨ e ∈ t.entries ∧ e.1 ≠ name := by
  simp [insert, erase, or_comm]

theorem mem_names_insert_iff {other : String} :
    other ∈ (t.insert name raw).entries.map (·.1) ↔ other = name ∨ other ∈ t.entries.map (·.1) := by
  by_cases same : other = name
  · simp [same, insert]
  · simp [same, insert, erase]

theorem ofList_concat (es : List (String × String)) (e : String × String) :
    ofList (es ++ [e]) = (ofList es).insert e.1 e.2 := by
  rw [ofList, List.foldl_append]
  rfl

/-- Every name occurs at most once. -/
theorem nodup_ofList (es : List (String × String)) : ((ofList es).entries.map (·.1)).Nodup := by
  induction es using List.reverseRecOn with
  | nil => exact List.nodup_nil
  | append_singleton es e ih =>
    have others : (((ofList es).entries.filter (·.1 != e.1)).map (·.1)).Nodup :=
      ih.sublist (List.filter_sublist.map _)
    rw [ofList_concat, insert, erase, List.map_append, List.nodup_append]
    exact ⟨others, List.nodup_singleton _, by simp⟩

/-- An entry stays if none of those after it has its name. -/
theorem mem_ofList_iff :
    (name, raw) ∈ (ofList es).entries ↔
      ∃ before after, es = before ++ (name, raw) :: after ∧ ∀ e ∈ after, e.1 ≠ name := by
  -- From the right, since it is the last entry that drops the others of its name.
  induction es using List.reverseRecOn with
  | nil => simp [ofList, empty]
  | append_singleton es e ih =>
    rw [ofList_concat, mem_insert_iff, ih]
    constructor
    · rintro (last | ⟨⟨before, after, rfl, later⟩, other⟩)
      · exact ⟨es, [], by rw [last], by simp⟩
      · refine ⟨before, after ++ [e], by simp, ?_⟩
        rw [List.forall_mem_append]
        exact ⟨later, by simpa using Ne.symm other⟩
    · rintro ⟨before, after, split, later⟩
      rcases List.eq_nil_or_concat' after with rfl | ⟨after, e', rfl⟩
      · obtain ⟨-, last⟩ := List.append_inj' split rfl
        exact .inl (List.singleton_inj.mp last).symm
      · rw [List.forall_mem_append] at later
        rw [← List.cons_append, ← List.append_assoc] at split
        obtain ⟨rfl, last⟩ := List.append_inj' split rfl
        cases last
        exact .inr ⟨⟨before, after, rfl, later.1⟩, (later.2 e List.mem_cons_self).symm⟩

theorem mem_names_ofList_iff :
    name ∈ (ofList es).entries.map (·.1) ↔ name ∈ es.map (·.1) := by
  induction es using List.reverseRecOn with
  | nil => rfl
  | append_singleton es e ih =>
    rw [ofList_concat, mem_names_insert_iff, ih, List.map_append, List.mem_append,
      List.map_singleton, List.mem_singleton, or_comm]

/-- Entries with different names all stay. -/
theorem entries_ofList (once : (es.map (·.1)).Nodup) : (ofList es).entries = es := by
  induction es using List.reverseRecOn with
  | nil => rfl
  | append_singleton es e ih =>
    rw [List.map_append, List.nodup_append] at once
    have others := ih once.1
    rw [ofList_concat, insert, erase, others, List.filter_eq_self.mpr]
    intro e' member
    simpa using once.2.2 e'.1 (List.mem_map_of_mem member) e.1 (by simp)

/-- An entry of a table with distinct names is found again. -/
theorem lookup?_ofList_of_mem (once : (es.map (·.1)).Nodup) (member : (name, raw) ∈ es) :
    (ofList es).lookup? name = some raw := by
  rw [lookup?, entries_ofList once]
  exact lookup_of_mem once member

theorem lookup?_ofList_of_not_mem (absent : name ∉ es.map (·.1)) :
    (ofList es).lookup? name = none := by
  rw [← mem_names_ofList_iff, mem_map_fst_iff_lookup] at absent
  exact Option.not_isSome_iff_eq_none.mp absent

end Table

end GuestRoutines.Settings
