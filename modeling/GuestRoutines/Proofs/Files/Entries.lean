import GuestRoutines.Files.Tree
import Mathlib.Data.List.Basic

/-!
# Entries of directories

A path that is put together of a directory and the name of an entry leads to that entry of the
directory, and nowhere else. What a question finds at a path depends on nothing else in the tree.

## Main definitions

* `Path.IsEntry` — the name of an entry
* `FileTree.AgreeAt` — two trees with the same at some paths

## Main results

* `Path.lastName?_join`, `Path.extension?_eq_some_iff` — the last name of a path and its extension
* `FileTree.walk_append` — a way walked in two parts
* `FileTree.locate_join` — where the path of an entry leads
-/

namespace GuestRoutines

namespace Path

/-- The name of an entry: it is no name of a step, and no part of it is looked up alone. -/
structure IsEntry (entry : String) : Prop where
  nonempty : entry ≠ ""
  ne_point : entry ≠ "."
  ne_up : entry ≠ up
  noSlash : '/' ∉ entry.toList

variable {dir entry : String}

theorem IsEntry.components_eq (h : IsEntry entry) : components entry = [entry] := by
  simp [components, List.splitOn_eq_singleton h.noSlash]

theorem IsEntry.not_rooted (h : IsEntry entry) : entry.startsWith "/" = false := by
  rw [Bool.eq_false_iff]
  intro rooted
  exact h.noSlash ((String.startsWith_string_iff.mp rooted).subset (by simp))

/-- Whether a path begins at the root is told by its first character. -/
theorem startsWith_append (named : dir ≠ "") (rest : String) :
    (dir ++ rest).startsWith "/" = dir.startsWith "/" := by
  obtain ⟨c, cs, first⟩ : ∃ c cs, dir.toList = c :: cs :=
    List.exists_cons_of_ne_nil (by simpa using named)
  rw [Bool.eq_iff_iff, String.startsWith_string_iff, String.startsWith_string_iff,
    String.toList_append, first]
  simp [List.cons_prefix_cons]

theorem components_append_slash (h : IsEntry entry) (d : String) :
    components (d ++ "/" ++ entry) = components d ++ [entry] := by
  have cut : (d ++ "/" ++ entry).toList = d.toList ++ '/' :: entry.toList := by simp
  simp [components, cut, List.splitOn_append_cons_self, List.splitOn_eq_singleton h.noSlash]

theorem components_slash (d : String) : components (d ++ "/") = components d ++ [""] := by
  have cut : (d ++ "/").toList = d.toList ++ '/' :: [] := by simp
  simp [components, cut, List.splitOn_append_cons_self]

theorem exists_of_endsWith_slash (ends : dir.endsWith "/" = true) : ∃ d, dir = d ++ "/" := by
  have suffix : "/".toList <:+ dir.toSlice.copy.toList := String.Slice.endsWith_string_iff.mp ends
  rw [String.copy_toSlice] at suffix
  obtain ⟨cs, same⟩ := suffix
  refine ⟨.ofList cs, String.toList_injective ?_⟩
  simpa using same.symm

/-- The path of an entry goes on after that of its directory, in which a separator may already stand
at the end. -/
theorem components_join (h : IsEntry entry) (named : dir ≠ "") :
    ∃ names, components (join dir entry) = names ++ [entry] ∧
      (components dir = names ∨ components dir = names ++ [""]) := by
  unfold join
  rw [if_neg named]
  split
  · next ends =>
    obtain ⟨d, rfl⟩ := exists_of_endsWith_slash ends
    exact ⟨components d, components_append_slash h d, .inr (components_slash d)⟩
  · exact ⟨components dir, components_append_slash h dir, .inl rfl⟩

theorem join_eq_append (dir entry : String) : ∃ rest, join dir entry = dir ++ rest := by
  unfold join
  split
  · next empty => exact ⟨entry, by simp [empty]⟩
  · split
    · exact ⟨entry, rfl⟩
    · exact ⟨"/" ++ entry, String.append_assoc⟩

/-- The path of an entry ends in its name. -/
theorem lastName?_join (h : IsEntry entry) (dir : String) :
    lastName? (join dir entry) = some entry := by
  have ends : ∃ names, components (join dir entry) = names ++ [entry] := by
    by_cases empty : dir = ""
    · exact ⟨[], by rw [join, if_pos empty, h.components_eq, List.nil_append]⟩
    · obtain ⟨names, joined, -⟩ := components_join h empty
      exact ⟨names, joined⟩
  obtain ⟨names, joined⟩ := ends
  simp [lastName?, joined, h.nonempty, h.ne_point, h.ne_up]

/-- An extension is what follows the last point of the last name, unless the name begins with that
point. -/
theorem extension?_eq_some_iff :
    extension? path = some e ↔
      ∃ stem, lastName? path = some (stem ++ "." ++ e) ∧ stem ≠ "" ∧ '.' ∉ e.toList := by
  unfold extension?
  cases lastName? path with
  | none => simp
  | some name =>
    dsimp only
    constructor
    · intro h
      have cut : _ ++ _ = name.toList.reverse :=
        List.takeWhile_append_dropWhile (p := (· != '.'))
      have pointless := List.all_takeWhile (p := (· != '.')) (l := name.toList.reverse)
      have point := List.head?_dropWhile_not (· != '.') name.toList.reverse
      split at h
      · next c first rest found =>
        cases h
        rw [found] at cut point
        generalize name.toList.reverse.takeWhile (· != '.') = last at cut pointless
        obtain rfl : c = '.' := by simpa using point
        refine ⟨.ofList (first :: rest).reverse, congrArg some (String.toList_injective ?_),
          by simp, fun member => ?_⟩
        · rw [← List.reverse_reverse name.toList, ← cut]
          simp
        · exact absurd (List.all_eq_true.mp pointless '.' (by simpa using member)) (by simp)
      · cases h
    · rintro ⟨stem, same, nonempty, pointless⟩
      obtain rfl := Option.some.inj same
      have last : ∀ c ∈ e.toList.reverse, (c != '.') = true := by
        intro c member
        rw [bne_iff_ne]
        rintro rfl
        exact pointless (List.mem_reverse.mp member)
      obtain ⟨first, rest, before⟩ : ∃ first rest, stem.toList.reverse = first :: rest :=
        List.exists_cons_of_ne_nil (by simpa using nonempty)
      have text : (stem ++ "." ++ e).toList.reverse = e.toList.reverse ++ '.' :: first :: rest := by
        simp [← before]
      rw [text, List.dropWhile_append_of_pos last, List.takeWhile_append_of_pos last]
      simp

end Path

namespace FileTree

variable {t t' : FileTree} {dir entry path : String} {here place : Place} {n : Node}

/-- A way walked in two parts. -/
theorem walk_append (t : FileTree) (names more : List String) (here : Place) :
    t.walk (names ++ more) here =
      (t.walk names here).bind fun found => t.walk more found.1 := by
  induction names generalizing here with
  | nil =>
    rw [List.nil_append, walk]
    cases there : t.entries here with
    | some n => rfl
    | none => cases more <;> simp only [walk, there] <;> rfl
  | cons name names ih =>
    rw [List.cons_append, walk, walk]
    split
    · rfl
    · rfl
    · split_ifs
      · exact ih here
      · exact ih (Path.back here)
      · rfl
      · exact ih (here ++ [name])

theorem entries_of_walk {names : List String} (found : t.walk names here = .ok (place, n)) :
    t.entries place = some n := by
  induction names generalizing here with
  | nil =>
    rw [walk] at found
    split at found
    · next there =>
      cases found
      exact there
    · cases found
  | cons name names ih =>
    rw [walk] at found
    split at found
    · cases found
    · cases found
    · split_ifs at found
      · exact ih found
      · exact ih found
      · exact ih found

/-- An entry is looked up in a directory. -/
theorem walk_entry (isEntry : Path.IsEntry entry) (found : t.walk [entry] here = .ok (place, n)) :
    t.entries here = some .directory ∧ place = here ++ [entry] := by
  have named : ¬ (entry = "" ∨ entry = ".") := by
    rintro (empty | point)
    · exact isEntry.nonempty empty
    · exact isEntry.ne_point point
  rw [walk] at found
  split at found
  · cases found
  · cases found
  · next directory =>
    rw [if_neg named, if_neg isEntry.ne_up] at found
    split_ifs at found
    rw [walk] at found
    split at found
    · cases found
      exact ⟨directory, rfl⟩
    · cases found

/-- The text of a path that leads somewhere can be walked. -/
theorem locate_eq_ok_iff :
    t.locate path = .ok (place, n) ↔
      path ≠ "" ∧ '\x00' ∉ path.toList ∧ path.utf8ByteSize ≤ maxPathSize ∧
        t.walk (Path.components path) (if path.startsWith "/" then [Path.root] else []) =
          .ok (place, n) := by
  have start : (if path.startsWith "/" then t.walk (Path.components path) [Path.root]
      else t.walk (Path.components path) []) =
        t.walk (Path.components path) (if path.startsWith "/" then [Path.root] else []) := by
    split <;> rfl
  rw [locate, start]
  generalize t.walk (Path.components path) _ = way
  by_cases empty : path = ""
  · simp [empty]
  · by_cases nul : '\x00' ∈ path.toList
    · simp [empty, nul]
    · by_cases long : maxPathSize < path.utf8ByteSize
      · simp [empty, nul, long, Nat.not_le.mpr long]
      · simp [empty, nul, long, Nat.not_lt.mp long]

/-- **The path of an entry leads to that entry of the directory.** -/
theorem locate_join (isEntry : Path.IsEntry entry)
    (found : t.locate (Path.join dir entry) = .ok (place, n)) :
    ∃ parent, place = parent ++ [entry] ∧
      if dir = "" then parent = [] else t.locate dir = .ok (parent, .directory) := by
  obtain ⟨-, nul, short, walked⟩ := locate_eq_ok_iff.mp found
  by_cases empty : dir = ""
  · have same : Path.join dir entry = entry := if_pos empty
    rw [same, isEntry.components_eq, isEntry.not_rooted, if_neg nofun] at walked
    obtain ⟨-, rfl⟩ := walk_entry isEntry walked
    refine ⟨[], rfl, ?_⟩
    rw [if_pos empty]
  · obtain ⟨names, joined, own⟩ := Path.components_join isEntry empty
    obtain ⟨rest, longer⟩ := Path.join_eq_append dir entry
    rw [joined, walk_append, longer, Path.startsWith_append empty] at walked
    rw [longer] at nul short
    cases way : t.walk names (if dir.startsWith "/" then [Path.root] else []) with
    | error fault =>
      rw [way] at walked
      cases walked
    | ok reached =>
      obtain ⟨parent, node⟩ := reached
      rw [way] at walked
      obtain ⟨directory, rfl⟩ := walk_entry isEntry walked
      obtain rfl : node = .directory :=
        Option.some.inj ((entries_of_walk way).symm.trans directory)
      refine ⟨parent, rfl, ?_⟩
      rw [if_neg empty, locate_eq_ok_iff]
      refine ⟨empty, ?_, ?_, ?_⟩
      · intro member
        exact nul (by simp [member])
      · rw [String.utf8ByteSize_append] at short
        omega
      · -- A separator at the end of the directory leads no further.
        rcases own with own | own
        · rw [own, way]
        · rw [own, walk_append, way]
          simp [Except.bind, walk, directory]

theorem isFile_iff : t.isFile path = true ↔ ∃ b, t.node path = .ok (.file b) := by
  unfold isFile
  split
  · next b found => simp [found]
  · next other => simpa using fun b found => other b found

/-! ### Trees that look alike -/

/-- Two trees have the same at some paths: the same contents, a directory, or the same fault. -/
def AgreeAt (paths : String → Prop) (t t' : FileTree) : Prop :=
  ∀ path, paths path → t'.node path = t.node path

theorem isFile_congr (same : t'.node path = t.node path) : t'.isFile path = t.isFile path := by
  rw [isFile, isFile, same]

theorem read_congr (same : t'.node path = t.node path) : t'.read path = t.read path := by
  rw [read, read, same]

theorem readText_congr (same : t'.node path = t.node path) :
    t'.readText path = t.readText path := by
  rw [readText, readText, read_congr same]

end FileTree

end GuestRoutines
