import GuestRoutines.Proofs.Settings.Reading
import GuestRoutines.Proofs.Text.Trimming
import GuestRoutines.Settings.Flat
import Mathlib.Data.List.Forall2
import Mathlib.Data.List.ModifyLast

/-!
# Lists of paths

Paths are written as one text with separators between them, and read by cutting the text again. The
outer blanks of the whole text are lost on the way, and so are the paths that are empty then. Since
a separator is no blank, the first path can lose blanks at its start only, and the last one at its
end.

## Main definitions

* `Settings.trimOuter` — paths without the outer blanks of the whole list
* `Settings.keptPaths` — those of them that are not empty then

## Main results

* `Settings.joinPaths_eq_ok_iff` — which paths can be written
* `Settings.trimChars_intercalate` — trimming the whole text
* `Setting.asPaths_of_joined` — what is read again
* `Setting.paths_survive` — all of it, for every list of paths
-/

namespace GuestRoutines

namespace Settings

/-- Paths without the blanks at the start of the first and at the end of the last of them. -/
def trimOuter (paths : List (List Char)) : List (List Char) :=
  (paths.modifyHead Text.trimStart).modifyLast Text.trimEnd

/-- The paths that are not empty when the outer blanks of the whole list are gone. -/
def keptPaths (paths : List String) : List String :=
  ((trimOuter (paths.map String.toList)).filter (· ≠ [])).map String.ofList

section

variable {α : Type} {f : α → α} {R : α → α → Prop}

theorem modifyLast_cons_cons (f : α → α) (a b : α) (as : List α) :
    (a :: b :: as).modifyLast f = a :: (b :: as).modifyLast f :=
  List.modifyLast_append_of_right_ne_nil f [a] (b :: as) (List.cons_ne_nil b as)

theorem forall₂_modifyHead (same : ∀ a, R a a) (changed : ∀ a, R (f a) a) (as : List α) :
    List.Forall₂ R (as.modifyHead f) as := by
  cases as with
  | nil => exact .nil
  | cons a as => exact .cons (changed a) (List.forall₂_same.mpr fun b _ => same b)

theorem forall₂_modifyLast (same : ∀ a, R a a) (changed : ∀ a, R (f a) a) (as : List α) :
    List.Forall₂ R (as.modifyLast f) as := by
  induction as with
  | nil => exact .nil
  | cons a as ih =>
    cases as with
    | nil => exact .cons (changed a) .nil
    | cons b as =>
      rw [modifyLast_cons_cons]
      exact .cons (same a) ih

theorem modifyLast_ne_nil {as : List α} (nonempty : as ≠ []) : as.modifyLast f ≠ [] := by
  have lengths := (forall₂_modifyLast (R := fun _ _ => True) (f := f) (by simp) (by simp) as)
  intro empty
  rw [empty] at lengths
  cases lengths
  exact nonempty rfl

end

/-! ### Trimming the whole list -/

section

variable {paths : List (List Char)} {c : Char}

/-- Of a list of paths as one text, the first path is trimmed at its start. -/
theorem trimStart_intercalate (unblank : Text.isBlank c = false) (paths : List (List Char)) :
    Text.trimStart ([c].intercalate paths) = [c].intercalate (paths.modifyHead Text.trimStart) := by
  cases paths with
  | nil => rfl
  | cons p paths =>
    cases paths with
    | nil => simp
    | cons q paths =>
      simp only [List.modifyHead_cons, List.intercalate_cons_cons, List.append_assoc,
        List.singleton_append, Text.trimStart_append_cons unblank]

/-- The last path is trimmed at its end. -/
theorem trimEnd_intercalate (unblank : Text.isBlank c = false) (paths : List (List Char)) :
    Text.trimEnd ([c].intercalate paths) = [c].intercalate (paths.modifyLast Text.trimEnd) := by
  induction paths with
  | nil => rfl
  | cons p paths ih =>
    cases paths with
    | nil => simp [List.modifyLast, List.modifyLast.go]
    | cons q paths =>
      -- The separator behind the first path keeps it from being trimmed.
      have nonempty : (q :: paths).modifyLast Text.trimEnd ≠ [] :=
        modifyLast_ne_nil (List.cons_ne_nil q paths)
      obtain ⟨r, rest, last⟩ := List.exists_cons_of_ne_nil nonempty
      rw [last] at ih
      simp only [modifyLast_cons_cons, last, List.intercalate_cons_cons, List.append_assoc,
        List.singleton_append, Text.trimEnd_append_cons unblank, ih]

theorem trimChars_intercalate (unblank : Text.isBlank c = false) (paths : List (List Char)) :
    Text.trimChars ([c].intercalate paths) = [c].intercalate (trimOuter paths) := by
  rw [Text.trimChars, trimStart_intercalate unblank, trimEnd_intercalate unblank, trimOuter]

/-- Each path keeps its place, and what is left of it is a part of it. -/
theorem sublistForall₂_trimOuter (paths : List (List Char)) :
    List.SublistForall₂ (· <:+: ·) (trimOuter paths) paths := by
  have same (cs : List Char) : cs <:+: cs := List.infix_rfl
  have started : List.Forall₂ (· <:+: ·) (paths.modifyHead Text.trimStart) paths :=
    forall₂_modifyHead same (fun cs => (List.dropWhile_suffix Text.isBlank).isInfix) paths
  have ended : List.Forall₂ (· <:+: ·) (trimOuter paths) (paths.modifyHead Text.trimStart) := by
    refine forall₂_modifyLast same (fun cs => ?_) _
    obtain ⟨after, -, split, -⟩ := Text.exists_trimEnd cs
    exact ⟨[], after, split.symm⟩
  have : IsTrans (List Char) (· <:+: ·) := ⟨fun _ _ _ => List.IsInfix.trans⟩
  exact Trans.trans (List.sublistForall₂_iff.mpr ⟨_, ended, .refl _⟩)
    (List.sublistForall₂_iff.mpr ⟨_, started, .refl _⟩)

theorem exists_of_mem_sublistForall₂ {α β : Type} {R : α → β → Prop} {as : List α} {bs : List β}
    (related : List.SublistForall₂ R as bs) {a : α} (member : a ∈ as) : ∃ b ∈ bs, R a b := by
  induction related with
  | nil => cases member
  | @cons a' b as bs first rest ih =>
    rcases List.mem_cons.mp member with rfl | later
    · exact ⟨b, List.mem_cons_self, first⟩
    · obtain ⟨b', found, rel⟩ := ih later
      exact ⟨b', List.mem_cons_of_mem b found, rel⟩
  | @cons_right b as bs rest ih =>
    obtain ⟨b', found, rel⟩ := ih member
    exact ⟨b', List.mem_cons_of_mem b found, rel⟩

/-- What is trimmed away brings no separator with it. -/
theorem not_mem_trimOuter (absent : ∀ p ∈ paths, c ∉ p) : ∀ p ∈ trimOuter paths, c ∉ p := by
  intro p member separator
  obtain ⟨q, given, part⟩ :=
    exists_of_mem_sublistForall₂ (sublistForall₂_trimOuter paths) member
  exact absent q given (part.subset separator)

theorem trimOuter_ne_nil (nonempty : paths ≠ []) : trimOuter paths ≠ [] := by
  refine modifyLast_ne_nil ?_
  cases paths with
  | nil => exact absurd rfl nonempty
  | cons p paths => exact List.cons_ne_nil _ _

/-- A list whose outer ends are not blank is not trimmed. -/
theorem trimOuter_eq_self (first : ∀ p ∈ paths.head?, ∀ c ∈ p.head?, Text.isBlank c = false)
    (last : ∀ p ∈ paths.getLast?, ∀ c ∈ p.getLast?, Text.isBlank c = false) :
    trimOuter paths = paths := by
  have started : paths.modifyHead Text.trimStart = paths := by
    cases paths with
    | nil => rfl
    | cons p paths => rw [List.modifyHead_cons, Text.trimStart_eq_self (first p rfl)]
  rw [trimOuter, started]
  rcases List.eq_nil_or_concat' paths with rfl | ⟨others, p, rfl⟩
  · rfl
  · rw [List.modifyLast_concat, Text.trimEnd_eq_self (last p (by simp))]

end

/-! ### Writing -/

variable {paths : List String} {text : String}

theorem joinPaths_eq_error_iff {fault : ListFault} :
    joinPaths paths = .error fault ↔
      (∃ p ∈ paths, Setting.pathSeparator ∈ p.toList) ∧ fault = .separator := by
  simp only [joinPaths, List.any_eq_true, List.contains_iff_mem]
  split
  · next found => simp [found, eq_comm]
  · next absent => simp [absent]

theorem joinPaths_eq_ok_iff :
    joinPaths paths = .ok text ↔
      (∀ p ∈ paths, Setting.pathSeparator ∉ p.toList) ∧
        text = (String.singleton Setting.pathSeparator).intercalate paths := by
  simp only [joinPaths, List.any_eq_true, List.contains_iff_mem]
  split
  · next found =>
    obtain ⟨p, member, separator⟩ := found
    refine ⟨nofun, fun h => absurd separator (h.1 p member)⟩
  · next absent =>
    push Not at absent
    rw [Except.ok.injEq, eq_comm]
    exact (and_iff_right absent).symm

/-- An array of texts is written as the list of them. -/
theorem joinItems_texts (paths : List String) :
    joinItems (paths.map Toml.Value.text) = joinPaths paths := by
  have texts : (paths.map Toml.Value.text).mapM Toml.Value.asText? = some paths := by
    induction paths with
    | nil => rfl
    | cons p paths ih => simp [List.mapM_cons, Toml.Value.asText?, ih]
  rw [joinItems, texts]

end Settings

namespace Setting

open Settings

variable {paths : List String} {key raw text : String}

/-- What is read is what is not empty between the separators, and there must be some of it. -/
theorem asPaths_eq_ok_iff {s : Setting} {ps : List String} :
    s.asPaths = .ok ps ↔
      ∃ kept, kept ≠ [] ∧ (splitPaths (Text.trimChars s.raw.toList)).filter (· ≠ []) = kept ∧
        ps = kept.map String.ofList := by
  unfold asPaths
  cases (splitPaths (Text.trimChars s.raw.toList)).filter (· ≠ []) with
  | nil => simp [refuse]
  | cons p paths => simp [eq_comm]

theorem asPaths_eq_error_iff {s : Setting} {error : StartupError} :
    s.asPaths = .error error ↔
      (splitPaths (Text.trimChars s.raw.toList)).filter (· ≠ []) = [] ∧
        error = .invalid s.key .noPaths := by
  unfold asPaths
  cases (splitPaths (Text.trimChars s.raw.toList)).filter (· ≠ []) with
  | nil => simp [refuse, eq_comm]
  | cons p paths => simp

/-- No list of paths that is read is empty, and none of its paths is. -/
theorem ne_empty_of_asPaths {s : Setting} {ps : List String} (read : s.asPaths = .ok ps) :
    ps ≠ [] ∧ "" ∉ ps := by
  obtain ⟨kept, some_path, rfl, rfl⟩ := asPaths_eq_ok_iff.mp read
  refine ⟨by simpa using some_path, fun empty => ?_⟩
  obtain ⟨cs, member, same⟩ := List.mem_map.mp empty
  have nonempty : cs ≠ [] := by simpa using List.of_mem_filter member
  exact nonempty (String.ofList_eq_empty_iff.mp same)

/-- Cutting gives the paths back that were written, but for the outer blanks. -/
theorem splitPaths_of_joined (joined : joinPaths paths = .ok text) :
    (splitPaths (Text.trimChars text.toList)).filter (· ≠ []) =
      (trimOuter (paths.map String.toList)).filter (· ≠ []) := by
  obtain ⟨absent, rfl⟩ := joinPaths_eq_ok_iff.mp joined
  have written : ((String.singleton pathSeparator).intercalate paths).toList =
      [pathSeparator].intercalate (paths.map String.toList) := by
    rw [String.toList_intercalate, String.toList_singleton]
  rw [written, trimChars_intercalate (by decide), splitPaths]
  by_cases empty : paths = []
  · -- No paths are written like a single empty one, which is not kept.
    subst empty
    rfl
  · have nonempty : trimOuter (paths.map String.toList) ≠ [] := by
      apply trimOuter_ne_nil
      simpa using empty
    have separate : ∀ p ∈ trimOuter (paths.map String.toList), pathSeparator ∉ p := by
      apply not_mem_trimOuter
      simpa using absent
    rw [List.splitOn_intercalate pathSeparator separate nonempty]

/-- Each path that is read is a part of one that was written, of another one for each path, and they
come in the same order. -/
theorem sublistForall₂_of_joined {ps : List String} (joined : joinPaths paths = .ok text)
    (read : asPaths ⟨key, text⟩ = .ok ps) :
    List.SublistForall₂ (fun p given => p.toList <:+: given.toList) ps paths := by
  obtain ⟨kept, -, rfl, rfl⟩ := asPaths_eq_ok_iff.mp read
  have : Std.Refl (α := List Char) (· <:+: ·) := ⟨fun _ => List.infix_rfl⟩
  have : IsTrans (List Char) (· <:+: ·) := ⟨fun _ _ _ => List.IsInfix.trans⟩
  have kept : List.SublistForall₂ (· <:+: ·)
      ((trimOuter (paths.map String.toList)).filter (· ≠ []))
      (trimOuter (paths.map String.toList)) :=
    List.Sublist.sublistForall₂ List.filter_sublist
  have related := Trans.trans kept (sublistForall₂_trimOuter (paths.map String.toList))
  rw [splitPaths_of_joined joined, List.sublistForall₂_map_left_iff]
  simpa only [String.toList_ofList, List.sublistForall₂_map_right_iff] using related

/-- Paths without outer blanks are read as they were written. -/
theorem asPaths_of_clean (joined : joinPaths paths = .ok text) (key : String)
    (some_path : paths ≠ []) (nonempty : ∀ p ∈ paths, p ≠ "")
    (first : ∀ p ∈ paths.head?, ∀ c ∈ p.toList.head?, Text.isBlank c = false)
    (last : ∀ p ∈ paths.getLast?, ∀ c ∈ p.toList.getLast?, Text.isBlank c = false) :
    asPaths ⟨key, text⟩ = .ok paths := by
  have untrimmed : trimOuter (paths.map String.toList) = paths.map String.toList := by
    apply trimOuter_eq_self
    · simpa using first
    · simpa using last
  have unfiltered : (paths.map String.toList).filter (· ≠ []) = paths.map String.toList := by
    rw [List.filter_eq_self]
    simpa using nonempty
  refine asPaths_eq_ok_iff.mpr ⟨paths.map String.toList, by simpa using some_path, ?_, ?_⟩
  · rw [splitPaths_of_joined joined, untrimmed, unfiltered]
  · simp

/-- **Paths that are written as one text are read again.** They can be written if none of them holds
a separator. What is read are the paths that are not empty when the outer blanks of the whole list
are gone, in their order and each for itself; it is refused if there are none. No text at all is
read as an empty list or gives an empty path. -/
theorem paths_survive (key : String) (paths : List String) :
    ((∃ text, joinItems (paths.map .text) = .ok text) ↔ ∀ p ∈ paths, pathSeparator ∉ p.toList) ∧
    (∀ text, joinItems (paths.map .text) = .ok text →
      (asPaths ⟨key, text⟩ = .error (.invalid key .noPaths) ↔ keptPaths paths = []) ∧
      (keptPaths paths ≠ [] → asPaths ⟨key, text⟩ = .ok (keptPaths paths)) ∧
      (∀ ps, asPaths ⟨key, text⟩ = .ok ps →
        List.SublistForall₂ (fun p given => p.toList <:+: given.toList) ps paths) ∧
      (paths ≠ [] → (∀ p ∈ paths, p ≠ "") →
        (∀ p ∈ paths.head?, ∀ c ∈ p.toList.head?, Text.isBlank c = false) →
        (∀ p ∈ paths.getLast?, ∀ c ∈ p.toList.getLast?, Text.isBlank c = false) →
        asPaths ⟨key, text⟩ = .ok paths)) ∧
    ∀ raw ps, asPaths ⟨key, raw⟩ = .ok ps → ps ≠ [] ∧ "" ∉ ps := by
  rw [joinItems_texts]
  refine ⟨?_, fun text joined => ⟨?_, fun some_path => ?_,
    fun ps => sublistForall₂_of_joined joined, asPaths_of_clean joined key⟩,
    fun raw ps => ne_empty_of_asPaths⟩
  · simp only [joinPaths_eq_ok_iff, exists_and_left, exists_eq, and_true]
  · rw [asPaths_eq_error_iff, splitPaths_of_joined joined, keptPaths, List.map_eq_nil_iff]
    exact and_iff_left rfl
  · rw [keptPaths, ne_eq, List.map_eq_nil_iff] at some_path
    exact asPaths_eq_ok_iff.mpr ⟨_, some_path, splitPaths_of_joined joined, rfl⟩

/-- Blanks at the ends of the list are lost with the path that has nothing else; an inner one keeps
its blanks, and a second copy stays. -/
theorem paths_survive_blanks :
    asPaths ⟨"plwasm.module_path", " :/a: b :/a\t"⟩ = .ok ["/a", " b ", "/a"] := by
  have joined : joinItems ([" ", "/a", " b ", "/a\t"].map .text) = .ok " :/a: b :/a\t" := rfl
  obtain ⟨-, written, -⟩ := paths_survive "plwasm.module_path" [" ", "/a", " b ", "/a\t"]
  exact (written _ joined).2.1 (by decide)

end Setting

end GuestRoutines
