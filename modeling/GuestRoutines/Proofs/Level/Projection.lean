import GuestRoutines.Proofs.Level.Safety

/-!
# Rounding up between any two scales

The tables between the scales are not written down: a level is sent to its rank, rounded up on the
other scale. Nothing but the order of the scales makes such a table safe. It does not matter how
many levels a scale has, which ranks are tied or left out, and where one scale ends below another,
so that a level may be added, or get another rank, without a look at the tables.

## Main definitions

* `Scale.Graded` — a scale whose list rises to its top, and whose ranks never fall
* `Scale.RoundsUp` — what a rank is rounded up to, said of all levels
* `checkProjections` — the checks of the tables between a host's, a common and a guest's scale

## Main results

* `Scale.RoundsUp.mono` — rounding up keeps the order of ranks
* `Scale.ceiling_eq_iff` — the level that is found is the one that a rank is rounded up to
* `checkTable_project`, `checkProjections_eq_ok` — the tables that rounding up yields are accepted
* `Scale.rounding_up_safe` — all of it, for any three scales
-/

namespace GuestRoutines

open Scale

/-! ### Graded scales -/

/-- A scale whose list rises to its top. The ranks of its levels do not fall, and several levels
may have the same one. -/
class Scale.Graded (α : Type) [Scale α] : Prop where
  rises : (levels (α := α)).Pairwise fun a b => position a < position b
  ranks : (levels (α := α)).Pairwise fun a b => rank a ≤ rank b
  last : (levels (α := α)).getLast? = some top

instance : Scale.Graded Severity := ⟨by decide, by decide, rfl⟩

instance : Scale.Graded HostLevel := ⟨by decide, by decide, rfl⟩

instance : Scale.Graded ManagedLevel := ⟨by decide, by decide, rfl⟩

namespace Scale

section Order

variable {α : Type} [Scale α] [Graded α] {a b : α}

theorem Graded.top_mem : (top : α) ∈ levels := List.mem_of_getLast? (last (α := α))

/-- Of two levels in the list, one comes first, unless they are the same. -/
theorem Graded.order (listed : a ∈ levels) (listed' : b ∈ levels) :
    a = b ∨ (position a < position b ∧ rank a ≤ rank b) ∨
      (position b < position a ∧ rank b ≤ rank a) := by
  have pairs := (rises (α := α)).and ranks
  obtain ⟨i, hi, rfl⟩ := List.mem_iff_getElem.mp listed
  obtain ⟨j, hj, rfl⟩ := List.mem_iff_getElem.mp listed'
  rcases Nat.lt_trichotomy i j with before | rfl | after
  · exact .inr (.inl (List.pairwise_iff_getElem.mp pairs i j hi hj before))
  · exact .inl rfl
  · exact .inr (.inr (List.pairwise_iff_getElem.mp pairs j i hj hi after))

theorem Graded.position_le_top (listed : a ∈ levels) : position a ≤ position (top : α) := by
  obtain ⟨before, split⟩ := List.getLast?_eq_some_iff.mp (last (α := α))
  have rising := rises (α := α)
  rw [split, List.mem_append, List.mem_singleton] at listed
  rw [split] at rising
  rcases listed with earlier | rfl
  · exact Nat.le_of_lt ((List.pairwise_append.mp rising).2.2 a earlier top (.head _))
  · exact Nat.le_refl _

end Order

/-! ### Rounding up -/

/-- What a rank is rounded up to. -/
inductive RoundsUp {β : Type} [Scale β] (r : Nat) : β → Prop where
  /-- The most severe among the lowest-ranked of the levels that reach the rank. -/
  | reached {l : β} (listed : l ∈ levels) (reaches : r ≤ rank l)
      (lowest : ∀ m : β, m ∈ levels → r ≤ rank m → rank l ≤ rank m)
      (severe : ∀ m : β, m ∈ levels → rank m = rank l → position m ≤ position l) : RoundsUp r l
  /-- The top, when no level reaches it. -/
  | beyond (none : ∀ m : β, m ∈ levels → rank m < r) : RoundsUp r top

/-- One level is as near as another one: its rank is lower, or else it is the same and the level is
no less severe. -/
def AsNear {β : Type} [Scale β] (a b : β) : Prop :=
  rank a < rank b ∨ (rank a = rank b ∧ position b ≤ position a)

section Ceiling

variable {α β : Type} [Scale α] [Scale β] {a b c l m : β} {r s : Nat}

theorem AsNear.refl (a : β) : AsNear a a := .inr ⟨rfl, Nat.le_refl _⟩

theorem AsNear.trans (h : AsNear a b) (h' : AsNear b c) : AsNear a c := by
  unfold AsNear at *
  omega

theorem nearer_cases (a b : β) :
    (nearer a b = a ∨ nearer a b = b) ∧ AsNear (nearer a b) a ∧ AsNear (nearer a b) b := by
  unfold nearer
  split
  · next closer =>
    refine ⟨.inr rfl, ?_, .refl b⟩
    unfold AsNear
    omega
  · next farther =>
    refine ⟨.inl rfl, .refl a, ?_⟩
    unfold AsNear
    omega

/-- The level that is left of a list is one of it, and as near as any. -/
theorem foldl_nearer (a : β) (ls : List β) :
    ls.foldl nearer a ∈ a :: ls ∧ ∀ m ∈ a :: ls, AsNear (ls.foldl nearer a) m := by
  induction ls generalizing a with
  | nil => simp [AsNear.refl]
  | cons b ls ih =>
    obtain ⟨one, first, second⟩ := nearer_cases a b
    obtain ⟨found, nearest⟩ := ih (nearer a b)
    have ahead := nearest (nearer a b) (.head _)
    rw [List.foldl_cons]
    constructor
    · rcases List.mem_cons.mp found with same | later
      · rw [same]
        rcases one with eq | eq <;> simp [eq]
      · exact .tail _ (.tail _ later)
    · intro m member
      rcases List.mem_cons.mp member with rfl | member
      · exact ahead.trans first
      rcases List.mem_cons.mp member with rfl | later
      · exact ahead.trans second
      · exact nearest m (.tail _ later)

/-- A rank is rounded up to the level that is found. -/
theorem roundsUp_ceiling (r : Nat) : RoundsUp r (ceiling β r) := by
  have reaching (m : β) : m ∈ (levels (α := β)).filter (fun l => decide (r ≤ rank l)) ↔
      m ∈ levels ∧ r ≤ rank m := by
    rw [List.mem_filter, decide_eq_true_eq]
  unfold ceiling
  split
  · next none =>
    refine .beyond fun m listed => Nat.lt_of_not_le fun reaches => ?_
    have member := (reaching m).mpr ⟨listed, reaches⟩
    rw [none] at member
    cases member
  · next l ls some =>
    obtain ⟨found, nearest⟩ := foldl_nearer l ls
    rw [← some] at found nearest
    obtain ⟨listed, reaches⟩ := (reaching _).mp found
    have near (m : β) (listed : m ∈ levels) (reaches : r ≤ rank m) :
        AsNear (ls.foldl nearer l) m := nearest m ((reaching m).mpr ⟨listed, reaches⟩)
    refine .reached listed reaches (fun m listed reaches => ?_) fun m listed same => ?_
    · rcases near m listed reaches with lower | ⟨same, _⟩ <;> omega
    · rcases near m listed (by omega) with lower | ⟨_, severe⟩ <;> omega

/-- A level is not demoted, unless the other scale ends below it. -/
theorem rank_le_project (a : α) :
    rank a ≤ rank (project a : β) ∨ (project a : β) = top := by
  have up : RoundsUp (rank a) (project a : β) := roundsUp_ceiling (rank a)
  generalize (project a : β) = l at up
  cases up with
  | reached _ reaches => exact .inl reaches
  | beyond => exact .inr rfl

variable [Graded β]

theorem RoundsUp.listed (h : RoundsUp r l) : l ∈ levels := by
  cases h with
  | reached listed => exact listed
  | beyond => exact Graded.top_mem

/-- Rounding up keeps the order of ranks. -/
theorem RoundsUp.mono (h : RoundsUp r l) (h' : RoundsUp s m) (le : r ≤ s) :
    position l ≤ position m := by
  cases h' with
  | beyond => exact Graded.position_le_top h.listed
  | reached listed' reaches' lowest' severe' =>
    cases h with
    | beyond none =>
      have below := none m listed'
      omega
    | reached listed reaches lowest severe =>
      -- Both levels reach the lower rank. On a tie the second one is as severe as any.
      have low := lowest m listed' (Nat.le_trans le reaches')
      rcases Graded.order listed listed' with rfl | ⟨before, -⟩ | ⟨-, falls⟩
      · exact Nat.le_refl _
      · exact Nat.le_of_lt before
      · exact severe' l listed (Nat.le_antisymm low falls)

theorem RoundsUp.unique (h : RoundsUp r l) (h' : RoundsUp r m) : l = m := by
  have up := h.mono h' (Nat.le_refl r)
  have down := h'.mono h (Nat.le_refl r)
  rcases Graded.order h.listed h'.listed with same | ⟨before, -⟩ | ⟨after, -⟩
  · exact same
  · omega
  · omega

theorem ceiling_eq_iff : ceiling β r = l ↔ RoundsUp r l := by
  constructor
  · rintro rfl
    exact roundsUp_ceiling r
  · exact (roundsUp_ceiling r).unique

theorem position_ceiling_mono (le : r ≤ s) : position (ceiling β r) ≤ position (ceiling β s) :=
  (roundsUp_ceiling r).mono (roundsUp_ceiling s) le

end Ceiling

end Scale

/-! ### The tables that rounding up yields -/

section Tables

variable {α β γ ε : Type} [Scale α] [Scale β] [Scale γ] [DecidableEq γ]

/-- The table between two scales is accepted. -/
theorem checkTable_project [Graded α] [Graded γ] : checkTable (project : α → γ) = .ok () := by
  rw [checkTable_eq_ok_iff, descent?_eq_none_iff]
  constructor
  · apply List.Pairwise.isChain
    exact Graded.ranks.imp fun {a b} upward => position_ceiling_mono upward
  · exact fun a _ => rank_le_project a

variable [DecidableEq α] [DecidableEq β]

/-- The checks of the tables that rounding up yields, for a host's scale, a common one and a
guest's. Each table has its own error. -/
def checkProjections (hostToCommon : TableFlaw α γ → ε) (commonToHost : TableFlaw γ α → ε)
    (guestToCommon : TableFlaw β γ → ε) (commonToGuest : TableFlaw γ β → ε) : Except ε Unit := do
  (checkTable project).mapError hostToCommon
  (checkTable project).mapError commonToHost
  (checkTable project).mapError guestToCommon
  (checkTable project).mapError commonToGuest

theorem LevelTables.check_standard :
    LevelTables.standard.check =
      checkProjections .hostToCommon .commonToHost .managedToCommon .commonToManaged := rfl

variable [Graded α] [Graded β] [Graded γ]

theorem checkProjections_eq_ok (hostToCommon : TableFlaw α γ → ε) (commonToHost : TableFlaw γ α → ε)
    (guestToCommon : TableFlaw β γ → ε) (commonToGuest : TableFlaw γ β → ε) :
    checkProjections hostToCommon commonToHost guestToCommon commonToGuest = .ok () := by
  simp only [checkProjections, checkTable_project]
  rfl

/-- **Rounding up is safe between any scales.** A rank is rounded up to the most severe of the
lowest-ranked levels that reach it, and to the top when none does. The table that comes of it is
accepted, for whatever scales. What is projected from two scales onto a third one stays in the order
of the ranks. The standard tables are the case of three particular scales, and with any other ones
in their place the same checks accept them. -/
theorem Scale.rounding_up_safe :
    (∀ r (l : γ), ceiling γ r = l ↔ RoundsUp r l) ∧
    checkTable (project : α → γ) = .ok () ∧
    (∀ (a : α) (b : β), rank a ≤ rank b →
      position (project a : γ) ≤ position (project b : γ)) ∧
    (∀ (ε : Type) (hostToCommon : TableFlaw α γ → ε) (commonToHost : TableFlaw γ α → ε)
        (guestToCommon : TableFlaw β γ → ε) (commonToGuest : TableFlaw γ β → ε),
      checkProjections hostToCommon commonToHost guestToCommon commonToGuest = .ok ()) ∧
    LevelTables.standard.check =
      checkProjections .hostToCommon .commonToHost .managedToCommon .commonToManaged := by
  refine ⟨fun r l => ceiling_eq_iff, checkTable_project, ?_, ?_, LevelTables.check_standard⟩
  · intro a b le
    exact position_ceiling_mono le
  · intro ε
    exact checkProjections_eq_ok

/-- The host has two levels of one rank, and one above the other scales. -/
theorem Scale.rounding_up_safe_standard :
    Graded HostLevel ∧ Graded ManagedLevel ∧ Graded Severity ∧
      checkTable (project : HostLevel → Severity) = .ok () ∧
      (project HostLevel.panic : Severity) = .fatal ∧ RoundsUp 55 Severity.fatal ∧
      rank HostLevel.notice ≤ rank ManagedLevel.info ∧
      position (project HostLevel.notice : Severity) ≤
        position (project ManagedLevel.info : Severity) ∧
      LevelTables.standard.check = .ok () := by
  obtain ⟨rounds, accepted, ordered, passes, standard⟩ :=
    rounding_up_safe (α := HostLevel) (β := ManagedLevel) (γ := Severity)
  have same : rank HostLevel.notice ≤ rank ManagedLevel.info := by decide
  exact ⟨inferInstance, inferInstance, inferInstance, accepted, rfl, (rounds 55 .fatal).mp rfl,
    same, ordered _ _ same, standard.trans (passes ..)⟩

end Tables

end GuestRoutines
