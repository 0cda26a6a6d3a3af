import GuestRoutines.Proofs.Text.Named
import GuestRoutines.Proofs.Toml.Leaves
import GuestRoutines.Toml.Reader

/-!
# Names stand once

In a table that a document gives no name stands twice. Lines change tables under construction member
by member: a change under a name that is there already is a change of that member, and one under a
new name adds a member. When the tables are settled their members are sorted, and since their names
are different they are then strictly in order. Nothing is said about tables in arrays, which are
never walked.

## Main definitions

* `Toml.Value.Distinct` — in the tables of a value no name stands twice
* `Toml.Draft.Distinct`, `Toml.Drafts.Distinct` — the same of tables under construction
* `Toml.Drafts.Keeps` — a change that puts no name twice into a table

## Main results

* `Toml.Drafts.keeps_insert`, `Toml.Drafts.keeps_openTable`, `Toml.Drafts.keeps_openItem` — what
  lines do to tables
* `Toml.distinct_of_parse?` — in the tables of a document no name stands twice
* `Toml.ordered_of_settle?` — in the tables of a settled value the names are in order
-/

namespace GuestRoutines.Toml

/-- In the tables of a value no name stands twice, where arrays are not looked into. -/
inductive Value.Distinct : Value → Prop where
  | table {ms : Members} (names : (ms.map (·.1)).Nodup) (inner : ∀ m ∈ ms, Distinct m.2) :
      Distinct (.table ms)
  | other {v : Value} (no_table : ∀ ms, v ≠ .table ms) : Distinct v

/-- The same of a member under construction. -/
inductive Draft.Distinct : Draft → Prop where
  | value {v : Value} (distinct : v.Distinct) : Distinct (.value v)
  | table {o : Origin} {ms : Drafts} (names : (ms.map (·.1)).Nodup)
      (inner : ∀ m ∈ ms, Distinct m.2) : Distinct (.table o ms)
  | tables {earlier : List Drafts} {last : Drafts} : Distinct (.tables earlier last)

namespace Drafts

/-- The same of the members of a table under construction. -/
structure Distinct (ms : Drafts) : Prop where
  names : (ms.map (·.1)).Nodup
  inner : ∀ m ∈ ms, m.2.Distinct

/-- A change puts no name twice into a table. -/
def Keeps (change : Drafts → Option Drafts) : Prop :=
  ∀ ms ms', Distinct ms → change ms = some ms' → Distinct ms'

variable {ms ms' : Drafts} {name : String} {origin : Origin}

theorem distinct_nil : Distinct [] := ⟨List.nodup_nil, nofun⟩

theorem distinct_table_iff {o : Origin} : (Draft.table o ms).Distinct ↔ Distinct ms :=
  ⟨fun | .table names inner => ⟨names, inner⟩, fun h => .table h.names h.inner⟩

theorem distinct_cons {m : String × Draft} (fresh : m.1 ∉ ms.map (·.1)) (first : m.2.Distinct)
    (others : Distinct ms) : Distinct (m :: ms) :=
  ⟨List.nodup_cons.mpr ⟨fresh, others.names⟩, List.forall_mem_cons.mpr ⟨first, others.inner⟩⟩

theorem distinct_concat {m : String × Draft} (fresh : m.1 ∉ ms.map (·.1)) (last : m.2.Distinct)
    (others : Distinct ms) : Distinct (ms ++ [m]) where
  names := by
    rw [List.map_append, List.nodup_append_comm]
    exact List.nodup_cons.mpr ⟨fresh, others.names⟩
  inner := List.forall_mem_append.mpr ⟨others.inner, by simpa using last⟩

theorem distinct_erase (name : String) (h : Distinct ms) : Distinct (ms.erase name) where
  names := h.names.sublist (List.filter_sublist.map _)
  inner := fun m member => h.inner m (List.mem_of_mem_filter member)

/-! ### Changes -/

theorem mem_names_alter {change : Option Draft → Option Draft} {k : String}
    (changed : ms.alter name change = some ms') (member : k ∈ ms'.map (·.1)) :
    k = name ∨ k ∈ ms.map (·.1) := by
  induction ms generalizing ms' with
  | nil =>
    obtain ⟨d, -, rfl⟩ := Option.map_eq_some_iff.mp changed
    exact .inl (by simpa using member)
  | cons m ms ih =>
    rw [alter] at changed
    split at changed
    · obtain ⟨d, -, rfl⟩ := Option.map_eq_some_iff.mp changed
      exact .inr (by simpa using member)
    · obtain ⟨others, rest, rfl⟩ := Option.map_eq_some_iff.mp changed
      rcases List.mem_cons.mp member with rfl | member
      · exact .inr List.mem_cons_self
      · exact (ih rest member).imp_right (List.mem_cons_of_mem _)

/-- A change of one member, or one more member of a new name. -/
theorem keeps_alter {change : Option Draft → Option Draft}
    (kept : ∀ d d', (∀ x ∈ d, x.Distinct) → change d = some d' → d'.Distinct) :
    Keeps (alter name change) := by
  intro ms ms' distinct changed
  induction ms generalizing ms' with
  | nil =>
    obtain ⟨d, new, rfl⟩ := Option.map_eq_some_iff.mp changed
    exact distinct_cons (by simp) (kept none d nofun new) distinct_nil
  | cons m ms ih =>
    obtain ⟨fresh, once⟩ := List.nodup_cons.mp distinct.names
    obtain ⟨first, inner⟩ := List.forall_mem_cons.mp distinct.inner
    rw [alter] at changed
    split at changed
    · obtain ⟨d, new, rfl⟩ := Option.map_eq_some_iff.mp changed
      exact distinct_cons fresh (kept _ d (by simpa using first) new) ⟨once, inner⟩
    · next different =>
      obtain ⟨others, rest, rfl⟩ := Option.map_eq_some_iff.mp changed
      have absent : m.1 ∉ others.map (·.1) := fun member =>
        (mem_names_alter rest member).elim different fresh
      exact distinct_cons absent first (ih others ⟨once, inner⟩ rest)

/-- A change at the end of a path. -/
theorem keeps_descend {change : Origin → Drafts → Option Drafts} (kept : ∀ o, Keeps (change o))
    (path : List String) (here : Origin) : Keeps (descend origin change path here) := by
  induction path generalizing here with
  | nil => exact kept here
  | cons name path ih =>
    refine keeps_alter fun d d' distinct changed => ?_
    split at changed
    · -- A table that was missing comes about.
      obtain ⟨inner, new, rfl⟩ := Option.map_eq_some_iff.mp changed
      exact distinct_table_iff.mpr (ih origin [] inner distinct_nil new)
    · cases changed
    · next o inner =>
      split at changed
      · cases changed
      · obtain ⟨inner', new, rfl⟩ := Option.map_eq_some_iff.mp changed
        have before : Distinct inner := distinct_table_iff.mp (distinct _ rfl)
        exact distinct_table_iff.mpr (ih o inner inner' before new)
    · -- Whatever is changed in an array of tables, it is not looked into.
      obtain ⟨last, -, rfl⟩ := Option.map_eq_some_iff.mp changed
      exact .tables

theorem keeps_insert {v : Value} (distinct : v.Distinct) (key : KeyPath) (here : Origin) :
    Keeps (insert key v here) := by
  refine keeps_descend (fun o ms ms' before changed => ?_) key.parents here
  split at changed
  · cases changed
  · refine keeps_alter (fun d d' _ new => ?_) ms ms' before changed
    split at new
    · cases new
      exact .value distinct
    · cases new

theorem keeps_openTable (key : KeyPath) : Keeps (openTable key) := by
  refine keeps_descend (fun o ms ms' before changed => ?_) key.parents .stated
  split at changed
  · next absent =>
    cases changed
    have fresh : key.name ∉ ms.map (·.1) := by
      rw [mem_map_fst_iff_lookup, absent]
      nofun
    exact distinct_concat fresh (distinct_table_iff.mpr distinct_nil) before
  · next within found =>
    -- The table moves to the end, and its name is free before it is put there.
    cases changed
    have fresh : key.name ∉ (ms.erase key.name).map (·.1) := by simp [erase]
    have inner : Distinct within :=
      distinct_table_iff.mp (before.inner _ (mem_of_lookup found))
    exact distinct_concat fresh (distinct_table_iff.mpr inner) (distinct_erase key.name before)
  · cases changed

theorem keeps_openItem (key : KeyPath) : Keeps (openItem key) := by
  refine keeps_descend (fun o => keeps_alter fun d d' _ new => ?_) key.parents .stated
  split at new <;> cases new <;> exact .tables

/-! ### Finished tables -/

theorem finish_eq_map (ms : Drafts) : finish ms = ms.map fun m => (m.1, m.2.finish) := by
  induction ms with
  | nil => rw [finish, List.map_nil]
  | cons m ms ih => rw [finish, ih, List.map_cons]

end Drafts

theorem Draft.Distinct.finish {d : Draft} (h : d.Distinct) : d.finish.Distinct := by
  induction h with
  | value distinct =>
    rw [Draft.finish]
    exact distinct
  | table names _ ih =>
    rw [Draft.finish, Drafts.finish_eq_map]
    refine .table ?_ (List.forall_mem_map.mpr ih)
    rw [List.map_map]
    exact names
  | tables =>
    rw [Draft.finish]
    exact .other nofun

/-! ### Reading -/

/-- What keeps a property at every step has it at the end. -/
theorem foldlM_invariant {σ α : Type} {P : σ → Prop} {step : σ → α → Option σ} {as : List α}
    (kept : ∀ a ∈ as, ∀ s s', P s → step s a = some s' → P s') {s s' : σ} (initial : P s)
    (folded : as.foldlM step s = some s') : P s' := by
  induction as generalizing s with
  | nil =>
    cases folded
    exact initial
  | cons a as ih =>
    rw [List.foldlM_cons, Option.bind_eq_bind, Option.bind_eq_some_iff] at folded
    obtain ⟨next, first, others⟩ := folded
    obtain ⟨kept_first, kept⟩ := List.forall_mem_cons.mp kept
    exact ih kept (kept_first s next initial first) others

/-- A reader gives values in whose tables no name stands twice. -/
def ValueReader.Distinct (read : ValueReader) : Prop :=
  ∀ cs v rest, read cs = some (v, rest) → v.Distinct

variable {read : ValueReader}

theorem distinct_scalar? : ValueReader.Distinct scalar? := by
  intro cs v rest found
  -- None of the readers of single values gives a table.
  refine .other fun ms table => ?_
  subst table
  unfold scalar? at found
  split at found
  · cases found
  · cases found
  · simp at found

theorem distinct_of_pair? (h : read.Distinct) {cs rest : List Char} {p : KeyPath × Value}
    (found : pair? read cs = some (p, rest)) : p.2.Distinct := by
  simp only [pair?, Option.bind_eq_bind, Option.bind_eq_some_iff] at found
  obtain ⟨key, -, after, -, ⟨v, rest'⟩, value, same⟩ := found
  cases same
  exact h _ v rest' value

theorem distinct_of_pairs? (h : read.Distinct) {rounds : Nat} {cs rest : List Char}
    {ps : List (KeyPath × Value)} (found : pairs? read rounds cs = some (ps, rest)) :
    ∀ p ∈ ps, p.2.Distinct := by
  induction rounds generalizing cs ps with
  | zero => cases found
  | succ rounds ih =>
    simp only [pairs?, Option.bind_eq_bind, Option.bind_eq_some_iff] at found
    obtain ⟨⟨p, after⟩, first, found⟩ := found
    have first := distinct_of_pair? h first
    split at found
    · simp only [Option.bind_eq_some_iff] at found
      obtain ⟨⟨others, rest'⟩, pairs, same⟩ := found
      cases same
      exact List.forall_mem_cons.mpr ⟨first, ih pairs⟩
    · cases found
      exact List.forall_mem_singleton.mpr first
    · cases found

theorem distinct_of_tableOf? {ps : List (KeyPath × Value)} {v : Value}
    (distinct : ∀ p ∈ ps, p.2.Distinct) (found : tableOf? ps = some v) : v.Distinct := by
  simp only [tableOf?, Option.bind_eq_bind, Option.bind_eq_some_iff] at found
  obtain ⟨ms, folded, finished⟩ := found
  cases finished
  have members : Drafts.Distinct ms :=
    foldlM_invariant (fun p member => Drafts.keeps_insert (distinct p member) p.1 .stated)
      Drafts.distinct_nil folded
  exact (Drafts.distinct_table_iff.mpr members).finish

theorem distinct_lineTable? (h : read.Distinct) : ValueReader.Distinct (lineTable? read) := by
  intro cs v rest found
  unfold lineTable? at found
  split at found
  · cases found
    exact .table List.nodup_nil nofun
  · simp only [Option.bind_eq_bind, Option.bind_eq_some_iff] at found
    obtain ⟨⟨ps, rest'⟩, pairs, v', table, same⟩ := found
    cases same
    exact distinct_of_tableOf? (distinct_of_pairs? h pairs) table

theorem distinct_value? (depth : Nat) : ValueReader.Distinct (value? depth) := by
  induction depth with
  | zero => exact distinct_scalar?
  | succ depth ih =>
    intro cs v rest found
    unfold value? at found
    split at found
    · obtain ⟨items, -, same⟩ := Option.map_eq_some_iff.mp found
      cases same
      exact .other nofun
    · exact distinct_lineTable? ih _ v rest found
    · exact distinct_scalar? _ v rest found

/-! ### Documents -/

/-- In the tables of the value that a statement puts into a table no name stands twice. -/
def Statement.Distinct : Statement → Prop
  | pair _ v => v.Distinct
  | _ => True

theorem distinct_of_statement? {cs rest : List Char} {s : Statement}
    (found : statement? cs = some (s, rest)) : s.Distinct := by
  unfold statement? at found
  split at found
  · simp only [Option.bind_eq_bind, Option.bind_eq_some_iff] at found
    obtain ⟨_, _, _, _, _, _, same⟩ := found
    cases same
    trivial
  · simp only [Option.bind_eq_bind, Option.bind_eq_some_iff] at found
    obtain ⟨_, _, _, _, same⟩ := found
    cases same
    trivial
  · obtain ⟨⟨p, rest'⟩, pair, same⟩ := Option.map_eq_some_iff.mp found
    cases same
    exact distinct_of_pair? (distinct_value? maxDepth) pair

theorem distinct_of_statements? {rounds : Nat} {cs : List Char} {lines : List Statement}
    (found : statements? rounds cs = some lines) : ∀ s ∈ lines, s.Distinct := by
  induction rounds generalizing cs lines with
  | zero => cases found
  | succ rounds ih =>
    rw [statements?] at found
    split at found
    · cases found
      exact List.forall_mem_nil _
    · split at found
      · obtain ⟨next, -, found⟩ := Option.bind_eq_some_iff.mp found
        exact ih found
      · simp only [Option.bind_eq_bind, Option.bind_eq_some_iff] at found
        obtain ⟨⟨s, rest⟩, first, next, -, others, found, same⟩ := found
        cases same
        exact List.forall_mem_cons.mpr ⟨distinct_of_statement? first, ih found⟩

theorem distinct_of_add {s : Statement} (distinct : s.Distinct) (d d' : Document)
    (before : Drafts.Distinct d.members) (added : d.add s = some d') :
    Drafts.Distinct d'.members := by
  cases s with
  | openTable key =>
    obtain ⟨members, opened, rfl⟩ := Option.map_eq_some_iff.mp added
    exact Drafts.keeps_openTable key d.members members before opened
  | openItem key =>
    obtain ⟨members, opened, rfl⟩ := Option.map_eq_some_iff.mp added
    exact Drafts.keeps_openItem key d.members members before opened
  | pair key v =>
    obtain ⟨members, changed, rfl⟩ := Option.map_eq_some_iff.mp added
    exact Drafts.keeps_descend (Drafts.keeps_insert distinct key) d.here .stated d.members members
      before changed

/-- In the tables of a document no name stands twice. -/
theorem distinct_of_parse? {s : String} {ms : Members} (parsed : parse? s = some ms) :
    (Value.table ms).Distinct := by
  simp only [parse?, Option.bind_eq_bind, Option.bind_eq_some_iff] at parsed
  obtain ⟨lines, read, d, folded, same⟩ := parsed
  cases same
  have members : Drafts.Distinct d.members :=
    foldlM_invariant (P := fun d => Drafts.Distinct d.members)
      (fun s member => distinct_of_add (distinct_of_statements? read s member))
      Drafts.distinct_nil folded
  have whole := (Drafts.distinct_table_iff (o := .stated).mpr members).finish
  rwa [Draft.finish] at whole

/-! ### Order -/

/-- The members of a table, settled, keep their names. -/
theorem settleMembers?_eq_some {ms ms' : Members} (settled : settleMembers? ms = some ms') :
    ms'.map (·.1) = ms.map (·.1) ∧ ∀ m' ∈ ms', ∃ m ∈ ms, m.2.settle? = some m'.2 := by
  induction ms generalizing ms' with
  | nil =>
    cases settled
    simp
  | cons m ms ih =>
    rw [settleMembers?] at settled
    split at settled
    · next first others settled_first settled_others =>
      cases settled
      obtain ⟨names, each⟩ := ih settled_others
      have kept : ∃ m' ∈ m :: ms, m'.2.settle? = some first :=
        ⟨m, List.mem_cons_self, settled_first⟩
      refine ⟨by simp [names], List.forall_mem_cons.mpr ⟨kept, fun m' member => ?_⟩⟩
      obtain ⟨m'', found, same⟩ := each m' member
      exact ⟨m'', List.mem_cons_of_mem m found, same⟩
    · cases settled

theorem ordered_sortMembers {ms ms' : Members} (names : (ms.map (·.1)).Nodup)
    (inner : ∀ m ∈ ms, ∀ within, m.2.settle? = some (.table within) → Ordered within)
    (settled : settleMembers? ms = some ms') : Ordered (sortMembers ms') := by
  obtain ⟨same, each⟩ := settleMembers?_eq_some settled
  refine .intro (pairwise_mergeSort Prod.fst (same ▸ names)) fun name within member => ?_
  obtain ⟨m, given, settled⟩ := each _ (List.mem_mergeSort.mp member)
  exact inner m given within settled

/-- A table that stays a table is sorted when its members are settled. -/
theorem settle?_table_eq_some {ms within : Members}
    (settled : (Value.table ms).settle? = some (.table within)) :
    ∃ ms', settleMembers? ms = some ms' ∧ within = sortMembers ms' := by
  cases ms with
  | nil =>
    rw [Value.settle?] at settled
    cases settled
    exact ⟨[], rfl, List.mergeSort_nil.symm⟩
  | cons m rest =>
    rw [Value.settle?] at settled
    split at settled
    · simp at settled
    · split at settled
      · next first others settled_first settled_others =>
        cases settled
        exact ⟨(m.1, first) :: others, by rw [settleMembers?, settled_first, settled_others], rfl⟩
      · cases settled

/-- In the tables of a settled value the names are in order. -/
theorem ordered_of_settle? {v : Value} (h : v.Distinct) :
    ∀ within, v.settle? = some (.table within) → Ordered within := by
  induction h with
  | @table ms names _ ih =>
    intro within settled
    obtain ⟨ms', members, rfl⟩ := settle?_table_eq_some settled
    exact ordered_sortMembers names ih members
  | @other v no_table =>
    intro within settled
    cases v with
    | table ms => exact absurd rfl (no_table ms)
    | array items => simp [Value.settle?] at settled
    | _ => cases settled

/-- The members of a value that counts as a table, settled and sorted. -/
theorem ordered_of_members? {v : Value} {ms ms' : Members} (distinct : v.Distinct)
    (table : v.members? = some ms) (settled : settleMembers? ms = some ms') :
    Ordered (sortMembers ms') := by
  cases v with
  | table members =>
    cases table
    cases distinct with
    | table names inner =>
      exact ordered_sortMembers names (fun m member => ordered_of_settle? (inner m member)) settled
    | other no_table => exact absurd rfl (no_table ms)
  | moment m =>
    cases table
    have once : ([(momentName, Value.text m.display)].map (·.1)).Nodup := List.nodup_singleton _
    refine ordered_sortMembers once (List.forall_mem_singleton.mpr ?_) settled
    exact ordered_of_settle? (.other nofun)
  | _ => cases table

end GuestRoutines.Toml
