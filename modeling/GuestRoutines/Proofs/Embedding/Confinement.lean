import GuestRoutines.Proofs.Embedding.ModuleService
import GuestRoutines.Proofs.Module.Confinement
import GuestRoutines.Proofs.Module.Library

/-!
# The files that a call looks at

The text of an identifier comes from anybody who may call a routine. Whatever it is, a call looks at
the module files of the name that was parsed from it, in the directories that were configured, and
at no other file. Where nothing is parsed, no file matters at all.

To look at a file is to depend on it: two trees that agree on the files in question cannot be told
apart by what a call answers, or by what it leaves behind.

## Main definitions

* `Bridge.withFiles` — the same bridge in front of other files
* `Embedder.modulePath` — the directories that a call may search

## Main results

* `Bridge.Reached.upholds` — an invariant of runtimes holds in every run
* `Embedder.dispatch_withFiles` — a call in front of other files
* `Bridge.routine_text_confined` — all of it, for every text
-/

namespace GuestRoutines

namespace ModuleRuntime

variable {r : ModuleRuntime} {compiler : Compiler} {t : FileTree} {id : RoutineId} {host : Host}

theorem searchPath_resolve (r : ModuleRuntime) (compiler : Compiler) (files : FileTree)
    (id : RoutineId) :
    (r.resolve compiler files id).2.catalog.searchPath = r.catalog.searchPath := by
  rw [resolve_snd]
  exact r.catalog.searchPath_load ..

theorem searchPath_call (r : ModuleRuntime) (compiler : Compiler) (id : RoutineId)
    (arguments : List HostValue) (host : Host) :
    (r.call compiler id arguments host).2.1.catalog.searchPath = r.catalog.searchPath := by
  have path : (r.load compiler host.files id.module).2.searchPath = r.catalog.searchPath :=
    r.catalog.searchPath_load ..
  unfold call
  split
  · rfl
  · rcases loaded : r.load compiler host.files id.module with ⟨_ | m, catalog⟩ <;>
    · rw [loaded] at path
      exact path

theorem searchPath_launch {given : List (String × String)} {params : StartupParams}
    (launched : launch compiler given params t = .ok r) :
    r.catalog.searchPath = params.modulePath := by
  -- The modules that are given change what is kept, and not where others are searched.
  have registered := Library.performAll_of_registerAll (Library.registerAll_of_launch launched) t
  have same := Library.searchPath_performAll (compiler.within params.runtime.engine)
    ⟨{ searchPath := params.modulePath }, t⟩ (Library.registrations given)
  rwa [registered] at same

/-- A launch asks whether its directories are there, and nothing else of the files. -/
theorem launch_congr {t' : FileTree} {params : StartupParams}
    (alike : ∀ dir ∈ params.modulePath, t'.isDirectory dir = t.isDirectory dir)
    (compiler : Compiler) (given : List (String × String)) :
    launch compiler given params t' = launch compiler given params t := by
  have same : firstNonDirectory? t' params.modulePath = firstNonDirectory? t params.modulePath := by
    apply List.find?_congr
    intro dir member
    rw [alike dir member]
  rw [launch, same]
  rfl

theorem resolve_congr {t' : FileTree}
    (same : r.load compiler t' id.module = r.load compiler t id.module) :
    r.resolve compiler t' id = r.resolve compiler t id := by
  rw [resolve, same]
  rfl

/-- A call in front of other files, which do not matter if the module is kept. -/
theorem call_withFiles {m : CompiledModule} (kept : r.catalog.get? id.module = some m)
    (compiler : Compiler) (arguments : List HostValue) (host : Host) (t : FileTree) :
    r.call compiler id arguments { host with files := t } =
      ((r.call compiler id arguments host).1, (r.call compiler id arguments host).2.1,
        { (r.call compiler id arguments host).2.2 with files := t }) := by
  have loaded (files : FileTree) : r.load compiler files id.module = (.ok m, r.catalog) :=
    Catalog.load_of_kept kept
  simp only [call, loaded]
  split <;> rfl

end ModuleRuntime

/-! ### Invariants of runtimes -/

/-- What holds of every runtime that was launched, and is kept by lookups and calls. -/
structure ModuleRuntime.Invariant (compiler : Compiler) (given : List (String × String))
    (I : StartupParams → ModuleRuntime → Prop) : Prop where
  launched : ∀ params files r, launch compiler given params files = .ok r → I params r
  resolved : ∀ params r files id, I params r → I params (r.resolve compiler files id).2
  called : ∀ params r id arguments host,
    I params r → I params (r.call compiler id arguments host).2.1

theorem ModuleRuntime.invariant_searchPath (compiler : Compiler) (given : List (String × String)) :
    Invariant compiler given fun params r => r.catalog.searchPath = params.modulePath where
  launched _ _ _ launched := searchPath_launch launched
  resolved _ r files id same := (r.searchPath_resolve compiler files id).trans same
  called _ r id arguments host same := (r.searchPath_call compiler id arguments host).trans same

variable {compiler : Compiler} {given : List (String × String)}
  {I : StartupParams → ModuleRuntime → Prop}

namespace Embedder

variable {e e' : Embedder ModuleRuntime}

/-- If there is a runtime, the invariant holds of it. -/
def Upholds (I : StartupParams → ModuleRuntime → Prop) (e : Embedder ModuleRuntime) : Prop :=
  ∀ params r, e.lifecycle = .ready params r → I params r

theorem Upholds.of_eq (h : e.Upholds I) (same : e'.lifecycle = e.lifecycle) : e'.Upholds I := by
  intro params r ready
  exact h params r (same.symm.trans ready)

theorem upholds_of_idle (idle : e.lifecycle.state ≠ .ready) : e.Upholds I :=
  fun _ _ ready => absurd (congrArg Lifecycle.state ready) idle

theorem upholds_ensureReady (keeps : ModuleRuntime.Invariant compiler given I) (h : e.Upholds I) :
    (e.ensureReady (ModuleRuntime.launcher compiler given)).2.Upholds I := by
  by_cases fresh : e.lifecycle.state = .uninitialized
  · obtain ⟨tier, first⟩ := Lifecycle.state_eq_uninitialized_iff.mp fresh
    have started := started_ensureReady (L := ModuleRuntime.launcher compiler given) first
    generalize (e.ensureReady (ModuleRuntime.launcher compiler given)).1 = answer at started
    generalize (e.ensureReady (ModuleRuntime.launcher compiler given)).2 = after at started
    cases started with
    | misconfigured error unread => exact upholds_of_idle nofun
    | unwound params u host read launch => exact upholds_of_idle nofun
    | refused params error host read launch => exact upholds_of_idle nofun
    | launched params runtime host read launch =>
      rintro _ _ ⟨⟩
      exact keeps.launched params e.host.files runtime (Except.ok.inj (congrArg Prod.fst launch))
  · rwa [ensureReady_of_tried fresh]

theorem upholds_perform (keeps : ModuleRuntime.Invariant compiler given I) (h : e.Upholds I)
    (op : Operation) : (e.perform (ModuleRuntime.launcher compiler given) op).Upholds I := by
  cases op with
  | ensureReady => exact upholds_ensureReady keeps h
  | setPosture tier =>
    by_cases fresh : e.lifecycle.state = .uninitialized
    · obtain ⟨before, first⟩ := Lifecycle.state_eq_uninitialized_iff.mp fresh
      rw [perform, setPosture_of_uninitialized first]
      exact upholds_of_idle (by simp)
    · rwa [perform, setPosture_of_tried fresh]
  | refreshLogLevel => exact h.of_eq (lifecycle_refreshLogLevel e)
  | teardown =>
    have down := lifecycle_teardown (ModuleRuntime.launcher compiler given) e
    exact upholds_of_idle (by simp [perform, down])
  | hostChange settings host => exact h.of_eq rfl

theorem upholds_dispatch (keeps : ModuleRuntime.Invariant compiler given I) (h : e.Upholds I)
    (routine : String) (arguments : List HostValue) :
    (e.dispatch (ModuleRuntime.launcher compiler given) routine arguments).2.Upholds I := by
  have started := upholds_ensureReady keeps h
  -- A lookup leaves a runtime of which the invariant holds, whatever it has found.
  have looking {params : StartupParams} {id : RoutineId} {r : ModuleRuntime} {host : Host}
      {answer : Except Unwinding (Except ModuleError RoutineHandle)}
      (looked : LooksUp (ModuleRuntime.launcher compiler given) routine e params id answer r host) :
      I params r := by
    obtain ⟨before, ready, asked⟩ := looked.looked
    generalize (e.ensureReady (ModuleRuntime.launcher compiler given)).2.host = asking at asked
    obtain rfl : (before.resolve compiler asking.files id).2 = r := congrArg (·.2.1) asked
    exact keeps.resolved params before asking.files id (started params before ready)
  have ending := dispatched_dispatch (ModuleRuntime.launcher compiler given) routine arguments e
  generalize (e.dispatch (ModuleRuntime.launcher compiler given) routine arguments).1 = answer
    at ending
  generalize (e.dispatch (ModuleRuntime.launcher compiler given) routine arguments).2 = after
    at ending
  cases ending with
  | startupUnwound u unwound | startupFailed error failed | malformed ready unread => exact started
  | lookupUnwound params id u runtime host looked
  | lookupFailed params id error runtime host looked =>
    rintro _ _ ⟨⟩
    exact looking looked
  | called params id handle between last host final outcome looked call =>
    rintro _ _ ⟨⟩
    obtain rfl : (between.call compiler handle.id arguments host).2.1 = last :=
      congrArg (·.2.1) call
    exact keeps.called params between handle.id arguments host (looking looked)

end Embedder

namespace Bridge

variable {b : Bridge ModuleRuntime}

theorem upholds_access (keeps : ModuleRuntime.Invariant compiler given I)
    (h : b.embedder.Upholds I) (a : Access) :
    (b.access (ModuleRuntime.launcher compiler given) a).embedder.Upholds I := by
  cases a with
  | operation op =>
    rcases embedder_perform (ModuleRuntime.launcher compiler given) b op with
      ⟨routine, arguments, rfl⟩ | ⟨inner, same⟩
    · rw [access, perform, embedder_call]
      exact Embedder.upholds_dispatch keeps h routine arguments
    · rw [access, same]
      exact Embedder.upholds_perform keeps h inner
  | resolve id =>
    rw [access, Embedder.resolve]
    split
    · next params r ready =>
      rw [Embedder.resolveIn_launcher]
      rintro _ _ ⟨⟩
      exact keeps.resolved params r b.embedder.host.files id (h params r ready)
    · exact h
  | call handle arguments =>
    rw [access, Embedder.callHandle]
    split
    · next params r ready =>
      rw [Embedder.callIn_launcher]
      rintro _ _ ⟨⟩
      exact keeps.called params r handle.id arguments b.embedder.host (h params r ready)
    · exact h

/-- In every run, an invariant of runtimes holds of the runtime. -/
theorem Reached.upholds (keeps : ModuleRuntime.Invariant compiler given I)
    (reached : b.Reached compiler given) : b.embedder.Upholds I := by
  obtain ⟨settings, host, history, rfl⟩ := reached
  have begun : (new (ρ := ModuleRuntime) settings host).embedder.Upholds I :=
    Embedder.upholds_of_idle nofun
  unfold accessAll
  generalize new settings host = b at begun
  induction history generalizing b with
  | nil => exact begun
  | cons a history ih => exact ih _ (upholds_access keeps begun a)

end Bridge

/-! ### Other files -/

namespace Embedder

variable {e : Embedder ModuleRuntime} {t : FileTree} {routine : String}

/-- The same embedder in front of other files. -/
def withFiles (t : FileTree) (e : Embedder ModuleRuntime) : Embedder ModuleRuntime :=
  { e with host := { e.host with files := t } }

/-- The directories that a call may search: those of the runtime, or those that it would be launched
with. -/
def modulePath (e : Embedder ModuleRuntime) : List String :=
  match e.lifecycle with
  | .uninitialized tier =>
    match startupParams e.settings e.host.log.levels tier with
    | .ok params => params.modulePath
    | .error _ => []
  | .ready params _ => params.modulePath
  | _ => []

/-- The directories of the runtime are those that were known before startup. -/
theorem modulePath_of_ready {params : StartupParams} {r : ModuleRuntime}
    (ready : (e.ensureReady (ModuleRuntime.launcher compiler given)).2.lifecycle =
      .ready params r) : e.modulePath = params.modulePath := by
  by_cases fresh : e.lifecycle.state = .uninitialized
  · obtain ⟨tier, first⟩ := Lifecycle.state_eq_uninitialized_iff.mp fresh
    have started := started_ensureReady (L := ModuleRuntime.launcher compiler given) first
    generalize (e.ensureReady (ModuleRuntime.launcher compiler given)).1 = answer at started
    generalize (e.ensureReady (ModuleRuntime.launcher compiler given)).2 = after at started ready
    cases started with
    | misconfigured error unread => cases ready
    | unwound params u host read launch => cases ready
    | refused params error host read launch => cases ready
    | launched params runtime host read launch =>
      cases ready
      simp only [modulePath, first, read]
  · have already : e.lifecycle = .ready params r := by rwa [ensureReady_of_tried fresh] at ready
    simp only [modulePath, already]

theorem files_ensureReady (e : Embedder ModuleRuntime) (compiler : Compiler)
    (given : List (String × String)) :
    (e.ensureReady (ModuleRuntime.launcher compiler given)).2.host.files = e.host.files := by
  by_cases fresh : e.lifecycle.state = .uninitialized
  · obtain ⟨tier, first⟩ := Lifecycle.state_eq_uninitialized_iff.mp fresh
    have started := started_ensureReady (L := ModuleRuntime.launcher compiler given) first
    generalize (e.ensureReady (ModuleRuntime.launcher compiler given)).1 = answer at started
    generalize (e.ensureReady (ModuleRuntime.launcher compiler given)).2 = after at started
    cases started with
    | misconfigured error unread => rfl
    | unwound params u host read launch
    | refused params error host read launch
    | launched params runtime host read launch =>
      obtain rfl : e.host.withThreshold params.logThreshold = host := congrArg Prod.snd launch
      rfl
  · rw [ensureReady_of_tried fresh]

/-- Startup asks whether the directories are there, and nothing else of the files. -/
theorem ensureReady_withFiles
    (alike : e.lifecycle.state = .uninitialized →
      ∀ dir ∈ e.modulePath, t.isDirectory dir = e.host.files.isDirectory dir) :
    (e.withFiles t).ensureReady (ModuleRuntime.launcher compiler given) =
      ((e.ensureReady (ModuleRuntime.launcher compiler given)).1,
        (e.ensureReady (ModuleRuntime.launcher compiler given)).2.withFiles t) := by
  by_cases fresh : e.lifecycle.state = .uninitialized
  · obtain ⟨tier, first⟩ := Lifecycle.state_eq_uninitialized_iff.mp fresh
    have first' : (e.withFiles t).lifecycle = .uninitialized tier := first
    rw [ensureReady_of_uninitialized first, ensureReady_of_uninitialized first']
    cases read : startupParams e.settings e.host.log.levels tier with
    | error error => simp only [start, withFiles, read]
    | ok params =>
      have path : e.modulePath = params.modulePath := by simp only [modulePath, first, read]
      have same := ModuleRuntime.launch_congr (by rw [← path]; exact alike fresh) compiler given
      simp only [start, withFiles, read, withThreshold, ModuleRuntime.launcher, same]
      cases ModuleRuntime.launch compiler given params e.host.files <;> rfl
  · have fresh' : (e.withFiles t).lifecycle.state ≠ .uninitialized := fresh
    rw [ensureReady_of_tried fresh, ensureReady_of_tried fresh']
    rfl

theorem resolveAndCall_withFiles {r : ModuleRuntime} {id : RoutineId}
    (same : r.load compiler t id.module = r.load compiler e.host.files id.module)
    (params : StartupParams) (arguments : List HostValue) :
    (e.withFiles t).resolveAndCall (ModuleRuntime.launcher compiler given) params r id arguments =
      ((e.resolveAndCall (ModuleRuntime.launcher compiler given) params r id arguments).1,
        (e.resolveAndCall (ModuleRuntime.launcher compiler given) params r id
          arguments).2.withFiles t) := by
  have found : r.resolve compiler (e.withFiles t).host.files id =
      r.resolve compiler e.host.files id := ModuleRuntime.resolve_congr same
  simp only [resolveAndCall, resolveIn_launcher, found]
  cases answer : (r.resolve compiler e.host.files id).1 with
  | error error => rfl
  | ok handle =>
    -- The lookup has the module kept, so that the call does not look at any file.
    obtain ⟨m, serves⟩ := ModuleRuntime.serves_of_resolve answer
    have kept : (r.resolve compiler e.host.files id).2.catalog.get? handle.id.module = some m := by
      rw [serves.handle_eq]
      exact serves.kept
    have call := ModuleRuntime.call_withFiles kept compiler arguments e.host t
    simp only [callIn_launcher, withFiles, call]

/-- A call in front of other files: it looks at the candidates of the module that was parsed, and
startup asks whether the directories are there. -/
theorem dispatch_withFiles
    (searches : (e.ensureReady (ModuleRuntime.launcher compiler given)).2.Upholds
      fun params r => r.catalog.searchPath = params.modulePath)
    (there : e.lifecycle.state = .uninitialized →
      ∀ dir ∈ e.modulePath, t.isDirectory dir = e.host.files.isDirectory dir)
    (alike : ∀ id, RoutineId.parse routine = some id →
      FileTree.AgreeAt (Catalog.IsCandidate e.modulePath id.module) e.host.files t)
    (arguments : List HostValue) :
    (e.withFiles t).dispatch (ModuleRuntime.launcher compiler given) routine arguments =
      ((e.dispatch (ModuleRuntime.launcher compiler given) routine arguments).1,
        (e.dispatch (ModuleRuntime.launcher compiler given) routine arguments).2.withFiles t) := by
  have files := e.files_ensureReady compiler given
  have path {params : StartupParams} {r : ModuleRuntime}
      (ready : (e.ensureReady (ModuleRuntime.launcher compiler given)).2.lifecycle =
        .ready params r) : e.modulePath = params.modulePath := modulePath_of_ready ready
  rw [dispatch, dispatch, ensureReady_withFiles there]
  generalize (e.ensureReady (ModuleRuntime.launcher compiler given)) = started at *
  obtain ⟨answer, after⟩ := started
  match answer with
  | .error u => rfl
  | .ok (.error error) => rfl
  | .ok (.ok ()) =>
    dsimp only
    cases parsed : RoutineId.parse routine with
    | none => rfl
    | some id =>
      have lifecycle : (after.withFiles t).lifecycle = after.lifecycle := rfl
      rw [lifecycle]
      cases live : after.lifecycle with
      | ready params r =>
        refine resolveAndCall_withFiles ?_ params arguments
        refine Catalog.load_congr fun _ => ?_
        rw [searches params r live, ← path live, files]
        exact alike id parsed
      | _ => rfl

end Embedder

namespace Bridge

/-- The same bridge in front of other files. -/
def withFiles (t : FileTree) (b : Bridge ModuleRuntime) : Bridge ModuleRuntime :=
  { b with embedder := b.embedder.withFiles t }

theorem call_withFiles {b : Bridge ModuleRuntime} {t : FileTree} {routine : String}
    {arguments : List HostValue}
    (same : (b.embedder.withFiles t).dispatch (ModuleRuntime.launcher compiler given) routine
        arguments =
      ((b.embedder.dispatch (ModuleRuntime.launcher compiler given) routine arguments).1,
        (b.embedder.dispatch (ModuleRuntime.launcher compiler given) routine
          arguments).2.withFiles t)) :
    (b.withFiles t).call (ModuleRuntime.launcher compiler given) routine arguments =
      ((b.call (ModuleRuntime.launcher compiler given) routine arguments).1,
        (b.call (ModuleRuntime.launcher compiler given) routine arguments).2.withFiles t) := by
  simp only [call, CallCounts.invoke, withFiles, same]
  rcases b.embedder.dispatch (ModuleRuntime.launcher compiler given) routine arguments with
    ⟨_ | _, _⟩ <;> rfl

/-- **No text of a routine leads out of the module path.** Whatever has been done with a catalogue
and with a bridge, and whatever the text is, the files that matter are those of a name in the
directories that are searched: of the text itself for the catalogue, and of the module that is
parsed from it for a call. They are entries of these directories. For any other text no file
matters. -/
theorem routine_text_confined (compiler : Compiler) (given : List (String × String))
    (searchPath : List String) (files : FileTree) (ops : List Library.Operation) (s : String) :
    let c := (Library.performAll compiler ⟨{ searchPath }, files⟩ ops).catalog
    let L := ModuleRuntime.launcher compiler given
    -- The catalogue accepts the names that are parsed as modules, and these are runs of letters.
    (∀ name, Name.isValid name = true ↔ IsName name) ∧
    (∀ name, (∃ text id, RoutineId.parse text = some id ∧ id.module = name) ↔
      Name.isValid name = true) ∧
    -- A candidate is an entry of one of the directories, and nothing else.
    (∀ dirs name path, IsName name → Catalog.IsCandidate dirs name path →
      ∃ dir ∈ dirs, ∃ ending ∈ [".wasm", ".wat"], ∀ t place n,
        FileTree.locate t path = .ok (place, n) → ∃ parent, place = parent ++ [name ++ ending] ∧
          if dir = "" then parent = [] else t.locate dir = .ok (parent, .directory)) ∧
    -- The catalogue locates a candidate, and does not look at anything else.
    (∀ t path, c.locate t s = some path → IsName s ∧ Catalog.IsCandidate searchPath s path) ∧
    (∀ t t', (IsName s → FileTree.AgreeAt (Catalog.IsCandidate searchPath s) t t') →
      c.locate t' s = c.locate t s ∧ c.load compiler t' s = c.load compiler t s) ∧
    (¬ IsName s → ∀ t,
      c.locate t s = none ∧ c.load compiler t s = (.error (.notFound s), c)) ∧
    -- The module of an identifier is only refused where there is no file for it.
    (∀ id, RoutineId.parse s = some id → ∀ t, c.get? id.module = none →
      ((∃ name, (c.load compiler t id.module).1 = .error (.notFound name)) ↔
        ∀ dir ∈ searchPath, Catalog.NoFile t id.module dir)) ∧
    -- A call looks at the candidates of the module, and the first one asks for the directories.
    ∀ b : Bridge ModuleRuntime, b.Reached compiler given → ∀ t arguments,
      (b.embedder.lifecycle.state = .uninitialized → ∀ dir ∈ b.embedder.modulePath,
        t.isDirectory dir = b.embedder.host.files.isDirectory dir) →
      (∀ id, RoutineId.parse s = some id → FileTree.AgreeAt
        (Catalog.IsCandidate b.embedder.modulePath id.module) b.embedder.host.files t) →
      (b.withFiles t).call L s arguments =
        ((b.call L s arguments).1, (b.call L s arguments).2.withFiles t) := by
  intro c L
  have sound : c.Sound := Library.sound_performAll compiler (Catalog.sound_empty searchPath) ops
  have path : c.searchPath = searchPath :=
    Library.searchPath_performAll compiler ⟨{ searchPath }, files⟩ ops
  refine ⟨fun name => Name.isValid_iff, fun name => ?_,
    fun dirs name path named candidate => candidate.inside named, ?_, fun t t' alike => ?_,
    fun unnamed t => ⟨?_, Catalog.load_of_not_name sound unnamed t⟩, fun id read t absent => ?_,
    fun b reached t arguments there alike => ?_⟩
  · rw [Name.isValid_iff]
    constructor
    · rintro ⟨text, id, read, rfl⟩
      exact (RoutineId.parse_eq_some_iff.mp read).names.1
    · intro named
      exact ⟨name, ⟨name, name⟩, RoutineId.parse_eq_some_iff.mpr (.bare named), rfl⟩
  · intro t path' located
    rw [← path]
    exact Catalog.isCandidate_of_locate located
  · rw [← path] at alike
    exact ⟨Catalog.locate_congr alike, Catalog.load_congr alike⟩
  · rw [← Option.not_isSome_iff_eq_none]
    intro located
    obtain ⟨path', located⟩ := Option.isSome_iff_exists.mp located
    exact unnamed (Catalog.isCandidate_of_locate located).1
  · have named := (RoutineId.parse_eq_some_iff.mp read).names.1
    rw [Catalog.load_eq_notFound_iff absent, path, Catalog.Missing, Name.isValid_iff.mpr named]
    simp
  · have searches := reached.upholds (ModuleRuntime.invariant_searchPath compiler given)
    have searches' :=
      Embedder.upholds_ensureReady (ModuleRuntime.invariant_searchPath compiler given) searches
    exact call_withFiles (Embedder.dispatch_withFiles searches' there alike arguments)

end Bridge

end GuestRoutines
