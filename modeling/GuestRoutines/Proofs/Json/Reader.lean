import GuestRoutines.Json.Reader
import GuestRoutines.Proofs.Json.Tokens

/-!
# The grammar of values

Every value has a list of tokens: brackets around its items or members, and commas between them. The
reader keeps in its frames and in what it waits for all the tokens that it has taken, so that it
ends with a value only at the end of that value's tokens; and it does take them.

## Main definitions

* `Json.tokens` — the tokens of a value
* `Json.Reader.taken` — the tokens that have led to a state of the reader
* `Json.Spells` — a text spells a value

## Main results

* `Json.Reader.taken_step`, `Json.Reader.taken_run` — one token, and all of them
* `Json.ofTokens?_eq_some_iff` — the reader takes the tokens of a value and no others
* `Json.parse?_eq_some_iff` — what is read from a text
-/

namespace GuestRoutines.Json

/-! ### Tokens of values -/

mutual

/-- The tokens of a value. -/
def tokens : Json → List Token
  | null => [.null]
  | bool b => [.bool b]
  | number n => [.number n]
  | text s => [.text s]
  | array items => .arrayOpen :: (List.intercalate [.comma] (itemTokens items) ++ [.arrayClose])
  | object members =>
    .objectOpen :: (List.intercalate [.comma] (memberTokens members) ++ [.objectClose])

/-- The tokens of each item of an array. -/
def itemTokens : List Json → List (List Token)
  | [] => []
  | v :: vs => v.tokens :: itemTokens vs

/-- The tokens of each member of an object. -/
def memberTokens : List (Option String × Json) → List (List Token)
  | [] => []
  | (k, v) :: ms => (.text k :: .colon :: v.tokens) :: memberTokens ms

end

/-- The tokens of some parts, with a comma behind each of them. -/
def listed (parts : List (List Token)) : List Token := parts.flatMap (· ++ [.comma])

theorem intercalate_concat (parts : List (List Token)) (last : List Token) :
    List.intercalate [.comma] (parts ++ [last]) = listed parts ++ last := by
  induction parts with
  | nil => simp [listed]
  | cons part parts ih =>
    obtain ⟨next, others, split⟩ : ∃ next others, parts ++ [last] = next :: others :=
      List.exists_cons_of_ne_nil (by simp)
    rw [List.cons_append, split, List.intercalate_cons_cons, ← split, ih]
    simp [listed]

theorem itemTokens_append (vs ws : List Json) :
    itemTokens (vs ++ ws) = itemTokens vs ++ itemTokens ws := by
  induction vs with
  | nil => rfl
  | cons v vs ih => simp [itemTokens, ih]

theorem memberTokens_append (ms ns : List (Option String × Json)) :
    memberTokens (ms ++ ns) = memberTokens ms ++ memberTokens ns := by
  induction ms with
  | nil => rfl
  | cons m ms ih => simp [memberTokens, ih]

/-- The tokens of an array, of which the last item is given apart. -/
theorem tokens_array_concat (items : List Json) (v : Json) :
    (array (items ++ [v])).tokens =
      .arrayOpen :: (listed (itemTokens items) ++ v.tokens) ++ [.arrayClose] := by
  rw [tokens, itemTokens_append, itemTokens, itemTokens, intercalate_concat, List.cons_append]

/-- The tokens of an object, of which the last member is given apart. -/
theorem tokens_object_concat (members : List (Option String × Json)) (k : Option String)
    (v : Json) :
    (object (members ++ [(k, v)])).tokens =
      .objectOpen :: (listed (memberTokens members) ++ (.text k :: .colon :: v.tokens)) ++
        [.objectClose] := by
  rw [tokens, memberTokens_append, memberTokens, memberTokens, intercalate_concat,
    List.cons_append]

/-! ### Tokens that have been taken -/

/-- The tokens that have opened a frame and filled it so far. -/
def Frame.taken : Frame → List Token
  | array items => .arrayOpen :: listed (itemTokens items.reverse)
  | object members k => .objectOpen :: (listed (memberTokens members.reverse) ++ [.text k, .colon])

/-- The tokens that have been taken since the innermost frame was last added to. -/
def Expectation.taken : Expectation → List Token
  | value | firstItem => []
  | key members => .objectOpen :: listed (memberTokens members.reverse)
  | firstKey => [.objectOpen]
  | colon members k => .objectOpen :: (listed (memberTokens members.reverse) ++ [.text k])
  | next v => v.tokens

namespace Reader

variable {r r' : Reader} {t : Token} {ts : List Token}

/-- The tokens that have led to a state. -/
def taken (r : Reader) : List Token := r.frames.reverse.flatMap Frame.taken ++ r.expects.taken

/-- A first item is awaited in an array only that holds none. -/
def Coherent (r : Reader) : Prop := r.expects = .firstItem → ∃ rest, r.frames = .array [] :: rest

theorem listed_concat (parts : List (List Token)) (last : List Token) :
    listed (parts ++ [last]) = listed parts ++ (last ++ [.comma]) := by
  simp [listed]

theorem taken_beginValue {frames : List Frame} (begun : beginValue frames t = some r') :
    r'.taken = taken ⟨frames, .value⟩ ++ [t] ∧ r'.Coherent := by
  cases t with
  | arrayOpen =>
    obtain rfl := Option.some.inj begun
    exact ⟨by simp [taken, Frame.taken, Expectation.taken, itemTokens, listed], fun _ => ⟨_, rfl⟩⟩
  | objectOpen =>
    obtain rfl := Option.some.inj begun
    exact ⟨by simp [taken, Expectation.taken], nofun⟩
  | null | bool | number | text =>
    obtain rfl := Option.some.inj begun
    exact ⟨by simp [taken, Expectation.taken, tokens], nofun⟩
  | _ => cases begun

theorem taken_takeKey {frames : List Frame} {members : List (Option String × Json)}
    (keyed : takeKey frames members t = some r') :
    r'.taken = taken ⟨frames, .key members⟩ ++ [t] ∧ r'.Coherent := by
  cases t with
  | text k =>
    obtain rfl := Option.some.inj keyed
    exact ⟨by simp [taken, Expectation.taken], nofun⟩
  | _ => cases keyed

theorem taken_afterValue {frames : List Frame} {v : Json}
    (gone : afterValue frames v t = some r') :
    r'.taken = taken ⟨frames, .next v⟩ ++ [t] ∧ r'.Coherent := by
  unfold afterValue at gone
  split at gone
  · obtain rfl := Option.some.inj gone
    refine ⟨?_, nofun⟩
    simp [taken, Frame.taken, Expectation.taken, itemTokens_append, itemTokens, listed_concat]
  · obtain rfl := Option.some.inj gone
    refine ⟨?_, nofun⟩
    simp [taken, Frame.taken, Expectation.taken, tokens_array_concat]
  · obtain rfl := Option.some.inj gone
    refine ⟨?_, nofun⟩
    simp [taken, Frame.taken, Expectation.taken, memberTokens_append, memberTokens, listed_concat]
  · obtain rfl := Option.some.inj gone
    refine ⟨?_, nofun⟩
    simp [taken, Frame.taken, Expectation.taken, tokens_object_concat]
  · cases gone

/-- Every token that is taken can be told from the state afterwards. -/
theorem taken_step (coherent : r.Coherent) (step : r.step t = some r') :
    r'.taken = r.taken ++ [t] ∧ r'.Coherent := by
  obtain ⟨frames, expects⟩ := r
  cases expects with
  | value => exact taken_beginValue step
  | key members => exact taken_takeKey step
  | next v => exact taken_afterValue step
  | firstItem =>
    obtain ⟨rest, rfl⟩ := coherent rfl
    by_cases closed : t = .arrayClose
    · subst closed
      obtain rfl := Option.some.inj step
      refine ⟨?_, nofun⟩
      simp [taken, Frame.taken, Expectation.taken, tokens, itemTokens, listed]
    · have begun : beginValue (.array [] :: rest) t = some r' := by
        cases t <;> first | exact absurd rfl closed | exact step
      exact taken_beginValue begun
  | firstKey =>
    by_cases closed : t = .objectClose
    · subst closed
      obtain rfl := Option.some.inj step
      refine ⟨?_, nofun⟩
      simp [taken, Expectation.taken, tokens, memberTokens]
    · have keyed : takeKey frames [] t = some r' := by
        cases t <;> first | exact absurd rfl closed | exact step
      exact taken_takeKey keyed
  | colon members k =>
    cases t with
    | colon =>
      obtain rfl := Option.some.inj step
      exact ⟨by simp [taken, Frame.taken, Expectation.taken], nofun⟩
    | _ => cases step

/-- The reader after some tokens. -/
def run (r : Reader) (ts : List Token) : Option Reader := ts.foldlM step r

@[simp] theorem run_nil (r : Reader) : r.run [] = some r := rfl

@[simp] theorem run_cons (r : Reader) (t : Token) (ts : List Token) :
    r.run (t :: ts) = (r.step t).bind fun r => r.run ts := rfl

theorem run_append (r : Reader) (ts us : List Token) :
    r.run (ts ++ us) = (r.run ts).bind fun r => r.run us := List.foldlM_append

/-- The state after a run holds all tokens of the run. -/
theorem taken_run (coherent : r.Coherent) (ran : r.run ts = some r') :
    r'.taken = r.taken ++ ts := by
  induction ts generalizing r with
  | nil =>
    obtain rfl := Option.some.inj ran
    rw [List.append_nil]
  | cons t ts ih =>
    rw [run_cons, Option.bind_eq_some_iff] at ran
    obtain ⟨r₁, first, others⟩ := ran
    obtain ⟨taken, coherent₁⟩ := taken_step coherent first
    rw [ih coherent₁ others, taken, List.append_assoc]
    rfl

/-! ### Numerals apart -/

theorem next_of_number {n : Numeral} (step : r.step (.number n) = some r') :
    ∃ v, r'.expects = .next v := by
  obtain ⟨frames, expects⟩ := r
  cases expects with
  | value | firstItem =>
    obtain rfl := Option.some.inj step
    exact ⟨_, rfl⟩
  | next v => cases frames with
    | nil => cases step
    | cons f frames => cases f <;> cases step
  | _ => cases step

theorem isMark_of_next {v : Json} (complete : r.expects = .next v) (step : r.step t = some r') :
    t.IsMark := by
  obtain ⟨frames, expects⟩ := r
  obtain rfl : expects = .next v := complete
  have gone : afterValue frames v t = some r' := step
  unfold afterValue at gone
  split at gone
  · simp [Token.IsMark]
  · simp [Token.IsMark]
  · simp [Token.IsMark]
  · simp [Token.IsMark]
  · cases gone

/-- Behind a numeral the reader takes a mark only. -/
theorem apart_of_run (ran : r.run ts = some r') : Apart ts := by
  induction ts generalizing r with
  | nil => exact .nil
  | cons t ts ih =>
    rw [run_cons, Option.bind_eq_some_iff] at ran
    obtain ⟨r₁, first, others⟩ := ran
    refine List.isChain_cons.mpr ⟨?_, ih others⟩
    rintro u head ⟨n, rfl⟩
    obtain ⟨v, complete⟩ := next_of_number first
    obtain ⟨us, rfl⟩ := List.head?_eq_some_iff.mp head
    rw [run_cons, Option.bind_eq_some_iff] at others
    obtain ⟨r₂, second, -⟩ := others
    exact isMark_of_next complete second

/-! ### Taking the tokens of a value -/

/-- A value is begun alike whether or not it is the first item of an array. -/
theorem run_firstItem (frames : List Frame) (v : Json) (rest : List Token) :
    run ⟨frames, .firstItem⟩ (v.tokens ++ rest) = run ⟨frames, .value⟩ (v.tokens ++ rest) := by
  cases v <;> rfl

theorem intercalate_cons (part : List Token) (parts : List (List Token)) (last : Token) :
    List.intercalate [.comma] (part :: parts) ++ [last] =
      part ++ match parts with
        | [] => [last]
        | next :: others => .comma :: (List.intercalate [.comma] (next :: others) ++ [last]) := by
  cases parts with
  | nil => simp
  | cons next others => simp [List.intercalate_cons_cons]

mutual

theorem run_tokens (v : Json) (frames : List Frame) :
    run ⟨frames, .value⟩ v.tokens = some ⟨frames, .next v⟩ := by
  cases v with
  | null => rfl
  | bool b => rfl
  | number n => rfl
  | text s => rfl
  | array items =>
    cases items with
    | nil => rfl
    | cons v vs =>
      have run := run_items (v :: vs) (by simp) [] frames
      rw [itemTokens, intercalate_cons] at run
      rw [tokens, itemTokens, intercalate_cons]
      exact (run_firstItem _ v _).trans run
  | object members =>
    cases members with
    | nil => rfl
    | cons m ms =>
      have run := run_members (m :: ms) (by simp) [] frames
      rw [memberTokens, intercalate_cons] at run
      rw [tokens, memberTokens, intercalate_cons]
      exact run

theorem run_items (items : List Json) (some_item : items ≠ []) (done : List Json)
    (frames : List Frame) :
    run ⟨.array done :: frames, .value⟩
        (List.intercalate [.comma] (itemTokens items) ++ [.arrayClose]) =
      some ⟨frames, .next (.array (done.reverse ++ items))⟩ := by
  cases items with
  | nil => exact absurd rfl some_item
  | cons v vs =>
    have first := run_tokens v (.array done :: frames)
    rw [itemTokens, intercalate_cons, run_append, first, Option.bind_some]
    cases vs with
    | nil => simp [itemTokens, step, afterValue]
    | cons w ws =>
      have others := run_items (w :: ws) (by simp) (v :: done) frames
      simpa [itemTokens, step, afterValue] using others

theorem run_members (members : List (Option String × Json)) (some_member : members ≠ [])
    (done : List (Option String × Json)) (frames : List Frame) :
    run ⟨frames, .key done⟩
        (List.intercalate [.comma] (memberTokens members) ++ [.objectClose]) =
      some ⟨frames, .next (.object (done.reverse ++ members))⟩ := by
  cases members with
  | nil => exact absurd rfl some_member
  | cons m ms =>
    obtain ⟨k, v⟩ := m
    have first := run_tokens v (.object done k :: frames)
    rw [memberTokens, intercalate_cons, List.cons_append, List.cons_append]
    show run ⟨.object done k :: frames, .value⟩ _ = _
    rw [run_append, first, Option.bind_some]
    cases ms with
    | nil => simp [memberTokens, step, afterValue]
    | cons m' ms =>
      have others := run_members (m' :: ms) (by simp) ((k, v) :: done) frames
      simpa [memberTokens, step, afterValue] using others

end

end Reader

/-! ### What is read -/

/-- The reader takes the tokens of a value and no others. -/
theorem ofTokens?_eq_some_iff {v : Json} {ts : List Token} :
    ofTokens? ts = some v ↔ ts = v.tokens := by
  have whole (r : Reader) : r.result? = some v ↔ r = ⟨[], .next v⟩ := by
    unfold Reader.result?
    split
    · simp
    · next other =>
      refine ⟨nofun, ?_⟩
      rintro rfl
      exact absurd rfl (other v)
  have read : ofTokens? ts = some v ↔ Reader.start.run ts = some ⟨[], .next v⟩ := by
    rw [ofTokens?, Option.bind_eq_some_iff]
    simp only [whole]
    exact ⟨fun ⟨r, ran, same⟩ => same ▸ ran, fun ran => ⟨_, ran, rfl⟩⟩
  rw [read]
  constructor
  · intro ran
    have taken := Reader.taken_run (r := .start) nofun ran
    exact taken.symm
  · rintro rfl
    exact Reader.run_tokens v []

/-- A text spells a value if it is written in the value's tokens. -/
def Spells (s : String) (v : Json) : Prop := Written s.toList v.tokens

/-- Reading accepts exactly the texts that spell a value. -/
theorem parse?_eq_some_iff {s : String} {v : Json} : parse? s = some v ↔ Spells s v := by
  rw [parse?, Option.bind_eq_some_iff]
  constructor
  · rintro ⟨ts, cut, read⟩
    obtain rfl := ofTokens?_eq_some_iff.mp read
    exact written_of_tokens? cut
  · intro spelled
    have apart := Reader.apart_of_run (Reader.run_tokens v [])
    exact ⟨_, tokens?_of_written spelled apart, ofTokens?_eq_some_iff.mpr rfl⟩

theorem mem_intercalate {parts : List (List Token)} {part : List Token} {t : Token}
    (among : part ∈ parts) (member : t ∈ part) : t ∈ List.intercalate [.comma] parts := by
  induction parts with
  | nil => cases among
  | cons first others ih =>
    cases others with
    | nil => simpa [List.mem_singleton.mp among] using member
    | cons second others =>
      rw [List.intercalate_cons_cons]
      rcases List.mem_cons.mp among with rfl | later
      · simp [member]
      · simp [ih later]

theorem mem_itemTokens {items : List Json} {v : Json} (member : v ∈ items) :
    v.tokens ∈ itemTokens items := by
  induction items with
  | nil => cases member
  | cons w items ih =>
    rcases List.mem_cons.mp member with rfl | later
    · exact List.mem_cons_self
    · exact List.mem_cons_of_mem _ (ih later)

/-- A numeral that stands for a whole number is the numeral of that number, wherever it is spelled
on its own or as an item. -/
theorem Spells.eq_ofInt {s : String} {v : Json} (spelled : Spells s v) {n : Numeral} {k : Int}
    (member : .number n ∈ v.tokens) (scalar : n.scalar? = some (.int k)) : n = .ofInt k := by
  obtain ⟨w, one⟩ := Written.exists_spells spelled member
  cases one with
  | number numeral => exact (numeral.eq_ofInt_of_scalar? scalar).1

theorem number_mem_tokens_array {items : List Json} {n : Numeral} (member : .number n ∈ items) :
    .number n ∈ (array items).tokens := by
  have inner := mem_intercalate (mem_itemTokens member) (List.mem_singleton.mpr rfl)
  simp [tokens, inner]

/-- A text spells one value at most. -/
theorem Spells.unique {s : String} {v w : Json} (first : Spells s v) (second : Spells s w) :
    v = w :=
  Option.some.inj ((parse?_eq_some_iff.mpr first).symm.trans (parse?_eq_some_iff.mpr second))

end GuestRoutines.Json
