import GuestRoutines.Proofs.Value.Untagged

/-!
# Words on a command line

A word on a command line is a text unless it is the JSON text of null, of a truth value or of a
number. What merely resembles such a text stays as it was typed, and so do quoted texts, arrays and
objects, though they are JSON as well. The canonical text of an integer or of a truth value becomes
that value, and a guest sees the word itself all the same.

## Main definitions

* `HostValue.Literal`, `HostValue.Names` — the words that are not taken as texts
* `HostValue.Lookalike` — words that resemble them
* `HostValue.Becomes` — a word becomes a value and reaches a guest as it was typed

## Main results

* `HostValue.names_iff` — what these words are read as
* `HostValue.Lookalike.not_names` — their lookalikes are not among them
* `HostValue.words_reach_as_typed` — what becomes of every word
-/

namespace GuestRoutines.HostValue

/-- The text of null, of a truth value, or of a number that can be represented. -/
inductive Literal : List Char → HostValue → Prop where
  | null : Literal ['n', 'u', 'l', 'l'] null
  | bool (b : Bool) : Literal (boolText b).toList (bool b)
  | int {w : List Char} {n : Json.Numeral} {k : Int} (spelled : Json.Numeral.Spells w n)
      (scalar : n.scalar? = some (.int k)) : Literal w (ofInt k)
  | float {w : List Char} {n : Json.Numeral} {x : Binary64} (spelled : Json.Numeral.Spells w n)
      (scalar : n.scalar? = some (.float x)) : Literal w (float x)

/-- A word is the text of a literal, perhaps with blanks around it. -/
def Names (raw : String) (u : HostValue) : Prop :=
  ∃ before w after, raw.toList = before ++ (w ++ after) ∧ (∀ c ∈ before, Json.isGap c) ∧
    Literal w u ∧ ∀ c ∈ after, Json.isGap c

/-- Words that resemble literals, or that are JSON texts of another kind or the beginnings of
such. -/
inductive Lookalike : String → Prop where
  /-- A quoted text, an array or an object, as a whole or truncated. -/
  | delimited {raw more : String} {v : Json} (spelled : Json.Spells (raw ++ more) v)
      (kind : (∃ s, v = .text s) ∨ (∃ items, v = .array items) ∨ ∃ members, v = .object members) :
      Lookalike raw
  /-- No JSON text at all, such as a truncated literal. -/
  | malformed {raw : String} (nothing : ∀ v, ¬ Json.Spells raw v) : Lookalike raw
  /-- Nothing but blanks. -/
  | blank {raw : String} (blank : ∀ c ∈ raw.toList, Json.isGap c) : Lookalike raw
  /-- A plus sign at the beginning. -/
  | plus {raw : String} (plus : Json.leading raw.toList = some '+') : Lookalike raw
  /-- A zero in front of another digit. -/
  | zero {raw : String} {before rest : List Char} {d : Char} {negative : Bool}
      (blank : ∀ c ∈ before, Json.isGap c) (digit : d.isDigit)
      (zero : raw.toList = before ++ (Json.minusText negative ++ '0' :: d :: rest)) : Lookalike raw

/-- A word becomes a value of which a guest sees the bytes of the word. -/
def Becomes (raw : String) (u : HostValue) : Prop :=
  ofWord raw = u ∧ u.toArgument = some raw.toUTF8

/-- A value that is neither a text nor bytes. -/
def IsScalar : HostValue → Prop
  | text _ | bytes _ => False
  | _ => True

variable {raw : String} {u : HostValue} {w rest before : List Char}

/-! ### Literals -/

/-- A literal is the text of a JSON value that is a single token. -/
theorem Literal.exists_token (literal : Literal w u) :
    u.IsScalar ∧ ∃ v t, v.tokens = [t] ∧ t.Spells w ∧ ofJson? v = some u := by
  cases literal with
  | null => exact ⟨trivial, .null, _, rfl, .null, rfl⟩
  | bool b =>
    refine ⟨trivial, .bool b, _, rfl, ?_, rfl⟩
    cases b
    · exact .bool false
    · exact .bool true
  | @int _ n k spelled scalar =>
    have read := ofJson?_number_eq_some_iff.mpr (.inl ⟨k, scalar, rfl⟩)
    refine ⟨?_, .number n, _, rfl, .number spelled, read⟩
    rcases ofInt_cases k with ⟨n, -, become⟩ | ⟨x, become⟩
    · rw [become]; trivial
    · rw [become]; trivial
  | @float _ n x spelled scalar =>
    have read := ofJson?_number_eq_some_iff.mpr (.inr ⟨x, scalar, rfl⟩)
    exact ⟨trivial, .number n, _, rfl, .number spelled, read⟩

/-- The words that name a value are those that are read as one that is neither a text nor bytes. -/
theorem names_iff : Names raw u ↔ parseJson? raw = some u ∧ u.IsScalar := by
  constructor
  · rintro ⟨before, w, after, cut, blank, literal, blank'⟩
    obtain ⟨scalar, v, t, token, spelled, read⟩ := literal.exists_token
    refine ⟨parseJson?_eq_some_iff.mpr ⟨v, ?_, read⟩, scalar⟩
    rw [Json.Spells, token]
    exact Json.written_singleton_iff.mpr ⟨before, w, after, cut, blank, spelled, blank'⟩
  · rintro ⟨read, scalar⟩
    obtain ⟨v, written, found⟩ := parseJson?_eq_some_iff.mp read
    have padded {t : Json.Token} (written : Json.Written raw.toList [t])
        (literal : ∀ w, t.Spells w → Literal w u) : Names raw u := by
      obtain ⟨before, w, after, cut, blank, spelled, blank'⟩ :=
        Json.written_singleton_iff.mp written
      exact ⟨before, w, after, cut, blank, literal w spelled, blank'⟩
    cases v with
    | null =>
      obtain rfl := Option.some.inj found
      refine padded written fun w spelled => ?_
      cases spelled
      exact .null
    | bool b =>
      obtain rfl := Option.some.inj found
      refine padded written fun w spelled => ?_
      cases spelled
      cases b
      · exact .bool false
      · exact .bool true
    | number n =>
      refine padded written fun w spelled => ?_
      cases spelled with
      | number spelled =>
        rcases ofJson?_number_eq_some_iff.mp found with ⟨k, value, rfl⟩ | ⟨x, value, rfl⟩
        · exact .int spelled value
        · exact .float spelled value
    -- Quoted texts and arrays are read as values, but of the two kinds that do not count here.
    | text s =>
      obtain ⟨t, -, rfl⟩ := Option.map_eq_some_iff.mp found
      cases scalar
    | array items =>
      obtain ⟨bs, -, rfl⟩ := Option.map_eq_some_iff.mp found
      cases scalar
    | object members => cases found

theorem ofWord_of_names (named : Names raw u) : ofWord raw = u := by
  obtain ⟨read, scalar⟩ := names_iff.mp named
  cases u with
  | text s => cases scalar
  | bytes b => cases scalar
  | _ => simp only [ofWord, read]

theorem ofWord_of_not_names (unnamed : ∀ u, ¬ Names raw u) : ofWord raw = text raw := by
  have other (u : HostValue) (read : parseJson? raw = some u) : ¬ u.IsScalar :=
    fun scalar => unnamed u (names_iff.mpr ⟨read, scalar⟩)
  unfold ofWord
  split
  · next read => exact absurd trivial (other _ read)
  · next read => exact absurd trivial (other _ read)
  · next read => exact absurd trivial (other _ read)
  · next read => exact absurd trivial (other _ read)
  · rfl

theorem becomes_text (unnamed : ∀ u, ¬ Names raw u) : Becomes raw (text raw) :=
  ⟨ofWord_of_not_names unnamed, rfl⟩

/-! ### Lookalikes -/

/-- The characters with which literals begin. -/
def Begins (c : Char) : Prop := c ∈ ['n', 't', 'f', '-'] ∨ c.isDigit

theorem Literal.exists_cons (literal : Literal w u) : ∃ c cs, w = c :: cs ∧ Begins c := by
  have numeral {n : Json.Numeral} (spelled : Json.Numeral.Spells w n) :
      ∃ c cs, w = c :: cs ∧ Begins c := by
    obtain ⟨c, cs, rfl, minus | digit⟩ := spelled.exists_cons
    · exact ⟨c, cs, rfl, .inl (by simp [minus])⟩
    · exact ⟨c, cs, rfl, .inr digit⟩
  cases literal with
  | null => exact ⟨_, _, rfl, .inl (by simp)⟩
  | bool b =>
    cases b
    · exact ⟨'f', _, rfl, .inl (by simp)⟩
    · exact ⟨'t', _, rfl, .inl (by simp)⟩
  | int spelled => exact numeral spelled
  | float spelled => exact numeral spelled

/-- The first character that is no blank tells most words from literals. -/
theorem Names.leading_eq (named : Names raw u) :
    ∃ c, Json.leading raw.toList = some c ∧ Begins c := by
  obtain ⟨before, w, after, cut, blank, literal, -⟩ := named
  obtain ⟨-, v, t, -, spelled, -⟩ := literal.exists_token
  obtain ⟨c, cs, rfl, begins⟩ := literal.exists_cons
  refine ⟨c, ?_, begins⟩
  rw [cut, Json.leading_gap_append blank, spelled.leading_append]
  rfl

/-- A quoted text, an array and an object begin otherwise, however much of them is left. -/
theorem not_names_of_delimited {more : String} {v : Json} (spelled : Json.Spells (raw ++ more) v)
    (kind : (∃ s, v = .text s) ∨ (∃ items, v = .array items) ∨ ∃ members, v = .object members) :
    ¬ Names raw u := by
  intro named
  obtain ⟨c, leading, begins⟩ := named.leading_eq
  obtain ⟨t, ts, tokens, opens⟩ : ∃ t ts, v.tokens = t :: ts ∧
      ((∃ s, t = .text s) ∨ t = .arrayOpen ∨ t = .objectOpen) := by
    obtain ⟨s, rfl⟩ | ⟨items, rfl⟩ | ⟨members, rfl⟩ := kind
    · exact ⟨_, _, rfl, .inl ⟨s, rfl⟩⟩
    · exact ⟨_, _, rfl, .inr (.inl rfl)⟩
    · exact ⟨_, _, rfl, .inr (.inr rfl)⟩
  rw [Json.Spells, tokens, String.toList_append] at spelled
  obtain ⟨w, opening, same⟩ := spelled.leading_eq
  -- The word has a character that is no blank, so that what follows the word cannot matter.
  rw [Json.leading_append, leading, Option.some_or] at same
  have delimiter : c ∈ ['"', '[', '\x7b'] := by
    obtain ⟨s, rfl⟩ | rfl | rfl := opens
    · cases opening with
      | text quoted =>
        cases quoted
        obtain rfl := Option.some.inj same
        simp
    · cases opening
      obtain rfl := Option.some.inj same
      simp
    · cases opening
      obtain rfl := Option.some.inj same
      simp
  simp only [List.mem_cons, List.not_mem_nil, or_false] at delimiter
  obtain rfl | rfl | rfl := delimiter <;> exact absurd begins (by simp [Begins])

/-- A number has no zero in front of its other digits. -/
theorem not_names_of_zero {d : Char} {negative : Bool} (blank : ∀ c ∈ before, Json.isGap c)
    (digit : d.isDigit)
    (zero : raw.toList = before ++ (Json.minusText negative ++ '0' :: d :: rest)) :
    ¬ Names raw u := by
  rintro ⟨before', w, after, cut, blank', literal, blank''⟩
  obtain ⟨-, v, t, -, spelled, -⟩ := literal.exists_token
  -- Both ways to cut the word skip its blanks, and so they agree on what comes after these.
  have same : w ++ after = Json.minusText negative ++ '0' :: d :: rest := by
    obtain ⟨c, cs, rfl, shown⟩ := spelled.exists_cons
    refine Json.eq_of_gap_append_eq blank' blank ?_ ?_ (cut.symm.trans zero)
    · rintro _ ⟨⟩
      exact shown
    · cases negative <;> (rintro _ ⟨⟩; rfl)
  have ends : Json.Numeral.Ends after := (Json.Written.nil blank'').ends nofun
  cases literal with
  | null => cases negative <;> simp [Json.minusText] at same
  | bool b => cases negative <;> cases b <;> simp [Json.minusText, boolText] at same
  | int numeral => exact Json.Numeral.not_leading_zero digit numeral ends same
  | float numeral => exact Json.Numeral.not_leading_zero digit numeral ends same

/-- No lookalike names a value. -/
theorem Lookalike.not_names (alike : Lookalike raw) (u : HostValue) : ¬ Names raw u := by
  cases alike with
  | delimited spelled kind => exact not_names_of_delimited spelled kind
  | zero blank digit zero => exact not_names_of_zero blank digit zero
  | malformed nothing =>
    intro named
    obtain ⟨v, spelled, -⟩ := parseJson?_eq_some_iff.mp (names_iff.mp named).1
    exact nothing v spelled
  | blank blank =>
    intro named
    obtain ⟨c, leading, -⟩ := named.leading_eq
    rw [Json.leading_of_blank blank] at leading
    cases leading
  | plus plus =>
    intro named
    obtain ⟨c, leading, begins⟩ := named.leading_eq
    obtain rfl := Option.some.inj (plus.symm.trans leading)
    exact absurd begins (by simp [Begins])

/-! ### Canonical texts -/

theorem names_intText (n : Int64) : Names (intText n.toInt) (int n) := by
  have spelled := (Json.Numeral.isWellFormed_ofInt n.toInt).spells_text
  have same : (Json.Numeral.ofInt n.toInt).text = intText n.toInt := by
    simp [Json.Numeral.text, Json.Numeral.ofInt, intText]
  have literal := Literal.int spelled (scalar?_ofInt_toInt n)
  rw [same, ofInt_toInt] at literal
  exact ⟨[], _, [], by simp, List.forall_mem_nil _, literal, List.forall_mem_nil _⟩

theorem names_boolText (b : Bool) : Names (boolText b) (bool b) :=
  ⟨[], _, [], by simp, List.forall_mem_nil _, .bool b, List.forall_mem_nil _⟩

/-- **Words reach a guest as they were typed.** A word that names null, a truth value or a number is
that value, and every other word is the text that it is. -/
theorem words_reach_as_typed (raw : String) :
    (∀ u, Names raw u → ofWord raw = u) ∧
      ((∀ u, ¬ Names raw u) → Becomes raw (text raw)) ∧
      (Lookalike raw → Becomes raw (text raw)) ∧
      (∀ n : Int64, raw = intText n.toInt → Becomes raw (int n)) ∧
      (∀ b, raw = boolText b → Becomes raw (bool b)) ∧
      (ofWord raw = null ↔ Names raw null) ∧
      (∀ b, ofWord raw ≠ bytes b) ∧ ∀ s, ofWord raw = text s → s = raw := by
  refine ⟨fun u => ofWord_of_names, becomes_text, fun alike => becomes_text alike.not_names,
    ?_, ?_, ?_⟩
  · rintro n rfl
    exact ⟨ofWord_of_names (names_intText n), rfl⟩
  · rintro b rfl
    exact ⟨ofWord_of_names (names_boolText b), rfl⟩
  by_cases named : ∃ u, Names raw u
  · obtain ⟨u, named⟩ := named
    have scalar := (names_iff.mp named).2
    rw [ofWord_of_names named]
    refine ⟨⟨?_, fun other => ?_⟩, ?_, ?_⟩
    · rintro rfl
      exact named
    · exact (ofWord_of_names named).symm.trans (ofWord_of_names other)
    · rintro b rfl
      cases scalar
    · rintro s rfl
      cases scalar
  · rw [ofWord_of_not_names (not_exists.mp named)]
    exact ⟨⟨nofun, fun other => absurd ⟨_, other⟩ named⟩, nofun, fun s same => (text.inj same).symm⟩

theorem words_reach_as_typed_lookalikes :
    ofWord " null\n" = null ∧ Becomes "[1, 2" (text "[1, 2") ∧ Becomes "-007" (text "-007") ∧
      Becomes "nul" (text "nul") ∧ Becomes "+1" (text "+1") ∧ Becomes "" (text "") ∧
      Becomes "-9223372036854775808" (int Int64.minValue) ∧ Becomes "true" (bool true) := by
  have spelled : Json.Spells ("[1, 2" ++ "]") (.array [.ofInt 1, .ofInt 2]) :=
    Json.parse?_eq_some_iff.mp rfl
  have nothing (v : Json) : ¬ Json.Spells "nul" v := by
    rw [← Json.parse?_eq_some_iff]
    exact nofun
  have zero : "-007".toList = [] ++ (Json.minusText true ++ '0' :: '0' :: ['7']) := rfl
  have padded : Names " null\n" null :=
    ⟨[' '], _, ['\n'], rfl, by simp [Json.isGap], .null, by simp [Json.isGap]⟩
  have typed (raw : String) (alike : Lookalike raw) : Becomes raw (text raw) :=
    (words_reach_as_typed raw).2.2.1 alike
  obtain ⟨named, -⟩ := words_reach_as_typed " null\n"
  obtain ⟨-, -, -, least, -⟩ := words_reach_as_typed "-9223372036854775808"
  obtain ⟨-, -, -, -, truth, -⟩ := words_reach_as_typed "true"
  exact ⟨named _ padded, typed _ (.delimited spelled (.inr (.inl ⟨_, rfl⟩))),
    typed _ (.zero (by simp) rfl zero), typed _ (.malformed nothing), typed _ (.plus rfl),
    typed _ (.blank (by simp)), least _ rfl, truth _ rfl⟩

end GuestRoutines.HostValue
