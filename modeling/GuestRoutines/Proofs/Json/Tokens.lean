import GuestRoutines.Proofs.Json.Numeral
import GuestRoutines.Proofs.Json.Text
import Mathlib.Data.List.Chain

/-!
# Texts in tokens

A text is written in tokens when it consists of their texts in order, with blanks between them where
one likes. The reader cuts a text into tokens in which it is written. Conversely a text is cut into
the tokens in which it is written if each numeral among them comes last or before a mark.

## Main definitions

* `Json.Token.Spells` — the text of a token
* `Json.Written` — a text is written in tokens
* `Json.Apart` — no numeral runs into the token behind it
* `Json.leading` — the character with which a text begins, apart from blanks

## Main results

* `Json.written_of_tokens?`, `Json.tokens?_of_written` — what the reader does
-/

namespace GuestRoutines.Json

/-! ### Tokens one after the other -/

namespace Token

/-- A text spells a token. -/
inductive Spells : List Char → Token → Prop where
  | arrayOpen : Spells ['['] .arrayOpen
  | arrayClose : Spells [']'] .arrayClose
  | objectOpen : Spells ['\x7b'] .objectOpen
  | objectClose : Spells ['\x7d'] .objectClose
  | colon : Spells [':'] .colon
  | comma : Spells [','] .comma
  | null : Spells ['n', 'u', 'l', 'l'] .null
  | bool (b : Bool) :
      Spells (if b then ['t', 'r', 'u', 'e'] else ['f', 'a', 'l', 's', 'e']) (.bool b)
  | number {w : List Char} {n : Numeral} (spelled : Numeral.Spells w n) : Spells w (.number n)
  | text {w : List Char} {s : Option String} (quoted : Quoted w s) : Spells w (.text s)

/-- A token that is a single character. -/
def IsMark (t : Token) : Prop :=
  t ∈ [.arrayOpen, .arrayClose, .objectOpen, .objectClose, .colon, .comma]

end Token

/-- A text is written in tokens: their texts in order, and blanks around them. -/
inductive Written : List Char → List Token → Prop where
  | nil {gap : List Char} (blank : ∀ c ∈ gap, isGap c) : Written gap []
  | cons {gap w rest : List Char} {t : Token} {ts : List Token} (blank : ∀ c ∈ gap, isGap c)
      (first : t.Spells w) (others : Written rest ts) : Written (gap ++ (w ++ rest)) (t :: ts)

/-- Behind a numeral comes a mark or nothing, so that it does not run into another token. -/
def Apart (ts : List Token) : Prop := ts.IsChain fun t u => (∃ n, t = .number n) → u.IsMark

variable {cs rest w gap : List Char} {t : Token} {ts : List Token}

/-! ### One token -/

theorem after?_eq_some_iff {wanted : List Char} :
    after? wanted cs = some rest ↔ cs = wanted ++ rest := by
  rw [after?, Option.ite_none_right_eq_some, Option.some.injEq, List.isPrefixOf_iff_prefix]
  constructor
  · rintro ⟨⟨others, rfl⟩, same⟩
    rw [List.drop_left] at same
    rw [same]
  · rintro rfl
    exact ⟨List.prefix_append .., List.drop_left⟩

/-- A numeral begins with a digit or a minus sign, as no other token does. -/
theorem Numeral.Spells.exists_cons {n : Numeral} (spelled : Numeral.Spells w n) :
    ∃ c cs, w = c :: cs ∧ (c = '-' ∨ c.isDigit) := by
  cases spelled with
  | @parts negative whole fraction f e exponent digits =>
    cases negative with
    | true => exact ⟨'-', _, rfl, .inl rfl⟩
    | false =>
      cases digits with
      | zero => exact ⟨'0', _, rfl, .inr rfl⟩
      | run run =>
        obtain ⟨d, ds, rfl⟩ := List.exists_cons_of_ne_nil run.nonempty
        exact ⟨d, _, rfl, .inr (run.digits d List.mem_cons_self)⟩

theorem token?_of_numeral {c : Char} (begins : c = '-' ∨ c.isDigit) :
    token? (c :: cs) = (numeral? (c :: cs)).map fun (n, rest) => (.number n, rest) := by
  unfold token?
  split
  case h_1 none => cases none
  case h_12 => rfl
  all_goals
    next same =>
      obtain ⟨rfl, rfl⟩ := List.cons.inj same
      rcases begins with minus | digit
      · cases minus
      · cases digit

/-- What is cut off is the text of a token. -/
theorem spells_of_token? (read : token? cs = some (t, rest)) :
    ∃ w, t.Spells w ∧ cs = w ++ rest := by
  have word {wanted cs : List Char} {u : Token}
      (read : (after? wanted cs).map (u, ·) = some (t, rest)) : t = u ∧ cs = wanted ++ rest := by
    obtain ⟨rest', found, same⟩ := Option.map_eq_some_iff.mp read
    obtain ⟨rfl, rfl⟩ := Prod.mk.inj same
    exact ⟨rfl, after?_eq_some_iff.mp found⟩
  unfold token? at read
  split at read
  case h_1 => cases read
  case h_2 | h_3 | h_4 | h_5 | h_6 | h_7 =>
    obtain ⟨rfl, rfl⟩ := Prod.mk.inj (Option.some.inj read)
    exact ⟨[_], by constructor, rfl⟩
  case h_8 =>
    obtain ⟨⟨s, rest'⟩, found, same⟩ := Option.map_eq_some_iff.mp read
    obtain ⟨rfl, rfl⟩ := Prod.mk.inj same
    obtain ⟨w, quoted, rfl⟩ := text?_eq_some_iff.mp found
    exact ⟨_, .text quoted, rfl⟩
  case h_9 =>
    obtain ⟨rfl, rfl⟩ := word read
    exact ⟨_, .null, rfl⟩
  case h_10 =>
    obtain ⟨rfl, rfl⟩ := word read
    exact ⟨_, .bool true, rfl⟩
  case h_11 =>
    obtain ⟨rfl, rfl⟩ := word read
    exact ⟨_, .bool false, rfl⟩
  case h_12 =>
    obtain ⟨⟨n, rest'⟩, found, same⟩ := Option.map_eq_some_iff.mp read
    obtain ⟨rfl, rfl⟩ := Prod.mk.inj same
    obtain ⟨w, spelled, cut⟩ := Numeral.spells_of_numeral? found
    exact ⟨w, .number spelled, cut⟩

/-- A token is cut off from what follows it, if a numeral does not go on there. -/
theorem token?_append (spelled : t.Spells w) (ends : (∃ n, t = .number n) → Numeral.Ends rest) :
    token? (w ++ rest) = some (t, rest) := by
  have word (u : Token) (wanted : List Char) :
      (after? wanted (wanted ++ rest)).map (u, ·) = some (u, rest) := by
    rw [after?_eq_some_iff.mpr rfl]
    rfl
  cases spelled with
  | arrayOpen | arrayClose | objectOpen | objectClose | colon | comma => rfl
  | null => exact word .null ['u', 'l', 'l']
  | bool b =>
    cases b with
    | true => exact word (.bool true) ['r', 'u', 'e']
    | false => exact word (.bool false) ['a', 'l', 's', 'e']
  | number spelled =>
    have read := Numeral.numeral?_append spelled (ends ⟨_, rfl⟩)
    obtain ⟨c, cs, rfl, begins⟩ := spelled.exists_cons
    rw [List.cons_append] at read ⊢
    rw [token?_of_numeral begins, read]
    rfl
  | text quoted =>
    cases quoted with
    | @pieces body ps written =>
      have read : text? ((body ++ ['"']) ++ rest) = some (_, rest) :=
        text?_eq_some_iff.mpr ⟨_, .pieces written, rfl⟩
      show (text? ((body ++ ['"']) ++ rest)).map _ = _
      rw [read]
      rfl

/-- No token begins with a blank. -/
theorem Token.Spells.exists_cons (spelled : t.Spells w) :
    ∃ c cs, w = c :: cs ∧ isGap c = false := by
  cases spelled with
  | number spelled =>
    obtain ⟨c, cs, rfl, minus | digit⟩ := spelled.exists_cons
    · exact ⟨c, cs, rfl, minus ▸ rfl⟩
    · refine ⟨c, cs, rfl, ?_⟩
      have range := Digits.toNat_of_isDigit digit
      simp only [isGap, Bool.or_eq_false_iff, beq_eq_false_iff_ne]
      refine ⟨⟨⟨?_, ?_⟩, ?_⟩, ?_⟩ <;> (rintro rfl; revert range; decide)
  | text quoted =>
    cases quoted with
    | pieces => exact ⟨_, _, rfl, rfl⟩
  | bool b => cases b <;> exact ⟨_, _, rfl, rfl⟩
  | _ => exact ⟨_, _, rfl, rfl⟩

/-! ### Cutting a text -/

theorem Written.gap_append (blank : ∀ c ∈ gap, isGap c) (written : Written cs ts) :
    Written (gap ++ cs) ts := by
  cases written with
  | nil blank' => exact .nil fun c member => (List.mem_append.mp member).elim (blank c) (blank' c)
  | cons blank' first others =>
    rw [← List.append_assoc]
    refine .cons (fun c member => ?_) first others
    exact (List.mem_append.mp member).elim (blank c) (blank' c)

theorem Written.append {cs' : List Char} {ts' : List Token} (written : Written cs ts)
    (written' : Written cs' ts') : Written (cs ++ cs') (ts ++ ts') := by
  induction written with
  | nil blank => exact written'.gap_append blank
  | cons blank first others ih =>
    rw [List.append_assoc, List.append_assoc]
    exact .cons blank first ih

/-- A text is written in a single token if it is the token's text with blanks around it. -/
theorem written_singleton_iff :
    Written cs [t] ↔ ∃ before w after, cs = before ++ (w ++ after) ∧ (∀ c ∈ before, isGap c) ∧
      t.Spells w ∧ ∀ c ∈ after, isGap c := by
  constructor
  · intro written
    cases written with
    | cons blank first others =>
      cases others with
      | nil blank' => exact ⟨_, _, _, rfl, blank, first, blank'⟩
  · rintro ⟨before, w, after, rfl, blank, first, blank'⟩
    exact .cons blank first (.nil blank')

theorem Token.Spells.written (spelled : t.Spells w) : Written w [t] :=
  written_singleton_iff.mpr ⟨[], w, [], by simp, nofun, spelled, nofun⟩

/-- Every token in which a text is written has a text. -/
theorem Written.exists_spells (written : Written cs ts) (member : t ∈ ts) : ∃ w, t.Spells w := by
  induction written with
  | nil => cases member
  | cons blank first others ih =>
    rcases List.mem_cons.mp member with rfl | later
    · exact ⟨_, first⟩
    · exact ih later

/-- The first character of a text that is no blank. -/
def leading (cs : List Char) : Option Char := cs.find? fun c => !isGap c

theorem leading_append (cs cs' : List Char) :
    leading (cs ++ cs') = (leading cs).or (leading cs') := List.find?_append

theorem leading_of_blank (blank : ∀ c ∈ gap, isGap c) : leading gap = none := by
  simpa [leading] using blank

theorem leading_gap_append (blank : ∀ c ∈ gap, isGap c) (cs : List Char) :
    leading (gap ++ cs) = leading cs := by
  rw [leading_append, leading_of_blank blank, Option.none_or]

theorem Token.Spells.leading_append (spelled : t.Spells w) (cs : List Char) :
    leading (w ++ cs) = w.head? := by
  obtain ⟨c, w, rfl, shown⟩ := spelled.exists_cons
  simp [leading, shown]

/-- Where the blanks at the beginning of a text end can be told. -/
theorem eq_of_gap_append_eq {gap' cs' : List Char} (blank : ∀ c ∈ gap, isGap c)
    (blank' : ∀ c ∈ gap', isGap c) (shown : ∀ c ∈ cs.head?, isGap c = false)
    (shown' : ∀ c ∈ cs'.head?, isGap c = false) (same : gap ++ cs = gap' ++ cs') : cs = cs' := by
  have kept {cs : List Char} (shown : ∀ c ∈ cs.head?, isGap c = false) :
      cs.dropWhile isGap = cs := by
    cases cs with
    | nil => rfl
    | cons c cs => exact List.dropWhile_cons_of_neg (by simp [shown c rfl])
  have dropped := congrArg (List.dropWhile isGap) same
  rwa [List.dropWhile_append_of_pos blank, List.dropWhile_append_of_pos blank', kept shown,
    kept shown'] at dropped

/-- A text begins with its first token. -/
theorem Written.leading_eq (written : Written cs (t :: ts)) :
    ∃ w, t.Spells w ∧ leading cs = w.head? := by
  cases written with
  | cons blank first others =>
    refine ⟨_, first, ?_⟩
    rw [leading_gap_append blank, first.leading_append]

theorem written_of_tokensWithin {rounds : Nat} (read : tokensWithin rounds cs = some ts) :
    Written cs ts := by
  fun_induction tokensWithin rounds cs generalizing ts with
  | case1 =>
    obtain rfl := Option.some.inj read
    exact .nil nofun
  | case2 => cases read
  | case3 rounds c cs blank ih =>
    have blanks : ∀ d ∈ [c], isGap d := fun d member => List.mem_singleton.mp member ▸ blank
    exact (ih read).gap_append blanks
  | case4 => cases read
  | case5 rounds c cs _ t rest cut ih =>
    obtain ⟨ts', found, rfl⟩ := Option.map_eq_some_iff.mp read
    obtain ⟨w, spelled, cut⟩ := spells_of_token? cut
    rw [cut]
    show Written ([] ++ (w ++ rest)) (t :: ts')
    exact .cons nofun spelled (ih found)

theorem written_of_tokens? (read : tokens? cs = some ts) : Written cs ts :=
  written_of_tokensWithin read

/-- Blanks are skipped, one in each round. -/
theorem tokensWithin_gap_append {rounds : Nat} (blank : ∀ c ∈ gap, isGap c) (cs : List Char) :
    tokensWithin (gap.length + rounds) (gap ++ cs) = tokensWithin rounds cs := by
  induction gap with
  | nil => rw [List.length_nil, Nat.zero_add, List.nil_append]
  | cons c gap ih =>
    have first := blank c List.mem_cons_self
    have others : ∀ d ∈ gap, isGap d := fun d member => blank d (List.mem_cons_of_mem c member)
    rw [List.length_cons, Nat.add_right_comm, List.cons_append, tokensWithin, if_pos first]
    exact ih others

/-- Neither a blank nor a mark goes on with a numeral. -/
theorem Written.ends (written : Written cs ts) (mark : ∀ u ∈ ts.head?, u.IsMark) :
    Numeral.Ends cs := by
  intro c head
  have range : isGap c = true ∨ c ∈ ['[', ']', '\x7b', '\x7d', ':', ','] := by
    cases written with
    | nil blank => exact .inl (blank c (List.mem_of_head? head))
    | @cons gap w rest t ts blank first others =>
      cases gap with
      | cons d gap =>
        obtain rfl := Option.some.inj head
        exact .inl (blank d List.mem_cons_self)
      | nil =>
        have mark := mark t rfl
        simp only [Token.IsMark, List.mem_cons, List.not_mem_nil, or_false] at mark
        rcases mark with rfl | rfl | rfl | rfl | rfl | rfl
        all_goals
          cases first
          obtain rfl := Option.some.inj head
          exact .inr (by simp)
  simp only [isGap, Bool.or_eq_true, beq_iff_eq, List.mem_cons, List.not_mem_nil, or_false] at range
  rcases range with (((rfl | rfl) | rfl) | rfl) | rfl | rfl | rfl | rfl | rfl | rfl <;> decide

theorem tokensWithin_of_written {rounds : Nat} (written : Written cs ts) (apart : Apart ts)
    (enough : cs.length ≤ rounds) : tokensWithin rounds cs = some ts := by
  induction written generalizing rounds with
  | @nil gap blank =>
    obtain ⟨more, rfl⟩ := Nat.exists_eq_add_of_le enough
    have skipped : tokensWithin (gap.length + more) (gap ++ []) = tokensWithin more [] :=
      tokensWithin_gap_append blank []
    rw [List.append_nil] at skipped
    rw [skipped, tokensWithin]
  | @cons gap w rest t ts blank first others ih =>
    have ends : (∃ n, t = .number n) → Numeral.Ends rest := fun number =>
      others.ends fun u head => (List.isChain_cons.mp apart).1 u head number
    have cut := token?_append first ends
    obtain ⟨c, cs, rfl, shown⟩ := first.exists_cons
    -- One round for each blank, and one for the token, which is not empty.
    obtain ⟨more, rfl, left⟩ : ∃ more, rounds = gap.length + (more + 1) ∧ rest.length ≤ more := by
      simp only [List.length_append, List.length_cons] at enough
      exact ⟨rounds - gap.length - 1, by omega, by omega⟩
    rw [List.cons_append] at cut ⊢
    rw [tokensWithin_gap_append blank, tokensWithin, shown, cut]
    simp [ih (List.isChain_cons.mp apart).2 left]

/-- A text is cut into the tokens in which it is written. -/
theorem tokens?_of_written (written : Written cs ts) (apart : Apart ts) : tokens? cs = some ts :=
  tokensWithin_of_written written apart (Nat.le_refl _)

end GuestRoutines.Json
