import GuestRoutines.Json.Token
import GuestRoutines.Json.Writer
import Mathlib.Tactic.SplitIfs

/-!
# The grammar of texts

A text stands in quotes and is written in pieces: a character as it is, an escape of one letter, or
a unit of four hexadecimal digits. Every text can be written, and is read back as itself.

## Main definitions

* `Json.Piece.Spells`, `Json.Body` — the text of a piece, and of pieces one after the other
* `Json.Quoted` — a text in quotes, absent when its units are half of a pair

## Main results

* `Json.text?_eq_some_iff` — what is read
* `Json.quoted_quote` — what is written
-/

namespace GuestRoutines.Json

/-- A piece of a text and how it is written. -/
inductive Piece.Spells : List Char → Piece → Prop where
  | plain {c : Char} (unquoted : c ≠ '"') (straight : c ≠ '\\') (shown : 0x20 ≤ c.toNat) :
      Spells [c] (.char c)
  | escaped {e c : Char} (letter : escaped? e = some c) : Spells ['\\', e] (.char c)
  | unit {a b c d : Char} {n : Nat} (digits : Text.hexNumber? [a, b, c, d] = some n) :
      Spells ['\\', 'u', a, b, c, d] (.unit n)

/-- The pieces of a text, one after the other. -/
inductive Body : List Char → List Piece → Prop where
  | nil : Body [] []
  | cons {w body : List Char} {p : Piece} {ps : List Piece} (first : p.Spells w)
      (others : Body body ps) : Body (w ++ body) (p :: ps)

/-- A text in quotes. -/
inductive Quoted : List Char → Option String → Prop where
  | pieces {body : List Char} {ps : List Piece} (written : Body body ps) :
      Quoted ('"' :: (body ++ ['"'])) ((joinPieces? ps).map String.ofList)

variable {cs rest body : List Char} {ps : List Piece} {c : Char} {s : Option String}

/-! ### Reading -/

theorem body_of_pieces? (read : pieces? cs = some (ps, rest)) :
    ∃ body, Body body ps ∧ cs = body ++ '"' :: rest := by
  fun_induction pieces? cs generalizing ps with
  | case1 => cases read
  | case2 after =>
    obtain ⟨rfl, rfl⟩ := Prod.mk.inj (Option.some.inj read)
    exact ⟨[], .nil, rfl⟩
  | case3 a b c d cs n ps' after readRest digits ih =>
    obtain ⟨rfl, rfl⟩ := Prod.mk.inj (Option.some.inj read)
    obtain ⟨body, written, rfl⟩ := ih readRest
    exact ⟨_, .cons (.unit digits) written, rfl⟩
  | case4 => cases read
  | case5 e cs other c ps' after readRest letter ih =>
    obtain ⟨rfl, rfl⟩ := Prod.mk.inj (Option.some.inj read)
    obtain ⟨body, written, rfl⟩ := ih readRest
    exact ⟨_, .cons (.escaped letter) written, rfl⟩
  | case6 => cases read
  | case7 => cases read
  | case8 c cs unquoted _ other shown ih =>
    obtain ⟨⟨ps', after⟩, readRest, same⟩ := Option.map_eq_some_iff.mp read
    obtain ⟨rfl, rfl⟩ := Prod.mk.inj same
    obtain ⟨body, written, rfl⟩ := ih readRest
    -- A backslash before anything else begins an escape.
    have straight : c ≠ '\\' := by
      intro backslash
      obtain ⟨e, cs, follows⟩ : ∃ e cs, body ++ '"' :: after = e :: cs :=
        List.exists_cons_of_ne_nil (by simp)
      exact other e cs backslash follows
    exact ⟨_, .cons (.plain unquoted straight (Nat.not_lt.mp shown)) written, rfl⟩

theorem pieces?_append_piece {w : List Char} {p : Piece} (spelled : p.Spells w)
    (rest : List Char) :
    pieces? (w ++ rest) = (pieces? rest).map fun (ps, after) => (p :: ps, after) := by
  cases spelled with
  | @plain c unquoted straight shown =>
    show pieces? (c :: rest) = _
    rw [pieces?.eq_5]
    · exact if_neg (Nat.not_lt.mpr shown)
    all_goals simp_all
  | @escaped e c letter =>
    show pieces? ('\\' :: e :: rest) = _
    rw [pieces?.eq_4]
    · cases pieces? rest <;> simp [letter]
    · rintro a b c d cs rfl
      cases letter
  | @unit a b c d n digits =>
    show pieces? ('\\' :: 'u' :: a :: b :: c :: d :: rest) = _
    rw [pieces?.eq_3]
    cases pieces? rest <;> simp [digits]

theorem pieces?_append (written : Body body ps) (rest : List Char) :
    pieces? (body ++ '"' :: rest) = some (ps, rest) := by
  induction written with
  | nil => rfl
  | cons first others ih =>
    rw [List.append_assoc, pieces?_append_piece first, ih]
    rfl

/-- A text is read up to its closing quote, and only a text is. -/
theorem text?_eq_some_iff :
    text? cs = some (s, rest) ↔ ∃ w, Quoted ('"' :: w) s ∧ cs = w ++ rest := by
  rw [text?, Option.map_eq_some_iff]
  constructor
  · rintro ⟨⟨ps, after⟩, read, same⟩
    obtain ⟨rfl, rfl⟩ := Prod.mk.inj same
    obtain ⟨body, written, rfl⟩ := body_of_pieces? read
    exact ⟨_, .pieces written, by simp⟩
  · rintro ⟨w, ⟨written⟩, rfl⟩
    refine ⟨(_, rest), ?_, rfl⟩
    rw [List.append_assoc]
    exact pieces?_append written rest

/-! ### Writing -/

/-- A unit that is no half of a pair is a character, whatever follows it. -/
theorem joinPieces?_unit {n : Nat} (first : isLeading n = false) (second : isTrailing n = false)
    (ps : List Piece) :
    joinPieces? (.unit n :: ps) = (joinPieces? ps).map (Char.ofNat n :: ·) := by
  cases ps with
  | nil => simp [joinPieces?, first, second]
  | cons p ps => cases p <;> simp [joinPieces?, first, second]

/-- A hexadecimal digit is read as what it was written for. -/
theorem hexNumber?_hexDigit {n : Nat} (small : n < 0x20) :
    Text.hexNumber? ['0', '0', Text.hexDigit (n / 16), Text.hexDigit n] = some n := by
  have table : ∀ n < 0x20,
      Text.hexNumber? ['0', '0', Text.hexDigit (n / 16), Text.hexDigit n] = some n := by decide
  exact table n small

/-- A character is written as one piece, which stands for it before any others. -/
theorem spells_escape (c : Char) :
    ∃ p : Piece, p.Spells (escape c) ∧
      ∀ ps, joinPieces? (p :: ps) = (joinPieces? ps).map (c :: ·) := by
  unfold escape
  split_ifs with quote backslash backspace feed line carriage tab control
  · exact ⟨_, .escaped rfl, fun ps => quote ▸ rfl⟩
  · exact ⟨_, .escaped rfl, fun ps => backslash ▸ rfl⟩
  · exact ⟨_, .escaped rfl, fun ps => backspace ▸ rfl⟩
  · exact ⟨_, .escaped rfl, fun ps => feed ▸ rfl⟩
  · exact ⟨_, .escaped rfl, fun ps => line ▸ rfl⟩
  · exact ⟨_, .escaped rfl, fun ps => carriage ▸ rfl⟩
  · exact ⟨_, .escaped rfl, fun ps => tab ▸ rfl⟩
  · refine ⟨_, .unit (hexNumber?_hexDigit control), fun ps => ?_⟩
    have leading : isLeading c.toNat = false := decide_eq_false (by omega)
    have trailing : isTrailing c.toNat = false := decide_eq_false (by omega)
    rw [joinPieces?_unit leading trailing, Char.ofNat_toNat]
  · exact ⟨_, .plain quote backslash (Nat.not_lt.mp control), fun ps => rfl⟩

theorem body_escape (cs : List Char) :
    ∃ ps, Body (cs.flatMap escape) ps ∧ joinPieces? ps = some cs := by
  induction cs with
  | nil => exact ⟨[], .nil, rfl⟩
  | cons c cs ih =>
    obtain ⟨ps, written, joined⟩ := ih
    obtain ⟨p, spelled, join⟩ := spells_escape c
    refine ⟨p :: ps, .cons spelled written, ?_⟩
    rw [join, joined]
    rfl

/-- A text in quotes stands for the text. -/
theorem quoted_quote (s : String) : Quoted (quote s).toList (some s) := by
  obtain ⟨ps, written, joined⟩ := body_escape s.toList
  have quoted := Quoted.pieces written
  rw [joined, Option.map_some, String.ofList_toList] at quoted
  rwa [quote, String.toList_ofList]

end GuestRoutines.Json
