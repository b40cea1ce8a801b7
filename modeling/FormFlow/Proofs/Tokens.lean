import FormFlow.Expression.Parser
import Mathlib.Data.List.TakeWhile

/-!
# Rows of tokens

A source is read one token at a time: white space is passed over, and what follows a lexeme is read
after it.
-/

namespace FormFlow

open Unicode (isWhiteSpace)

section Steps

variable {column : Nat} {c : Char} {rest : List Char}

theorem tokensFrom_nil : tokensFrom column [] = .ok [] := by
  rw [tokensFrom]

theorem tokensFrom_white (h : isWhiteSpace c = true) :
    tokensFrom column (c :: rest) = tokensFrom (column + 1) rest := by
  rw [tokensFrom, if_pos h]

theorem tokensFrom_lexeme (lexeme : Lexeme) {tokens : List Token} (h : isWhiteSpace c = false)
    (hread : Lexeme.read c rest = .ok lexeme)
    (hrest : tokensFrom (column + 1 + lexeme.extra) (rest.drop lexeme.extra) = .ok tokens) :
    tokensFrom column (c :: rest) = .ok (⟨lexeme.kind, column⟩ :: tokens) := by
  rw [tokensFrom, if_neg (by rw [h]; decide), hread]
  simp only [hrest]

end Steps

/-- A symbol with a blank after it is a token. -/
theorem tokensFrom_symbol {op : Comparison} (hop : op ≠ .within) {column : Nat} {rest : List Char}
    {tokens : List Token} (h : tokensFrom (column + op.symbol.length) (' ' :: rest) = .ok tokens) :
    tokensFrom column (op.symbol.toList ++ ' ' :: rest) =
      .ok (⟨.comparison op, column⟩ :: tokens) := by
  cases op with
  | within => exact absurd rfl hop
  | lt => exact tokensFrom_lexeme ⟨.comparison .lt, 0⟩ (by decide +kernel) rfl h
  | gt => exact tokensFrom_lexeme ⟨.comparison .gt, 0⟩ (by decide +kernel) rfl h
  | le => exact tokensFrom_lexeme ⟨.comparison .le, 1⟩ (by decide +kernel) rfl h
  | ge => exact tokensFrom_lexeme ⟨.comparison .ge, 1⟩ (by decide +kernel) rfl h
  | eq => exact tokensFrom_lexeme ⟨.comparison .eq, 1⟩ (by decide +kernel) rfl h
  | ne => exact tokensFrom_lexeme ⟨.comparison .ne, 1⟩ (by decide +kernel) rfl h

/-! ## Integer literals -/

theorem Text.natural?_eq_some_iff {text : List Char} {n : Nat} : natural? text = some n ↔
    text ≠ [] ∧ text.all isDigit = true ∧ digitsValue text = n := by
  rw [natural?]
  cases text with
  | nil => simp
  | cons c rest => cases (c :: rest).all isDigit <;> simp

theorem Text.isWhiteSpace_of_isDigit {c : Char} (h : isDigit c = true) :
    isWhiteSpace c = false := by
  rw [isDigit, Bool.and_eq_true, decide_eq_true_eq, decide_eq_true_eq] at h
  have hlow : 48 ≤ c.toNat := h.1
  have hhigh : c.toNat ≤ 57 := h.2
  -- the digits lie above the first two ranges and below the others
  have hfirst : ¬ c.toNat ≤ 0xD := by omega
  have hsecond : ¬ c.toNat ≤ 0x20 := by omega
  have hthird : c.toNat < 0x85 := by omega
  simp [isWhiteSpace, Unicode.whiteSpaceRanges, Unicode.Ranges.covers, hfirst, hsecond, hthird]

namespace Lexeme

theorem operator?_of_isDigit {c : Char} (h : Text.isDigit c = true) (rest : List Char) :
    operator? c rest = none := by
  unfold operator?
  split
  case h_13 => rfl
  all_goals exact absurd h (by decide)

theorem number?_of_digits {digits : List Char} (hdigits : digits.all Text.isDigit = true)
    (hexact : Number.isExact (Text.digitsValue digits) = true) :
    number? digits = some (.int (Text.digitsValue digits)) := by
  have hpoint : '.' ∉ digits := by
    intro hmem
    exact absurd (List.all_eq_true.mp hdigits '.' hmem) (by decide)
  rw [number?, Text.pieces_of_not_mem hpoint]
  exact if_pos hexact

/-- A row of digits up to the end of the source is read as an integer that fits 64 bits. -/
theorem read_digits {c : Char} {rest : List Char}
    (hdigits : (c :: rest).all Text.isDigit = true)
    (hexact : Number.isExact (Text.digitsValue (c :: rest)) = true) :
    read c rest = .ok ⟨.number (.int (Text.digitsValue (c :: rest))), rest.length⟩ := by
  have hc : Text.isDigit c = true := List.all_eq_true.mp hdigits c List.mem_cons_self
  have hquote : ¬ (c = '\'' ∨ c = '"') := by
    rintro (rfl | rfl) <;> exact absurd hc (by decide)
  have hmore : rest.takeWhile isNumberChar = rest := by
    rw [List.takeWhile_eq_self_iff]
    intro d hd
    have hdigit := List.all_eq_true.mp hdigits d (List.mem_cons_of_mem c hd)
    rw [isNumberChar, hdigit, Bool.true_or]
  rw [read, operator?_of_isDigit hc]
  simp only [if_neg hquote, startsNumber, hc, Bool.true_or, if_true, hmore,
    number?_of_digits hdigits hexact]

end Lexeme

/-- Digits up to the end of the source are one token. -/
theorem tokensFrom_digits {digits : List Char} {n column : Nat}
    (hdigits : Text.natural? digits = some n) (hn : Number.isExact n = true) :
    tokensFrom column digits = .ok [⟨.number (.int n), column⟩] := by
  obtain ⟨hne, hall, rfl⟩ := Text.natural?_eq_some_iff.mp hdigits
  obtain ⟨c, rest, rfl⟩ := List.exists_cons_of_ne_nil hne
  have hc : Text.isDigit c = true := List.all_eq_true.mp hall c List.mem_cons_self
  apply tokensFrom_lexeme _ (Text.isWhiteSpace_of_isDigit hc) (Lexeme.read_digits hall hn)
  rw [List.drop_length, tokensFrom_nil]

end FormFlow
