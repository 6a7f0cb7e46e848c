import Mathlib
import TaskLedger.Json.Quoted
import TaskLedger.Proofs.Text.Decimal

/-!
# A quoted text is read back

`Quoted.body_chars`: whatever characters a text has, its quoted form is read as that text, and the
reader stops behind the closing quote.  A quoted text holds no line break
(`Quoted.newLine_not_mem`).
-/

namespace TaskLedger.Json.Quoted

open TaskLedger.Text

variable {ε : Type} {rest : List Char}

/-- Four hexadecimal digits are read back. -/
theorem fourHex_hexPadded {n : Nat} (h : n < 65536) :
    fourHex (ε := ε) (Decimal.hexPadded 4 n ++ rest) = .ok (n, rest) := by
  have number := Decimal.hexNumber?_hexPadded 4 n
  obtain ⟨a, b, c, d, digits⟩ :=
    List.length_eq_four.1 (Decimal.length_hexPadded (by decide) (show n < 16 ^ 4 from h))
  rw [digits] at number ⊢
  simp only [fourHex, List.cons_append, List.nil_append, number]

/-- An escape by a number below the surrogates is read back. -/
theorem numbered_hexPadded {c : Char} (h : c.toNat < 32) :
    numbered (ε := ε) (Decimal.hexPadded 4 c.toNat ++ rest) = .ok (c, rest) := by
  have low : ¬ (0xDC00 ≤ c.toNat ∧ c.toNat ≤ 0xDFFF) := by omega
  have high : ¬ (0xD800 ≤ c.toNat ∧ c.toNat ≤ 0xDBFF) := by omega
  rw [numbered, fourHex_hexPadded (by omega)]
  show (if _ then _ else if _ then _ else _) = _
  rw [if_neg low, if_neg high, Char.ofNat_toNat]

/-- A letter after a backslash. -/
theorem unit_lettered {letter c : Char} (other : letter ≠ 'u') (h : lettered? letter = some c) :
    unit (ε := ε) ('\\' :: letter :: rest) = .ok (some c, rest) := by
  simp [unit, escaped, other, h, Except.map]

/-- Every character is read back from what stands for it. -/
theorem unit_charText (c : Char) : unit (ε := ε) (charText c ++ rest) = .ok (some c, rest) := by
  by_cases escaped_by_letter :
      c = '"' ∨ c = '\\' ∨ c = '\x08' ∨ c = '\x0c' ∨ c = '\n' ∨ c = '\r' ∨ c = '\t'
  · rcases escaped_by_letter with rfl | rfl | rfl | rfl | rfl | rfl | rfl
    all_goals exact unit_lettered (by decide) (by decide)
  · simp only [not_or] at escaped_by_letter
    obtain ⟨quote, backslash, b, f, n, r, t⟩ := escaped_by_letter
    simp only [charText, quote, backslash, b, f, n, r, t, if_false]
    split
    case isTrue control =>
      simp [unit, escaped, numbered_hexPadded control, Except.map]
    case isFalse plain =>
      simp [unit, quote, backslash, plain]

theorem units_chars (s seen : List Char) {fuel : Nat} (enough : s.length < fuel) :
    units (ε := ε) fuel seen (s.flatMap charText ++ '"' :: rest) =
      .ok (seen.reverse ++ s, rest) := by
  induction s generalizing seen fuel with
  | nil =>
    obtain ⟨fuel, rfl⟩ := Nat.exists_eq_add_one.2 enough
    simp [units, unit]
  | cons c s ih =>
    obtain ⟨fuel, rfl⟩ := Nat.exists_eq_add_one.2 (Nat.zero_lt_of_lt enough)
    rw [List.flatMap_cons, List.append_assoc, units, unit_charText]
    simpa using ih (c :: seen) (Nat.lt_of_succ_lt_succ enough)

/-- Every character takes at least one character. -/
theorem length_le_flatMap_charText (s : List Char) : s.length ≤ (s.flatMap charText).length := by
  induction s with
  | nil => exact Nat.zero_le _
  | cons c s ih =>
    have here : 0 < (charText c).length := by
      unfold charText
      split_ifs <;> simp
    rw [List.flatMap_cons, List.length_append, List.length_cons]
    omega

/-- A text is read back from its quoted form, behind the opening quote. -/
theorem body_chars (s : String) :
    body (ε := ε) (s.toList.flatMap charText ++ '"' :: rest) = .ok (s, rest) := by
  have enough := length_le_flatMap_charText s.toList
  rw [body, units_chars s.toList [] (by rw [List.length_append]; omega)]
  simp [Except.map]

/-! ### No line breaks -/

theorem newLine_not_mem_hexPadded (width n : Nat) : '\n' ∉ Decimal.hexPadded width n :=
  fun mem => absurd (Decimal.isSome_hexValue? (Decimal.hexNumber?_hexPadded width n) _ mem)
    (by decide)

theorem newLine_not_mem_charText (c : Char) : '\n' ∉ charText c := by
  by_cases newLine : c = '\n'
  · rw [newLine]
    decide
  · have hex := newLine_not_mem_hexPadded 4 c.toNat
    unfold charText
    split_ifs
    all_goals simp [hex, Ne.symm newLine]

theorem newLine_not_mem (s : List Char) : '\n' ∉ chars s := by
  rw [chars, List.mem_append, List.mem_cons, List.mem_flatMap]
  rintro ((quote | ⟨c, -, mem⟩) | quote)
  · exact absurd quote (by decide)
  · exact newLine_not_mem_charText c mem
  · exact absurd quote (by decide)

end TaskLedger.Json.Quoted
