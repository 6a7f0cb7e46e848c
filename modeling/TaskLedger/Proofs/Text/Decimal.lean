import Mathlib
import TaskLedger.Text.Decimal

/-!
# Numbers in texts are read back

A number that is written with its digits, with zeros in front or not, is the value of the digits.

* `takeWhile_append`, `dropWhile_append`: a run of characters ends where the rest begins;
* `value_digits` and `value_padded`: decimal digits;
* `natural?_text`: a whole text;
* `upTo?_append`: a reader that takes a run of digits off a text leaves the rest of it;
* `hexNumber?_hexPadded`: hexadecimal digits.
-/

namespace TaskLedger.Text

/-! ### Runs of characters -/

section Runs

variable {p : Char → Bool} {run rest : List Char}

/-- A run of characters ends where the rest begins. -/
theorem takeWhile_append (all : ∀ c ∈ run, p c = true) (stop : ∀ c ∈ rest.head?, p c = false) :
    (run ++ rest).takeWhile p = run := by
  rw [List.takeWhile_append_of_pos all]
  cases rest with
  | nil => rw [List.takeWhile_nil, List.append_nil]
  | cons c r =>
    rw [List.takeWhile_cons_of_neg (by simp [stop c rfl]), List.append_nil]

theorem dropWhile_append (all : ∀ c ∈ run, p c = true) (stop : ∀ c ∈ rest.head?, p c = false) :
    (run ++ rest).dropWhile p = rest := by
  rw [List.dropWhile_append_of_pos all]
  cases rest with
  | nil => rfl
  | cons c r => exact List.dropWhile_cons_of_neg (by simp [stop c rfl])

end Runs

namespace Decimal

/-! ### Decimal digits -/

theorem isDigit_eq (c : Char) : isDigit c = c.isDigit := by
  rw [Bool.eq_iff_iff]
  simp only [isDigit, Char.isDigit, Bool.and_eq_true, decide_eq_true_eq, Char.le_def]

theorem isDigit_of_mem_digits {n : Nat} {c : Char} (h : c ∈ digits n) : isDigit c = true := by
  rw [isDigit_eq]
  exact Nat.isDigit_of_mem_toDigits (by decide) (by decide) h

theorem digits_ne_nil (n : Nat) : digits n ≠ [] :=
  Nat.toDigits_ne_nil

theorem digits_begins (n : Nat) : ∃ d ds, digits n = d :: ds ∧ isDigit d = true := by
  obtain ⟨d, ds, eq⟩ := List.exists_cons_of_ne_nil (digits_ne_nil n)
  exact ⟨d, ds, eq, isDigit_of_mem_digits (eq ▸ List.mem_cons_self)⟩

theorem isDigit_of_digits_append {n : Nat} {c : Char} {r rest : List Char}
    (h : digits n ++ rest = c :: r) : isDigit c = true := by
  obtain ⟨d, ds, eq, digit⟩ := digits_begins n
  rw [eq, List.cons_append] at h
  exact (List.cons.inj h).1 ▸ digit

theorem value_digits (n : Nat) : value (digits n) = n :=
  Nat.ofDigitChars_toDigits (by decide) (by decide)

/-- A number that is written is read back if it is below the bound. -/
theorem natural?_text {bound n : Nat} (below : n < bound) : natural? bound (text n) = some n := by
  have all : (digits n).all isDigit = true :=
    List.all_eq_true.2 fun c hc => isDigit_of_mem_digits hc
  rw [natural?, text, String.toList_ofList]
  split
  · rename_i signed
    have digit : isDigit '+' = true := isDigit_of_mem_digits (signed ▸ List.mem_cons_self)
    cases digit
  · simp [all, value_digits, below, digits_ne_nil]

theorem value_append (ds es : List Char) :
    value (ds ++ es) = 10 ^ es.length * value ds + value es := by
  show Nat.ofDigitChars 10 (ds ++ es) 0 = _
  rw [Nat.ofDigitChars_append, Nat.ofDigitChars_eq_ofDigitChars_zero]
  rfl

theorem value_zeros (n : Nat) : value (List.replicate n '0') = 0 :=
  Nat.ofDigitChars_replicate_zero.trans (Nat.mul_zero _)

/-- A number has as many digits as its size asks for. -/
theorem length_digits_le {n width : Nat} (pos : 0 < width) (h : n < 10 ^ width) :
    (digits n).length ≤ width :=
  (Nat.length_toDigits_le_iff (by decide) pos).2 h

/-- Only zero begins with the digit zero. -/
theorem head?_digits_of_pos {n : Nat} (pos : 0 < n) : (digits n).head? ≠ some '0' := by
  induction n using Nat.strongRecOn with
  | ind n ih =>
    by_cases small : n < 10
    · rw [digits, Nat.toDigits_of_lt_base small]
      simp only [List.head?_cons, ne_eq, Option.some.injEq, Nat.digitChar_eq_zero]
      omega
    · rw [digits, Nat.toDigits_of_base_le (by decide) (by omega),
        List.head?_append_of_ne_nil _ Nat.toDigits_ne_nil]
      exact ih (n / 10) (by omega) (by omega)

/-- Zero has no other digit. -/
theorem digits_ne_zero_cons (n : Nat) (c : Char) (r : List Char) : digits n ≠ '0' :: c :: r := by
  intro eq
  rcases Nat.eq_zero_or_pos n with rfl | pos
  · exact absurd eq (by simp [digits])
  · exact head?_digits_of_pos pos (by rw [eq]; rfl)

theorem isDigit_of_mem_padded {width n : Nat} {c : Char} (h : c ∈ padded width n) :
    isDigit c = true := by
  rcases List.mem_append.1 h with zero | digit
  · rw [List.eq_of_mem_replicate zero]
    rfl
  · exact isDigit_of_mem_digits digit

theorem value_padded (width n : Nat) : value (padded width n) = n := by
  rw [padded, value_append, value_zeros, value_digits, Nat.mul_zero, Nat.zero_add]

theorem padded_ne_nil (width n : Nat) : padded width n ≠ [] :=
  List.append_ne_nil_of_right_ne_nil _ (digits_ne_nil n)

theorem length_padded {width n : Nat} (pos : 0 < width) (h : n < 10 ^ width) :
    (padded width n).length = width := by
  have short := length_digits_le pos h
  rw [padded, List.length_append, List.length_replicate]
  omega

/-! ### Runs of digits -/

/-- A text that does not go on with a digit. -/
def Stops (rest : List Char) : Prop :=
  ∀ c ∈ rest.head?, isDigit c = false

theorem stops_cons {c : Char} {r : List Char} (h : isDigit c = false) : Stops (c :: r) := by
  rintro d ⟨⟩
  exact h

variable {ds rest : List Char}

theorem digitsOf_digits (all : ∀ c ∈ ds, isDigit c = true) (stop : Stops rest) :
    digitsOf (ds ++ rest) = (ds, rest) := by
  rw [digitsOf, takeWhile_append all stop, dropWhile_append all stop]

theorem upTo?_append {most : Nat} (all : ∀ c ∈ ds, isDigit c = true) (some : ds ≠ [])
    (short : ds.length ≤ most) (stop : Stops rest) :
    upTo? most (ds ++ rest) = .some (value ds, rest) := by
  simp only [upTo?, takeWhile_append all stop, List.take_of_length_le short, List.isEmpty_iff,
    some, if_false, List.drop_left]

/-! ### Hexadecimal digits -/

theorem hexValue?_digitChar {d : Nat} (h : d < 16) : hexValue? (Nat.digitChar d) = some d := by
  revert d
  decide

theorem hexValue?_toUpper_digitChar {d : Nat} (h : d < 16) :
    hexValue? (Nat.digitChar d).toUpper = some d := by
  revert d
  decide

theorem hexNumber?_append_singleton (ds : List Char) (d : Char) :
    hexNumber? (ds ++ [d]) =
      (hexNumber? ds).bind fun n => (hexValue? d).map (16 * n + ·) := by
  rw [hexNumber?, List.foldl_append]
  rfl

/-- A run of characters that stands for a number holds hexadecimal digits only. -/
theorem isSome_hexValue? {ds : List Char} {n : Nat} (h : hexNumber? ds = some n) :
    ∀ c ∈ ds, (hexValue? c).isSome := by
  induction ds using List.reverseRecOn generalizing n with
  | nil => exact fun c mem => absurd mem List.not_mem_nil
  | append_singleton ds d ih =>
    rw [hexNumber?_append_singleton, Option.bind_eq_some_iff] at h
    obtain ⟨m, before, last⟩ := h
    obtain ⟨v, value, -⟩ := Option.map_eq_some_iff.1 last
    intro c mem
    rcases List.mem_append.1 mem with earlier | here
    · exact ih before c earlier
    · rw [List.mem_singleton.1 here, value]
      rfl

theorem hexNumber?_zeros_append (count : Nat) (ds : List Char) :
    hexNumber? (List.replicate count '0' ++ ds) = hexNumber? ds := by
  induction count with
  | zero => rfl
  | succ count ih => exact ih

/-- A number is read back from its hexadecimal digits, whatever their case. -/
theorem hexNumber?_map_toDigits (change : Char → Char)
    (same : ∀ d, d < 16 → hexValue? (change (Nat.digitChar d)) = some d) (n : Nat) :
    hexNumber? ((Nat.toDigits 16 n).map change) = some n := by
  induction n using Nat.strongRecOn with
  | ind n ih =>
    by_cases small : n < 16
    · rw [Nat.toDigits_of_lt_base small]
      simp [hexNumber?, same n small]
    · rw [Nat.toDigits_of_base_le (by decide) (by omega), List.map_append, List.map_singleton,
        hexNumber?_append_singleton, ih (n / 16) (by omega), same _ (Nat.mod_lt _ (by decide))]
      simp only [Option.bind_some, Option.map_some, Nat.div_add_mod]

theorem hexNumber?_hexPadded (width n : Nat) : hexNumber? (hexPadded width n) = some n := by
  have digits := hexNumber?_map_toDigits id (fun d => hexValue?_digitChar) n
  rwa [hexPadded, hexNumber?_zeros_append, ← List.map_id (Nat.toDigits 16 n)]

theorem hexNumber?_toUpper_hexPadded (width n : Nat) :
    hexNumber? ((hexPadded width n).map Char.toUpper) = some n := by
  rw [hexPadded, List.map_append, List.map_replicate]
  exact (hexNumber?_zeros_append _ _).trans
    (hexNumber?_map_toDigits Char.toUpper (fun d => hexValue?_toUpper_digitChar) n)

theorem length_hexPadded {width n : Nat} (pos : 0 < width) (h : n < 16 ^ width) :
    (hexPadded width n).length = width := by
  have short := (Nat.length_toDigits_le_iff (b := 16) (by decide) pos).2 h
  rw [hexPadded, List.length_append, List.length_replicate]
  omega

end Decimal

end TaskLedger.Text
