import Mathlib
import TaskLedger.Instant.Text
import TaskLedger.Proofs.Instant.Calendar
import TaskLedger.Proofs.Text.Decimal

/-!
# An instant is read back from its text

`Instant.ofText?_text`: the text of an instant stands for that instant, whatever its year, its
fraction and the second it lies in.  So different instants have different texts
(`Instant.text_injective`).

The parts of a text are read one by one, each with any rest behind it that cannot go on with a
digit.
-/

namespace TaskLedger.Text

/-! ### Blanks -/

theorem isBlank_of_isDigit {c : Char} (h : Decimal.isDigit c = true) : isBlank c = false := by
  simp only [Decimal.isDigit, Bool.and_eq_true, decide_eq_true_eq, Char.le_def,
    UInt32.le_iff_toNat_le] at h
  have low : 48 ≤ c.toNat := h.1
  have high : c.toNat ≤ 57 := h.2
  simp only [isBlank, blankRuns, List.any_cons, List.any_nil, Bool.or_false, Bool.or_eq_false_iff,
    Bool.and_eq_false_iff, decide_eq_false_iff_not]
  omega

theorem trimStart_cons {c : Char} {r : List Char} (h : isBlank c = false) :
    trimStart (c :: r) = c :: r :=
  List.dropWhile_cons_of_neg (by simp [h])

theorem trimStart_digits {ds rest : List Char} (all : ∀ c ∈ ds, Decimal.isDigit c = true)
    (some : ds ≠ []) : trimStart (ds ++ rest) = ds ++ rest := by
  obtain ⟨d, ds, rfl⟩ := List.exists_cons_of_ne_nil some
  exact trimStart_cons (isBlank_of_isDigit (all d List.mem_cons_self))

end TaskLedger.Text

namespace TaskLedger.Instant

open TaskLedger.Text Decimal

variable {rest : List Char}

/-! ### Numbers and marks -/

theorem field?_padded {width n : Nat} (pos : 0 < width) (h : n < 10 ^ width) (stop : Stops rest) :
    field? width (padded width n ++ rest) = some (n, rest) := by
  have all (c : Char) (digit : c ∈ padded width n) : isDigit c = true := isDigit_of_mem_padded digit
  rw [field?, trimStart_digits all (padded_ne_nil _ _),
    upTo?_append all (padded_ne_nil _ _) (length_padded pos h).le stop, value_padded]

theorem mark?_cons {c : Char} (h : isBlank c = false) : mark? c (c :: rest) = some rest := by
  simp [mark?, trimStart_cons h]

/-- Two marks between three numbers. -/
theorem triple?_append {α : Type} {mark : Char} {first : List Char → Option (α × List Char)}
    {cs : List Char} {a : α} {b c : Nat} (no_digit : isDigit mark = false)
    (no_blank : isBlank mark = false) (hb : b < 100) (hc : c < 100)
    (head : first cs = some (a, mark :: padded 2 b ++ mark :: padded 2 c ++ rest))
    (stop : Stops rest) : triple? mark first cs = some ((a, b, c), rest) := by
  have middle : field? 2 (padded 2 b ++ mark :: padded 2 c ++ rest)
      = some (b, mark :: padded 2 c ++ rest) := by
    rw [List.append_assoc]
    exact field?_padded two_pos hb (stops_cons no_digit)
  have last : field? 2 (padded 2 c ++ rest) = some (c, rest) := field?_padded two_pos hc stop
  simp only [triple?, head, List.cons_append, mark?_cons no_blank, Option.bind_eq_bind,
    Option.bind_some, middle, last, Option.pure_def]

/-! ### Dates -/

/-- Digits after a sign or without one. -/
theorem year?_yearText (y : Int) (stop : Stops rest) :
    year? (Date.yearText y ++ rest) = some (y, rest) := by
  have all (n : Nat) (c : Char) (digit : c ∈ padded 4 n) : isDigit c = true :=
    isDigit_of_mem_padded digit
  rw [Date.yearText]
  split
  case isTrue usual =>
    have short : (padded 4 y.toNat).length ≤ 4 := (length_padded (by decide) (by omega)).le
    have unsigned {c : Char} {r : List Char} (eq : padded 4 y.toNat ++ rest = c :: r) :
        isDigit c = true := by
      have head := congrArg List.head? eq
      rw [List.head?_append_of_ne_nil _ (padded_ne_nil 4 y.toNat)] at head
      exact all _ c (List.mem_of_head? head)
    rw [year?, trimStart_digits (all _) (padded_ne_nil _ _)]
    split
    case h_1 minus => exact absurd (unsigned minus) (by decide)
    case h_2 plus => exact absurd (unsigned plus) (by decide)
    case h_3 =>
      rw [upTo?_append (all _) (padded_ne_nil _ _) short stop, value_padded, Option.map_some,
        Int.toNat_of_nonneg usual.1]
  case isFalse unusual =>
    have signed : upTo? (padded 4 y.natAbs ++ rest).length (padded 4 y.natAbs ++ rest)
        = some (y.natAbs, rest) := by
      rw [upTo?_append (all _) (padded_ne_nil _ _) (by simp) stop, value_padded]
    split
    case isTrue negative =>
      rw [List.cons_append, year?, trimStart_cons (by decide)]
      simp only [signed, Option.map_some, Int.ofNat_natAbs_of_nonpos negative.le, Int.neg_neg]
    case isFalse large =>
      rw [List.cons_append, year?, trimStart_cons (by decide)]
      simp only [signed, Option.map_some, Int.natAbs_of_nonneg (Int.not_lt.1 large)]

theorem triple?_date {date : Date} (hm : date.month < 100) (hd : date.day < 100)
    (stop : Stops rest) :
    triple? '-' year? (date.chars ++ rest) = some ((date.year, date.month, date.day), rest) := by
  refine triple?_append (by decide) (by decide) hm hd ?_ stop
  rw [Date.chars]
  simp only [List.append_assoc, List.cons_append]
  exact year?_yearText _ (stops_cons (by decide))

/-- Different dates have different texts. -/
theorem date_text_injective : Function.Injective Date.text := by
  intro date other same
  have number {m n : Nat} (r r' : List Char) (h : padded 2 m ++ r = padded 2 n ++ r')
      (stop : Stops r) (stop' : Stops r') : m = n ∧ r = r' := by
    have cut := congrArg digitsOf h
    rw [digitsOf_digits (fun _ => isDigit_of_mem_padded) stop,
      digitsOf_digits (fun _ => isDigit_of_mem_padded) stop', Prod.mk.injEq] at cut
    exact ⟨by rw [← value_padded 2 m, cut.1, value_padded], cut.2⟩
  have dash (r : List Char) : Stops ('-' :: r) := stops_cons (by decide)
  have spelled := String.ofList_injective same
  simp only [Date.chars, List.append_assoc, List.cons_append] at spelled
  have year := congrArg year? spelled
  rw [year?_yearText _ (dash _), year?_yearText _ (dash _), Option.some.injEq, Prod.mk.injEq,
    List.cons.injEq] at year
  obtain ⟨month, rest⟩ := number _ _ year.2.2 (dash _) (dash _)
  rw [List.cons.injEq] at rest
  have day := (number [] [] (by simpa using rest.2) (by simp [Stops]) (by simp [Stops])).1
  cases date
  cases other
  simp_all

/-! ### Times of day -/

theorem fraction?_padded {width n : Nat} (pos : 0 < width) (le : width ≤ 9) (h : n < 10 ^ width)
    (stop : Stops rest) :
    fraction? ('.' :: padded width n ++ rest) = some (10 ^ (9 - width) * n, rest) := by
  have all (c : Char) (digit : c ∈ padded width n) : isDigit c = true := isDigit_of_mem_padded digit
  have places : (padded width n ++ List.replicate 9 '0').take 9
      = padded width n ++ List.replicate (9 - width) '0' := by
    have short : (padded width n).length ≤ 9 := (length_padded pos h).trans_le le
    rw [List.take_append, length_padded pos h, List.take_of_length_le short, List.take_replicate,
      min_eq_left (by omega)]
  simp only [fraction?, List.cons_append, takeWhile_append all stop, List.isEmpty_iff,
    padded_ne_nil, if_false, dropWhile_append all stop, places, value_append, value_padded,
    value_zeros, List.length_replicate, Nat.add_zero]

theorem fraction?_fractionText {nano : Nat} (h : nano < 1000000000) (rest : List Char) :
    fraction? (fractionText nano ++ 'Z' :: rest) = some (nano, 'Z' :: rest) := by
  have stop : Stops ('Z' :: rest) := stops_cons (by decide)
  rw [fractionText]
  split
  case isTrue zero =>
    rw [zero]
    rfl
  split
  case isTrue millis =>
    rw [fraction?_padded (by decide) (by decide) (by omega) stop]
    congr 2
    omega
  split
  case isTrue micros =>
    rw [fraction?_padded (by decide) (by decide) (by omega) stop]
    congr 2
    omega
  case isFalse nanos =>
    rw [fraction?_padded (by decide) (by decide) (by omega) stop]
    congr 2
    omega

/-- The parts of an instant's time of day lead back to it. -/
theorem ofLocal?_parts (t : Instant) :
    ofLocal? t.date (t.second / 3600) (t.second / 60 % 60) (t.second % 60 + t.nano / 1000000000)
      (t.nano % 1000000000) 0 = some t := by
  have second := t.second_lt
  have nano := t.nano_lt
  have toDay : t.date.toDay = t.day := Date.toDay_ofDay t.day
  have real : t.date.isReal = true := Date.isReal_ofDay t.day
  -- a leap second is the only one that counts from 60
  have leap : t.nano / 1000000000 = 0 ∨ t.nano / 1000000000 = 1 ∧ t.second % 60 = 59 := by
    split at nano <;> omega
  have inDay : (3600 * (t.second / 3600 : Nat) + 60 * (t.second / 60 % 60 : Nat)
      + (min (t.second % 60 + t.nano / 1000000000) 59 : Nat) - 0 : Int) = t.second := by
    omega
  have inSecond : (if t.second % 60 + t.nano / 1000000000 = 60 then
      t.nano % 1000000000 + 1000000000 else t.nano % 1000000000) = t.nano := by
    split <;> omega
  have sameDay : t.day + (t.second : Int) / 86400 = t.day := by omega
  have sameSecond : ((t.second : Int) % 86400).toNat = t.second := by omega
  rw [ofLocal?, if_pos ⟨real, by rw [toDay]; exact t.day_mem.1, by rw [toDay]; exact t.day_mem.2,
    by omega, by omega, by omega⟩]
  simp only [inDay, inSecond, toDay, sameDay, sameSecond, make?_parts]

/-! ### Whole texts -/

/-- The text of a fraction with what follows it does not go on with a digit. -/
theorem stops_fractionText (nano : Nat) : Stops (fractionText nano ++ ['Z']) := by
  rw [fractionText]
  split_ifs
  all_goals exact stops_cons (by decide)

theorem read?_chars (t : Instant) : read? t.chars = some (t, []) := by
  have month : t.date.month < 100 := (Date.month_ofDay t.day).2.trans_lt (by decide)
  have day : t.date.day < 100 := (Date.day_ofDay t.day).2.trans_lt (by decide)
  have second := t.second_lt
  have nano := t.nano_lt
  have leap : t.nano / 1000000000 ≤ 1 := by
    split at nano <;> omega
  have date {rest : List Char} : triple? '-' year? (t.date.chars ++ 'T' :: rest) =
      some ((t.date.year, t.date.month, t.date.day), 'T' :: rest) :=
    triple?_date month day (stops_cons (by decide))
  have time : triple? ':' (field? 2) (padded 2 (t.second / 3600) ++
      (':' :: padded 2 (t.second / 60 % 60) ++ ':' :: padded 2 (t.second % 60 + t.nano / 1000000000)
        ++ (fractionText (t.nano % 1000000000) ++ ['Z']))) =
      some ((t.second / 3600, t.second / 60 % 60, t.second % 60 + t.nano / 1000000000),
        fractionText (t.nano % 1000000000) ++ ['Z']) :=
    triple?_append (by decide) (by decide) (by omega) (by omega)
      (field?_padded (by decide) (by omega) (stops_cons (by decide))) (stops_fractionText _)
  have fraction := fraction?_fractionText (Nat.mod_lt t.nano (show 0 < 1000000000 by decide)) []
  have offset : offset? (trimStart ['Z']) = some (0, []) := by decide
  simp only [List.append_assoc, List.cons_append] at time
  have whole := ofLocal?_parts t
  simp only [read?, chars, List.append_assoc, List.cons_append, date, Option.bind_eq_bind,
    Option.bind_some, divider?, true_or, if_true, time, fraction, offset, whole, Option.pure_def]

/-- **The text of an instant stands for it.** -/
theorem ofText?_text (t : Instant) : ofText? t.text = some t := by
  rw [ofText?, text, String.toList_ofList, read?_chars]
  rfl

theorem text_injective : Function.Injective text := by
  intro t u same
  rw [← Option.some_inj, ← ofText?_text t, ← ofText?_text u, same]

end TaskLedger.Instant
