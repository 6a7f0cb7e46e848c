import Mathlib
import TaskLedger.Outcome.Packed
import TaskLedger.Proofs.Instant.Text
import TaskLedger.Proofs.Text.Octets

/-!
# Packed records are told apart

A packed value tells by itself where it ends: `Delimited` says so of a packed form, with anything
behind the value.  Values one behind the other inherit it, so two records with the same packed form
are the same (`Record.eq_of_packed`).

The length of a text has eight octets, so all of this is about octets fewer than `2 ^ 64`.
-/

namespace TaskLedger.Packed

variable {α : Type}

/-! ### Numbers -/

/-- The number that octets stand for, the lowest first. -/
def number : List UInt8 → Nat
  | [] => 0
  | b :: bs => b.toNat + 256 * number bs

theorem number_natural {width n : Nat} (h : n < 256 ^ width) : number (natural width n) = n := by
  induction width generalizing n with
  | zero => rw [Nat.lt_one_iff.1 h]; rfl
  | succ width ih =>
    rw [Nat.pow_succ] at h
    have high : n / 256 < 256 ^ width := Nat.div_lt_of_lt_mul (by omega)
    rw [natural, number, ih high, UInt8.toNat_ofNat']
    exact Nat.mod_add_div n 256

theorem natural_inj (width : Nat) {m n : Nat} (hm : m < 256 ^ width) (hn : n < 256 ^ width)
    (h : natural width m = natural width n) : m = n := by
  rw [← number_natural hm, ← number_natural hn, h]

/-! ### Packed values with something behind them -/

/-- A value and what stands behind it can be told from their octets, if these are fewer than
`2 ^ 64`. -/
def Delimited (pack : α → List UInt8) : Prop :=
  ∀ ⦃a b : α⦄ ⦃u v : List UInt8⦄, (pack a ++ u).length < 2 ^ 64 →
    pack a ++ u = pack b ++ v → a = b ∧ u = v

/-- Numbers of a fixed width are delimited if they stand for values one by one. -/
theorem delimited_natural {width : Nat} {code : α → Nat} (bound : ∀ a, code a < 256 ^ width)
    (inj : Function.Injective code) : Delimited fun a => natural width (code a) := by
  intro a b u v _ same
  have widths : (natural width (code a)).length = (natural width (code b)).length := by
    rw [natural_length, natural_length]
  obtain ⟨codes, rest⟩ := List.append_inj same widths
  exact ⟨inj (natural_inj width (bound a) (bound b) codes), rest⟩

theorem delimited_text : Delimited text := by
  intro s t u v short same
  have total := congrArg List.length same
  simp only [text, List.length_append, natural_length] at short total
  simp only [text, List.append_assoc] at same
  have widths : (natural 8 (octets s).length).length = (natural 8 (octets t).length).length := by
    rw [natural_length, natural_length]
  obtain ⟨lengths, rest⟩ := List.append_inj same widths
  have equal : (octets s).length = (octets t).length :=
    natural_inj 8 (by omega) (by omega) lengths
  obtain ⟨octets, behind⟩ := List.append_inj rest equal
  exact ⟨octets_injective octets, behind⟩

theorem delimited_optional {pack : α → List UInt8} (h : Delimited pack) :
    Delimited (optional pack) := by
  intro a b u v short same
  cases a with
  | none =>
    cases b with
    | none => exact ⟨rfl, List.cons.inj same |>.2⟩
    | some b => exact absurd (List.cons.inj same).1 (by decide)
  | some a =>
    cases b with
    | none => exact absurd (List.cons.inj same).1 (by decide)
    | some b =>
      have fewer : (pack a ++ u).length < 2 ^ 64 := (Nat.lt_succ_self _).trans short
      obtain ⟨rfl, behind⟩ := h fewer (List.cons.inj same).2
      exact ⟨rfl, behind⟩

theorem delimited_instant : Delimited instant := by
  intro t u _ _ short same
  obtain ⟨texts, behind⟩ := delimited_text short same
  exact ⟨Instant.text_injective texts, behind⟩

/-- What stands behind the first value has fewer octets. -/
theorem Delimited.next {pack : α → List UInt8} (h : Delimited pack) {a b : α} {u v : List UInt8}
    (short : (pack a ++ u).length < 2 ^ 64) (same : pack a ++ u = pack b ++ v) :
    a = b ∧ u.length < 2 ^ 64 ∧ u = v := by
  obtain ⟨first, behind⟩ := h short same
  rw [List.length_append] at short
  exact ⟨first, by omega, behind⟩

end TaskLedger.Packed

namespace TaskLedger

open Packed

/-! ### States -/

theorem Runner.State.code_injective : Function.Injective State.code := by
  intro s t same
  have found := congrArg State.ofCode? same
  rw [State.ofCode?_code, State.ofCode?_code] at found
  exact Except.ok.inj found

theorem Croner.State.code_injective : Function.Injective State.code := by
  intro s t same
  have found := congrArg State.ofCode? same
  rw [State.ofCode?_code, State.ofCode?_code] at found
  exact Except.ok.inj found

theorem delimited_runnerState : Delimited fun s : Runner.State => natural 1 s.code :=
  delimited_natural (fun s => by cases s <;> decide) Runner.State.code_injective

theorem delimited_cronerState : Delimited fun s : Croner.State => natural 1 s.code :=
  delimited_natural (fun s => by cases s <;> decide) Croner.State.code_injective

theorem delimited_word : Delimited fun n : UInt64 => natural 8 n.toNat :=
  delimited_natural UInt64.toNat_lt fun _ _ => UInt64.toNat.inj

/-! ### Records -/

/-- Two records of tasks with the same packed form are the same. -/
theorem Runner.Outcome.eq_of_packed {r s : Outcome} (short : r.packed.length < 2 ^ 64)
    (same : r.packed = s.packed) : r = s := by
  rw [← List.append_nil r.packed] at short
  replace same : r.packed ++ [] = s.packed ++ [] := by rw [same]
  simp only [packed, List.append_assoc] at short same
  obtain ⟨taskId, short, same⟩ := (delimited_optional delimited_word).next short same
  obtain ⟨taskClass, short, same⟩ := delimited_text.next short same
  obtain ⟨taskTag, short, same⟩ := (delimited_optional delimited_text).next short same
  obtain ⟨runTarget, short, same⟩ := (delimited_optional delimited_text).next short same
  obtain ⟨state, short, same⟩ := delimited_runnerState.next short same
  obtain ⟨queuedAt, short, same⟩ := (delimited_optional delimited_instant).next short same
  obtain ⟨consumedAt, short, same⟩ := (delimited_optional delimited_instant).next short same
  obtain ⟨runAt, short, same⟩ := (delimited_optional delimited_instant).next short same
  obtain ⟨finishedAt, short, same⟩ := (delimited_optional delimited_instant).next short same
  obtain ⟨errorInfo, -, -⟩ := (delimited_optional delimited_text).next short same
  cases r
  cases s
  simp_all

/-- Two records of scheduled jobs with the same packed form are the same. -/
theorem Croner.Outcome.eq_of_packed {r s : Outcome} (short : r.packed.length < 2 ^ 64)
    (same : r.packed = s.packed) : r = s := by
  rw [← List.append_nil r.packed] at short
  replace same : r.packed ++ [] = s.packed ++ [] := by rw [same]
  simp only [packed, List.append_assoc] at short same
  obtain ⟨taskClass, short, same⟩ := delimited_text.next short same
  obtain ⟨taskParam, short, same⟩ := (delimited_optional delimited_text).next short same
  obtain ⟨runTarget, short, same⟩ := (delimited_optional delimited_text).next short same
  obtain ⟨state, short, same⟩ := delimited_cronerState.next short same
  obtain ⟨scheduledAt, short, same⟩ := (delimited_optional delimited_instant).next short same
  obtain ⟨runAt, short, same⟩ := (delimited_optional delimited_instant).next short same
  obtain ⟨finishedAt, short, same⟩ := (delimited_optional delimited_instant).next short same
  obtain ⟨nextAt, short, same⟩ := (delimited_optional delimited_instant).next short same
  obtain ⟨errorInfo, -, -⟩ := (delimited_optional delimited_text).next short same
  cases r
  cases s
  simp_all

theorem Record.eq_of_packed : {k : Kind} → {r s : Record k} → r.packed.length < 2 ^ 64 →
    r.packed = s.packed → r = s
  | .runner, _, _ => Runner.Outcome.eq_of_packed
  | .croner, _, _ => Croner.Outcome.eq_of_packed

end TaskLedger
