import Mathlib
import TaskLedger.Outcome.Codec
import TaskLedger.Proofs.Instant.Text
import TaskLedger.Proofs.Json.Reading
import TaskLedger.Proofs.Text.Octets

/-!
# A record is read back from its line

`Record.ofText_line`: the JSON text of a record is one line, and reading it gives the record again,
whatever the texts of the record hold and whichever of its times are known.

The members of a record are read one by one: its fields take the members of its tree, in their
order.
-/

namespace TaskLedger

open Json

/-! ### Members -/

theorem reads_instant {ε : Type} (t : Instant) : Reads (ε := ε) Instant.reader t.tree t := by
  refine reads_refine (reads_text t.text) ?_
  rw [Instant.ofText?_text]

theorem reads_state {σ : Type} {ofCode? : Nat → Except BadCode σ} {code : Nat} {s : σ}
    (small : code < 256) (h : ofCode? code = .ok s) :
    Reads (stateReader ofCode?) (.natural code) s := by
  refine reads_refine (reads_natural (by decide) small) ?_
  rw [h]
  rfl

section Optional

variable {ε : Type}

theorem reads_optional_instant (t : Option Instant) :
    Reads (ε := ε) (optional Instant.reader) (.optional Instant.tree t) t := by
  have read := reads_optional (ε := ε) (fun _ => Tree.noConfusion) reads_instant t
  rwa [Option.map_id'] at read

theorem reads_optional_text (s : Option String) :
    Reads (ε := ε) (optional text) (.optional .text s) s := by
  have read := reads_optional (ε := ε) (fun _ => Tree.noConfusion) reads_text s
  rwa [Option.map_id'] at read

theorem reads_optional_word (n : Option UInt64) :
    Reads (ε := ε) (optional (natural UInt64.size)) (.optional (fun n => .natural n.toNat) n)
      (n.map UInt64.toNat) :=
  reads_optional (fun _ => Tree.noConfusion) (fun n => reads_natural le_rfl n.toNat_lt) n

end Optional

theorem Runner.State.code_lt (s : State) : s.code < 256 := by
  cases s <;> decide

theorem Croner.State.code_lt (s : State) : s.code < 256 := by
  cases s <;> decide

/-! ### Records -/

theorem Runner.Outcome.reads_tree (r : Outcome) : Reads (record fields blank) r.tree r := by
  have id : (r.taskId.map UInt64.toNat).map UInt64.ofNat = r.taskId := by
    cases r.taskId <;> simp
  have all : Reads (record fields blank) r.tree
      { r with taskId := (r.taskId.map UInt64.toNat).map UInt64.ofNat } := by
    refine reads_record (by decide) ?_
    exact .of (reads_optional_word _) <| .of (reads_text _) <| .of (reads_optional_text _) <|
      .of (reads_optional_text _) <| .of (reads_state r.state.code_lt r.state.ofCode?_code) <|
      .of (reads_optional_instant _) <| .of (reads_optional_instant _) <|
      .of (reads_optional_instant _) <| .of (reads_optional_instant _) <|
      .of (reads_optional_text _) .nil
  rwa [id] at all

theorem Croner.Outcome.reads_tree (r : Outcome) : Reads (record fields blank) r.tree r := by
  refine reads_record (by decide) ?_
  exact .of (reads_text _) <| .of (reads_optional_text _) <| .of (reads_optional_text _) <|
    .of (reads_state r.state.code_lt r.state.ofCode?_code) <|
    .of (reads_optional_instant _) <| .of (reads_optional_instant _) <|
    .of (reads_optional_instant _) <| .of (reads_optional_instant _) <|
    .of (reads_optional_text _) .nil

namespace Record

theorem reads_tree : {k : Kind} → (r : Record k) → Reads (reader k) r.tree r
  | .runner, r => Runner.Outcome.reads_tree r
  | .croner, r => Croner.Outcome.reads_tree r

/-- **A record is read back from its line.** -/
theorem ofText_line (k : Kind) (r : Record k) :
    ofText k r.line = .ok r ∧ (10 : UInt8) ∉ Packed.octets r.line := by
  refine ⟨document_eq r.reads_tree r.tree.spelled_compact, ?_⟩
  refine Packed.newLine_not_mem_octets ?_
  rw [line, String.toList_ofList]
  exact r.tree.newLine_not_mem_compact

end Record

end TaskLedger
