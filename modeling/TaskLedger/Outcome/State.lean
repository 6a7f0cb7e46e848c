import TaskLedger.Outcome.Kind
import TaskLedger.Text.Decimal

/-!
# How a task or a job ended

Both kinds share the codes of their states: 1 is success, the others name who failed.  A scheduled
job has no configuration of its own to fail, so code 3 is a state of runner records only.

`ofCode?_code` and `code_of_ofCode?` say that the codes and the states of a kind answer each other.
-/

namespace TaskLedger

/-- A code without a state of the given kind. -/
structure BadCode where
  kind : Kind
  code : Nat
  deriving DecidableEq, Repr

/-- The text of the complaint. -/
def BadCode.message (bad : BadCode) : String :=
  "invalid " ++ bad.kind.name ++ " outcome state code: " ++ Text.Decimal.text bad.code

namespace Runner

/-- How the execution of a task ended: as it should, or since the program failed, the configuration
was wrong, another system failed, or the data were wrong. -/
inductive State where
  | success
  | programError
  | configError
  | partnerError
  | dataError
  deriving DecidableEq, Repr

namespace State

/-- The code of a state. -/
def code : State → Nat
  | success => 1
  | programError => 2
  | configError => 3
  | partnerError => 4
  | dataError => 5

/-- The state with a given code. -/
def ofCode? : Nat → Except BadCode State
  | 1 => .ok success
  | 2 => .ok programError
  | 3 => .ok configError
  | 4 => .ok partnerError
  | 5 => .ok dataError
  | n => .error ⟨.runner, n⟩

/-- The name of a state. -/
def name : State → String
  | success => "Success"
  | programError => "ProgramError"
  | configError => "ConfigError"
  | partnerError => "PartnerError"
  | dataError => "DataError"

/-- Whether the execution failed. -/
def isFailure (s : State) : Bool :=
  s != success

theorem ofCode?_code (s : State) : ofCode? s.code = .ok s := by
  cases s <;> rfl

theorem code_of_ofCode? {n : Nat} {s : State} (h : ofCode? n = .ok s) : s.code = n := by
  unfold ofCode? at h
  split at h <;> simp_all <;> subst h <;> rfl

end State

end Runner

namespace Croner

/-- How the firing of a scheduled job ended: as it should, or since the program failed, another
system failed, or the data were wrong. -/
inductive State where
  | success
  | programError
  | partnerError
  | dataError
  deriving DecidableEq, Repr

namespace State

/-- The code of a state. -/
def code : State → Nat
  | success => 1
  | programError => 2
  | partnerError => 4
  | dataError => 5

/-- The state with a given code. -/
def ofCode? : Nat → Except BadCode State
  | 1 => .ok success
  | 2 => .ok programError
  | 4 => .ok partnerError
  | 5 => .ok dataError
  | n => .error ⟨.croner, n⟩

/-- The name of a state. -/
def name : State → String
  | success => "Success"
  | programError => "ProgramError"
  | partnerError => "PartnerError"
  | dataError => "DataError"

/-- Whether the firing failed. -/
def isFailure (s : State) : Bool :=
  s != success

theorem ofCode?_code (s : State) : ofCode? s.code = .ok s := by
  cases s <;> rfl

theorem code_of_ofCode? {n : Nat} {s : State} (h : ofCode? n = .ok s) : s.code = n := by
  unfold ofCode? at h
  split at h <;> simp_all <;> subst h <;> rfl

end State

end Croner

end TaskLedger
