import TaskLedger.Metrics.Registry
import TaskLedger.Outcome.Kind
import TaskLedger.Signed64

/-!
# What the ledger measures of itself

An `Observation` tells that something happened in the ledger; `Registry.observe` changes the
measured values accordingly.
-/

namespace TaskLedger

/-- A whole number of 64 bits as a floating point number. -/
def Signed64.toFloat (i : Int) : Float :=
  (Int64.ofInt i).toFloat

/-- A natural number of 64 bits as a floating point number. -/
def naturalFloat (n : Nat) : Float :=
  (UInt64.ofNat n).toFloat

/-- What happened in the ledger.  A record was buffered; a buffer with records of some categories
was flushed; a batch was submitted in the named way; a batch was shipped to a sink; the crew was
looked at; or a category announced its next run, in seconds since 1970. -/
inductive Observation where
  | appended (kind : Kind)
  | flushed (kind : Kind) (records categories : Nat)
  | submitted (kind : Kind) (mode : String)
  | shipped (sink : String) (kind : Kind) (success : Bool) (records : Nat)
  | crew (live idle busy : Nat)
  | nextRun (category : String) (seconds : Int)
  deriving DecidableEq

namespace Registry

/-- A series with the label of a kind. -/
def ofKind (name : String) (kind : Kind) : Series :=
  ⟨name, [("kind", kind.name)]⟩

/-- The gauge of the next run of a category. -/
def nextRun (category : String) : Series :=
  ⟨"task_croner_next_run_timestamp_seconds", [("category", category)]⟩

/-- A series with the labels of a shipment. -/
def ofShipment (name sink : String) (kind : Kind) (success : Bool) : Series :=
  ⟨name, [("sink", sink), ("kind", kind.name),
    ("status", if success then "success" else "failure")]⟩

/-- The measured values after something has happened. -/
def observe (r : Registry) : Observation → Registry
  | .appended kind => r.count (ofKind "task_log_records_appended_total" kind) 1
  | .flushed kind records categories =>
    (((r.count (ofKind "task_log_flushes_total" kind) 1).count
      (ofKind "task_log_records_flushed_total" kind) records).summarize
      (ofKind "task_log_flush_batch_size" kind) (naturalFloat records)).setGauge
      (ofKind "task_log_flush_categories" kind) (naturalFloat categories)
  | .submitted kind mode =>
    r.count ⟨"task_log_submissions_total", [("kind", kind.name), ("mode", mode)]⟩ 1
  | .shipped sink kind success records =>
    (r.count (ofShipment "task_log_batches_shipped_total" sink kind success) 1).count
      (ofShipment "task_log_records_shipped_total" sink kind success) records
  | .crew live idle busy =>
    ((r.setGauge ⟨"task_log_pool_workers_live", []⟩ (naturalFloat live)).setGauge
      ⟨"task_log_pool_workers_idle", []⟩ (naturalFloat idle)).setGauge
      ⟨"task_log_pool_jobs_busy", []⟩ (naturalFloat busy)
  | .nextRun category seconds => r.setGauge (nextRun category) (Signed64.toFloat seconds)

/-- The measured values after a list of things has happened. -/
def observeAll (r : Registry) (os : List Observation) : Registry :=
  os.foldl observe r

end Registry

end TaskLedger
