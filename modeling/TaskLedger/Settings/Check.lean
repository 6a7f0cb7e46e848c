import TaskLedger.Settings.Basic
import TaskLedger.Sink.Address
import TaskLedger.Text.Decimal

/-!
# Valid settings

Settings are checked rule by rule: the crew, then the interval, then the sinks in order.
`Violation` names the rules, and `Settings.check` answers with the first one that is broken.

The rules for the crew: at least one worker, not more that stay than there may be, an idle time from
one second to a day.  Every sink has a name of its own, and a network sink has an address and a
format that are known.
-/

namespace TaskLedger

open Text

/-- A rule that settings break.  No worker is allowed, or fewer than are to stay; workers leave at
once, or stay too long; there is no time between two flushes; a sink has no name, or that of
another; or a network sink has no address, a bad one, or a format that is not known. -/
inductive Violation where
  | noWorkers
  | tooManyStay (least most : Nat)
  | noIdleTime
  | longIdleTime (seconds : Nat)
  | noInterval
  | noName (index : Nat)
  | sameName (name : String)
  | noAddress (index : Nat)
  | badAddress (index : Nat) (address : String)
  | badFormat (index : Nat) (format : String)
  deriving DecidableEq, Repr

namespace Violation

/-- Where in a list of sinks something is. -/
def sinkField (index : Nat) (field : String) : String :=
  "sinks[" ++ Decimal.text index ++ "]." ++ field

/-- Which setting breaks the rule. -/
def field : Violation → String
  | noWorkers => "pool.max_workers"
  | tooManyStay .. => "pool.min_workers / pool.max_workers"
  | noIdleTime => "pool.idle_timeout_secs"
  | longIdleTime _ => "pool.idle_timeout_secs"
  | noInterval => "flush.interval_ms"
  | noName index => sinkField index "name"
  | sameName name => "sinks[name=" ++ name ++ "]"
  | noAddress index => sinkField index "params.addr"
  | badAddress index _ => sinkField index "params.addr"
  | badFormat index _ => sinkField index "params.format"

/-- The longest idle time in seconds. -/
def maxIdleSeconds : Nat := 86400

/-- What the rule says. -/
def rule : Violation → String
  | noWorkers => "max_workers must be >= 1"
  | tooManyStay least most =>
    "min_workers (" ++ Decimal.text least ++ ") must be <= max_workers ("
      ++ Decimal.text most ++ ")"
  | noIdleTime => "idle_timeout_secs must be > 0"
  | longIdleTime seconds =>
    "idle_timeout_secs (" ++ Decimal.text seconds ++ ") must be <= " ++ Decimal.text maxIdleSeconds
  | noInterval => "interval_ms must be > 0"
  | noName _ => "sink name cannot be empty"
  | sameName _ => "duplicate sink name"
  | noAddress _ => "network sink requires 'addr'"
  | badAddress _ address => "invalid socket address '" ++ address ++ "'"
  | badFormat _ format => "unknown format '" ++ format ++ "', expected json or bincode"

/-- The text of a violation. -/
def message (v : Violation) : String :=
  "config validation error at '" ++ v.field ++ "': " ++ v.rule

end Violation

namespace Settings

/-- The first rule for the crew that is broken. -/
def checkCrew (crew : CrewSettings) : Option Violation :=
  if crew.maxWorkers = 0 then some .noWorkers
  else if crew.maxWorkers < crew.minWorkers then
    some (.tooManyStay crew.minWorkers.toNat crew.maxWorkers.toNat)
  else if crew.idleSeconds = 0 then some .noIdleTime
  else if Violation.maxIdleSeconds < crew.idleSeconds.toNat then
    some (.longIdleTime crew.idleSeconds.toNat)
  else none

/-- The rule for the interval, if it is broken. -/
def checkInterval (millis : UInt64) : Option Violation :=
  if millis = 0 then some .noInterval else none

/-- The first rule for the parameters of a network sink that is broken. -/
def checkNetwork (index : Nat) (params : Params) : Option Violation :=
  match params["addr"]? with
  | none => some (.noAddress index)
  | some address =>
    if (Address.ofText? address).isNone then some (.badAddress index address)
    else match params["format"]? with
      | none => none
      | some format =>
        if format = "json" ∨ format = "bincode" then none else some (.badFormat index format)

/-- The first rule for a sink that is broken, where `names` are those of the sinks before it. -/
def checkSink (index : Nat) (names : List String) (sink : SinkSettings) : Option Violation :=
  if sink.name = "" then some (.noName index)
  else if sink.name ∈ names then some (.sameName sink.name)
  else if sink.form = .network then checkNetwork index sink.params
  else none

/-- The first rule that is broken by one of the sinks, the first of which has the given index and
stands behind sinks with the given names. -/
def checkSinksFrom (index : Nat) (names : List String) : List SinkSettings → Option Violation
  | [] => none
  | sink :: sinks =>
    match checkSink index names sink with
    | some v => some v
    | none => checkSinksFrom (index + 1) (sink.name :: names) sinks

/-- The first rule that settings break. -/
def check (s : Settings) : Option Violation :=
  (checkCrew s.crew).or ((checkInterval s.flushMillis).or (checkSinksFrom 0 [] s.sinks))

end Settings

end TaskLedger
