import Mathlib
import TaskLedger.Settings.Check

/-!
# The rules for settings

What settings have to be is said here once more, without the check that goes through them:

* `Settings.Valid`: the rules all together;
* `Settings.rules`: the rules one by one, in the order in which they count: those for the crew, the
  one for the interval, and for every sink in order that it has a name, that no sink before it has
  the same name, and that a network sink has a target;
* `Rule.Kept` and `Rule.field`: what a rule asks for, and which setting is to blame if it is broken.

`Settings.valid_iff_kept` relates the two, and `Settings.check_decides` says that the check passes
exactly valid settings, and else blames the setting of the first rule that is broken.
-/

namespace TaskLedger

open Text

/-! ### What the rules are -/

namespace SinkSettings

/-- A sink has an address to send to. -/
def HasAddress (sink : SinkSettings) : Prop :=
  ∃ text ∈ sink.params["addr"]?, (Address.ofText? text).isSome

/-- A sink has a format that is known, or leaves it open. -/
def HasFormat (sink : SinkSettings) : Prop :=
  ∀ name ∈ sink.params["format"]?, name = "json" ∨ name = "bincode"

instance (sink : SinkSettings) : Decidable sink.HasAddress :=
  inferInstanceAs (Decidable (∃ text ∈ sink.params["addr"]?, (Address.ofText? text).isSome))

instance (sink : SinkSettings) : Decidable sink.HasFormat :=
  inferInstanceAs (Decidable (∀ name ∈ sink.params["format"]?, name = "json" ∨ name = "bincode"))

end SinkSettings

/-- A rule for settings: there may be a worker, and no more workers stay than there may be; idle
workers wait for a second at least and for a day at most; there is time between two flushes; a sink
has a name, which no sink before has; and a network sink has a target. -/
inductive Rule where
  | someWorker
  | stayersFit
  | idleSecond
  | idleDay
  | interval
  | named (index : Nat)
  | fresh (index : Nat)
  | target (index : Nat)
  deriving DecidableEq

namespace Rule

/-- What a rule asks for. -/
def Kept (s : Settings) : Rule → Prop
  | someWorker => 1 ≤ s.crew.maxWorkers.toNat
  | stayersFit => s.crew.minWorkers.toNat ≤ s.crew.maxWorkers.toNat
  | idleSecond => 1 ≤ s.crew.idleSeconds.toNat
  | idleDay => s.crew.idleSeconds.toNat ≤ 86400
  | interval => 0 < s.flushMillis.toNat
  | named index => ∀ sink ∈ s.sinks[index]?, sink.name ≠ ""
  | fresh index =>
    ∀ sink ∈ s.sinks[index]?, sink.name ∉ (s.sinks.take index).map SinkSettings.name
  | target index =>
    ∀ sink ∈ s.sinks[index]?, sink.form = .network → sink.HasAddress ∧ sink.HasFormat

instance (s : Settings) : (rule : Rule) → Decidable (rule.Kept s)
  | someWorker => inferInstanceAs (Decidable (_ ≤ _))
  | stayersFit => inferInstanceAs (Decidable (_ ≤ _))
  | idleSecond => inferInstanceAs (Decidable (_ ≤ _))
  | idleDay => inferInstanceAs (Decidable (_ ≤ _))
  | interval => inferInstanceAs (Decidable (_ < _))
  | named index => inferInstanceAs (Decidable (∀ sink ∈ s.sinks[index]?, sink.name ≠ ""))
  | fresh index => inferInstanceAs (Decidable
      (∀ sink ∈ s.sinks[index]?, sink.name ∉ (s.sinks.take index).map SinkSettings.name))
  | target index => inferInstanceAs (Decidable
      (∀ sink ∈ s.sinks[index]?, sink.form = .network → sink.HasAddress ∧ sink.HasFormat))

/-- The setting to blame for a broken rule. -/
def field (s : Settings) : Rule → String
  | someWorker => "pool.max_workers"
  | stayersFit => "pool.min_workers / pool.max_workers"
  | idleSecond => "pool.idle_timeout_secs"
  | idleDay => "pool.idle_timeout_secs"
  | interval => "flush.interval_ms"
  | named index => "sinks[" ++ Decimal.text index ++ "].name"
  | fresh index => "sinks[name=" ++ (s.sinks[index]?.elim "" SinkSettings.name) ++ "]"
  | target index =>
    if ∀ sink ∈ s.sinks[index]?, sink.HasAddress then
      "sinks[" ++ Decimal.text index ++ "].params.format"
    else "sinks[" ++ Decimal.text index ++ "].params.addr"

/-- The rules for a number of sinks, the first of which has the given index. -/
def ofSinks (first count : Nat) : List Rule :=
  (List.range' first count).flatMap fun index => [named index, fresh index, target index]

end Rule

namespace Settings

/-- Settings that keep all rules. -/
structure Valid (s : Settings) : Prop where
  some_worker : 1 ≤ s.crew.maxWorkers.toNat
  stayers_fit : s.crew.minWorkers.toNat ≤ s.crew.maxWorkers.toNat
  idle_second : 1 ≤ s.crew.idleSeconds.toNat
  idle_day : s.crew.idleSeconds.toNat ≤ 86400
  interval : 0 < s.flushMillis.toNat
  named : ∀ sink ∈ s.sinks, sink.name ≠ ""
  distinct : (s.sinks.map SinkSettings.name).Nodup
  targets : ∀ sink ∈ s.sinks, sink.form = .network → sink.HasAddress ∧ sink.HasFormat

/-- The rules for settings, the first one first. -/
def rules (s : Settings) : List Rule :=
  [.someWorker, .stayersFit, .idleSecond, .idleDay, .interval] ++ Rule.ofSinks 0 s.sinks.length

/-- The first rule that settings break. -/
def firstBroken? (s : Settings) : Option Rule :=
  s.rules.find? fun rule => ¬ rule.Kept s

end Settings

/-! ### The rules one by one and all together -/

theorem Rule.mem_ofSinks {rule : Rule} {count : Nat} :
    rule ∈ ofSinks 0 count ↔
      ∃ index < count, rule = named index ∨ rule = fresh index ∨ rule = target index := by
  simp [ofSinks]

/-- No two elements of a list are the same if each differs from those before it. -/
theorem nodup_iff_notMem_take {α : Type} {l : List α} :
    l.Nodup ↔ ∀ (index : Nat) (a : α), l[index]? = some a → a ∉ l.take index := by
  rw [List.Nodup, List.pairwise_iff_getElem]
  constructor
  · intro different index a found among
    obtain ⟨inside, rfl⟩ := List.getElem?_eq_some_iff.1 found
    obtain ⟨other, before, same⟩ := List.mem_take_iff_getElem.1 among
    rw [lt_min_iff] at before
    exact different other index before.2 inside before.1 same
  · intro new i j hi hj before same
    refine new j l[j] (List.getElem?_eq_getElem hj) ?_
    exact List.mem_take_iff_getElem.2 ⟨i, lt_min before hi, same⟩

namespace Settings

/-- Settings are valid if they keep every rule. -/
theorem valid_iff_kept (s : Settings) : s.Valid ↔ ∀ rule ∈ s.rules, rule.Kept s := by
  have of_sink {p : SinkSettings → Prop} :
      (∀ sink ∈ s.sinks, p sink) ↔ ∀ index < s.sinks.length, ∀ sink ∈ s.sinks[index]?, p sink := by
    constructor
    · intro all index _ sink found
      exact all sink (List.mem_of_getElem? found)
    · intro all sink among
      obtain ⟨index, found⟩ := List.getElem?_of_mem among
      exact all index (List.getElem?_eq_some_iff.1 found).1 sink found
  have names : (s.sinks.map SinkSettings.name).Nodup ↔ ∀ index < s.sinks.length,
      ∀ sink ∈ s.sinks[index]?, sink.name ∉ (s.sinks.take index).map SinkSettings.name := by
    rw [nodup_iff_notMem_take]
    simp only [List.getElem?_map, Option.map_eq_some_iff, ← List.map_take, Option.mem_def]
    constructor
    · intro new index _ sink found
      exact new index sink.name ⟨sink, found, rfl⟩
    · rintro new index _ ⟨sink, found, rfl⟩
      exact new index (List.getElem?_eq_some_iff.1 found).1 sink found
  have in_turn : (∀ rule ∈ s.rules, rule.Kept s) ↔
      (∀ rule ∈ [Rule.someWorker, .stayersFit, .idleSecond, .idleDay, .interval], rule.Kept s) ∧
        ∀ index < s.sinks.length, (Rule.named index).Kept s ∧ (Rule.fresh index).Kept s ∧
          (Rule.target index).Kept s := by
    rw [rules, List.forall_mem_append]
    refine and_congr_right fun _ => ⟨fun all index inside => ?_, fun all rule among => ?_⟩
    · exact ⟨all _ (Rule.mem_ofSinks.2 ⟨index, inside, Or.inl rfl⟩),
        all _ (Rule.mem_ofSinks.2 ⟨index, inside, Or.inr (Or.inl rfl)⟩),
        all _ (Rule.mem_ofSinks.2 ⟨index, inside, Or.inr (Or.inr rfl)⟩)⟩
    · obtain ⟨index, inside, rfl | rfl | rfl⟩ := Rule.mem_ofSinks.1 among
      · exact (all index inside).1
      · exact (all index inside).2.1
      · exact (all index inside).2.2
  rw [in_turn]
  constructor
  · intro valid
    refine ⟨by simpa [Rule.Kept] using ⟨valid.some_worker, valid.stayers_fit, valid.idle_second,
      valid.idle_day, valid.interval⟩, fun index inside => ⟨?_, ?_, ?_⟩⟩
    · exact of_sink.1 valid.named index inside
    · exact names.1 valid.distinct index inside
    · exact of_sink.1 valid.targets index inside
  · rintro ⟨first, later⟩
    obtain ⟨worker, stay, second, day, interval⟩ := by simpa [Rule.Kept] using first
    exact
      { some_worker := worker
        stayers_fit := stay
        idle_second := second
        idle_day := day
        interval := interval
        named := of_sink.2 fun index inside => (later index inside).1
        distinct := names.2 fun index inside => (later index inside).2.1
        targets := of_sink.2 fun index inside => (later index inside).2.2 }

/-! ### The check goes through the rules -/

/-- The first rule that settings break, as the setting to blame for it. -/
def blamed (s : Settings) (rules : List Rule) : Option String :=
  (rules.find? fun rule => ¬ rule.Kept s).map (Rule.field s)

theorem blamed_append (s : Settings) (rules more : List Rule) :
    s.blamed (rules ++ more) = (s.blamed rules).or (s.blamed more) := by
  rw [blamed, List.find?_append, Option.map_or]
  rfl

theorem blamed_of_kept {s : Settings} {rule : Rule} (kept : rule.Kept s) (rules : List Rule) :
    s.blamed (rule :: rules) = s.blamed rules := by
  simp [blamed, kept]

theorem blamed_of_broken {s : Settings} {rule : Rule} (broken : ¬ rule.Kept s)
    (rules : List Rule) : s.blamed (rule :: rules) = some (rule.field s) := by
  simp [blamed, broken]

theorem field_checkCrew (s : Settings) :
    (checkCrew s.crew).map Violation.field =
      s.blamed [.someWorker, .stayersFit, .idleSecond, .idleDay] := by
  have worker : Rule.someWorker.Kept s ↔ ¬ s.crew.maxWorkers = 0 := by
    rw [← UInt64.toNat_inj]
    exact Nat.one_le_iff_ne_zero
  have stay : Rule.stayersFit.Kept s ↔ ¬ s.crew.maxWorkers < s.crew.minWorkers := by
    rw [UInt64.lt_iff_toNat_lt]
    exact Nat.not_lt.symm
  have second : Rule.idleSecond.Kept s ↔ ¬ s.crew.idleSeconds = 0 := by
    rw [← UInt64.toNat_inj]
    exact Nat.one_le_iff_ne_zero
  have day : Rule.idleDay.Kept s ↔ ¬ Violation.maxIdleSeconds < s.crew.idleSeconds.toNat :=
    Nat.not_lt.symm
  unfold checkCrew
  split_ifs with none_at_all too_many at_once too_long
  · rw [blamed_of_broken (worker.not_left.2 none_at_all)]
    rfl
  · rw [blamed_of_kept (worker.2 none_at_all), blamed_of_broken (stay.not_left.2 too_many)]
    rfl
  · rw [blamed_of_kept (worker.2 none_at_all), blamed_of_kept (stay.2 too_many),
      blamed_of_broken (second.not_left.2 at_once)]
    rfl
  · rw [blamed_of_kept (worker.2 none_at_all), blamed_of_kept (stay.2 too_many),
      blamed_of_kept (second.2 at_once), blamed_of_broken (day.not_left.2 too_long)]
    rfl
  · rw [blamed_of_kept (worker.2 none_at_all), blamed_of_kept (stay.2 too_many),
      blamed_of_kept (second.2 at_once), blamed_of_kept (day.2 too_long)]
    rfl

theorem field_checkInterval (s : Settings) :
    (checkInterval s.flushMillis).map Violation.field = s.blamed [.interval] := by
  have interval : Rule.interval.Kept s ↔ ¬ s.flushMillis = 0 := by
    rw [← UInt64.toNat_inj]
    exact Nat.pos_iff_ne_zero
  unfold checkInterval
  split_ifs with at_once
  · rw [blamed_of_broken (interval.not_left.2 at_once)]
    rfl
  · rw [blamed_of_kept (interval.2 at_once)]
    rfl

/-- The check of a network sink looks at its address and then at its format. -/
theorem field_checkNetwork (index : Nat) (sink : SinkSettings) :
    (checkNetwork index sink.params).map Violation.field =
      if sink.HasAddress then
        if sink.HasFormat then none else some ("sinks[" ++ Decimal.text index ++ "].params.format")
      else some ("sinks[" ++ Decimal.text index ++ "].params.addr") := by
  have address : sink.HasAddress ↔
      ∃ text, sink.params["addr"]? = some text ∧ (Address.ofText? text).isSome := Iff.rfl
  have format : sink.HasFormat ↔
      ∀ name, sink.params["format"]? = some name → name = "json" ∨ name = "bincode" := Iff.rfl
  unfold checkNetwork
  split
  · rename_i missing
    rw [if_neg (by simp [address, missing])]
    simp [Violation.field, Violation.sinkField, String.append_assoc]
  · rename_i text found
    by_cases bad : (Address.ofText? text).isNone
    · rw [if_pos bad, if_neg (by simpa [address, found] using bad)]
      simp [Violation.field, Violation.sinkField, String.append_assoc]
    · rw [if_neg bad,
        if_pos (address.2 ⟨text, found, by simpa [Option.isSome_iff_ne_none] using bad⟩)]
      split
      · rename_i missing
        rw [if_pos (by simp [format, missing])]
        rfl
      · rename_i name found
        by_cases known : name = "json" ∨ name = "bincode"
        · rw [if_pos known, if_pos (by simpa [format, found] using known)]
          rfl
        · rw [if_neg known, if_neg (by simpa [format, found] using known)]
          simp [Violation.field, Violation.sinkField, String.append_assoc]

section Sinks

variable {s : Settings} {before after : List SinkSettings} {sink : SinkSettings}

/-- One sink is checked by its three rules. -/
theorem field_checkSink (split : s.sinks = before ++ sink :: after) :
    (checkSink before.length (before.map SinkSettings.name).reverse sink).map Violation.field =
      s.blamed [.named before.length, .fresh before.length, .target before.length] := by
  have here : s.sinks[before.length]? = some sink := by simp [split]
  have earlier : s.sinks.take before.length = before := by simp [split]
  have name : (Rule.named before.length).Kept s ↔ ¬ sink.name = "" := by
    simp [Rule.Kept, here]
  have fresh : (Rule.fresh before.length).Kept s ↔
      sink.name ∉ (before.map SinkSettings.name).reverse := by
    simp [Rule.Kept, here, earlier]
  have target : (Rule.target before.length).Kept s ↔
      (sink.form = .network → sink.HasAddress ∧ sink.HasFormat) := by
    simp [Rule.Kept, here]
  unfold checkSink
  split_ifs with unnamed again network
  · rw [blamed_of_broken (name.not_left.2 unnamed)]
    simp [Violation.field, Violation.sinkField, Rule.field, String.append_assoc]
  · rw [blamed_of_kept (name.2 unnamed), blamed_of_broken (fresh.not.2 (not_not.2 again)),
      Rule.field, here]
    rfl
  · rw [blamed_of_kept (name.2 unnamed), blamed_of_kept (fresh.2 again), field_checkNetwork]
    by_cases good : sink.HasAddress ∧ sink.HasFormat
    · rw [blamed_of_kept (target.2 fun _ => good), if_pos good.1, if_pos good.2]
      rfl
    · rw [blamed_of_broken (target.not.2 (by simpa [network] using good)), Rule.field]
      by_cases address : sink.HasAddress
      · rw [if_pos address, if_neg (by simpa [address] using good), if_pos (by simpa [here])]
      · rw [if_neg address, if_neg (by simpa [here])]
  · rw [blamed_of_kept (name.2 unnamed), blamed_of_kept (fresh.2 again),
      blamed_of_kept (target.2 (absurd · network))]
    rfl

/-- The sinks are checked one after another. -/
theorem field_checkSinksFrom (before sinks : List SinkSettings)
    (split : s.sinks = before ++ sinks) :
    (checkSinksFrom before.length (before.map SinkSettings.name).reverse sinks).map
        Violation.field = s.blamed (Rule.ofSinks before.length sinks.length) := by
  induction sinks generalizing before with
  | nil => rfl
  | cons sink sinks ih =>
    have here := field_checkSink split
    have later := ih (before ++ [sink]) (by simp [split])
    rw [List.length_append, List.map_append, List.reverse_append] at later
    rw [List.length_cons, Rule.ofSinks, List.range'_succ, List.flatMap_cons, blamed_append, ← here,
      checkSinksFrom]
    cases broken : checkSink before.length (before.map SinkSettings.name).reverse sink with
    | some v => rfl
    | none => exact later

end Sinks

/-- The check blames the setting of the first rule that is broken. -/
theorem field_check (s : Settings) :
    s.check.map Violation.field = s.firstBroken?.map (Rule.field s) := by
  have sinks := field_checkSinksFrom (s := s) [] s.sinks rfl
  have in_order : s.rules = [.someWorker, .stayersFit, .idleSecond, .idleDay] ++
      ([.interval] ++ Rule.ofSinks 0 s.sinks.length) := rfl
  calc s.check.map Violation.field
      = (s.blamed [.someWorker, .stayersFit, .idleSecond, .idleDay]).or
          ((s.blamed [.interval]).or (s.blamed (Rule.ofSinks 0 s.sinks.length))) := by
        rw [check, Option.map_or, Option.map_or, field_checkCrew, field_checkInterval]
        exact congrArg _ (congrArg _ sinks)
    _ = s.blamed s.rules := by
        rw [in_order, blamed_append, blamed_append]

/-- The check passes exactly valid settings. -/
theorem check_eq_none_iff_valid (s : Settings) : s.check = none ↔ s.Valid := by
  rw [← Option.map_eq_none_iff, field_check, Option.map_eq_none_iff, firstBroken?,
    List.find?_eq_none, valid_iff_kept]
  simp

/-- **The check decides the rules for settings.**  Settings pass exactly if there may be a worker,
no more workers stay than there may be, idle workers wait from one second to a day, there is time
between two flushes, all sinks have names of their own, and every network sink has an address that
can be read and a format that is known or left open.  Otherwise the setting to blame is that of the
first rule that is broken, where the crew comes before the interval and that before the sinks, and
the first sink with a broken rule counts: its name comes before that it is new, and that before its
target. -/
theorem check_decides (s : Settings) :
    (s.check = none ↔ s.Valid) ∧
    s.check.map Violation.field = s.firstBroken?.map (Rule.field s) :=
  ⟨check_eq_none_iff_valid s, field_check s⟩

/-- A name that is used again counts before a missing name behind it. -/
example : ({ sinks := [⟨"a", .journal, ∅⟩, ⟨"a", .network, ∅⟩, ⟨"", .file, ∅⟩] } :
    Settings).firstBroken? = some (.fresh 1) := by
  decide

end Settings

end TaskLedger
