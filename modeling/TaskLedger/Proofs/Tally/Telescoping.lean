import Mathlib
import TaskLedger.Proofs.Tally.Categories

/-!
# Times add up

A record goes from stop to stop, and the time of every leg between two stops is measured like the
time from the first stop to the last.  Whatever the order of the instants, the legs add up to the
whole, up to what is lost where each of them is cut to milliseconds.

* `Kind.stops` and `Kind.legs`: the stops of a record, and the counters of the legs between them;
* `Instant.elapsedMillis_via`: a stop in between changes a time by a millisecond at most;
* `Instant.abs_elapsed_sub_legs_le`: so does each of any number of stops in between;
* `abs_sum_sub_sums_le`: what is near for every record is near for the sums over some records;
* `times_telescope` puts this together, for a record and for a category.
-/

namespace TaskLedger

/-! ### Stops and legs -/

namespace Kind

/-- The stops of a record in order. -/
def stops : (k : Kind) → Record k → List (Option Instant)
  | .runner, r => [r.queuedAt, r.consumedAt, r.runAt, r.finishedAt]
  | .croner, r => [r.scheduledAt, r.runAt, r.finishedAt]

/-- The counters of the legs between the stops in order. -/
def legs : Kind → List String
  | .runner => ["timeQueue", "timeWait", "timeRun"]
  | .croner => ["timeWait", "timeRun"]

/-- The milliseconds that the legs of a record may differ from its whole time. -/
def slack : Kind → Nat
  | .runner => 2
  | .croner => 1

end Kind

namespace Record

variable {k : Kind}

/-- A record that went through all stops, none of them in a leap second. -/
def Complete (r : Record k) : Prop :=
  ∃ instants : List Instant, k.stops r = instants.map some ∧ ∀ t ∈ instants, t.isLeap = false

/-- A record with its stops at whole milliseconds. -/
def AtMillis (r : Record k) : Prop :=
  ∀ t, some t ∈ k.stops r → t.nano % 1000000 = 0

/-- The milliseconds that a record adds to a counter, if they are known. -/
def millis? (r : Record k) (counter : String) : Option Int :=
  ((Scheme.of k).phases.find? fun phase => phase.name = counter).bind fun phase => phase.millis r

end Record

/-! ### Stops in between -/

namespace Instant

/-- Nanoseconds are cut to milliseconds toward zero. -/
theorem cut_spec (nanos : Int) :
    (0 ≤ nanos → 1000000 * nanos.tdiv 1000000 ≤ nanos ∧
      nanos < 1000000 * nanos.tdiv 1000000 + 1000000) ∧
    (nanos ≤ 0 → nanos ≤ 1000000 * nanos.tdiv 1000000 ∧
      1000000 * nanos.tdiv 1000000 - 1000000 < nanos) := by
  constructor
  · intro forth
    rw [Int.tdiv_eq_ediv_of_nonneg forth]
    omega
  · intro back
    have mirrored : nanos.tdiv 1000000 = -(-nanos / 1000000) := by
      rw [← Int.tdiv_eq_ediv_of_nonneg (by omega), Int.neg_tdiv, neg_neg]
    rw [mirrored]
    omega

variable {a b c : Instant}

/-- A stop in between changes a time by a millisecond at most. -/
theorem elapsedMillis_via (ha : a.isLeap = false) (hb : b.isLeap = false)
    (hc : c.isLeap = false) :
    |elapsedMillis a c - (elapsedMillis a b + elapsedMillis b c)| ≤ 1 := by
  have whole := cut_spec (elapsedNanos a c)
  have first := cut_spec (elapsedNanos a b)
  have second := cut_spec (elapsedNanos b c)
  rw [elapsedNanos_eq_sub ha hc] at whole
  rw [elapsedNanos_eq_sub ha hb] at first
  rw [elapsedNanos_eq_sub hb hc] at second
  rw [abs_le, elapsedMillis, elapsedMillis, elapsedMillis, elapsedNanos_eq_sub ha hc,
    elapsedNanos_eq_sub ha hb, elapsedNanos_eq_sub hb hc]
  omega

/-- It changes nothing where all stops are at whole milliseconds. -/
theorem elapsedMillis_via_of_millis (ha : a.isLeap = false) (hb : b.isLeap = false)
    (hc : c.isLeap = false) (wa : a.nano % 1000000 = 0) (wb : b.nano % 1000000 = 0)
    (wc : c.nano % 1000000 = 0) : elapsedMillis a c = elapsedMillis a b + elapsedMillis b c := by
  have whole := cut_spec (elapsedNanos a c)
  have first := cut_spec (elapsedNanos a b)
  have second := cut_spec (elapsedNanos b c)
  rw [elapsedNanos_eq_sub ha hc] at whole
  rw [elapsedNanos_eq_sub ha hb] at first
  rw [elapsedNanos_eq_sub hb hc] at second
  rw [elapsedMillis, elapsedMillis, elapsedMillis, elapsedNanos_eq_sub ha hc,
    elapsedNanos_eq_sub ha hb, elapsedNanos_eq_sub hb hc]
  unfold unixNanos at *
  omega

/-- The milliseconds of the legs from one instant over some others in order. -/
def legs : Instant → List Instant → List Int
  | _, [] => []
  | a, b :: later => elapsedMillis a b :: legs b later

/-- Every stop in between changes a time by a millisecond at most. -/
theorem abs_elapsed_sub_legs_le {later : List Instant} (ha : a.isLeap = false)
    (hb : b.isLeap = false) (hl : ∀ t ∈ later, t.isLeap = false) :
    |elapsedMillis a (later.getLastD b) - (legs a (b :: later)).sum| ≤ later.length := by
  induction later generalizing a b with
  | nil => simp [legs]
  | cons c later ih =>
    have last : (later.getLastD c).isLeap = false := hl _ List.getLastD_mem_cons
    have here := elapsedMillis_via ha hb last
    have rest := ih hb (hl c List.mem_cons_self) fun t ht => hl t (List.mem_cons_of_mem c ht)
    rw [List.getLastD_cons, legs, List.sum_cons, List.length_cons]
    rw [abs_le] at here rest ⊢
    push_cast
    omega

theorem elapsed_eq_legs {later : List Instant}
    (plain : ∀ t ∈ a :: b :: later, t.isLeap = false ∧ t.nano % 1000000 = 0) :
    elapsedMillis a (later.getLastD b) = (legs a (b :: later)).sum := by
  induction later generalizing a b with
  | nil => simp [legs]
  | cons c later ih =>
    have all : ∀ t ∈ b :: c :: later, t.isLeap = false ∧ t.nano % 1000000 = 0 :=
      fun t ht => plain t (List.mem_cons_of_mem a ht)
    obtain ⟨la, wa⟩ := plain a List.mem_cons_self
    obtain ⟨lb, wb⟩ := all b List.mem_cons_self
    obtain ⟨ll, wl⟩ := all (later.getLastD c)
      (List.mem_cons_of_mem b List.getLastD_mem_cons)
    rw [List.getLastD_cons, legs, List.sum_cons, ← ih all,
      elapsedMillis_via_of_millis la lb ll wa wb wl]

end Instant

/-! ### Records -/

variable {k : Kind}

theorem Phase.millis_of_ends {ρ : Type} {phase : Phase ρ} {r : ρ} {start finish : Instant}
    (hs : phase.start r = some start) (hf : phase.finish r = some finish) :
    phase.millis r = some (Instant.elapsedMillis start finish) := by
  rw [Phase.millis, hs, hf]

namespace Record

theorem millis?_name {phase : Phase (Record k)} (h : phase ∈ (Scheme.of k).phases)
    (r : Record k) : r.millis? phase.name = phase.millis r := by
  have all : ∀ phase ∈ (Scheme.of k).phases, r.millis? phase.name = phase.millis r := by
    cases k <;> simp [Scheme.of, Scheme.runner, Scheme.croner, millis?]
  exact all phase h

/-- The times of a record lie between its stops. -/
theorem millis?_of_stops {r : Record k} {instants : List Instant}
    (stops : k.stops r = instants.map some) :
    ∃ a b later, instants = a :: b :: later ∧ later.length = k.slack ∧
      r.millis? "timeAll" = some (Instant.elapsedMillis a (later.getLastD b)) ∧
      k.legs.map r.millis? = (Instant.legs a (b :: later)).map some := by
  have leg {phase : Phase (Record k)} (h : phase ∈ (Scheme.of k).phases) {start finish : Instant}
      (hs : phase.start r = some start) (hf : phase.finish r = some finish) :
      r.millis? phase.name = some (Instant.elapsedMillis start finish) :=
    (millis?_name h r).trans (Phase.millis_of_ends hs hf)
  have count : instants.length = (k.stops r).length := by rw [stops, List.length_map]
  cases k with
  | runner =>
    obtain ⟨a, b, c, d, rfl⟩ := List.length_eq_four.1 count
    obtain ⟨ha, hb, hc, hd⟩ : r.queuedAt = some a ∧ r.consumedAt = some b ∧ r.runAt = some c ∧
        r.finishedAt = some d := by
      simpa [Kind.stops] using stops
    refine ⟨a, b, [c, d], rfl, rfl, leg (List.getElem_mem (n := 0) (by decide)) ha hd, ?_⟩
    simp only [Kind.legs, List.map_cons, List.map_nil, Instant.legs, List.cons.injEq, and_true]
    exact ⟨leg (List.getElem_mem (n := 1) (by decide)) ha hb,
      leg (List.getElem_mem (n := 2) (by decide)) hb hc,
      leg (List.getElem_mem (n := 3) (by decide)) hc hd⟩
  | croner =>
    obtain ⟨a, b, c, rfl⟩ := List.length_eq_three.1 count
    obtain ⟨ha, hb, hc⟩ : r.scheduledAt = some a ∧ r.runAt = some b ∧ r.finishedAt = some c := by
      simpa [Kind.stops] using stops
    refine ⟨a, b, [c], rfl, rfl, leg (List.getElem_mem (n := 0) (by decide)) ha hc, ?_⟩
    simp only [Kind.legs, List.map_cons, List.map_nil, Instant.legs, List.cons.injEq, and_true]
    exact ⟨leg (List.getElem_mem (n := 1) (by decide)) ha hb,
      leg (List.getElem_mem (n := 2) (by decide)) hb hc⟩

/-- The legs of a record add up to its whole time, up to what is lost by cutting. -/
theorem Complete.telescopes {r : Record k} (complete : r.Complete) :
    ∃ (whole : Int) (parts : List Int), r.millis? "timeAll" = some whole ∧
      k.legs.map r.millis? = parts.map some ∧ |whole - parts.sum| ≤ k.slack ∧
      (r.AtMillis → whole = parts.sum) := by
  obtain ⟨instants, stops, plain⟩ := complete
  obtain ⟨a, b, later, rfl, count, whole_eq, parts_eq⟩ := millis?_of_stops stops
  refine ⟨_, _, whole_eq, parts_eq, ?_, fun millis => ?_⟩
  · rw [← count]
    exact Instant.abs_elapsed_sub_legs_le (plain a (by simp)) (plain b (by simp))
      fun t ht => plain t (by simp [ht])
  · refine Instant.elapsed_eq_legs fun t ht => ⟨plain t ht, millis t ?_⟩
    rw [stops]
    exact List.mem_map_of_mem ht

/-- The milliseconds that a record adds to a counter, none if they are unknown. -/
def millis (r : Record k) (counter : String) : Int :=
  (r.millis? counter).getD 0

theorem Complete.abs_millis_sub_le {r : Record k} (complete : r.Complete) :
    |r.millis "timeAll" - (k.legs.map r.millis).sum| ≤ k.slack ∧
      (r.AtMillis → r.millis "timeAll" = (k.legs.map r.millis).sum) := by
  obtain ⟨whole, parts, whole_eq, parts_eq, near, same⟩ := complete.telescopes
  have known : k.legs.map r.millis = parts := by
    have read := congrArg (List.map fun millis => Option.getD millis 0) parts_eq
    simp only [List.map_map, Function.comp_def, Option.getD_some, List.map_id'] at read
    exact read
  rw [millis, whole_eq, known]
  exact ⟨near, same⟩

end Record

/-! ### Categories -/

/-- What is near for every record is near for the sums over some records. -/
theorem abs_sum_sub_sums_le {α : Type} {records : List α} {whole : α → Int} {slack : Nat}
    (parts : List (α → Int))
    (near : ∀ r ∈ records, |whole r - (parts.map fun part => part r).sum| ≤ slack) :
    |(records.map whole).sum - (parts.map fun part => (records.map part).sum).sum| ≤
      slack * records.length := by
  induction records with
  | nil => simp
  | cons r records ih =>
    have here := near r List.mem_cons_self
    have rest := ih fun other ho => near other (List.mem_cons_of_mem r ho)
    simp only [List.map_cons, List.sum_cons, List.length_cons, List.sum_map_add]
    rw [abs_le] at here rest ⊢
    push_cast
    rw [mul_add, mul_one]
    omega

/-- Every counter of a time belongs to a phase. -/
theorem Scheme.exists_phase_of_leg {counter : String} (h : counter ∈ "timeAll" :: k.legs) :
    ∃ phase ∈ (of k).phases, phase.name = counter := by
  cases k with
  | runner =>
    simp only [Kind.legs, List.mem_cons, List.not_mem_nil, or_false] at h
    rcases h with rfl | rfl | rfl | rfl <;> simp [of, runner]
  | croner =>
    simp only [Kind.legs, List.mem_cons, List.not_mem_nil, or_false] at h
    rcases h with rfl | rfl | rfl <;> simp [of, croner]

/-- The legs of some records add up to their whole times, up to what is lost by cutting. -/
theorem Record.abs_sum_millis_sub_le {own : List (Record k)} (complete : ∀ r ∈ own, r.Complete) :
    |(own.map fun r => r.millis "timeAll").sum -
        (k.legs.map fun counter => (own.map fun r => r.millis counter).sum).sum| ≤
      k.slack * own.length ∧
    ((∀ r ∈ own, r.AtMillis) → (own.map fun r => r.millis "timeAll").sum =
      (k.legs.map fun counter => (own.map fun r => r.millis counter).sum).sum) := by
  have near (slack : Nat) (each : ∀ r ∈ own,
      |r.millis "timeAll" - (k.legs.map r.millis).sum| ≤ slack) :=
    abs_sum_sub_sums_le (k.legs.map fun counter (r : Record k) => r.millis counter)
      fun r hr => by simpa only [List.map_map, Function.comp_def] using each r hr
  simp only [List.map_map, Function.comp_def] at near
  refine ⟨near _ fun r hr => (complete r hr).abs_millis_sub_le.1, fun millis => ?_⟩
  -- no record loses anything
  have none_lost := near 0 fun r hr => by
    rw [(complete r hr).abs_millis_sub_le.2 (millis r hr), sub_self, abs_zero, Nat.cast_zero]
  rw [Nat.cast_zero, zero_mul, abs_nonpos_iff, sub_eq_zero] at none_lost
  exact none_lost

namespace Aggregation

variable {records : List (Record k)} {category : String}

/-- The milliseconds of a category are those of its records, as long as no sum of the first ones
leaves 64 bits. -/
theorem value?_millis (there : records.filter (·.key = category) ≠ []) {phase : Phase (Record k)}
    (h : phase ∈ (Scheme.of k).phases)
    (fits : ∀ front, front <+: (records.filter (·.key = category)).filterMap phase.millis →
      Signed64.Fits front.sum) :
    (ofRecords records).value? category phase.name =
      some ((records.filter (·.key = category)).map fun r => r.millis phase.name).sum := by
  rw [value?_phase there h, Signed64.sum_eq fits, Phase.sum_millis]
  refine congrArg (fun amounts : List Int => some amounts.sum) (List.map_congr_left fun r _ => ?_)
  rw [Record.millis, Record.millis?_name h, Phase.amount]

/-- The legs of a category add up to its whole time, up to what is lost by cutting. -/
theorem telescopes (there : records.filter (·.key = category) ≠ [])
    (complete : ∀ r ∈ records.filter (·.key = category), r.Complete)
    (fits : ∀ phase ∈ (Scheme.of k).phases, ∀ front,
      front <+: (records.filter (·.key = category)).filterMap phase.millis →
        Signed64.Fits front.sum) :
    ∃ (whole : Int) (parts : List Int), (ofRecords records).value? category "timeAll" = some whole ∧
      k.legs.map ((ofRecords records).value? category) = parts.map some ∧
      |whole - parts.sum| ≤ k.slack * (records.filter (·.key = category)).length ∧
      ((∀ r ∈ records.filter (·.key = category), r.AtMillis) → whole = parts.sum) := by
  have value_eq : ∀ counter ∈ "timeAll" :: k.legs, (ofRecords records).value? category counter =
      some ((records.filter (·.key = category)).map fun r => r.millis counter).sum := by
    intro counter hc
    obtain ⟨phase, hp, rfl⟩ := Scheme.exists_phase_of_leg hc
    exact value?_millis there hp (fits phase hp)
  generalize records.filter (·.key = category) = own at complete value_eq ⊢
  obtain ⟨near, same⟩ := Record.abs_sum_millis_sub_le complete
  refine ⟨(own.map fun r => r.millis "timeAll").sum,
    k.legs.map fun counter => (own.map fun r => r.millis counter).sum,
    value_eq "timeAll" List.mem_cons_self, ?_, ?_, ?_⟩
  · rw [List.map_map]
    exact List.map_congr_left fun counter hc => value_eq counter (List.mem_cons_of_mem _ hc)
  · exact near
  · exact same

end Aggregation

/-- **Times add up.**  For every record that went through all its stops, none of them in a leap
second, the legs between the stops add up to the whole time, up to two milliseconds for a task and
one for a scheduled job, and exactly where all stops are at whole milliseconds.  The stops may be in
any order.  So the counters of a category whose records are all like that differ by no more than as
many milliseconds for each record, as long as no sum of the times on the way leaves 64 bits. -/
theorem times_telescope (k : Kind) :
    (∀ r : Record k, r.Complete →
      ∃ (whole : Int) (parts : List Int), r.millis? "timeAll" = some whole ∧
        k.legs.map r.millis? = parts.map some ∧ |whole - parts.sum| ≤ k.slack ∧
        (r.AtMillis → whole = parts.sum)) ∧
    ∀ (records : List (Record k)) (category : String),
      let own := records.filter (·.key = category)
      let value? := (Aggregation.ofRecords records).value? category
      own ≠ [] → (∀ r ∈ own, r.Complete) →
      (∀ phase ∈ (Scheme.of k).phases, ∀ front, front <+: own.filterMap phase.millis →
        Signed64.Fits front.sum) →
      ∃ (whole : Int) (parts : List Int), value? "timeAll" = some whole ∧
        k.legs.map value? = parts.map some ∧ |whole - parts.sum| ≤ k.slack * own.length ∧
        ((∀ r ∈ own, r.AtMillis) → whole = parts.sum) :=
  ⟨fun _ complete => complete.telescopes, fun _ _ there complete fits =>
    Aggregation.telescopes there complete fits⟩

/-- An instant in the first second of all, some nanoseconds after its start. -/
def Instant.early (nano : Fin 1000000000) : Instant :=
  { epoch with
    nano := nano
    nano_lt := by simp [epoch, nano.isLt] }

/-- A task with a stop every 900 microseconds. -/
def Runner.hasty : Record .runner :=
  show Runner.Outcome from
    { taskClass := "job", state := .success, queuedAt := some (.early 0),
      consumedAt := some (.early 900000), runAt := some (.early 1800000),
      finishedAt := some (.early 2700000) }

/-- Every leg is shorter than a millisecond, and the whole time is not: two such tasks lose as much
as they can. -/
theorem times_telescope_of_hasty :
    (∃ (whole : Int) (parts : List Int), Runner.hasty.millis? "timeAll" = some whole ∧
      (Kind.legs .runner).map Runner.hasty.millis? = parts.map some ∧ |whole - parts.sum| ≤ 2) ∧
    let value? := (Aggregation.ofRecords [Runner.hasty, Runner.hasty]).value? "job"
    (∃ (whole : Int) (parts : List Int), value? "timeAll" = some whole ∧
      (Kind.legs .runner).map value? = parts.map some ∧ |whole - parts.sum| ≤ 2 * 2) ∧
    value? "timeAll" = some 4 ∧ (Kind.legs .runner).map value? = [some 0, some 0, some 0] := by
  have complete : Runner.hasty.Complete (k := .runner) :=
    ⟨[.early 0, .early 900000, .early 1800000, .early 2700000], rfl, by decide⟩
  let own := [Runner.hasty, Runner.hasty].filter (Record.key · = "job")
  have all : ∀ r ∈ own, r.Complete := by
    intro r hr
    obtain rfl : r = Runner.hasty := by simpa using List.mem_of_mem_filter hr
    exact complete
  have fits : ∀ phase ∈ (Scheme.of .runner).phases, ∀ front, front <+: own.filterMap phase.millis →
      Signed64.Fits front.sum := by
    simp only [← List.mem_inits]
    decide
  obtain ⟨one, ones, one_eq, ones_eq, close, -⟩ :=
    (times_telescope .runner).1 Runner.hasty complete
  obtain ⟨whole, parts, whole_eq, parts_eq, near, -⟩ :=
    (times_telescope .runner).2 [Runner.hasty, Runner.hasty] "job" (by decide) all fits
  exact ⟨⟨one, ones, one_eq, ones_eq, close⟩, ⟨whole, parts, whole_eq, parts_eq, near⟩,
    by decide, by decide⟩

end TaskLedger
