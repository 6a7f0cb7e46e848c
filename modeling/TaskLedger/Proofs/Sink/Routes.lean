import Mathlib
import TaskLedger.Sink.Route

/-!
# What a route does with a batch

The route of some configured sinks gives every batch to all of them, in the order of the settings.
Each of them finds the world as those before have left it, a failure of one keeps none from its
batch, and the first failure is told.  The route of a single sink is that sink, and does what a
fan-out of it would do, which only adds to the journal which sinks have failed.

* `Sink.inTurn`: what comes of a batch that sinks take one after another;
* `Sink.Serves`: a sink does with every batch what some sinks do one after another, as far as the
  world and failures go, and `Sink.notes` is what a fan-out writes to the journal;
* `Sink.Built`: configured sinks are built one after another;
* `Sink.allOfSettings_eq_ok_iff` and `Sink.allOfSettings_eq_error_iff`: all sinks are built, or the
  first one that cannot be built is told;
* `Sink.route_delivers` puts this together.
-/

namespace TaskLedger

namespace Sink

variable {σ : Type}

/-! ### One sink after another -/

/-- What comes of a batch at each of some sinks, which take it one after another, and the world
afterwards. -/
def inTurn (batch : Batch) (sinks : List (Sink σ)) (w : σ) : List Delivery × σ :=
  match sinks with
  | [] => ([], w)
  | sink :: later =>
    let (first, w) := sink.persist batch w
    let (rest, w) := inTurn batch later w
    (first :: rest, w)

/-- What a fan-out writes to the journal: the events of every sink, and behind them a warning if it
failed. -/
def notes (sinks : List (Sink σ)) (deliveries : List Delivery) : List Event :=
  (sinks.zip deliveries).flatMap fun (sink, delivery) =>
    delivery.events ++ (delivery.fault.map (Delivery.warning sink.name)).toList

variable {batch : Batch} {w : σ}

theorem inTurn_cons (sink : Sink σ) (later : List (Sink σ)) : inTurn batch (sink :: later) w =
    ((sink.persist batch w).1 :: (inTurn batch later (sink.persist batch w).2).1,
      (inTurn batch later (sink.persist batch w).2).2) := rfl

/-- Every sink takes the batch once, in the world that those before it leave. -/
theorem getElem?_inTurn (sinks : List (Sink σ)) (index : Nat) :
    (inTurn batch sinks w).1[index]? = sinks[index]?.map fun sink =>
      (sink.persist batch (inTurn batch (sinks.take index) w).2).1 := by
  induction sinks generalizing w index with
  | nil => rfl
  | cons sink later ih =>
    cases index with
    | zero => rfl
    | succ index => exact ih index

/-- A fan-out gives the batch to one sink after another, and fails as the first one that does. -/
theorem all_eq (sinks : List (Sink σ)) : all sinks batch w =
    ({ fault := (inTurn batch sinks w).1.findSome? Delivery.fault
       events := notes sinks (inTurn batch sinks w).1 }, (inTurn batch sinks w).2) := by
  induction sinks generalizing w with
  | nil => rfl
  | cons sink later ih =>
    rw [all_cons, inTurn_cons]
    simp only [ih, Delivery.andThen, List.findSome?_cons, notes, List.zip_cons_cons,
      List.flatMap_cons]
    cases (sink.persist batch w).1.fault <;> rfl

/-- A sink does with every batch what some sinks do one after another: it leaves the same world,
succeeds exactly if all of them do, and fails otherwise as the first one that does. -/
structure Serves (route : Sink σ) (sinks : List (Sink σ)) : Prop where
  world_eq : ∀ batch w, (route.persist batch w).2 = (inTurn batch sinks w).2
  taken_iff : ∀ batch w, (route.persist batch w).1.fault = none ↔
    ∀ delivery ∈ (inTurn batch sinks w).1, delivery.fault = none
  fault_iff : ∀ batch w fault, (route.persist batch w).1.fault = some fault ↔
    ∃ before delivery after, (inTurn batch sinks w).1 = before ++ delivery :: after ∧
      (∀ earlier ∈ before, earlier.fault = none) ∧ delivery.fault = some fault

theorem serves_of_findSome? {route : Sink σ} {sinks : List (Sink σ)}
    (world_eq : ∀ batch w, (route.persist batch w).2 = (inTurn batch sinks w).2)
    (fault_eq : ∀ batch w, (route.persist batch w).1.fault =
      (inTurn batch sinks w).1.findSome? Delivery.fault) : route.Serves sinks where
  world_eq := world_eq
  taken_iff batch w := by rw [fault_eq, List.findSome?_eq_none_iff]
  fault_iff batch w fault := by
    rw [fault_eq, List.findSome?_eq_some_iff]
    refine exists_congr fun before => exists_congr fun delivery => exists_congr fun after => ?_
    exact and_congr_right fun _ => and_comm

/-- Several sinks together serve all of them. -/
theorem serves_fanout (name : String) (sinks : List (Sink σ)) :
    (fanout name sinks).Serves sinks := by
  have persist_eq : (fanout name sinks).persist = all sinks := rfl
  refine serves_of_findSome? (fun batch w => ?_) fun batch w => ?_
  · rw [persist_eq, all_eq]
  · rw [persist_eq, all_eq]

theorem events_fanout (name : String) (sinks : List (Sink σ)) :
    ((fanout name sinks).persist batch w).1.events = notes sinks (inTurn batch sinks w).1 := by
  show (all sinks batch w).1.events = _
  rw [all_eq]

/-- A sink serves itself. -/
theorem serves_self (sink : Sink σ) : sink.Serves [sink] := by
  refine serves_of_findSome? (fun _ _ => rfl) fun batch w => ?_
  rw [inTurn_cons, List.findSome?_cons]
  cases (sink.persist batch w).1.fault <;> rfl

/-! ### Building the sinks -/

/-- Configured sinks are built one after another, the first of them with a given number, each in the
world that those before it leave. -/
inductive Built : Nat → World → List SinkSettings → List (Sink World) → World → Prop where
  | nil (number : Nat) (w : World) : Built number w [] [] w
  | cons {number : Nat} {w next now : World} {config : SinkSettings} {sink : Sink World}
      {configs : List SinkSettings} {sinks : List (Sink World)}
      (first : ofSettings number config w = .ok (sink, next))
      (later : Built (number + 1) next configs sinks now) :
      Built number w (config :: configs) (sink :: sinks) now

section Building

variable {number : Nat} {w next now : World} {config : SinkSettings} {configs : List SinkSettings}
  {sink : Sink World} {sinks : List (Sink World)} {fault : RouteFault}

/-- A sink that cannot be built is told by its name. -/
theorem sink_eq_of_ofSettings (failed : ofSettings number config w = .error fault) :
    fault.sink = config.name := by
  have told {α ε : Type} {attempt : Except ε α} {cause : ε → String} {fault : RouteFault}
      (failed : attempt.mapError (fun e => RouteFault.mk config.name (cause e)) = .error fault) :
      fault.sink = config.name := by
    cases attempt with
    | ok made => cases failed
    | error e =>
      cases failed
      rfl
  unfold ofSettings at failed
  split at failed
  · cases failed
  · exact told failed
  · cases made : (network config.name config.params w).mapError
      fun e => RouteFault.mk config.name e.message with
    | ok sink =>
      rw [made] at failed
      cases failed
    | error refusal =>
      rw [made] at failed
      cases failed
      exact told made

theorem allOfSettings_of_error (failed : ofSettings number config w = .error fault) :
    allOfSettings number (config :: configs) w = .error fault := by
  rw [allOfSettings, failed]
  rfl

theorem allOfSettings_of_ok (first : ofSettings number config w = .ok (sink, next)) :
    allOfSettings number (config :: configs) w =
      (allOfSettings (number + 1) configs next).map fun later => (sink :: later.1, later.2) := by
  rw [allOfSettings, first]
  rfl

theorem allOfSettings_eq_ok_iff :
    allOfSettings number configs w = .ok (sinks, now) ↔ Built number w configs sinks now := by
  constructor
  · intro built
    induction configs generalizing number w sinks with
    | nil =>
      cases built
      exact .nil number now
    | cons config configs ih =>
      cases first : ofSettings number config w with
      | error fault =>
        rw [allOfSettings_of_error first] at built
        cases built
      | ok made =>
        obtain ⟨sink, next⟩ := made
        rw [allOfSettings_of_ok first] at built
        cases later : allOfSettings (number + 1) configs next with
        | error fault =>
          rw [later] at built
          cases built
        | ok rest =>
          rw [later] at built
          cases built
          exact .cons first (ih later)
  · intro built
    induction built with
    | nil => rfl
    | cons first _ ih =>
      rw [allOfSettings_of_ok first, ih]
      rfl

/-- If not all sinks are built, the first one that cannot be built is told. -/
theorem allOfSettings_eq_error_iff :
    allOfSettings number configs w = .error fault ↔
      ∃ before config after sinks now, configs = before ++ config :: after ∧
        Built number w before sinks now ∧
        ofSettings (number + before.length) config now = .error fault := by
  have shift (before : List SinkSettings) (number : Nat) (config : SinkSettings) :
      number + (config :: before).length = number + 1 + before.length := by
    rw [List.length_cons, Nat.add_comm before.length, Nat.add_assoc]
  constructor
  · intro failed
    induction configs generalizing number w with
    | nil => cases failed
    | cons config configs ih =>
      cases first : ofSettings number config w with
      | error refusal =>
        rw [allOfSettings_of_error first] at failed
        cases failed
        exact ⟨[], config, configs, [], w, rfl, .nil number w, first⟩
      | ok made =>
        obtain ⟨sink, next⟩ := made
        rw [allOfSettings_of_ok first] at failed
        cases later : allOfSettings (number + 1) configs next with
        | ok rest =>
          rw [later] at failed
          cases failed
        | error refusal =>
          rw [later] at failed
          cases failed
          obtain ⟨before, refused, after, sinks, now, rfl, built, failed⟩ := ih later
          refine ⟨config :: before, refused, after, sink :: sinks, now, rfl, .cons first built, ?_⟩
          rw [shift]
          exact failed
  · rintro ⟨before, config, after, sinks, now, rfl, built, failed⟩
    induction built with
    | nil => exact allOfSettings_of_error failed
    | cons first _ ih =>
      rw [shift] at failed
      rw [List.cons_append, allOfSettings_of_ok first, ih failed]
      rfl

end Building

/-! ### The route -/

/-- A fan-out of a single sink does what the sink does, and adds a warning to the journal if it
failed. -/
theorem persist_fanout_singleton (name : String) (sink : Sink σ) :
    (fanout name [sink]).persist batch w =
      ({ fault := (sink.persist batch w).1.fault
         events := (sink.persist batch w).1.events ++
           ((sink.persist batch w).1.fault.map (Delivery.warning sink.name)).toList },
        (sink.persist batch w).2) := by
  show all [sink] batch w = _
  rw [all_eq, inTurn_cons]
  simp only [inTurn, notes, List.findSome?_cons, List.zip_cons_cons, List.zip_nil_right,
    List.flatMap_singleton]
  cases (sink.persist batch w).1.fault <;> rfl

/-- The route of sinks that are all built. -/
theorem route_of_built {configs : List SinkSettings} {w now : World} {sinks : List (Sink World)}
    (some_sinks : configs ≠ []) (built : Built 0 w configs sinks now) :
    ∃ r, route configs w = .ok (r, now) ∧ r.Serves sinks ∧ (∀ sink, sinks = [sink] → r = sink) ∧
      (1 < sinks.length → r = fanout "fanout" sinks) := by
  cases built with
  | nil => exact absurd rfl some_sinks
  | @cons _ _ _ _ config sink configs sinks first later =>
    cases later with
    | nil =>
      refine ⟨sink, first, serves_self sink, fun other single => ?_, fun several => ?_⟩
      · cases single
        rfl
      · exact absurd several (Nat.lt_irrefl 1)
    | @cons _ _ _ _ second other configs sinks next later =>
      have all_built := allOfSettings_eq_ok_iff.2 (.cons first (.cons next later))
      refine ⟨fanout "fanout" (sink :: other :: sinks), ?_, serves_fanout .., fun _ single => ?_,
        fun _ => rfl⟩
      · show (allOfSettings 0 _ w).map _ = _
        rw [all_built]
        rfl
      · cases single

/-- The route is not built exactly if one of the sinks cannot be, and then the first one is told. -/
theorem route_eq_error_iff {configs : List SinkSettings} {w : World} {fault : RouteFault} :
    route configs w = .error fault ↔
      ∃ before config after sinks now, configs = before ++ config :: after ∧
        Built 0 w before sinks now ∧ ofSettings before.length config now = .error fault ∧
        fault.sink = config.name := by
  have failed_iff : route configs w = .error fault ↔ allOfSettings 0 configs w = .error fault := by
    rcases configs with _ | ⟨config, _ | ⟨second, configs⟩⟩
    · exact iff_of_false (by rintro ⟨⟩) (by rintro ⟨⟩)
    · show ofSettings 0 config w = _ ↔ _
      cases first : ofSettings 0 config w with
      | error refusal => rw [allOfSettings_of_error first, Except.error.injEq, Except.error.injEq]
      | ok made =>
        rw [allOfSettings_of_ok first]
        exact iff_of_false (by rintro ⟨⟩) (by rintro ⟨⟩)
    · show (allOfSettings 0 _ w).map _ = _ ↔ _
      cases allOfSettings 0 (config :: second :: configs) w with
      | error refusal => rw [Except.map, Except.error.injEq, Except.error.injEq]
      | ok made => exact iff_of_false (by rintro ⟨⟩) (by rintro ⟨⟩)
  rw [failed_iff, allOfSettings_eq_error_iff]
  simp only [Nat.zero_add]
  refine exists_congr fun before => exists_congr fun config => exists_congr fun after =>
    exists_congr fun sinks => exists_congr fun now => ?_
  refine and_congr_right fun _ => and_congr_right fun _ => ?_
  exact ⟨fun failed => ⟨failed, sink_eq_of_ofSettings failed⟩, And.left⟩

/-- **A route delivers to every sink.**  Whatever the sinks do, and whatever world they share,
several of them as one give every batch to each of them once, in order and in the world that those
before it leave.  They succeed if all of them do, and fail otherwise as the first one that does.  To
what the sinks write to the journal themselves they add only which of them have failed, and so a
fan-out of a single sink does what the sink does.  The route of configured sinks that can all be
built is such a fan-out, or the sink if there is a single one, and if one of them cannot be built,
the first such is told. -/
theorem route_delivers :
    (∀ (σ : Type) (sinks : List (Sink σ)) (batch : Batch) (w : σ) (index : Nat),
      (inTurn batch sinks w).1[index]? = sinks[index]?.map fun sink =>
        (sink.persist batch (inTurn batch (sinks.take index) w).2).1) ∧
    (∀ (σ : Type) (name : String) (sinks : List (Sink σ)),
      (fanout name sinks).name = name ∧ (fanout name sinks).Serves sinks ∧
      ∀ batch w, ((fanout name sinks).persist batch w).1.events =
        notes sinks (inTurn batch sinks w).1) ∧
    (∀ (σ : Type) (name : String) (sink : Sink σ) (batch : Batch) (w : σ),
      (fanout name [sink]).persist batch w =
        ({ fault := (sink.persist batch w).1.fault
           events := (sink.persist batch w).1.events ++
             ((sink.persist batch w).1.fault.map (Delivery.warning sink.name)).toList },
          (sink.persist batch w).2)) ∧
    ∀ (configs : List SinkSettings) (w : World), configs ≠ [] →
      (∀ sinks now, Built 0 w configs sinks now →
        ∃ r, route configs w = .ok (r, now) ∧ r.Serves sinks ∧
          (∀ sink, sinks = [sink] → r = sink) ∧
          (1 < sinks.length → r = fanout "fanout" sinks)) ∧
      ∀ fault, route configs w = .error fault ↔
        ∃ before config after sinks now, configs = before ++ config :: after ∧
          Built 0 w before sinks now ∧ ofSettings before.length config now = .error fault ∧
          fault.sink = config.name :=
  ⟨fun _ sinks _ _ index => getElem?_inTurn sinks index,
    fun _ name sinks => ⟨rfl, serves_fanout name sinks, fun _ _ => events_fanout name sinks⟩,
    fun _ name sink _ _ => persist_fanout_singleton name sink,
    fun _ _ some_sinks => ⟨fun _ _ built => route_of_built some_sinks built,
      fun _ => route_eq_error_iff⟩⟩

/-- A network sink whose datagrams have no room for any record keeps no batch from the sink behind
it, and a third sink, which has no address to send to, keeps the route from being built. -/
theorem route_delivers_of_narrow :
    let narrow : SinkSettings := ⟨"narrow", .network,
      .ofList [("addr", "127.0.0.1:9"), ("format", "bincode"), ("max_packet_size", "1")]⟩
    let log : SinkSettings := ⟨"log", .journal, ∅⟩
    let lost : SinkSettings := ⟨"lost", .network, ∅⟩
    let target : Target := ⟨.v4 [127, 0, 0, 1] 9, .packed, 1⟩
    let sinks : List (Sink World) := [⟨"narrow", Datagram.persist "narrow" target⟩, journal "log"]
    let w : World := { today := ⟨1970, 1, 1⟩, barrier := fun _ => none }
    let batch : Batch := ⟨.runner, [{ taskClass := "ab", state := .success }]⟩
    [narrow, log] ≠ [] ∧ Built 0 w [narrow, log] sinks w ∧
    (∃ r, route [narrow, log] w = .ok (r, w) ∧
      (r.persist batch w).1.fault = some (Target.tooLong "narrow" 23 1) ∧
      batch.received "log" ∈ (r.persist batch w).1.events) ∧
    [narrow, log, lost] ≠ [] ∧
    ∃ fault, route [narrow, log, lost] w = .error fault ∧ fault.sink = "lost" := by
  intro narrow log lost target sinks w batch
  have first : ofSettings 0 narrow w = .ok (⟨"narrow", Datagram.persist "narrow" target⟩, w) := by
    have named : Target.ofParams narrow.params = .ok target := by cbv
    simp only [ofSettings, narrow, network] at named ⊢
    rw [named]
    rfl
  have built : Built 0 w [narrow, log] sinks w := .cons first (.cons rfl (.nil 2 w))
  have unnamed : ofSettings 2 lost w =
      .error ⟨"lost", (SinkFault.connection "lost" TargetFault.noAddress.message).message⟩ := by
    have none_named : Target.ofParams lost.params = .error .noAddress := by cbv
    simp only [ofSettings, lost, network] at none_named ⊢
    rw [none_named]
    rfl
  have full : Datagram.pack target "narrow" batch.records =
      .error (Target.tooLong "narrow" 23 1) := by cbv
  have taken : (inTurn batch sinks w).1 =
      [{ fault := some (Target.tooLong "narrow" 23 1) }, { events := [batch.received "log"] }] := by
    simp only [sinks, inTurn, Datagram.persist, full]
    rfl
  have all_sinks : [narrow, log] ≠ [] := List.cons_ne_nil _ _
  have too_many : [narrow, log, lost] ≠ [] := List.cons_ne_nil _ _
  obtain ⟨-, fans_out, -, routes⟩ := route_delivers
  obtain ⟨r, made, serves, -, several⟩ := (routes _ w all_sinks).1 sinks w built
  have failed := ((routes _ w too_many).2 _).2
    ⟨[narrow, log], lost, [], sinks, w, rfl, built, unnamed, rfl⟩
  refine ⟨all_sinks, built, ⟨r, made, ?_, ?_⟩, too_many, _, failed, rfl⟩
  · exact (serves.fault_iff batch w _).2 ⟨[], _, _, taken, List.forall_mem_nil _, rfl⟩
  · rw [several (by decide), (fans_out World "fanout" sinks).2.2, taken]
    exact List.mem_cons_of_mem _ List.mem_cons_self

end Sink

end TaskLedger
