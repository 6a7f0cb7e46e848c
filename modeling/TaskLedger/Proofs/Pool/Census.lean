import TaskLedger.Proofs.Pool.Settling

/-!
# What is seen of a crew

A `View` is all that can be seen of a crew that has settled: how many workers there are, which jobs
are held, which ended, and where the next job would go.  A schedule shows one after each call; a
shift shows one whenever it has settled.

* `Shift.Leads`: a shift comes from another by calls, each of which is made when the shift has
  settled after the one before;
* `Census`: what is true of every view: the numbers of workers and jobs, where the next job goes,
  and that every job is held or has ended;
* `Leads.view_eq`: shifts show exactly what schedules show, in whatever order workers move;
* `census_of_calls` puts this together.
-/

namespace TaskLedger

open scoped List

/-- What is seen of a crew that has settled: how many workers there are, how many of them wait, and
how many jobs have not ended; whether the crew takes on no more jobs; the jobs that are held, by
their numbers, the oldest one first; those that ended, in order, and whether they crashed; and where
the next job goes. -/
structure View where
  live : Nat
  idle : Nat
  busy : Nat
  closed : Bool
  held : List Nat
  ended : List (Nat × Bool)
  place : Submission
  deriving DecidableEq

/-- What a schedule shows. -/
def Schedule.view (limits : Limits) (s : Schedule) : View where
  live := s.crew.live
  idle := s.crew.idle
  busy := s.crew.busy
  closed := s.crew.closed
  held := s.crew.held
  ended := s.ended
  place := s.crew.place limits

/-- What a shift shows. -/
def Shift.view (limits : Limits) (s : Shift) : View where
  live := s.floor.live
  idle := s.floor.idle
  busy := s.floor.busy
  closed := s.floor.closed
  held := s.stuck
  ended := s.ended
  place := s.floor.place limits

/-- The shifts that calls lead to, each made when everything has settled after the one before. -/
inductive Shift.Leads (limits : Limits) (hasty : Bool) (s : Shift) : List Call → Shift → Prop where
  | stay : Leads limits hasty s [] s
  | call {calls : List Call} {t u : Shift} (call : Call) : Leads limits hasty s calls t →
      Works limits hasty (t.call limits call) u → u.Settled limits →
      Leads limits hasty s (calls ++ [call]) u

/-- What is true of a crew that has settled after calls.

* A worker waits or has a job, the jobs that have not ended are those that are held, and there are
  not too many workers.
* It is closed after the first call that closes it, and then nobody waits.
* The next job runs with the caller when the crew is closed or all workers there may be are busy; it
  is handed to a worker who waits, unless more workers are to stay; and in all other cases a worker
  is started.
* Every job of the calls is held or has ended, once, and only jobs that wait for their release are
  held. -/
structure Census (limits : Limits) (calls : List Call) (v : View) : Prop where
  live_eq : v.live = v.idle + v.busy
  busy_eq : v.busy = v.held.length
  live_le : v.live ≤ limits.most
  closed_iff : v.closed = true ↔ .close ∈ calls
  idle_of_closed : v.closed = true → v.idle = 0
  callerRan_iff : v.place = .callerRan ↔ v.closed = true ∨ v.busy = limits.most
  handedOff_iff : v.place = .handedOff ↔
    v.closed = false ∧ limits.least ≤ v.live ∧ v.busy < v.live
  spawned_iff : v.place = .spawned ↔ ¬ (v.closed = true ∨ v.busy = limits.most) ∧
    ¬ (v.closed = false ∧ limits.least ≤ v.live ∧ v.busy < v.live)
  jobs : v.held.map (·, false) ++ v.ended ~ (submitted calls).map Job.outcome
  once : ∀ n job, calls[n]? = some (.submit job) →
    v.held.count n + (v.ended.map (·.1)).count n = 1
  held_hold : ∀ n ∈ v.held, calls[n]? = some (.submit .hold)

/-- The same call with a job that does not crash. -/
def Call.mended : Call → Call
  | .submit .crash => .submit .run
  | call => call

/-- How many workers a call starts, given where the next job goes. -/
def Call.starts (place : Submission) : Call → Nat
  | .submit _ => if place = .spawned then 1 else 0
  | _ => 0

/-- What is true of two views of an open crew with calls between them.  The workers that are to stay
do so, once they are there.  Where workers soon lose their patience, those stay after a call who
have a job or are to stay. -/
structure Ongoing (limits : Limits) (v : View) (calls : List Call) (w : View) : Prop where
  kept : w.closed = false → limits.least ≤ v.live → limits.least ≤ w.live
  short : ∀ call, calls = [call] → limits.restless = true → w.closed = false →
    w.live = max w.busy (min (v.live + call.starts v.place) limits.least)

/-! ### What a call does -/

namespace Call

/-- Whether a call closes the crew. -/
def closes : Call → Bool
  | .close => true
  | _ => false

/-- The jobs that are held after a call, given its number. -/
def holds (place : Submission) (number : Nat) (held : List Nat) : Call → List Nat
  | .submit job => if job = .hold ∧ place ≠ .callerRan then held ++ [number] else held
  | .release index => held.eraseIdx index
  | _ => held

/-- The jobs that end with a call, given its number. -/
def ends (place : Submission) (number : Nat) (held : List Nat) : Call → List (Nat × Bool)
  | .submit job =>
    if job = .hold ∧ place ≠ .callerRan then [] else [Job.outcome (number, job)]
  | .release index => (held[index]?.map (·, false)).toList
  | _ => []

/-- A call loses no job. -/
theorem holds_ends_perm (place : Submission) (number : Nat) (held : List Nat) (call : Call) :
    (call.holds place number held).map (·, false) ++ call.ends place number held ~
      held.map (·, false) ++ (call.job?.map fun job => Job.outcome (number, job)).toList := by
  cases call with
  | submit job =>
    simp only [holds, ends, job?, Option.map_some, Option.toList_some]
    split
    · rename_i stays
      obtain ⟨rfl, -⟩ := stays
      rw [List.append_nil, List.map_append]
      exact List.Perm.refl _
    · exact List.Perm.refl _
  | release index =>
    simp only [holds, ends, job?, Option.map_none, Option.toList_none, List.append_nil]
    by_cases hi : index < held.length
    · rw [List.getElem?_eq_getElem hi]
      refine (List.perm_append_singleton _ _).trans ?_
      exact (List.getElem_cons_eraseIdx_perm hi).map (·, false)
    · rw [List.getElem?_eq_none (Nat.le_of_not_lt hi), List.eraseIdx_of_length_le
        (Nat.le_of_not_lt hi)]
      exact List.Perm.of_eq (List.append_nil _)
  | wait => exact List.Perm.refl _
  | close => exact List.Perm.refl _
  | look => exact List.Perm.refl _

theorem holds_mended (place : Submission) (number : Nat) (held : List Nat) (call : Call) :
    call.mended.holds place number held = call.holds place number held := by
  rcases call with ⟨⟨⟩⟩ | _ | _ | _ | _ <;> simp [mended, holds]

theorem starts_mended (place : Submission) (call : Call) :
    call.mended.starts place = call.starts place := by
  rcases call with ⟨⟨⟩⟩ | _ | _ | _ | _ <;> rfl

theorem closes_mended (call : Call) : call.mended.closes = call.closes := by
  rcases call with ⟨⟨⟩⟩ | _ | _ | _ | _ <;> rfl

/-- At most one job ends with a call. -/
theorem eq_ends_of_perm {place : Submission} {number : Nat} {held : List Nat} {call : Call}
    {new : List (Nat × Bool)} (h : new ~ call.ends place number held) :
    new = call.ends place number held := by
  cases call with
  | submit job =>
    simp only [ends] at h ⊢
    split at h
    · rename_i stays
      rw [if_pos stays]
      exact h.eq_nil
    · rename_i goes
      rw [if_neg goes]
      exact List.perm_singleton.1 h
  | release index =>
    simp only [ends] at h ⊢
    cases hj : held[index]? with
    | none =>
      rw [hj] at h
      exact h.eq_nil
    | some job =>
      rw [hj] at h
      exact List.perm_singleton.1 h
  | wait => exact h.eq_nil
  | close => exact h.eq_nil
  | look => exact h.eq_nil

end Call

/-! ### Schedules call by call -/

namespace Schedule

variable {limits : Limits} (s : Schedule) (call : Call)

theorem calls_step : (s.step limits call).2.calls = s.calls + 1 := rfl

/-- What a call leaves behind. -/
theorem crew_step : (s.step limits call).2.crew =
    { held := call.holds (s.crew.place limits) s.calls s.crew.held
      live := s.crew.live + call.starts (s.crew.place limits)
      closed := s.crew.closed || call.closes
      started := s.crew.started + call.starts (s.crew.place limits) : Crew Nat }.settle
        limits := by
  cases call with
  | submit job =>
    have still : (s.crew.closed || (Call.submit job).closes) = s.crew.closed := Bool.or_false _
    have stays : (if s.crew.place limits = .callerRan then s.crew.held
        else s.crew.held ++ (if job == .hold && s.crew.place limits != .callerRan
          then some s.calls else none).toList) =
        (Call.submit job).holds (s.crew.place limits) s.calls s.crew.held := by
      simp only [Call.holds]
      by_cases hp : s.crew.place limits = .callerRan
      · simp [hp]
      · by_cases hj : job = .hold <;> simp [hp, hj]
    rw [still, ← stays]
    exact Crew.submit_snd limits s.crew _
  | release index =>
    simp [step, perform, release, Crew.releaseAt, Call.closes, Call.holds, Call.starts]
  | wait => simp [step, perform, Call.closes, Call.holds, Call.starts]
  | close => simp [step, perform, Crew.close, Call.closes, Call.holds, Call.starts]
  | look => simp [step, perform, Call.closes, Call.holds, Call.starts]

theorem live_step : (s.step limits call).2.crew.live =
    if (s.step limits call).2.crew.closed then (s.step limits call).2.crew.busy
    else if limits.restless then
      max (s.step limits call).2.crew.busy
        (min (s.crew.live + call.starts (s.crew.place limits)) limits.least)
    else s.crew.live + call.starts (s.crew.place limits) := by
  rw [crew_step]
  rfl

theorem ended_step : (s.step limits call).2.ended =
    s.ended ++ call.ends (s.crew.place limits) s.calls s.crew.held := by
  cases call with
  | submit job =>
    simp only [step, perform, submit, Call.ends]
    by_cases stays : job = .hold ∧ s.crew.place limits ≠ .callerRan
    · rw [if_pos stays, if_pos (by simpa using stays), List.append_nil]
    · rw [if_neg stays, if_neg (by simpa using stays)]
      rfl
  | release index => rfl
  | wait => exact (List.append_nil _).symm
  | close => exact (List.append_nil _).symm
  | look => exact (List.append_nil _).symm

theorem run_append (calls more : List Call) :
    run limits s (calls ++ more) = run limits (run limits s calls) more := by
  induction calls generalizing s with
  | nil => rfl
  | cons call calls ih => exact ih _

theorem calls_run (calls : List Call) : (run limits s calls).calls = s.calls + calls.length := by
  induction calls generalizing s with
  | nil => rfl
  | cons call calls ih =>
    rw [run_cons, ih, calls_step, List.length_cons]
    omega

/-- A crash makes no difference to the crew. -/
theorem crew_run_mended (calls : List Call) {s t : Schedule} (crew : s.crew = t.crew)
    (counted : s.calls = t.calls) :
    (run limits s (calls.map Call.mended)).crew = (run limits t calls).crew := by
  induction calls generalizing s t with
  | nil => exact crew
  | cons call calls ih =>
    refine ih ?_ (by rw [calls_step, calls_step, counted])
    rw [crew_step, crew_step, Call.holds_mended, Call.starts_mended, Call.closes_mended, crew,
      counted]

end Schedule

/-! ### Shifts call by call -/

namespace Shift

variable {limits : Limits} {hasty : Bool} {calls : List Call} {s t u : Shift}

theorem stuck_call (s : Shift) (call : Call) : (s.call limits call).stuck =
    call.holds (s.floor.place limits) s.calls s.stuck := by
  cases call with
  | submit job =>
    simp only [Shift.call, perform, submit, Call.holds]
    by_cases hp : s.floor.place limits = .callerRan
    · rw [if_pos hp, if_neg fun stays => stays.2 hp]
    · rw [if_neg hp]
      simp only [hp, ne_eq, not_false_eq_true, and_true]
  | release index => rfl
  | wait => rfl
  | close => rfl
  | look => rfl

theorem live_call (s : Shift) (call : Call) : (s.call limits call).floor.live =
    s.floor.live + call.starts (s.floor.place limits) := by
  cases call with
  | submit job =>
    simp only [Shift.call, perform, submit, Call.starts]
    obtain ⟨hp, -, -, -, hs⟩ | ⟨hp, -, -, hs⟩ | ⟨hp, -⟩ :=
      Floor.submit_cases limits s.floor (s.calls, job)
    · simp [hp, hs]
    · simp [hp, hs]
    · simp [hp]
  | close =>
    simp only [Shift.call, perform, Floor.close, Call.starts]
    split <;> rfl
  | release index => rfl
  | wait => rfl
  | look => rfl

theorem closed_call (s : Shift) (call : Call) : (s.call limits call).floor.closed =
    (s.floor.closed || call.closes) := by
  cases call with
  | submit job =>
    simp only [Shift.call, perform, submit]
    obtain ⟨hp, -, -, -, hs⟩ | ⟨hp, -, -, hs⟩ | ⟨hp, -⟩ :=
      Floor.submit_cases limits s.floor (s.calls, job)
    · simp [hp, hs, Call.closes]
    · simp [hp, hs, Call.closes]
    · simp [hp, Call.closes]
  | close =>
    simp only [Shift.call, perform, Floor.close]
    split <;> simp [*, Call.closes]
  | release index => simp [Shift.call, perform, Call.closes]
  | wait => simp [Shift.call, perform, Call.closes]
  | look => simp [Shift.call, perform, Call.closes]

theorem ended_call (s : Shift) (call : Call) :
    ∃ new, (s.call limits call).ended = s.ended ++ new := by
  cases call with
  | submit job =>
    simp only [Shift.call, perform, submit]
    split
    · exact ⟨_, rfl⟩
    · exact ⟨[], (List.append_nil _).symm⟩
  | release index => exact ⟨[], (List.append_nil _).symm⟩
  | wait => exact ⟨[], (List.append_nil _).symm⟩
  | close => exact ⟨[], (List.append_nil _).symm⟩
  | look => exact ⟨[], (List.append_nil _).symm⟩

/-- Which jobs have ended when everything has settled after a call: no order of the workers makes a
difference. -/
theorem Works.ended_eq {call : Call} (hw : Works limits hasty (s.call limits call) t)
    (h : Sound limits calls s) (hs : s.Calm) (ht : t.Calm) :
    t.ended = s.ended ++ call.ends (s.floor.place limits) s.calls s.stuck := by
  obtain ⟨first, hf⟩ : ∃ first, (s.call limits call).ended = s.ended ++ first :=
    s.ended_call call
  obtain ⟨-, -, -, new, hn⟩ := hw.frame
  rw [hf, List.append_assoc] at hn
  have before := h.jobs_calm hs
  have after := ((h.call call).works hw).jobs_calm ht
  have one : (call.job?.map (calls.length, ·)).toList.map Job.outcome =
      (call.job?.map fun job => Job.outcome (s.calls, job)).toList := by
    rw [h.calls_eq]
    cases call.job? <;> rfl
  rw [hw.stuck_eq, stuck_call, hn, submitted_concat, List.map_append, one] at after
  have kept := call.holds_ends_perm (s.floor.place limits) s.calls s.stuck
  -- what was held and what had ended before the call cancels out
  have same : first ++ new ~ call.ends (s.floor.place limits) s.calls s.stuck := by
    rw [List.perm_iff_count] at before after kept ⊢
    intro job
    have before := before job
    have after := after job
    have kept := kept job
    simp only [List.count_append] at before after kept ⊢
    omega
  rw [hn, Call.eq_ends_of_perm same]

/-- Where the next job goes when nobody is on the way. -/
theorem Sound.place_eq (h : Sound limits calls s) (hs : s.Calm) : s.floor.place limits =
    if s.floor.closed then .callerRan
    else if limits.least ≤ s.floor.live ∧ 0 < s.floor.idle then .handedOff
    else if s.floor.live < limits.most then .spawned
    else .callerRan := by
  rw [Floor.place, h.queue_eq hs]
  rfl

/-- A shift shows what a schedule shows as soon as they agree on the number of workers, on whether
they are closed, and on the jobs. -/
theorem Sound.view_eq (h : Sound limits calls s) (hs : s.Calm) {c : Schedule}
    (live : s.floor.live = c.crew.live) (closed : s.floor.closed = c.crew.closed)
    (held : s.stuck = c.crew.held) (ended : s.ended = c.ended) :
    s.view limits = c.view limits := by
  have busy : s.floor.busy = c.crew.busy := by rw [h.busy_eq hs, held]; rfl
  have idle : s.floor.idle = c.crew.idle := by
    have all := h.live_eq hs
    rw [Crew.idle, ← live, ← busy, all, Nat.add_sub_cancel]
  have place : s.floor.place limits = c.crew.place limits := by
    rw [h.place_eq hs, live, closed, idle]
    rfl
  rw [Shift.view, Schedule.view, live, idle, busy, closed, held, ended, place]

/-- A shift that shows what a schedule shows does so after the next call. -/
theorem Works.view_eq {call : Call} {c : Schedule}
    (hw : Works limits limits.restless (s.call limits call) t) (h : Sound limits calls s)
    (hs : s.Calm) (ht : t.Settled limits) (counted : c.calls = calls.length)
    (hv : s.view limits = c.view limits) :
    t.view limits = (c.step limits call).2.view limits := by
  have after := (h.call call).works hw
  simp only [Shift.view, Schedule.view, View.mk.injEq] at hv
  obtain ⟨live, idle, busy, closed, held, ended, place⟩ := hv
  have number : s.calls = c.calls := h.calls_eq.trans counted.symm
  have held' : t.stuck = (c.step limits call).2.crew.held := by
    rw [hw.stuck_eq, stuck_call, place, number, held, Schedule.crew_step]
    rfl
  have closed' : t.floor.closed = (c.step limits call).2.crew.closed := by
    rw [hw.closed_eq, closed_call, closed, Schedule.crew_step]
    rfl
  have ended' : t.ended = (c.step limits call).2.ended := by
    rw [hw.ended_eq h hs ht.toCalm, place, number, held, ended, Schedule.ended_step]
  refine after.view_eq ht.toCalm ?_ closed' held' ended'
  have live_eq := after.live_eq ht.toCalm
  have busy_eq := after.busy_eq ht.toCalm
  -- only the number of workers depends on whether they lose their patience
  rw [Schedule.live_step, ← closed', Crew.busy, ← held', ← busy_eq]
  cases hc : t.floor.closed with
  | true =>
    rw [after.idle_of_closed ht.toCalm hc, Nat.zero_add] at live_eq
    exact live_eq
  | false =>
    have is_open : (s.call limits call).floor.closed = false := hw.closed_eq.symm.trans hc
    cases hp : limits.restless with
    | true =>
      rw [hw.live_of_short is_open after ht hp, live_call, live, place]
      rfl
    | false =>
      rw [(hw.live is_open).2.2 hp, live_call, live, place]
      rfl

/-! ### Whole courses -/

/-- A shift that settled after calls is sound, settled, and closed if one of the calls closed it. -/
theorem Leads.settled (hl : Leads limits hasty {} calls t) :
    Sound limits calls t ∧ t.Settled limits ∧ (t.floor.closed = true ↔ .close ∈ calls) := by
  induction hl with
  | stay => exact ⟨sound_empty limits, ⟨⟨rfl, rfl, rfl, rfl, nofun⟩, fun _ => Or.inl rfl⟩, by simp⟩
  | @call calls t u call before hw settled ih =>
    obtain ⟨sound, -, closed⟩ := ih
    refine ⟨(sound.call call).works hw, settled, ?_⟩
    have closes : call.closes = true ↔ .close = call := by cases call <;> simp [Call.closes]
    rw [hw.closed_eq, closed_call, Bool.or_eq_true, closed, closes, List.mem_append,
      List.mem_singleton]

/-- Where the next job goes, told by the counters of a calm shift. -/
theorem Sound.place_iff (h : Sound limits calls s) (hs : s.Calm) :
    (s.floor.place limits = .callerRan ↔ s.floor.closed = true ∨ s.floor.busy = limits.most) ∧
    (s.floor.place limits = .handedOff ↔
      s.floor.closed = false ∧ limits.least ≤ s.floor.live ∧ s.floor.busy < s.floor.live) := by
  have live_eq := h.live_eq hs
  have live_le := h.floor.live_le
  have least_le := limits.least_le_most
  rw [h.place_eq hs]
  cases s.floor.closed with
  | true => simp
  | false =>
    by_cases free : limits.least ≤ s.floor.live ∧ 0 < s.floor.idle
    · simp [free]
      omega
    · by_cases room : s.floor.live < limits.most
      · simp [free, room]
        omega
      · simp [free, room]
        omega

theorem Sound.place_eq_spawned_iff (h : Sound limits calls s) (hs : s.Calm) :
    s.floor.place limits = .spawned ↔
      s.floor.place limits ≠ .callerRan ∧ s.floor.place limits ≠ .handedOff := by
  rw [h.place_eq hs]
  split
  · simp
  · split
    · simp
    · split <;> simp

/-- A settled shift tells the truth about everything. -/
theorem Leads.census (hl : Leads limits hasty {} calls t) :
    Census limits calls (t.view limits) := by
  obtain ⟨sound, settled, closed⟩ := hl.settled
  have calm := settled.toCalm
  obtain ⟨callerRan, handedOff⟩ := sound.place_iff calm
  have jobs := sound.jobs_calm calm
  refine
    { live_eq := sound.live_eq calm
      busy_eq := sound.busy_eq calm
      live_le := sound.floor.live_le
      closed_iff := closed
      idle_of_closed := sound.idle_of_closed calm
      callerRan_iff := callerRan
      handedOff_iff := handedOff
      spawned_iff := ?_
      jobs
      once := ?_
      held_hold := ?_ }
  · refine (sound.place_eq_spawned_iff calm).trans ?_
    exact and_congr (not_congr callerRan) (not_congr handedOff)
  · intro n job submits
    have numbers : t.stuck ++ t.ended.map (·.1) ~ (submitted calls).map (·.1) := by
      simpa only [List.map_append, List.map_map, Function.comp_def, Job.outcome, List.map_id']
        using jobs.map (·.1)
    have there : n ∈ (submitted calls).map (·.1) :=
      List.mem_map_of_mem (f := Prod.fst) (mem_submitted.2 submits)
    rw [Shift.view, ← List.count_append, numbers.count_eq]
    exact List.count_eq_one_of_mem (nodup_submitted calls) there
  · intro n hn
    exact mem_submitted.1 (sound.known (sound.stuck_jobs n hn))

theorem Leads.eq_of_nil (hl : Leads limits hasty s calls t) (nothing : calls = []) : t = s := by
  cases hl with
  | stay => rfl
  | call call => exact absurd nothing (List.append_ne_nil_of_right_ne_nil _ (List.cons_ne_nil _ _))

theorem Leads.of_singleton {call : Call} (hl : Leads limits hasty s [call] t) :
    Works limits hasty (s.call limits call) t ∧ t.Settled limits := by
  generalize he : [call] = calls at hl
  cases hl with
  | stay => cases he
  | @call first _ _ last before hw settled =>
    obtain ⟨nothing, one⟩ := List.append_inj' (show [] ++ [call] = first ++ [last] from he) rfl
    rw [before.eq_of_nil nothing.symm, ← List.singleton_inj.1 one] at hw
    exact ⟨hw, settled⟩

theorem Leads.trans {more : List Call} (hl : Leads limits hasty s calls t)
    (hm : Leads limits hasty t more u) : Leads limits hasty s (calls ++ more) u := by
  induction hm with
  | stay => exact (List.append_nil calls).symm ▸ hl
  | call call _ hw settled ih =>
    rw [← List.append_assoc]
    exact .call call ih hw settled

/-- Calls can always be made, and everything settles after each. -/
theorem exists_leads (h : Sound limits calls s) (may : limits.restless = true → hasty = true)
    (more : List Call) : ∃ t, Leads limits hasty s more t ∧ Sound limits (calls ++ more) t := by
  induction more using List.reverseRecOn with
  | nil => exact ⟨s, .stay, (List.append_nil calls).symm ▸ h⟩
  | append_singleton more call ih =>
    obtain ⟨t, hl, sound⟩ := ih
    obtain ⟨u, hw, settled⟩ := exists_settled (sound.call call) may
    refine ⟨u, .call call hl hw settled, ?_⟩
    rw [← List.append_assoc]
    exact (sound.call call).works hw

/-- In whatever order workers move, a shift shows what the schedule shows. -/
theorem Leads.view_eq (hl : Leads limits limits.restless {} calls t) :
    t.view limits = (Schedule.run limits {} calls).view limits := by
  generalize hh : limits.restless = hasty at hl
  induction hl with
  | stay => rfl
  | @call calls t u call before hw settled ih =>
    obtain ⟨sound, calm, -⟩ := before.settled
    have counted : (Schedule.run limits {} calls).calls = calls.length := by
      rw [Schedule.calls_run]
      exact Nat.zero_add _
    rw [Schedule.run_append]
    exact (hh ▸ hw).view_eq sound calm.toCalm settled counted ih

/-- The workers that are to stay do so, once they are there. -/
theorem Leads.least_le (hl : Leads limits hasty s calls t) (is_open : t.floor.closed = false)
    (reached : limits.least ≤ s.floor.live) : limits.least ≤ t.floor.live := by
  induction hl with
  | stay => exact reached
  | @call calls t u call before hw settled ih =>
    rw [hw.closed_eq] at is_open
    have low := (hw.live is_open).1
    rw [closed_call, Bool.or_eq_false_iff] at is_open
    have before_le := ih is_open.1
    rw [live_call] at low
    omega

theorem Leads.ongoing {more : List Call} (hl : Leads limits hasty {} calls s)
    (hm : Leads limits hasty s more t) : Ongoing limits (s.view limits) more (t.view limits) where
  kept is_open reached := hm.least_le is_open reached
  short := by
    rintro call rfl short is_open
    obtain ⟨sound, -, -⟩ := (hl.trans hm).settled
    obtain ⟨hw, settled⟩ := hm.of_singleton
    have was_open : (s.call limits call).floor.closed = false := hw.closed_eq.symm.trans is_open
    have live_eq := hw.live_of_short was_open sound settled short
    rw [live_call] at live_eq
    exact live_eq

end Shift

/-- Whatever calls are made, a crew that has settled after each of them tells the truth about its
workers and jobs: no job is left in the queue, the workers run exactly those that are held, and all
others have ended, once.  This holds in whatever order workers move at the grain of their lock; a
crew can always settle, and then shows what the schedule shows.  A crash makes no difference to the
crew.  It is taken that a worker can be started whenever one is to be. -/
theorem census_of_calls (limits : Limits) (calls more : List Call) :
    (∀ hasty, (limits.restless = true → hasty = true) →
      ∃ t, Shift.Leads limits hasty {} calls t) ∧
    (∀ hasty t u, Shift.Leads limits hasty {} calls t → Shift.Leads limits hasty t more u →
      t.floor.queue = [] ∧ t.floor.running ~ t.stuck.map (·, .hold) ∧
      Census limits calls (t.view limits) ∧ Ongoing limits (t.view limits) more (u.view limits)) ∧
    (∀ t, Shift.Leads limits limits.restless {} calls t →
      t.view limits = (Schedule.run limits {} calls).view limits) ∧
    Census limits calls ((Schedule.run limits {} calls).view limits) ∧
    Ongoing limits ((Schedule.run limits {} calls).view limits) more
      ((Schedule.run limits {} (calls ++ more)).view limits) ∧
    (∀ job, ((Schedule.run limits {} calls).step limits (.submit job)).1 =
      .submitted ((Schedule.run limits {} calls).view limits).place
        ((Schedule.run limits {} calls).crew.nextThread limits)) ∧
    (Schedule.run limits {} (calls.map Call.mended)).crew =
      (Schedule.run limits {} calls).crew := by
  obtain ⟨t, ht, sound⟩ := Shift.exists_leads (Shift.sound_empty limits) (fun short => short) calls
  obtain ⟨u, hu, -⟩ := Shift.exists_leads sound (fun short => short) more
  refine ⟨?_, ?_, fun t ht => ht.view_eq, ?_, ?_, ?_, ?_⟩
  · intro hasty may
    obtain ⟨t, ht, -⟩ := Shift.exists_leads (Shift.sound_empty limits) may calls
    exact ⟨t, ht⟩
  · intro hasty t u ht hu
    obtain ⟨sound, settled, -⟩ := ht.settled
    have calm := settled.toCalm
    exact ⟨sound.queue_eq calm, sound.running_perm calm, ht.census, ht.ongoing hu⟩
  · exact ht.view_eq ▸ ht.census
  · rw [← ht.view_eq, ← (ht.trans hu).view_eq]
    exact ht.ongoing hu
  · intro job
    simp only [Schedule.step, Schedule.perform, Schedule.submit, Crew.submit_fst]
    rfl
  · exact Schedule.crew_run_mended calls rfl rfl

end TaskLedger
