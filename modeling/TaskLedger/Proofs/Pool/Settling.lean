import Mathlib
import TaskLedger.Pool.Schedule
import TaskLedger.Proofs.Pool.Soundness

/-!
# Crews that are left to settle

A `Shift` is a floor on which numbered jobs are done.  Calls come one at a time; between two of
them workers and notifications move in any order until everything has settled.

* `Shift.call` is what a call does with the lock, `Shift.work` a step of a worker or a notification;
* `Shift.Works` leads from a shift to those that any number of such steps lead to;
* `Shift.Settled` says that nobody has anything left to do: the jobs that have not ended wait for
  their release, and where workers lose their patience soon, those who are not needed have left.

No job is in the queue of a settled shift, and its workers hold exactly the jobs that are not
released (`Sound.queue_eq`, `Sound.running_perm`).  While it settles no job is lost or done twice
(`Sound.works`), and the number of workers only falls, never below those that stay (`Works.live`).
-/

namespace TaskLedger

open scoped List

/-- The job that a call submits. -/
def Call.job? : Call → Option Job
  | .submit job => some job
  | _ => none

/-- The jobs that calls submit, each with the number of its call. -/
def submitted (calls : List Call) : List (Nat × Job) :=
  calls.zipIdx.filterMap fun call => call.1.job?.map (call.2, ·)

/-- The number of a job, and whether it crashes. -/
def Job.outcome (job : Nat × Job) : Nat × Bool :=
  (job.1, job.2 == .crash)

theorem submitted_concat (calls : List Call) (call : Call) :
    submitted (calls ++ [call]) = submitted calls ++ (call.job?.map (calls.length, ·)).toList := by
  simp only [submitted, List.zipIdx_append, List.filterMap_append, Nat.zero_add, List.zipIdx_cons,
    List.zipIdx_nil]
  cases hj : call.job? <;> simp [hj]

theorem mem_submitted {calls : List Call} {n : Nat} {job : Job} :
    (n, job) ∈ submitted calls ↔ calls[n]? = some (.submit job) := by
  have job?_iff : ∀ call : Call, call.job? = some job ↔ call = .submit job := by
    intro call
    cases call <;> simp [Call.job?]
  simp only [submitted, List.mem_filterMap, Prod.exists, List.mk_mem_zipIdx_iff_getElem?,
    Option.map_eq_some_iff, Prod.mk.injEq]
  constructor
  · rintro ⟨call, i, hc, job', hj, rfl, rfl⟩
    rw [hc, (job?_iff call).1 hj]
  · exact fun h => ⟨_, n, h, job, rfl, rfl, rfl⟩

theorem lt_of_mem_submitted {calls : List Call} {job : Nat × Job} (h : job ∈ submitted calls) :
    job.1 < calls.length :=
  (List.getElem?_eq_some_iff.1 (mem_submitted.1 h)).1

/-- No two jobs have the same number. -/
theorem nodup_submitted (calls : List Call) : ((submitted calls).map (·.1)).Nodup := by
  induction calls using List.reverseRecOn with
  | nil => exact List.nodup_nil
  | append_singleton calls call ih =>
    rw [submitted_concat, List.map_append]
    cases call.job? with
    | none => simpa using ih
    | some job =>
      refine List.nodup_append.2 ⟨ih, List.nodup_singleton _, ?_⟩
      intro n hn m hm
      obtain ⟨early, he, rfl⟩ := List.mem_map.1 hn
      rw [List.mem_singleton.1 hm]
      exact Nat.ne_of_lt (lt_of_mem_submitted he)

/-- A floor on which numbered jobs are done, and what became of them.  A job comes with the number
of the call that submitted it; those that wait for their release are `stuck`, the oldest one first,
and those that ended are in order, each with whether it crashed. -/
structure Shift where
  floor : Floor (Nat × Job) := {}
  stuck : List Nat := []
  calls : Nat := 0
  ended : List (Nat × Bool) := []

namespace Shift

/-- Submits the job of the next call.  With the caller it ends at once. -/
def submit (limits : Limits) (s : Shift) (job : Job) : Shift :=
  if s.floor.place limits = .callerRan then
    { s with ended := s.ended ++ [Job.outcome (s.calls, job)] }
  else
    { s with
      floor := s.floor.submit limits (s.calls, job)
      stuck := if job = .hold then s.stuck ++ [s.calls] else s.stuck }

/-- What a call does with the lock, apart from being counted. -/
def perform (limits : Limits) (s : Shift) : Call → Shift
  | .submit job => s.submit limits job
  | .release index => { s with stuck := s.stuck.eraseIdx index }
  | .close => { s with floor := s.floor.close }
  | .wait | .look => s

/-- What a call does with the lock. -/
def call (limits : Limits) (s : Shift) (call : Call) : Shift :=
  { s.perform limits call with calls := s.calls + 1 }

/-- A step of a worker or a notification, if it can be made.  A job that waits for its release does
not end, and workers lose their patience only if they are hasty. -/
def work (limits : Limits) (hasty : Bool) (s : Shift) (move : Move (Nat × Job)) : Option Shift :=
  if move.isWork && (hasty || !move.isLate) &&
      (s.floor.ending? move).all (fun job => job.1 ∉ s.stuck) then
    (s.floor.step limits move).map fun floor =>
      { s with floor, ended := s.ended ++ ((s.floor.ending? move).map Job.outcome).toList }
  else none

/-- The shifts that steps of workers and notifications lead to. -/
inductive Works (limits : Limits) (hasty : Bool) (s : Shift) : Shift → Prop where
  | rest : Works limits hasty s s
  | move {t u : Shift} (move : Move (Nat × Job)) :
      Works limits hasty s t → t.work limits hasty move = some u → Works limits hasty s u

/-- Nobody is on the way, neither a worker nor a notification, and every job that has not ended
waits for its release. -/
structure Calm (s : Shift) : Prop where
  starting_eq : s.floor.starting = 0
  roused_eq : s.floor.roused = 0
  calls_eq : s.floor.calls = 0
  alarms_eq : s.floor.alarms = 0
  running_stuck : ∀ job ∈ s.floor.running, job.1 ∈ s.stuck

/-- Everything has settled, and workers who are not needed and soon lose their patience have
left. -/
structure Settled (limits : Limits) (s : Shift) : Prop extends Calm s where
  patient : limits.restless = true → s.floor.parked = 0 ∨ s.floor.live ≤ limits.least

/-! ### No job is lost -/

/-- The counters of the floor tell the truth, every job that the calls submitted is on the floor or
has ended, no other job is, and the jobs that wait for their release are on the floor. -/
structure Sound (limits : Limits) (calls : List Call) (s : Shift) : Prop where
  floor : s.floor.Sound limits 0
  calls_eq : s.calls = calls.length
  jobs : s.floor.jobs.map Job.outcome ++ s.ended ~ (submitted calls).map Job.outcome
  known : s.floor.jobs ⊆ submitted calls
  stuck_nodup : s.stuck.Nodup
  stuck_jobs : ∀ n ∈ s.stuck, (n, .hold) ∈ s.floor.jobs

variable {limits : Limits} {hasty : Bool} {calls : List Call} {s t : Shift}

theorem sound_empty (limits : Limits) : Sound limits [] {} where
  floor := Floor.sound_empty limits
  calls_eq := rfl
  jobs := List.Perm.refl _
  known := List.nil_subset _
  stuck_nodup := List.nodup_nil
  stuck_jobs := nofun

theorem Sound.lt_of_mem_stuck (h : Sound limits calls s) {n : Nat} (hn : n ∈ s.stuck) :
    n < calls.length :=
  lt_of_mem_submitted (h.known (h.stuck_jobs n hn))

theorem Sound.submitted_eq (h : Sound limits calls s) (job : Job) :
    submitted (calls ++ [.submit job]) = submitted calls ++ [(s.calls, job)] := by
  rw [submitted_concat, h.calls_eq]
  rfl

theorem Sound.counted (h : Sound limits calls s) (call : Call) :
    s.calls + 1 = (calls ++ [call]).length := by
  rw [h.calls_eq, List.length_append, List.length_singleton]

/-- A job that runs with the caller has ended. -/
theorem Sound.end_here (h : Sound limits calls s) (job : Job) :
    Sound limits (calls ++ [.submit job]) { s with
      calls := s.calls + 1, ended := s.ended ++ [Job.outcome (s.calls, job)] } := by
  refine ⟨h.floor, h.counted _, ?_, ?_, h.stuck_nodup, h.stuck_jobs⟩
  · rw [h.submitted_eq, List.map_append, ← List.append_assoc]
    exact h.jobs.append_right _
  · rw [h.submitted_eq]
    exact List.subset_append_of_subset_left _ h.known

/-- Any other job is on the floor, and waits for its release if it holds. -/
theorem Sound.take_on (h : Sound limits calls s) (job : Job)
    (there : s.floor.place limits ≠ .callerRan) :
    Sound limits (calls ++ [.submit job]) { s with
      floor := s.floor.submit limits (s.calls, job)
      stuck := if job = .hold then s.stuck ++ [s.calls] else s.stuck
      calls := s.calls + 1 } := by
  have jobs_perm := Floor.jobs_submit there (s.calls, job)
  have stays : ∀ n ∈ s.stuck, (n, .hold) ∈ (s.floor.submit limits (s.calls, job)).jobs :=
    fun n hn => jobs_perm.symm.subset (List.mem_cons_of_mem _ (h.stuck_jobs n hn))
  refine ⟨h.floor.submit _, h.counted _, ?_, ?_, ?_, ?_⟩
  · rw [h.submitted_eq, List.map_append]
    refine ((jobs_perm.map _).append_right _).trans ?_
    exact (h.jobs.cons _).trans (List.perm_append_singleton _ _).symm
  · intro other ho
    rw [h.submitted_eq]
    rcases List.mem_cons.1 (jobs_perm.subset ho) with rfl | old
    · exact List.mem_concat_self
    · exact List.mem_append_left _ (h.known old)
  · split
    · refine List.nodup_append.2 ⟨h.stuck_nodup, List.nodup_singleton _, ?_⟩
      intro n hn m hm
      rw [List.mem_singleton.1 hm, h.calls_eq]
      exact Nat.ne_of_lt (h.lt_of_mem_stuck hn)
    · exact h.stuck_nodup
  · intro n hn
    split at hn
    · rename_i hold
      rcases List.mem_append.1 hn with old | new
      · exact stays n old
      · rw [List.mem_singleton.1 new, ← hold]
        exact jobs_perm.symm.subset List.mem_cons_self
    · exact stays n hn

theorem Sound.submit (h : Sound limits calls s) (job : Job) :
    Sound limits (calls ++ [.submit job]) (s.call limits (.submit job)) := by
  by_cases there : s.floor.place limits = .callerRan
  · simp only [Shift.call, perform, Shift.submit, if_pos there]
    exact h.end_here job
  · simp only [Shift.call, perform, Shift.submit, if_neg there]
    exact h.take_on job there

/-- A call loses no job. -/
theorem Sound.call (h : Sound limits calls s) (call : Call) :
    Sound limits (calls ++ [call]) (s.call limits call) := by
  have counted := h.counted call
  have no_more : call.job? = none → submitted (calls ++ [call]) = submitted calls := by
    intro hj
    rw [submitted_concat, hj]
    exact List.append_nil _
  cases call with
  | submit job => exact h.submit job
  | release index =>
    refine ⟨h.floor, counted, no_more rfl ▸ h.jobs, no_more rfl ▸ h.known,
      h.stuck_nodup.eraseIdx index, ?_⟩
    exact fun n hn => h.stuck_jobs n (List.mem_of_mem_eraseIdx hn)
  | close =>
    have same : s.floor.close.jobs = s.floor.jobs := by
      unfold Floor.close
      split <;> rfl
    refine ⟨h.floor.close, counted, ?_, ?_, h.stuck_nodup, ?_⟩
    · rw [no_more rfl]
      exact same ▸ h.jobs
    · rw [no_more rfl]
      exact same ▸ h.known
    · exact fun n hn => same ▸ h.stuck_jobs n hn
  | wait =>
    exact ⟨h.floor, counted, no_more rfl ▸ h.jobs, no_more rfl ▸ h.known, h.stuck_nodup,
      h.stuck_jobs⟩
  | look =>
    exact ⟨h.floor, counted, no_more rfl ▸ h.jobs, no_more rfl ▸ h.known, h.stuck_nodup,
      h.stuck_jobs⟩

/-- What it takes to make a step of a worker, and what the step does. -/
theorem work_eq_some {move : Move (Nat × Job)} (hw : s.work limits hasty move = some t) :
    move.isWork = true ∧ (move.isLate = true → hasty = true) ∧
      (∀ job, s.floor.ending? move = some job → job.1 ∉ s.stuck) ∧
      ∃ floor, s.floor.step limits move = some floor ∧ t = { s with
        floor, ended := s.ended ++ ((s.floor.ending? move).map Job.outcome).toList } := by
  unfold work at hw
  split at hw
  · rename_i can
    simp only [Bool.and_eq_true, Bool.or_eq_true, Bool.not_eq_true', Option.all_eq_true,
      decide_eq_true_eq] at can
    obtain ⟨floor, hs, rfl⟩ := Option.map_eq_some_iff.1 hw
    refine ⟨can.1.1, fun late => ?_, can.2, floor, hs, rfl⟩
    exact can.1.2.resolve_right (by rw [late]; exact Bool.noConfusion)
  · cases hw

theorem work_of_step {move : Move (Nat × Job)} {floor : Floor (Nat × Job)}
    (hm : move.isWork = true) (late : move.isLate = true → hasty = true)
    (free : ∀ job, s.floor.ending? move = some job → job.1 ∉ s.stuck)
    (hs : s.floor.step limits move = some floor) :
    s.work limits hasty move = some { s with
      floor, ended := s.ended ++ ((s.floor.ending? move).map Job.outcome).toList } := by
  have can : (move.isWork && (hasty || !move.isLate) &&
      (s.floor.ending? move).all (fun job => job.1 ∉ s.stuck)) = true := by
    simp only [Bool.and_eq_true, Bool.or_eq_true, Bool.not_eq_true', Option.all_eq_true,
      decide_eq_true_eq]
    refine ⟨⟨hm, ?_⟩, free⟩
    cases hl : move.isLate with
    | true => exact Or.inl (late hl)
    | false => exact Or.inr rfl
  rw [Shift.work, if_pos can, hs]
  rfl

/-- A step with which no job ends. -/
theorem work_of_quiet_step {move : Move (Nat × Job)} {floor : Floor (Nat × Job)}
    (hm : move.isWork = true) (late : move.isLate = true → hasty = true)
    (quiet : s.floor.ending? move = none) (hs : s.floor.step limits move = some floor) :
    s.work limits hasty move = some { s with floor } := by
  have free : ∀ job, s.floor.ending? move = some job → job.1 ∉ s.stuck := by
    intro job ends
    rw [quiet] at ends
    cases ends
  rw [work_of_step hm late free hs, quiet, Option.map_none, Option.toList_none, List.append_nil]

/-- A step of a worker loses no job. -/
theorem Sound.work {move : Move (Nat × Job)} (h : Sound limits calls s)
    (hw : s.work limits hasty move = some t) : Sound limits calls t := by
  obtain ⟨hm, -, free, floor, hs, rfl⟩ := work_eq_some hw
  have jobs_perm := Floor.jobs_work hm hs
  -- a job that ends is no longer on the floor, but among those that ended
  refine ⟨h.floor.work hm hs, h.calls_eq, ?_, ?_, h.stuck_nodup, ?_⟩
  · refine List.Perm.trans ?_ h.jobs
    refine List.Perm.trans ?_ ((jobs_perm.map _).append_right _)
    cases s.floor.ending? move with
    | none => simp
    | some job =>
      simp only [Option.map_some, Option.toList_some, List.map_append, List.map_singleton]
      rw [← List.append_assoc]
      exact List.perm_append_singleton _ _
  · exact fun job hj => h.known (jobs_perm.subset (List.mem_append_right _ hj))
  · intro n hn
    have on_floor := jobs_perm.symm.subset (h.stuck_jobs n hn)
    rcases List.mem_append.1 on_floor with ends | stays
    · exact absurd hn (free _ (Option.mem_toList.1 ends))
    · exact stays

theorem Sound.works (h : Sound limits calls s) (hw : Works limits hasty s t) :
    Sound limits calls t := by
  induction hw with
  | rest => exact h
  | move move _ hm ih => exact ih.work hm

/-! ### What is seen of a calm shift -/

/-- The numbers of the jobs on the floor and of those that ended are those of the calls. -/
theorem Sound.numbers (h : Sound limits calls s) :
    s.floor.jobs.map (·.1) ++ s.ended.map (·.1) ~ (submitted calls).map (·.1) := by
  have numbers := h.jobs.map (·.1)
  rw [List.map_append, List.map_map, List.map_map] at numbers
  exact numbers

/-- No job is left in the queue. -/
theorem Sound.queue_eq (h : Sound limits calls s) (hc : s.Calm) : s.floor.queue = [] := by
  have awaited := h.floor.awaited
  rw [hc.starting_eq, hc.roused_eq, hc.calls_eq] at awaited
  exact List.eq_nil_of_length_eq_zero (Nat.le_zero.1 awaited)

/-- The workers hold exactly the jobs that wait for their release. -/
theorem Sound.running_perm (h : Sound limits calls s) (hc : s.Calm) :
    s.floor.running ~ s.stuck.map (·, .hold) := by
  have jobs_eq : s.floor.jobs = s.floor.running := by rw [Floor.jobs, h.queue_eq hc]; rfl
  have numbers : (s.floor.running.map (·.1)).Nodup := by
    have all := h.numbers.nodup_iff.2 (nodup_submitted calls)
    rw [jobs_eq] at all
    exact all.of_append_left
  have waiting : (s.stuck.map (·, Job.hold)).Nodup :=
    h.stuck_nodup.map fun _ _ he => congrArg Prod.fst he
  have held : s.stuck.map (·, Job.hold) ⊆ s.floor.running := by
    intro job hj
    obtain ⟨n, hn, rfl⟩ := List.mem_map.1 hj
    exact jobs_eq ▸ h.stuck_jobs n hn
  -- there are no more workers than jobs that wait, since every number is there once
  have few : s.floor.running.length ≤ (s.stuck.map (·, Job.hold)).length := by
    have sub : s.floor.running.map (·.1) ⊆ s.stuck := by
      intro n hn
      obtain ⟨job, hj, rfl⟩ := List.mem_map.1 hn
      exact hc.running_stuck job hj
    simpa only [List.length_map] using (List.subperm_of_subset numbers sub).length_le
  exact ((List.subperm_of_subset waiting held).perm_of_length_le few).symm

theorem Sound.busy_eq (h : Sound limits calls s) (hc : s.Calm) :
    s.floor.busy = s.stuck.length := by
  rw [h.floor.busy_eq, h.queue_eq hc, (h.running_perm hc).length_eq, List.length_map,
    List.length_nil, Nat.zero_add]

theorem Sound.live_eq (h : Sound limits calls s) (hc : s.Calm) :
    s.floor.live = s.floor.idle + s.floor.busy := by
  rw [h.floor.live_eq, h.floor.idle_eq, h.floor.busy_eq, h.queue_eq hc, hc.starting_eq,
    List.length_nil]
  omega

theorem Sound.idle_eq (h : Sound limits calls s) (hc : s.Calm) : s.floor.idle = s.floor.parked := by
  rw [h.floor.idle_eq, hc.roused_eq]
  rfl

/-- Nobody waits when the crew is closed. -/
theorem Sound.idle_of_closed (h : Sound limits calls s) (hc : s.Calm)
    (closed : s.floor.closed = true) : s.floor.idle = 0 := by
  rw [h.idle_eq hc]
  exact h.floor.parked_of_closed closed hc.alarms_eq

/-- Every job waits for its release or has ended, once. -/
theorem Sound.jobs_calm (h : Sound limits calls s) (hc : s.Calm) :
    s.stuck.map (·, false) ++ s.ended ~ (submitted calls).map Job.outcome := by
  have jobs_eq : s.floor.jobs = s.floor.running := by rw [Floor.jobs, h.queue_eq hc]; rfl
  have held : s.floor.jobs.map Job.outcome ~ s.stuck.map (·, false) := by
    have held := (h.running_perm hc).map Job.outcome
    rw [List.map_map] at held
    exact jobs_eq ▸ held
  exact (held.symm.append_right _).trans h.jobs

/-! ### What a shift keeps while it settles -/

/-- Workers leave alone which jobs wait, how many calls were made, and whether the crew is closed;
what ended before has ended. -/
theorem Works.frame (hw : Works limits hasty s t) :
    t.stuck = s.stuck ∧ t.calls = s.calls ∧ t.floor.closed = s.floor.closed ∧
      ∃ new, t.ended = s.ended ++ new := by
  induction hw with
  | rest => exact ⟨rfl, rfl, rfl, [], (List.append_nil _).symm⟩
  | move move _ hm ih =>
    obtain ⟨works, -, -, floor, hs, rfl⟩ := work_eq_some hm
    obtain ⟨stuck, counted, closed, new, ended⟩ := ih
    refine ⟨stuck, counted, (Floor.closed_work works hs).trans closed, ?_⟩
    exact ⟨_, by rw [ended, List.append_assoc]⟩

theorem Works.stuck_eq (hw : Works limits hasty s t) : t.stuck = s.stuck :=
  hw.frame.1

theorem Works.closed_eq (hw : Works limits hasty s t) : t.floor.closed = s.floor.closed :=
  hw.frame.2.2.1

/-- Workers leave an open crew only while more than those that stay are there, and only when they
lose their patience. -/
theorem Works.live (hw : Works limits hasty s t) (is_open : s.floor.closed = false) :
    min s.floor.live limits.least ≤ t.floor.live ∧ t.floor.live ≤ s.floor.live ∧
      (hasty = false → t.floor.live = s.floor.live) := by
  induction hw with
  | rest => exact ⟨Nat.min_le_left _ _, Nat.le_refl _, fun _ => rfl⟩
  | @move t u move before hm ih =>
    have still_open : t.floor.closed = false := before.closed_eq.trans is_open
    obtain ⟨works, late, -, floor, hs, rfl⟩ := work_eq_some hm
    obtain ⟨low, high, same⟩ := ih
    rcases Floor.live_work works hs with stays | ⟨leaves, closed | ⟨lost, many⟩⟩
    · simp only [stays]
      exact ⟨low, high, same⟩
    · rw [still_open] at closed
      cases closed
    · simp only [leaves]
      refine ⟨by omega, by omega, fun calm => ?_⟩
      rw [late lost] at calm
      cases calm

/-- How many workers there are when everybody who soon loses his patience and is not needed has
left. -/
theorem Works.live_of_short (hw : Works limits hasty s t) (is_open : s.floor.closed = false)
    (h : Sound limits calls t) (ht : t.Settled limits) (short : limits.restless = true) :
    t.floor.live = max t.floor.busy (min s.floor.live limits.least) := by
  obtain ⟨low, high, -⟩ := hw.live is_open
  have live_eq := h.live_eq ht.toCalm
  have idle_eq := h.idle_eq ht.toCalm
  rcases ht.patient short with nobody | few
  · omega
  · omega

/-! ### Every shift settles -/

theorem Works.trans {u : Shift} (hw : Works limits hasty s t) (hu : Works limits hasty t u) :
    Works limits hasty s u := by
  induction hu with
  | rest => exact hw
  | move move _ hm ih => exact .move move ih hm

theorem Works.head {u : Shift} {move : Move (Nat × Job)} (hm : s.work limits hasty move = some t)
    (hw : Works limits hasty t u) : Works limits hasty s u := by
  induction hw with
  | rest => exact .move move .rest hm
  | move next _ hn ih => exact .move next ih hn

/-- How many jobs have not ended and wait for nothing. -/
def free (s : Shift) : Nat :=
  (s.floor.jobs.filter fun job => job.1 ∉ s.stuck).length

/-- A step that gets nearer to calm: it uses up an alarm, else a call, else it seats a worker, else
it ends a job. -/
def Nearer (t s : Shift) : Prop :=
  t.floor.alarms < s.floor.alarms ∨ t.floor.alarms = s.floor.alarms ∧
    (t.floor.calls < s.floor.calls ∨ t.floor.calls = s.floor.calls ∧
      (t.floor.starting + t.floor.roused < s.floor.starting + s.floor.roused ∨
        t.floor.starting + t.floor.roused = s.floor.starting + s.floor.roused ∧ t.free < s.free))

/-- A job that runs and waits for nothing can end. -/
theorem exists_finish (limits : Limits) (hasty : Bool) {job : Nat × Job}
    (hj : job ∈ s.floor.running) (loose : job.1 ∉ s.stuck) :
    ∃ move t, s.work limits hasty move = some t ∧ t.Nearer s := by
  obtain ⟨index, inside, rfl⟩ := List.getElem_of_mem hj
  have ends : s.floor.ending? (.finish index false) = some s.floor.running[index] :=
    List.getElem?_eq_getElem inside
  have made : s.floor.step limits (.finish index false) =
      some ((s.floor.putDown index).turn limits false) := if_neg (Nat.not_le_of_lt inside)
  have can : ∀ job, s.floor.ending? (.finish index false) = some job → job.1 ∉ s.stuck := by
    intro job he
    rw [ends] at he
    exact Option.some.inj he ▸ loose
  refine ⟨.finish index false, _, work_of_step rfl nofun can made, ?_⟩
  obtain ⟨starting, roused, calls, alarms⟩ :=
    Floor.turn_others limits false (s.floor.putDown index)
  refine Or.inr ⟨alarms, Or.inr ⟨calls, Or.inr ⟨congrArg₂ (· + ·) starting roused, ?_⟩⟩⟩
  have jobs_perm := Floor.jobs_work rfl made
  rw [ends] at jobs_perm
  have fewer := (jobs_perm.filter fun job => job.1 ∉ s.stuck).length_eq
  rw [Option.toList_some, List.singleton_append, List.filter_cons_of_pos (by simpa using loose),
    List.length_cons] at fewer
  simp only [free]
  omega

/-- In a shift that is not calm somebody can move, and gets nearer to calm. -/
theorem exists_work (limits : Limits) (hasty : Bool) (hc : ¬ s.Calm) :
    ∃ move t, s.work limits hasty move = some t ∧ t.Nearer s := by
  have calm : false = true → hasty = true := fun late => absurd late Bool.false_ne_true
  by_cases ha : s.floor.alarms ≠ 0
  · refine ⟨.alarm, _, work_of_quiet_step rfl calm rfl (if_neg ha), ?_⟩
    exact Or.inl (Nat.sub_one_lt ha)
  by_cases hn : s.floor.calls ≠ 0
  · by_cases hp : s.floor.parked = 0
    · refine ⟨.call, _, work_of_quiet_step rfl calm rfl ((if_neg hn).trans (if_pos hp)), ?_⟩
      exact Or.inr ⟨rfl, Or.inl (Nat.sub_one_lt hn)⟩
    · refine ⟨.call, _, work_of_quiet_step rfl calm rfl ((if_neg hn).trans (if_neg hp)), ?_⟩
      exact Or.inr ⟨rfl, Or.inl (Nat.sub_one_lt hn)⟩
  by_cases hs : s.floor.starting ≠ 0
  · refine ⟨.begin false, _, work_of_quiet_step rfl calm rfl (if_neg hs), ?_⟩
    obtain ⟨starting, roused, calls, alarms⟩ := Floor.turn_others limits false s.floor.enter
    refine Or.inr ⟨alarms, Or.inr ⟨calls, Or.inl ?_⟩⟩
    simp only [starting, roused]
    simp only [Floor.enter]
    omega
  by_cases hr : s.floor.roused ≠ 0
  · refine ⟨.resume false, _, work_of_quiet_step rfl calm rfl (if_neg hr), ?_⟩
    obtain ⟨starting, roused, calls, alarms⟩ := Floor.turn_others limits false s.floor.wake
    refine Or.inr ⟨alarms, Or.inr ⟨calls, Or.inl ?_⟩⟩
    simp only [starting, roused]
    simp only [Floor.wake]
    omega
  -- nobody is on the way, so a job runs that waits for nothing
  have loose : ∃ job ∈ s.floor.running, job.1 ∉ s.stuck := by
    by_contra held
    push Not at held ha hn hs hr
    exact hc ⟨hs, hr, hn, ha, held⟩
  obtain ⟨job, hj, loose⟩ := loose
  exact exists_finish limits hasty hj loose

theorem exists_calm (limits : Limits) (hasty : Bool) (s : Shift) :
    ∃ t, Works limits hasty s t ∧ t.Calm := by
  by_cases calm : s.Calm
  · exact ⟨s, .rest, calm⟩
  · obtain ⟨move, t, hm, nearer⟩ := exists_work limits hasty calm
    obtain ⟨u, hw, hc⟩ := exists_calm limits hasty t
    exact ⟨u, hw.head hm, hc⟩
termination_by (s.floor.alarms, s.floor.calls, s.floor.starting + s.floor.roused, s.free)
decreasing_by
  simp only [Prod.lex_def]
  exact nearer

/-- In a calm shift with a worker who is not needed, that worker can lose his patience and leave. -/
theorem exists_leave (h : Sound limits calls s) (hc : s.Calm) (may : hasty = true)
    (parked : s.floor.parked ≠ 0) (many : limits.least < s.floor.live) :
    ∃ t, Works limits hasty s t ∧ t.Calm ∧ t.floor.parked < s.floor.parked := by
  obtain ⟨floor, hf⟩ : ∃ floor, floor = { s.floor with
      parked := s.floor.parked - 1, roused := s.floor.roused + 1 } := ⟨_, rfl⟩
  have roused : s.floor.step limits .rouse = some floor := hf ▸ if_neg parked
  have present : floor.roused ≠ 0 := by
    rw [hf]
    exact Nat.succ_ne_zero _
  -- once roused, the worker finds nothing to do and goes home
  have resumed : floor.step limits (.resume true) = some (floor.wake.turn limits true) :=
    if_neg present
  have leaves : floor.wake.turn limits true = { floor.wake with
      idle := floor.wake.idle - 1, live := floor.wake.live - 1 } := by
    have queue_eq : floor.wake.queue = [] := by
      rw [hf]
      exact h.queue_eq hc
    have many : limits.least < floor.wake.live := by
      rw [hf]
      exact many
    simp [Floor.turn, queue_eq, many]
  have first : s.work limits hasty .rouse = some { s with floor } :=
    work_of_quiet_step rfl (fun _ => may) rfl roused
  have second : Shift.work limits hasty { s with floor } (.resume true) =
      some { s with floor := floor.wake.turn limits true } :=
    work_of_quiet_step rfl (fun _ => may) rfl resumed
  refine ⟨_, .head first (.head second .rest), ?_, ?_⟩
  · rw [leaves, hf]
    refine ⟨hc.starting_eq, ?_, hc.calls_eq, hc.alarms_eq, hc.running_stuck⟩
    exact hc.roused_eq
  · rw [leaves, hf]
    exact Nat.sub_one_lt parked

/-- A calm shift settles when workers who are not needed leave. -/
theorem exists_settled_of_calm {s : Shift} (h : Sound limits calls s) (hc : s.Calm)
    (may : limits.restless = true → hasty = true) :
    ∃ t, Works limits hasty s t ∧ t.Settled limits := by
  by_cases patient : limits.restless = true → s.floor.parked = 0 ∨ s.floor.live ≤ limits.least
  · exact ⟨s, .rest, hc, patient⟩
  · obtain ⟨short, needed⟩ := Classical.not_imp.1 patient
    obtain ⟨parked, many⟩ := not_or.1 needed
    obtain ⟨t, hw, ht, fewer⟩ := exists_leave h hc (may short) parked (Nat.lt_of_not_le many)
    obtain ⟨u, hu, settled⟩ := exists_settled_of_calm (h.works hw) ht may
    exact ⟨u, hw.trans hu, settled⟩
termination_by s.floor.parked

/-- Every shift settles, if workers may lose their patience where they soon do. -/
theorem exists_settled (h : Sound limits calls s) (may : limits.restless = true → hasty = true) :
    ∃ t, Works limits hasty s t ∧ t.Settled limits := by
  obtain ⟨t, hw, hc⟩ := exists_calm limits hasty s
  obtain ⟨u, hu, settled⟩ := exists_settled_of_calm (h.works hw) hc may
  exact ⟨u, hw.trans hu, settled⟩

end Shift

end TaskLedger
