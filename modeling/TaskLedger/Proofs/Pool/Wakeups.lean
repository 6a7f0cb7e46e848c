import TaskLedger.Proofs.Pool.Soundness

/-!
# What anybody may find on a floor

Submitters, workers and notifications move in any order.  On every floor that they can lead to, the
counters tell the truth, nothing is taken from a counter that is zero, and no job in the queue is
left to workers who all wait or are gone.

* `Sound.step` and `Sound.of_reachable`: whatever is done, a floor stays sound;
* `Floor.Admits`: the floor that a worker finds when he gets the lock;
* `counters_of_reachable` puts together what the counters say;
* `callerRan_of_reachable`: a submitter runs his job himself only when the crew is closed or is as
  large as may be, and nobody waits beyond the jobs in the queue.

A worker who waits may yet be passed over: `submitter_blocks_beside_idle_worker` is a floor with one
who waits and one who starts, but only one job.
-/

namespace TaskLedger

namespace Floor

variable {α : Type} {limits : Limits} {s t u : Floor α}

/-! ### Every floor is sound -/

/-- Whatever anybody does keeps a floor sound. -/
theorem Sound.step {move : Move α} (h : Sound limits 0 s) (hs : s.step limits move = some t) :
    Sound limits 0 t := by
  cases hm : move.isWork with
  | true => exact h.work hm hs
  | false =>
    cases move with
    | submit job =>
      cases hs
      exact h.submit job
    | close =>
      cases hs
      exact h.close
    | call | alarm | rouse | begin | resume | finish => cases hm

theorem Sound.of_reachable (h : s.Reachable limits) : Sound limits 0 s := by
  induction h with
  | empty => exact sound_empty limits
  | step move _ hs ih => exact ih.step hs

/-- Moves that can be made lead to floors that can be reached. -/
theorem Reachable.run (h : s.Reachable limits) {moves : List (Move α)}
    (hr : s.run limits moves = some t) : t.Reachable limits := by
  induction moves generalizing s with
  | nil =>
    cases hr
    exact h
  | cons move moves ih =>
    obtain ⟨next, made, rest⟩ := Option.bind_eq_some_iff.1 hr
    exact ih (.step move h made) rest

/-! ### Whoever has the lock is counted -/

/-- A worker gets the lock who starts, who was roused, or whose job has ended; this is the floor
that he finds when he takes his turn. -/
inductive Admits (s : Floor α) : Floor α → Prop where
  | enter : s.starting ≠ 0 → Admits s s.enter
  | wake : s.roused ≠ 0 → Admits s s.wake
  | putDown {index : Nat} : index < s.running.length → Admits s (s.putDown index)

/-- The worker who has the lock is one of those who are there and idle. -/
theorem Sound.counted_of_admits (h : Sound limits 0 s) (ha : s.Admits u) :
    1 ≤ u.idle ∧ 1 ≤ u.live := by
  have inside : Sound limits 1 u := by
    cases ha with
    | enter present => exact h.enter present
    | wake present => exact h.wake present
    | putDown lt => exact h.putDown lt
  have idle_eq := inside.idle_eq
  have live_eq := inside.live_eq
  omega

/-! ### All in all -/

/-- A job in the queue is not left to workers who all wait or are gone: one of them starts, is
roused, or waits while a notification is under way. -/
theorem Sound.awaits (h : Sound limits 0 s) (some_job : s.queue ≠ []) :
    s.starting ≠ 0 ∨ s.roused ≠ 0 ∨ s.calls ≠ 0 ∧ s.parked ≠ 0 := by
  have jobs := List.length_pos_of_ne_nil some_job
  have awaited := h.awaited
  have queue_le := h.queue_le
  have idle_eq := h.idle_eq
  omega

/-- **The counters of a crew tell the truth, and no job is forgotten.**  However the steps of
submitters, workers and notifications follow each other: every worker who is there starts, waits or
runs a job, and there are not too many; the idle ones are those who wait; a job that has not ended
is in the queue or runs.  Nothing is ever taken from a counter that is zero.  There is a worker for
every job in the queue, and somebody, or a notification, is on the way to it.  It is taken that a
worker can be started whenever one is to be; one who could not be would leave the counters as they
are. -/
theorem counters_of_reachable (h : s.Reachable limits) :
    (s.live = s.starting + (s.parked + s.roused) + s.running.length ∧ s.live ≤ limits.most) ∧
    s.idle = s.parked + s.roused ∧
    s.busy = s.queue.length + s.running.length ∧
    ((∀ u, s.Admits u → 1 ≤ u.idle ∧ 1 ≤ u.live) ∧ (s.running ≠ [] → 1 ≤ s.busy)) ∧
    s.queue.length ≤ s.idle + s.starting ∧
    s.queue.length ≤ s.starting + s.roused + s.calls ∧
    (s.queue ≠ [] → s.starting ≠ 0 ∨ s.roused ≠ 0 ∨ s.calls ≠ 0 ∧ s.parked ≠ 0) := by
  have sound := Sound.of_reachable h
  have live_eq := sound.live_eq
  have busy_eq := sound.busy_eq
  refine ⟨⟨?_, sound.live_le⟩, sound.idle_eq, busy_eq,
    ⟨fun u ha => sound.counted_of_admits ha, ?_⟩, sound.queue_le, sound.awaited, sound.awaits⟩
  · omega
  · intro running
    have := List.length_pos_of_ne_nil running
    omega

/-- The smallest crew of which nobody may stay and two may be there. -/
def pair : Limits := .ofWish 0 2 none

/-- A worker waits, a job was handed to him, and the notification is still under way. -/
def called : Floor Nat :=
  { live := 1, idle := 1, busy := 1, queue := [1], parked := 1, calls := 1 }

theorem reachable_called : called.Reachable pair := by
  have made : ({} : Floor Nat).run pair [.submit 0, .begin false, .finish 0 false, .submit 1] =
      some called := by decide
  exact Reachable.empty.run made

/-- Nobody starts or is roused, so the job in the queue hangs on the notification. -/
theorem counters_of_called : called.Reachable pair ∧
    (called.starting ≠ 0 ∨ called.roused ≠ 0 ∨ called.calls ≠ 0 ∧ called.parked ≠ 0) := by
  obtain ⟨-, -, -, -, -, -, awaits⟩ := counters_of_reachable reachable_called
  exact ⟨reachable_called, awaits (by decide)⟩

/-! ### When a submitter runs his job himself -/

/-- **A submitter runs his job himself** exactly when the crew is closed, or is as large as may be
and nobody waits beyond the jobs in the queue.  In that case every worker has a job but for some of
those who start; once nobody starts, the crew is closed or all of it is busy.  It is taken that a
worker can be started whenever one is to be: a submitter also runs his job where that fails. -/
theorem callerRan_of_reachable (h : s.Reachable limits) :
    (s.place limits = .callerRan ↔
      s.closed = true ∨ s.live = limits.most ∧ s.idle ≤ s.queue.length) ∧
    (s.place limits = .callerRan → s.closed = true ∨ limits.most ≤ s.busy + s.starting) ∧
    (s.starting = 0 → (s.place limits = .callerRan ↔ s.closed = true ∨ limits.most ≤ s.busy)) := by
  obtain ⟨live_eq, idle_eq, busy_eq, live_le, queue_le, -, -⟩ := Sound.of_reachable h
  have least_le := limits.least_le_most
  have place_iff : s.place limits = .callerRan ↔
      s.closed = true ∨ s.live = limits.most ∧ s.idle ≤ s.queue.length := by
    unfold place
    by_cases hc : s.closed = true
    · exact iff_of_true (if_pos hc) (Or.inl hc)
    by_cases hi : limits.least ≤ s.live ∧ s.queue.length < s.idle
    · refine iff_of_false (by simp [hc, hi]) (not_or_intro hc ?_)
      omega
    by_cases hm : s.live < limits.most
    · refine iff_of_false (by simp [hc, hi, hm]) (not_or_intro hc ?_)
      omega
    · refine iff_of_true (by simp [hc, hi, hm]) (Or.inr ?_)
      omega
  refine ⟨place_iff, fun there => (place_iff.1 there).imp_right fun _ => by omega, fun nobody => ?_⟩
  rw [place_iff]
  exact or_congr_right (by omega)

/-- The smallest crew of which two stay. -/
def staff : Limits := .ofWish 2 2 none

/-- One worker waits and has no job.  The other one starts, and the only job is meant for him. -/
def overlooked : Floor Nat :=
  { live := 2, idle := 1, busy := 1, queue := [1], starting := 1, parked := 1 }

theorem reachable_overlooked : overlooked.Reachable staff := by
  have made : ({} : Floor Nat).run staff [.submit 0, .begin false, .finish 0 false, .submit 1] =
      some overlooked := by decide
  exact Reachable.empty.run made

/-- The next submitter runs his job himself, though the crew is open and there may be two jobs. -/
theorem callerRan_of_overlooked : overlooked.Reachable staff ∧
    overlooked.place staff = .callerRan ∧ staff.most ≤ overlooked.busy + overlooked.starting := by
  obtain ⟨place_iff, crowded, -⟩ := callerRan_of_reachable reachable_overlooked
  have there : overlooked.place staff = .callerRan := place_iff.2 (by decide)
  exact ⟨reachable_overlooked, there, (crowded there).resolve_left (by decide)⟩

/-- This comes about when two jobs are submitted at once, and one of two workers is there. -/
example : Crew.placeBehind staff { live := 1, started := 1 } 1 = .callerRan := by decide

/-- It is not so that a submitter runs his job himself only in a crew that is closed or all of which
is busy: here two workers are there for the only job, and one of them waits. -/
theorem submitter_blocks_beside_idle_worker : overlooked.Reachable staff ∧
    ¬ (overlooked.place staff = .callerRan →
      overlooked.closed = true ∨ staff.most ≤ overlooked.busy) ∧
    overlooked.parked ≠ 0 ∧ overlooked.running = [] ∧
    overlooked.queue.length < overlooked.idle + overlooked.starting :=
  ⟨reachable_overlooked, by decide, by decide, rfl, by decide⟩

end Floor

end TaskLedger
