import Mathlib.Data.List.Perm.Basic
import TaskLedger.Pool.Interleaving

/-!
# The counters of a crew tell the truth

A floor keeps three counters beside its workers and jobs.  `Floor.Sound` says that each counter
agrees with what it counts, that there is a worker for every job in the queue, and that no job in
the queue is forgotten: somebody who has not had the lock yet, or a notification, is on the way to
it.  The number of workers *inside* is that of the workers who have the lock: one while a worker
takes his turn, none between two steps.

* `turn_cases`, `submit_cases` and `work_cases` say all that a turn, a submission and a step of a
  worker can do;
* `Sound.submit` and `Sound.work`: these keep a floor sound;
* `jobs_work` and `live_work`: what a step of a worker does to the jobs and to the number of
  workers.
-/

namespace TaskLedger

/-- Whether it is a worker or a notification that moves. -/
def Move.isWork {α : Type} : Move α → Bool
  | .submit _ | .close => false
  | _ => true

/-- Whether the worker who moves has lost his patience. -/
def Move.isLate {α : Type} : Move α → Bool
  | .begin late | .resume late | .finish _ late => late
  | _ => false

namespace Floor

open scoped List

variable {α : Type} {limits : Limits} {s t : Floor α}

/-- The counters agree with what they count, and no job is forgotten.  Every worker is somewhere,
and there are not too many; a job that has not ended is in the queue or runs; for every job in the
queue there is a worker, and somebody on the way; and when everybody has heard that the crew is
closed, nobody waits. -/
structure Sound (limits : Limits) (inside : Nat) (s : Floor α) : Prop where
  live_eq : s.live = s.starting + s.parked + s.roused + s.running.length + inside
  idle_eq : s.idle = s.parked + s.roused + inside
  busy_eq : s.busy = s.queue.length + s.running.length
  live_le : s.live ≤ limits.most
  queue_le : s.queue.length ≤ s.idle + s.starting
  awaited : s.queue.length ≤ s.starting + s.roused + s.calls + inside
  parked_of_closed : s.closed = true → s.alarms = 0 → s.parked = 0

theorem sound_empty (limits : Limits) : Sound limits 0 ({} : Floor α) where
  live_eq := rfl
  idle_eq := rfl
  busy_eq := rfl
  live_le := Nat.zero_le _
  queue_le := Nat.zero_le _
  awaited := Nat.zero_le _
  parked_of_closed := nofun

/-- The jobs that have not ended. -/
def jobs (s : Floor α) : List α :=
  s.queue ++ s.running

/-- The job that ends with a move. -/
def ending? (s : Floor α) : Move α → Option α
  | .finish index _ => s.running[index]?
  | _ => none

/-! ### The turn of a worker -/

/-- What a worker does when it is his turn: he picks up the oldest job, goes home, or parks. -/
theorem turn_cases (limits : Limits) (late : Bool) (s : Floor α) :
    (∃ job queue, s.queue = job :: queue ∧ s.turn limits late =
      { s with idle := s.idle - 1, queue, running := job :: s.running }) ∨
    (s.queue = [] ∧ (s.closed = true ∨ late = true ∧ limits.least < s.live) ∧
      s.turn limits late = { s with idle := s.idle - 1, live := s.live - 1 }) ∨
    (s.queue = [] ∧ s.closed = false ∧ s.turn limits late = { s with parked := s.parked + 1 }) := by
  unfold turn
  cases hq : s.queue with
  | cons job queue => exact Or.inl ⟨job, queue, rfl, rfl⟩
  | nil =>
    by_cases leaves : s.closed = true ∨ late = true ∧ limits.least < s.live
    · exact Or.inr (Or.inl ⟨rfl, leaves, by simp [leaves]⟩)
    · refine Or.inr (Or.inr ⟨rfl, ?_, by simp [leaves]⟩)
      exact Bool.eq_false_iff.2 fun hc => leaves (Or.inl hc)

/-- A worker who takes his turn leaves a sound floor behind. -/
theorem Sound.turn (h : Sound limits 1 s) (late : Bool) : Sound limits 0 (s.turn limits late) := by
  obtain ⟨live_eq, idle_eq, busy_eq, live_le, queue_le, awaited, parked_of_closed⟩ := h
  -- the worker inside is with a job, gone, or parked afterwards
  obtain ⟨job, queue, hq, ht⟩ | ⟨hq, -, ht⟩ | ⟨hq, is_open, ht⟩ := turn_cases limits late s
  · rw [hq, List.length_cons] at busy_eq queue_le awaited
    rw [ht]
    constructor <;> simp only [List.length_cons] <;> omega
  · rw [ht]
    constructor <;> simp only [hq, List.length_nil] at * <;> omega
  · rw [ht]
    constructor <;> simp only [hq, List.length_nil, is_open] at * <;> first | omega | nofun

/-- A turn loses no job and makes none up. -/
theorem jobs_turn (limits : Limits) (late : Bool) (s : Floor α) :
    (s.turn limits late).jobs ~ s.jobs := by
  obtain ⟨job, queue, hq, ht⟩ | ⟨-, -, ht⟩ | ⟨-, -, ht⟩ := turn_cases limits late s
  · rw [ht, jobs, jobs, hq]
    exact List.perm_middle
  · rw [ht, jobs, jobs]
  · rw [ht, jobs, jobs]

/-- Who goes home leaves a closed crew, or has lost his patience and is not needed. -/
theorem live_turn (limits : Limits) (late : Bool) (s : Floor α) :
    (s.turn limits late).live = s.live ∨
      (s.turn limits late).live = s.live - 1 ∧
        (s.closed = true ∨ late = true ∧ limits.least < s.live) := by
  obtain ⟨job, queue, -, ht⟩ | ⟨-, leaves, ht⟩ | ⟨-, -, ht⟩ := turn_cases limits late s
  · exact Or.inl (by rw [ht])
  · exact Or.inr ⟨by rw [ht], leaves⟩
  · exact Or.inl (by rw [ht])

@[simp] theorem closed_turn (limits : Limits) (late : Bool) (s : Floor α) :
    (s.turn limits late).closed = s.closed := by
  obtain ⟨job, queue, -, ht⟩ | ⟨-, -, ht⟩ | ⟨-, -, ht⟩ := turn_cases limits late s <;> rw [ht]

/-- A turn concerns nobody else. -/
theorem turn_others (limits : Limits) (late : Bool) (s : Floor α) :
    (s.turn limits late).starting = s.starting ∧ (s.turn limits late).roused = s.roused ∧
      (s.turn limits late).calls = s.calls ∧ (s.turn limits late).alarms = s.alarms := by
  obtain ⟨job, queue, -, ht⟩ | ⟨-, -, ht⟩ | ⟨-, -, ht⟩ := turn_cases limits late s <;> rw [ht] <;>
    exact ⟨rfl, rfl, rfl, rfl⟩

/-! ### Submissions -/

/-- Where a job goes, and what that does to the floor. -/
theorem submit_cases (limits : Limits) (s : Floor α) (job : α) :
    (s.place limits = .handedOff ∧ s.closed = false ∧ limits.least ≤ s.live ∧
      s.queue.length < s.idle ∧ s.submit limits job =
        { s with busy := s.busy + 1, queue := s.queue ++ [job], calls := s.calls + 1 }) ∨
    (s.place limits = .spawned ∧ s.closed = false ∧ s.live < limits.most ∧ s.submit limits job =
      { s with
        live := s.live + 1
        busy := s.busy + 1
        queue := s.queue ++ [job]
        starting := s.starting + 1 }) ∨
    (s.place limits = .callerRan ∧ s.submit limits job = s) := by
  unfold submit place
  by_cases hc : s.closed = true
  · exact Or.inr (Or.inr (by simp [hc]))
  by_cases hi : limits.least ≤ s.live ∧ s.queue.length < s.idle
  · exact Or.inl (by simp [hc, hi])
  by_cases hm : s.live < limits.most
  · exact Or.inr (Or.inl (by simp [hc, hi, hm]))
  · exact Or.inr (Or.inr (by simp [hc, hi, hm]))

theorem Sound.submit (h : Sound limits 0 s) (job : α) : Sound limits 0 (s.submit limits job) := by
  obtain ⟨live_eq, idle_eq, busy_eq, live_le, queue_le, awaited, parked_of_closed⟩ := h
  obtain ⟨-, -, -, free, hs⟩ | ⟨-, -, room, hs⟩ | ⟨-, hs⟩ := submit_cases limits s job
  · rw [hs]
    constructor <;> simp only [List.length_append, List.length_singleton] <;> omega
  · rw [hs]
    constructor <;> simp only [List.length_append, List.length_singleton] <;> omega
  · rw [hs]
    exact ⟨live_eq, idle_eq, busy_eq, live_le, queue_le, awaited, parked_of_closed⟩

/-- A job that does not run with the caller is on the floor afterwards. -/
theorem jobs_submit (h : s.place limits ≠ .callerRan) (job : α) :
    (s.submit limits job).jobs ~ job :: s.jobs := by
  obtain ⟨-, -, -, -, hs⟩ | ⟨-, -, -, hs⟩ | ⟨hp, -⟩ := submit_cases limits s job
  · rw [hs, jobs, jobs, List.append_assoc]
    exact List.perm_middle
  · rw [hs, jobs, jobs, List.append_assoc]
    exact List.perm_middle
  · exact absurd hp h

theorem Sound.close (h : Sound limits 0 s) : Sound limits 0 s.close := by
  unfold Floor.close
  split
  · exact h
  · exact { h with parked_of_closed := fun _ ha => absurd ha (Nat.succ_ne_zero _) }

/-! ### Steps of workers -/

/-- What a worker or a notification does in a step: waiting workers are roused, or a worker takes
his turn who starts, who is roused, or whose job ends. -/
theorem work_cases {move : Move α} (hm : move.isWork = true) (hs : s.step limits move = some t) :
    (s.ending? move = none ∧ ∃ calls alarms parked roused,
      t = { s with calls, alarms, parked, roused } ∧
      parked + roused = s.parked + s.roused ∧ parked ≤ s.parked ∧
      (calls = s.calls ∨ calls + 1 = s.calls ∧ (parked = 0 ∨ roused = s.roused + 1)) ∧
      (alarms = s.alarms ∨ parked = 0)) ∨
    (s.ending? move = none ∧ s.starting ≠ 0 ∧ t = s.enter.turn limits move.isLate) ∨
    (s.ending? move = none ∧ s.roused ≠ 0 ∧ t = s.wake.turn limits move.isLate) ∨
    (∃ index, ∃ h : index < s.running.length, s.ending? move = some s.running[index] ∧
      t = (s.putDown index).turn limits move.isLate) := by
  cases move with
  | submit job => cases hm
  | close => cases hm
  | call =>
    simp only [step] at hs
    split at hs
    · cases hs
    · split at hs
      · cases hs
        exact Or.inl ⟨rfl, s.calls - 1, s.alarms, s.parked, s.roused, rfl, rfl, Nat.le_refl _,
          Or.inr (by omega), Or.inl rfl⟩
      · cases hs
        exact Or.inl ⟨rfl, s.calls - 1, s.alarms, s.parked - 1, s.roused + 1, rfl, by omega,
          by omega, Or.inr (by omega), Or.inl rfl⟩
  | alarm =>
    simp only [step] at hs
    split at hs
    · cases hs
    · cases hs
      exact Or.inl ⟨rfl, s.calls, s.alarms - 1, 0, s.roused + s.parked, rfl, by omega, by omega,
        Or.inl rfl, Or.inr rfl⟩
  | rouse =>
    simp only [step] at hs
    split at hs
    · cases hs
    · cases hs
      exact Or.inl ⟨rfl, s.calls, s.alarms, s.parked - 1, s.roused + 1, rfl, by omega, by omega,
        Or.inl rfl, Or.inl rfl⟩
  | begin late =>
    simp only [step] at hs
    split at hs
    · cases hs
    · rename_i present
      cases hs
      exact Or.inr (Or.inl ⟨rfl, present, rfl⟩)
  | resume late =>
    simp only [step] at hs
    split at hs
    · cases hs
    · rename_i present
      cases hs
      exact Or.inr (Or.inr (Or.inl ⟨rfl, present, rfl⟩))
  | finish index late =>
    simp only [step] at hs
    split at hs
    · cases hs
    · rename_i inside
      cases hs
      have lt : index < s.running.length := Nat.lt_of_not_le inside
      exact Or.inr (Or.inr (Or.inr ⟨index, lt, List.getElem?_eq_getElem lt, rfl⟩))

/-- A worker who starts is inside when he has the lock. -/
theorem Sound.enter (h : Sound limits 0 s) (present : s.starting ≠ 0) :
    Sound limits 1 s.enter := by
  obtain ⟨live_eq, idle_eq, busy_eq, live_le, queue_le, awaited, parked_of_closed⟩ := h
  constructor <;> simp only [Floor.enter] <;> omega

/-- So is one who was roused. -/
theorem Sound.wake (h : Sound limits 0 s) (present : s.roused ≠ 0) : Sound limits 1 s.wake := by
  obtain ⟨live_eq, idle_eq, busy_eq, live_le, queue_le, awaited, parked_of_closed⟩ := h
  constructor <;> simp only [Floor.wake] <;> omega

/-- So is one whose job has ended. -/
theorem Sound.putDown (h : Sound limits 0 s) {index : Nat} (lt : index < s.running.length) :
    Sound limits 1 (s.putDown index) := by
  obtain ⟨live_eq, idle_eq, busy_eq, live_le, queue_le, awaited, parked_of_closed⟩ := h
  constructor <;> simp only [Floor.putDown, List.length_eraseIdx_of_lt lt] <;> omega

/-- A step of a worker keeps a floor sound. -/
theorem Sound.work {move : Move α} (h : Sound limits 0 s) (hm : move.isWork = true)
    (hs : s.step limits move = some t) : Sound limits 0 t := by
  obtain ⟨-, calls, alarms, parked, roused, rfl, same, fewer, hcalls, halarms⟩ | ⟨-, present, rfl⟩ |
    ⟨-, present, rfl⟩ | ⟨index, lt, -, rfl⟩ := work_cases hm hs
  -- a notification that is used up has roused somebody, or found nobody who waits
  · obtain ⟨live_eq, idle_eq, busy_eq, live_le, queue_le, awaited, parked_of_closed⟩ := h
    constructor <;> simp only
    case parked_of_closed =>
      intro hc ha
      have := parked_of_closed hc
      omega
    all_goals omega
  · exact (h.enter present).turn _
  · exact (h.wake present).turn _
  · exact (h.putDown lt).turn _

/-- A step of a worker loses no job and makes none up, apart from the one that ends. -/
theorem jobs_work {move : Move α} (hm : move.isWork = true) (hs : s.step limits move = some t) :
    (s.ending? move).toList ++ t.jobs ~ s.jobs := by
  obtain ⟨he, calls, alarms, parked, roused, rfl, -⟩ | ⟨he, -, rfl⟩ | ⟨he, -, rfl⟩ |
    ⟨index, lt, he, rfl⟩ := work_cases hm hs
  · rw [he]
    exact List.Perm.refl _
  · rw [he]
    exact jobs_turn ..
  · rw [he]
    exact jobs_turn ..
  · rw [he]
    calc _ = s.running[index] :: ((s.putDown index).turn limits move.isLate).jobs := rfl
      _ ~ s.running[index] :: (s.queue ++ s.running.eraseIdx index) := (jobs_turn ..).cons _
      _ ~ s.queue ++ s.running[index] :: s.running.eraseIdx index := List.perm_middle.symm
      _ ~ s.jobs := (List.getElem_cons_eraseIdx_perm lt).append_left _

/-- A step of a worker changes the number of workers only when one goes home. -/
theorem live_work {move : Move α} (hm : move.isWork = true) (hs : s.step limits move = some t) :
    t.live = s.live ∨
      t.live = s.live - 1 ∧ (s.closed = true ∨ move.isLate = true ∧ limits.least < s.live) := by
  obtain ⟨-, calls, alarms, parked, roused, rfl, -⟩ | ⟨-, -, rfl⟩ | ⟨-, -, rfl⟩ |
    ⟨index, lt, -, rfl⟩ := work_cases hm hs
  · exact Or.inl rfl
  · exact live_turn ..
  · exact live_turn ..
  · exact live_turn ..

theorem closed_work {move : Move α} (hm : move.isWork = true) (hs : s.step limits move = some t) :
    t.closed = s.closed := by
  obtain ⟨-, calls, alarms, parked, roused, rfl, -⟩ | ⟨-, -, rfl⟩ | ⟨-, -, rfl⟩ |
    ⟨index, lt, -, rfl⟩ := work_cases hm hs
  · rfl
  · exact closed_turn ..
  · exact closed_turn ..
  · exact closed_turn ..

end Floor

end TaskLedger
