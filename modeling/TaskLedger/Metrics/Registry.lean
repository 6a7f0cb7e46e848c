/-!
# Measured values

A registry keeps the values that are shown to the outside under a name and labels:

* counters, which only grow, by natural numbers below `2 ^ 64`;
* gauges, which are set, or moved by an amount;
* summaries, of which the sum and the number of observations are kept.

`Registry.counter?` and `Registry.gauge?` look a value up; the lemmas say what each operation does
to what is found.
-/

namespace TaskLedger

/-- The name of a value, and its labels with their values in order. -/
structure Series where
  name : String
  labels : List (String × String)
  deriving DecidableEq

/-- Values by series, each series once. -/
abbrev Values (α : Type) := List (Series × α)

/-- Values with the one of a series changed, or put behind the others if there is none. -/
def Values.change {α : Type} (s : Series) (f : Option α → α) : Values α → Values α
  | [] => [(s, f none)]
  | v :: values => if v.1 = s then (s, f (some v.2)) :: values else v :: change s f values

theorem Values.lookup_change {α : Type} (s t : Series) (f : Option α → α) (values : Values α) :
    (values.change s f).lookup t =
      if t = s then some (f (values.lookup s)) else values.lookup t := by
  induction values with
  | nil => by_cases h : t = s <;> simp [change, List.lookup_cons, h, beq_eq_false_iff_ne.2]
  | cons v values ih =>
    obtain ⟨u, a⟩ := v
    by_cases hu : u = s
    · subst hu
      by_cases h : t = u <;> simp [change, List.lookup_cons, h, beq_eq_false_iff_ne.2]
    · by_cases h : t = s
      · subst h
        simp [change, List.lookup_cons, hu, ih, beq_eq_false_iff_ne.2 (Ne.symm hu)]
      · simp [change, List.lookup_cons, hu, ih, h]

/-- The measured values: counters, gauges, and summaries with the sum and the number of their
observations. -/
structure Registry where
  counters : Values Nat := []
  gauges : Values Float := []
  summaries : Values (Float × Nat) := []

namespace Registry

/-- Where counters begin again. -/
def counterBound : Nat := UInt64.size

/-- The value of a counter. -/
def counter? (r : Registry) (s : Series) : Option Nat :=
  r.counters.lookup s

/-- The value of a gauge. -/
def gauge? (r : Registry) (s : Series) : Option Float :=
  r.gauges.lookup s

/-- Raises a counter. -/
def count (r : Registry) (s : Series) (n : Nat) : Registry :=
  { r with counters := r.counters.change s fun old => (old.getD 0 + n) % counterBound }

/-- Sets a gauge. -/
def setGauge (r : Registry) (s : Series) (x : Float) : Registry :=
  { r with gauges := r.gauges.change s fun _ => x }

/-- Moves a gauge. -/
def moveGauge (r : Registry) (s : Series) (x : Float) : Registry :=
  { r with gauges := r.gauges.change s fun old => old.getD 0 + x }

/-- Adds an observation to a summary. -/
def summarize (r : Registry) (s : Series) (x : Float) : Registry :=
  { r with summaries := r.summaries.change s fun old =>
      ((old.getD (0, 0)).1 + x, (old.getD (0, 0)).2 + 1) }

theorem counter?_count (r : Registry) (s t : Series) (n : Nat) :
    (r.count s n).counter? t =
      if t = s then some (((r.counter? s).getD 0 + n) % counterBound) else r.counter? t := by
  simp [count, counter?, Values.lookup_change]

theorem gauge?_setGauge (r : Registry) (s t : Series) (x : Float) :
    (r.setGauge s x).gauge? t = if t = s then some x else r.gauge? t := by
  simp [setGauge, gauge?, Values.lookup_change]

end Registry

end TaskLedger
