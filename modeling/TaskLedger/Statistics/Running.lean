import TaskLedger.Binary64.Fixed

/-!
# Running statistics

Mean and variance of a growing list of numbers are kept up to date with every number that is added,
without keeping the numbers: the mean moves by its share of the deviation, and the sum of the
squared deviations grows by the product of the deviations from the old and from the new mean.

A number that is none leaves the least and the greatest number as they are, unless it is the first.
-/

namespace TaskLedger

/-- What is known of the numbers so far: how many there are, their mean, the sum of their squared
deviations from it, and the least and the greatest of them. -/
structure Running where
  count : Nat
  mean : Float
  squares : Float
  least : Float
  greatest : Float

namespace Running

/-- Without any number everything is zero. -/
def empty : Running := ⟨0, 0, 0, 0, 0⟩

/-- A count as a number. -/
def share (n : Nat) : Float :=
  (UInt64.ofNat n).toFloat

/-- The smaller of two numbers, the first one if neither is; a number that is none does not
count. -/
def lesser (x y : Float) : Float :=
  if x.isNaN || y < x then y else x

/-- The larger of two numbers, the first one if neither is; a number that is none does not count. -/
def larger (x y : Float) : Float :=
  if x.isNaN || x < y then y else x

/-- The statistics with one more number. -/
def push (r : Running) (x : Float) : Running :=
  if r.count = 0 then ⟨1, x, 0, x, x⟩
  else
    let count := r.count + 1
    let delta := x - r.mean
    let mean := r.mean + delta / share count
    { count, mean
      squares := r.squares + delta * (x - mean)
      least := lesser r.least x
      greatest := larger r.greatest x }

/-- The statistics of a list of numbers. -/
def ofList (xs : List Float) : Running :=
  xs.foldl push empty

/-- The variance of the population that the numbers are a sample of, zero for fewer than two. -/
def variance (r : Running) : Float :=
  if r.count < 2 then 0 else r.squares / share (r.count - 1)

/-- The standard deviation. -/
def deviation (r : Running) : Float :=
  r.variance.sqrt

/-- The statistics in one line, with one digit after the point. -/
def text (r : Running) : String :=
  if r.count = 0 then "N/A"
  else
    let one := Binary64.Fixed.text 1
    "min=" ++ one r.least ++ ", max=" ++ one r.greatest ++ ", mean=" ++ one r.mean
      ++ ", std=" ++ one r.deviation ++ " (n=" ++ Text.Decimal.text r.count ++ ")"

end Running

end TaskLedger
