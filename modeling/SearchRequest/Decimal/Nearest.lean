import SearchRequest.Decimal.Basic

/-!
From a decimal literal to the floating point number nearest to it, and from that number to
the fewest digits that read back as it. All arithmetic is exact on naturals: a number with a
53 bit significand is `significand * 2 ^ power`, and the decimals that read back as it are
those within half a unit of the last bit, the ends included when the significand is even.
-/

namespace SearchRequest.Decimal

/-- The quotient rounded to the nearest natural; a half goes to the even neighbour. -/
def halfEven (numerator denominator : Nat) : Nat :=
  let quotient := numerator / denominator
  let twice := 2 * (numerator % denominator)
  if twice < denominator then quotient
  else if denominator < twice then quotient + 1
  else if quotient % 2 = 0 then quotient else quotient + 1

def scaleDown (base : Nat) (power : Int) (numerator denominator : Nat) : Nat × Nat :=
  if 0 ≤ power then (numerator, denominator * Nat.pow base power.toNat)
  else (numerator * Nat.pow base (-power).toNat, denominator)

def precision : Nat := 53

def leastPower : Int := -1074

def greatestPower : Int := 971

def binary? (numerator denominator : Nat) : Option (Nat × Int) :=
  let size : Int := numerator.log2 - denominator.log2
  let finest := max (size - precision) leastPower
  let coarse := scaleDown 2 finest numerator denominator
  -- The difference of the logarithms may be one less than that of the quotient.
  let power := if Nat.pow 2 precision ≤ coarse.1 / coarse.2 then finest + 1 else finest
  let fraction := scaleDown 2 power numerator denominator
  let significand := halfEven fraction.1 fraction.2
  -- Rounding up may take one bit more.
  let (significand, power) :=
    if significand = Nat.pow 2 precision then (Nat.pow 2 (precision - 1), power + 1)
    else (significand, power)
  if greatestPower < power then none else some (significand, power)

/-- The decimals that read back as one number: an interval of quarter units of its last bit. -/
structure Interval where
  low : Nat
  value : Nat
  high : Nat
  /-- The interval is counted in units of `2 ^ unit`. -/
  unit : Int
  closed : Bool

/-- Below a power of two the neighbour is half as far, so the lower end is nearer. -/
def Interval.of (significand : Nat) (power : Int) : Interval :=
  let narrow := significand = Nat.pow 2 (precision - 1) ∧ leastPower < power
  { low := 4 * significand - (if narrow then 1 else 2)
    value := 4 * significand
    high := 4 * significand + 2
    unit := power - 2
    closed := significand % 2 = 0 }

def Interval.holds (i : Interval) (grid : Int) (candidate : Nat) : Bool :=
  let (low, lowUnit) := scaleDown 10 grid i.low 1
  let (high, highUnit) := scaleDown 10 grid i.high 1
  let (mine, scale) := scaleDown 2 i.unit candidate 1
  let belowHigh := compare (mine * highUnit) (high * scale)
  let aboveLow := compare (low * scale) (mine * lowUnit)
  if i.closed then belowHigh.isLE && aboveLow.isLE else belowHigh.isLT && aboveLow.isLT

def Interval.neighbour? (i : Interval) (grid : Int) : Option Nat :=
  let (numerator, denominator) := scaleDown 10 grid i.value 1
  let (scaled, unit) := scaleDown 2 (-i.unit) numerator denominator
  let lower := scaled / unit
  match i.holds grid lower, i.holds grid (lower + 1) with
  | true, true =>
      let nearest := halfEven scaled unit
      some nearest
  | true, false => some lower
  | false, true => some (lower + 1)
  | false, false => none

def Interval.search (i : Interval) : Nat → Int → Nat × Int
  | 0, grid => (i.value, grid)
  | steps + 1, grid =>
      match i.neighbour? grid with
      | some digits => (digits, grid)
      | none => i.search steps (grid - 1)

def stripZeros : Nat → Nat × Int → Nat × Int
  | 0, number => number
  | steps + 1, (digits, exponent) =>
      if digits ≠ 0 ∧ digits % 10 = 0 then stripZeros steps (digits / 10, exponent + 1)
      else (digits, exponent)

def coarsestGrid (i : Interval) : Int :=
  -- The logarithm of two to base ten is a little less than 0.30103.
  ((i.value.log2 + i.unit + 1) * 30103).fdiv 100000 + 1

def gridCount : Nat := 22

/-- The fewest digits that read back as `significand * 2 ^ power`. -/
def shortest (significand : Nat) (power : Int) : Nat × Int :=
  let i := Interval.of significand power
  stripZeros gridCount (i.search gridCount (coarsestGrid i))

/-- Magnitudes beyond these powers of ten are infinite or zero whatever their digits. -/
def magnitudeRange : Int × Int := (-330, 310)

def nearest (negative : Bool) (digits : Nat) (exponent : Int) : Decimal :=
  if digits = 0 then .finite negative 0 0
  else
    let magnitude := (toString digits).length + exponent
    if magnitudeRange.2 < magnitude then .infinite negative
    else if magnitude < magnitudeRange.1 then .finite negative 0 0
    else
      let (denominator, numerator) := scaleDown 10 exponent 1 digits
      match binary? numerator denominator with
      | none => .infinite negative
      | some (0, _) => .finite negative 0 0
      | some (significand, power) =>
          let (fewest, place) := shortest significand power
          .finite negative fewest place

def ofInt (n : Int) : Decimal := nearest (n < 0) n.natAbs 0

def wholeBinary? (significand : Nat) (power : Int) : Option Nat :=
  if 0 ≤ power then some (significand * Nat.pow 2 power.toNat)
  else
    let unit := Nat.pow 2 (-power).toNat
    if significand % unit = 0 then some (significand / unit) else none

/-- The value of a number that is whole; beyond the precision it is not that of the decimal. -/
def whole? : Decimal → Option Int
  | .finite negative digits exponent =>
      if digits = 0 then some 0
      else
        let (denominator, numerator) := scaleDown 10 exponent 1 digits
        match binary? numerator denominator with
        | none => none
        | some (significand, power) =>
            (wholeBinary? significand power).map fun n => if negative then -(n : Int) else n
  | _ => none

end SearchRequest.Decimal
