/-!
Binary floating-point numbers of double precision, held as exact integers. A finite number is
`± significand * 2 ^ exponent`, so that comparison and rounding are integer arithmetic and a
statement about a number never has to look inside a machine word.
-/

namespace Remediation

/-- A double-precision number. The finite numbers built here are canonical: the significand is
below `2 ^ 53` and, unless the exponent is the least one, at least `2 ^ 52`. -/
inductive Binary64 where
  | finite (negative : Bool) (significand : Nat) (exponent : Int)
  | infinite (negative : Bool)
  | nan
  deriving DecidableEq, Repr

namespace Binary64

/-- The exponent of the subnormal numbers, the least there is. -/
def leastExponent : Int := -1074

/-- The greatest exponent of a finite number. -/
def greatestExponent : Int := 971

/-- The least significand that fills all of its 53 bits, `2 ^ 52`. -/
def leastFull : Nat := 0x10000000000000

def zero : Binary64 := .finite false 0 leastExponent

instance : Inhabited Binary64 := ⟨zero⟩

/-- The ratio `numerator / denominator` measured in units of `2 ^ exponent`, as a ratio. -/
def inUnits (numerator denominator : Nat) (exponent : Int) : Nat × Nat :=
  if 0 ≤ exponent then (numerator, denominator <<< exponent.toNat)
  else (numerator <<< (-exponent).toNat, denominator)

/-- The integer nearest to a ratio; a tie goes to the even one. -/
def roundHalfEven (numerator denominator : Nat) : Nat :=
  let quotient := numerator / denominator
  let remainder := numerator % denominator
  if 2 * remainder < denominator then quotient
  else if denominator < 2 * remainder then quotient + 1
  else if quotient % 2 = 0 then quotient
  else quotient + 1

/-- The exponent at which a positive ratio has a significand of 53 bits, or the least exponent
when the ratio is too small for that. -/
def exponentFor (numerator denominator : Nat) : Int :=
  let guess : Int := numerator.log2 - denominator.log2 - 52
  let (scaled, unit) := inUnits numerator denominator guess
  max leastExponent (if scaled / unit < leastFull then guess - 1 else guess)

/-- The number nearest to `± numerator / denominator`, ties to the even significand. A ratio
beyond the finite range becomes an infinity. -/
def ofRatio (negative : Bool) (numerator denominator : Nat) : Binary64 :=
  if numerator = 0 then .finite negative 0 leastExponent
  else
    let exponent := exponentFor numerator denominator
    let (scaled, unit) := inUnits numerator denominator exponent
    let significand := roundHalfEven scaled unit
    let (significand, exponent) :=
      if significand = 2 * leastFull then (leastFull, exponent + 1) else (significand, exponent)
    if greatestExponent < exponent then .infinite negative
    else .finite negative significand exponent

/-- The number nearest to an integer. -/
def ofInt (value : Int) : Binary64 :=
  ofRatio (decide (value < 0)) value.natAbs 1

/-- A power of ten whose exponent may be negative, as a ratio. -/
def powerOfTen (exponent : Int) : Nat × Nat :=
  if 0 ≤ exponent then (Nat.pow 10 exponent.toNat, 1) else (1, Nat.pow 10 (-exponent).toNat)

/-- The number nearest to `± digits * 10 ^ exponent`. Exponents far outside the range are
answered without computing the power. -/
def ofDecimal (negative : Bool) (digits : Nat) (exponent : Int) : Binary64 :=
  if digits = 0 then ofRatio negative 0 1
  else if 400 < exponent then .infinite negative
  else if exponent + (digits.log2 : Int) < -1200 then ofRatio negative 0 1
  else
    let (numerator, denominator) := powerOfTen exponent
    ofRatio negative (digits * numerator) denominator

/-- The exact value of a finite number as a signed ratio's numerator over a power of two:
`signed * 2 ^ exponent`. -/
def signed (negative : Bool) (significand : Nat) : Int :=
  if negative then -(significand : Int) else significand

/-- A finite number counted in units of `2 ^ base`, for a base that is not above its exponent. -/
def atBase (negative : Bool) (significand : Nat) (exponent base : Int) : Int :=
  signed negative (significand <<< (exponent - base).toNat)

/-- The order of two numbers by value. A value that is not a number is incomparable, also
with itself. -/
def compare : Binary64 → Binary64 → Option Ordering
  | .nan, _ | _, .nan => none
  | .infinite a, .infinite b =>
      some (if a = b then .eq else if a then .lt else .gt)
  | .infinite a, .finite .. => some (if a then .lt else .gt)
  | .finite .., .infinite b => some (if b then .gt else .lt)
  | .finite n m e, .finite n' m' e' =>
      let base := min e e'
      some (Ord.compare (atBase n m e base) (atBase n' m' e' base))

/-- Equality by value: the two zeros are equal, and what is not a number equals nothing. -/
def equal (a b : Binary64) : Bool :=
  a.compare b == some .eq

def isFinite : Binary64 → Bool
  | .finite .. => true
  | _ => false

/-- The value of a positive finite number as a ratio. -/
def ratio (significand : Nat) (exponent : Int) : Nat × Nat :=
  if 0 ≤ exponent then (significand <<< exponent.toNat, 1)
  else (significand, 1 <<< (-exponent).toNat)

/-- The product, rounded once. -/
def mul : Binary64 → Binary64 → Binary64
  | .nan, _ | _, .nan => .nan
  | .infinite a, .infinite b => .infinite (a != b)
  | .infinite a, .finite b m _ | .finite b m _, .infinite a =>
      if m = 0 then .nan else .infinite (a != b)
  | .finite a m e, .finite b m' e' =>
      let (numerator, denominator) := ratio (m * m') (e + e')
      ofRatio (a != b) numerator denominator

/-- The quotient, rounded once. -/
def div : Binary64 → Binary64 → Binary64
  | .nan, _ | _, .nan => .nan
  | .infinite _, .infinite _ => .nan
  | .infinite a, .finite b .. => .infinite (a != b)
  | .finite a .., .infinite b => .finite (a != b) 0 leastExponent
  | .finite a m e, .finite b m' e' =>
      if m' = 0 then (if m = 0 then .nan else .infinite (a != b))
      else
        let (numerator, denominator) := ratio m (e - e')
        ofRatio (a != b) numerator (denominator * m')

def neg : Binary64 → Binary64
  | .finite n m e => .finite (!n) m e
  | .infinite n => .infinite (!n)
  | .nan => .nan

/-- Whether a number is an integer; such numbers pass where an integer is asked for. -/
def isIntegral : Binary64 → Bool
  | .finite _ m e => 0 ≤ e || m % (1 <<< (-e).toNat) == 0
  | _ => false

end Binary64

end Remediation
