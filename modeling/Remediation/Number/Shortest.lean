import Remediation.Number.Binary64

/-!
The shortest decimal digits that read back as a given double. A number stands for the interval
of reals that round to it; the fewest digits that name a point of this interval are chosen, and
among those the point nearest to the number. `Digits.render` lays the digits out by a `Layout`,
which says where positional notation ends.
-/

namespace Remediation

/-- A positive decimal `digits * 10 ^ exponent`. -/
structure Digits where
  digits : Nat
  exponent : Int
  deriving DecidableEq, Repr

namespace Digits

/-- The half-open decision of the rounding interval around `significand * 2 ^ exponent`, with
everything counted in units of `2 ^ (exponent - 2)`: lower end, value and upper end. The lower
neighbour is half as far below a power of two. -/
def interval (significand : Nat) (exponent : Int) : Nat × Nat × Nat :=
  let lower :=
    if significand = Binary64.leastFull ∧ Binary64.leastExponent < exponent then 4 * significand - 1
    else 4 * significand - 2
  (lower, 4 * significand, 4 * significand + 2)

/-- Whether a multiple of a power of ten lies in the interval; its ends belong to it when the
significand is even, for a tie rounds to even. -/
def reads (significand : Nat) (exponent : Int) (candidate : Digits) : Bool :=
  let (lower, _, upper) := interval significand exponent
  let (p, q) := Binary64.powerOfTen candidate.exponent
  let (u, v) := Binary64.ratio 1 (exponent - 2)
  let left := candidate.digits * p * v
  let below := lower * u * q
  let above := upper * u * q
  if significand % 2 = 0 then below ≤ left && left ≤ above
  else below < left && left < above

/-- The two multiples of `10 ^ k` next to the value, the nearer one first; of two equally near
the even one comes first. -/
def neighbours (significand : Nat) (exponent k : Int) : List Digits :=
  let (p, q) := Binary64.powerOfTen k
  let (u, v) := Binary64.ratio significand exponent
  let numerator := u * q
  let denominator := v * p
  let down := numerator / denominator
  let twice := 2 * (numerator % denominator)
  let downFirst := twice < denominator || (twice == denominator && down % 2 == 0)
  if downFirst then [⟨down, k⟩, ⟨down + 1, k⟩] else [⟨down + 1, k⟩, ⟨down, k⟩]

/-- The first grid, from the coarsest on, that has a point in the interval. -/
def search (significand : Nat) (exponent : Int) : Nat → Int → Digits
  | 0, k => ⟨(neighbours significand exponent k).head?.elim 0 Digits.digits, k⟩
  | fuel + 1, k =>
      match (neighbours significand exponent k).filter
          (fun d => 0 < d.digits && reads significand exponent d) with
      | d :: _ => d
      | [] => search significand exponent fuel (k - 1)

/-- Drops the zeros at the end of the digits. -/
def strip : Nat → Digits → Digits
  | 0, d => d
  | fuel + 1, d =>
      if d.digits % 10 = 0 && 0 < d.digits then strip fuel ⟨d.digits / 10, d.exponent + 1⟩ else d

/-- An upper estimate of the decimal exponent of a number's leading digit. -/
def topExponent (significand : Nat) (exponent : Int) : Int :=
  ((significand.log2 : Int) + exponent) * 30103 / 100000 + 1

/-- The shortest digits of a positive number. -/
def shortest (significand : Nat) (exponent : Int) : Digits :=
  strip 20 (search significand exponent 20 (topExponent significand exponent))

/-- How a decimal is laid out. `leastPositional` and `endPositional` bound the exponents of
the leading digit that are written positionally; outside them the number is scientific. -/
structure Layout where
  leastPositional : Int
  endPositional : Int
  /-- Whether an integral value written positionally ends in `.0`. -/
  keepsFraction : Bool
  /-- Whether a positive exponent has its sign written. -/
  plusInExponent : Bool

/-- The decimal notation of a natural number. -/
def naturalText (n : Nat) : String := String.ofList (Nat.toDigits 10 n)

/-- The text of a positive decimal. -/
def render (layout : Layout) (d : Digits) : String :=
  let text := Nat.toDigits 10 d.digits
  let leading : Int := d.exponent + text.length - 1
  if layout.leastPositional ≤ leading ∧ leading < layout.endPositional then
    if 0 ≤ d.exponent then
      String.ofList (text ++ List.replicate d.exponent.toNat '0')
        ++ (if layout.keepsFraction then ".0" else "")
    else if 0 ≤ leading then
      String.ofList (text.take (leading.toNat + 1) ++ '.' :: text.drop (leading.toNat + 1))
    else
      "0." ++ String.ofList (List.replicate (-leading - 1).toNat '0' ++ text)
  else
    let exponentText :=
      if leading < 0 then "-" ++ naturalText leading.natAbs
      else (if layout.plusInExponent then "+" else "") ++ naturalText leading.natAbs
    match text with
    | [c] => String.singleton c ++ "e" ++ exponentText
    | c :: rest => String.singleton c ++ "." ++ String.ofList rest ++ "e" ++ exponentText
    | [] => ""

end Digits

namespace Binary64

/-- The text of a number under a layout. -/
def render (layout : Digits.Layout) : Binary64 → String
  | .nan => "NaN"
  | .infinite negative => if negative then "-inf" else "inf"
  | .finite negative significand exponent =>
      let body :=
        if significand = 0 then (if layout.keepsFraction then "0.0" else "0")
        else (Digits.shortest significand exponent).render layout
      if negative then "-" ++ body else body

end Binary64

end Remediation
