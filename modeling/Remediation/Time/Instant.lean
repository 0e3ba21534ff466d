/-!
Points in time, read and written in the form of RFC 3339. They are kept as seconds since the
start of 1970 in universal time and nanoseconds, of which a leap second has more than a billion.
-/

namespace Remediation

structure Instant where
  /-- Seconds since the start of 1970, leap seconds not counted. -/
  seconds : Int
  /-- Nanoseconds of the second, which go on during a leap second. -/
  nanos : Nat
  deriving DecidableEq, Repr

namespace Instant

def secondsPerDay : Int := 86400

def isLeapYear (year : Int) : Bool :=
  year % 4 = 0 && (year % 100 ≠ 0 || year % 400 = 0)

def daysInMonth (year : Int) (month : Nat) : Nat :=
  if month = 2 then (if isLeapYear year then 29 else 28)
  else if month = 4 ∨ month = 6 ∨ month = 9 ∨ month = 11 then 30
  else 31

/-- The number of days from the start of 1970 to a date. Years are counted from March, so that
the leap day ends a year. -/
def daysFromDate (year : Int) (month day : Nat) : Int :=
  let year := if month ≤ 2 then year - 1 else year
  let era := year / 400
  let yearOfEra := year % 400
  let dayOfYear : Int := (153 * ((month + 9) % 12) + 2) / 5 + day - 1
  let dayOfEra := yearOfEra * 365 + yearOfEra / 4 - yearOfEra / 100 + dayOfYear
  era * 146097 + dayOfEra - 719468

/-- The date that many days from the start of 1970: year, month and day. -/
def dateFromDays (days : Int) : Int × Nat × Nat :=
  let days := days + 719468
  let era := days / 146097
  let dayOfEra := days % 146097
  let yearOfEra :=
    (dayOfEra - dayOfEra / 1460 + dayOfEra / 36524 - dayOfEra / 146096) / 365
  let dayOfYear := dayOfEra - (365 * yearOfEra + yearOfEra / 4 - yearOfEra / 100)
  let shifted := (5 * dayOfYear + 2) / 153
  let day := dayOfYear - (153 * shifted + 2) / 5 + 1
  let month := if shifted < 10 then shifted + 3 else shifted - 9
  let year := yearOfEra + era * 400 + (if month ≤ 2 then 1 else 0)
  (year, month.toNat, day.toNat)

/-! ### Reading -/

/-- Reads exactly as many digits as are asked for. -/
def digits? (count : Nat) (cs : List Char) : Option (Nat × List Char) :=
  let digits := cs.take count
  if digits.length = count ∧ digits.all Char.isDigit then
    some (digits.foldl (fun n c => n * 10 + (c.toNat - 48)) 0, cs.drop count)
  else none

def char? (c : Char) : List Char → Option (List Char)
  | [] => none
  | d :: rest => if c = d then some rest else none

/-- Reads the nanoseconds behind a point; digits after the ninth are passed over. -/
def fraction? : List Char → Option (Nat × List Char)
  | '.' :: rest =>
      let digits := rest.takeWhile Char.isDigit
      if digits.isEmpty then none
      else
        let kept := (digits ++ List.replicate 9 '0').take 9
        some (kept.foldl (fun n c => n * 10 + (c.toNat - 48)) 0, rest.dropWhile Char.isDigit)
  | rest => some (0, rest)

/-- Reads an offset from universal time, in seconds. -/
def offset? : List Char → Option Int
  | ['Z'] | ['z'] => some 0
  | sign :: rest => do
      let factor ←
        if sign = '+' then some 1 else if sign = '-' ∨ sign = '−' then some (-1 : Int) else none
      let (hours, rest) ← digits? 2 rest
      let rest ← char? ':' rest
      let (minutes, rest) ← digits? 2 rest
      if rest.isEmpty ∧ minutes < 60 ∧ hours < 24 then
        some (factor * (hours * 3600 + minutes * 60))
      else none
  | [] => none

/-- Reads a point in time. -/
def parse? (text : String) : Option Instant := do
  let (year, rest) ← digits? 4 text.toList
  let rest ← char? '-' rest
  let (month, rest) ← digits? 2 rest
  let rest ← char? '-' rest
  let (day, rest) ← digits? 2 rest
  let rest ← char? 'T' rest <|> char? 't' rest <|> char? ' ' rest
  let (hour, rest) ← digits? 2 rest
  let rest ← char? ':' rest
  let (minute, rest) ← digits? 2 rest
  let rest ← char? ':' rest
  let (second, rest) ← digits? 2 rest
  let (nanos, rest) ← fraction? rest
  let offset ← offset? rest
  if 1 ≤ month ∧ month ≤ 12 ∧ 1 ≤ day ∧ day ≤ daysInMonth year month ∧ hour < 24 ∧ minute < 60
      ∧ second ≤ 60 then
    let (second, nanos) := if second = 60 then (59, nanos + 1000000000) else (second, nanos)
    let ofDay : Int := (hour * 3600 + minute * 60 + second : Nat)
    some ⟨daysFromDate year month day * secondsPerDay + ofDay - offset, nanos⟩
  else none

/-! ### Writing -/

/-- A number with at least as many digits as are asked for. -/
def padded (width n : Nat) : String :=
  let digits := Nat.toDigits 10 n
  String.ofList (List.replicate (width - digits.length) '0' ++ digits)

/-- A year; those beyond four digits have a sign. -/
def yearText (year : Int) : String :=
  if year < 0 then "-" ++ padded 4 year.natAbs
  else if 9999 < year then "+" ++ padded 4 year.toNat
  else padded 4 year.toNat

/-- The fraction of a second, with as many groups of three digits as it needs. -/
def fractionText (nanos : Nat) : String :=
  if nanos = 0 then ""
  else if nanos % 1000000 = 0 then "." ++ padded 3 (nanos / 1000000)
  else if nanos % 1000 = 0 then "." ++ padded 6 (nanos / 1000)
  else "." ++ padded 9 nanos

/-- The text of a point in time, in universal time. -/
def text (instant : Instant) : String :=
  let (year, month, day) := dateFromDays (instant.seconds / secondsPerDay)
  let ofDay := (instant.seconds % secondsPerDay).toNat
  let isLeap := 1000000000 ≤ instant.nanos
  let second := ofDay % 60 + if isLeap then 1 else 0
  let nanos := instant.nanos % 1000000000
  s!"{yearText year}-{padded 2 month}-{padded 2 day}T{padded 2 (ofDay / 3600)}"
    ++ s!":{padded 2 (ofDay / 60 % 60)}:{padded 2 second}{fractionText nanos}Z"

/-- The nanoseconds from one point in time to another. A leap second that lies between the two
counts, as far as the times of day show it. -/
def nanosSince (later earlier : Instant) : Int :=
  let ofDay (instant : Instant) : Int := instant.seconds % secondsPerDay
  let leap : Int :=
    if ofDay earlier < ofDay later then (if 1000000000 ≤ earlier.nanos then 1 else 0)
    else if ofDay later < ofDay earlier then (if 1000000000 ≤ later.nanos then -1 else 0)
    else 0
  (later.seconds - earlier.seconds + leap) * 1000000000 + later.nanos - earlier.nanos

/-- The milliseconds from one point in time to another, cut off toward zero. -/
def millisSince (later earlier : Instant) : Int :=
  (later.nanosSince earlier).tdiv 1000000

end Instant

end Remediation
