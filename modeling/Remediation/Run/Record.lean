import Remediation.Number.Radix
import Remediation.Run.Report
import Remediation.Time.Instant

/-!
A report together with the name of its run and the times at which the run started and finished.
-/

namespace Remediation

/-- The name of a run, a number of 128 bits. -/
structure RunId where
  bits : Nat
  deriving DecidableEq, Repr

namespace RunId

def ofHex? (cs : List Char) : Option RunId :=
  if cs.length = 32 then (digitsIn? 16 cs).map RunId.mk else none

/-- The digits of groups that hyphens part; none if the groups have other lengths. -/
def ungrouped? (cs : List Char) : Option (List Char) :=
  let isHyphenAt (place : Nat) : Bool := cs[place]? == some '-'
  if cs.length = 36 ∧ [8, 13, 18, 23].all isHyphenAt then some (cs.filter (· ≠ '-')) else none

/-- Reads a name: its digits alone, in groups, in braces or behind `urn:uuid:`. -/
def parse? (text : String) : Option RunId :=
  let cs := text.toList
  let urn := "urn:uuid:".toList
  if urn.isPrefixOf cs then (ungrouped? (cs.drop urn.length)).bind ofHex?
  else
    match cs, cs.getLast? with
    | '\x7b' :: rest, some '\x7d' => (ungrouped? rest.dropLast).bind ofHex?
    | cs, _ => ((ungrouped? cs).getD cs |> ofHex?)

/-- The digits of a name from the highest on. -/
def digits (id : RunId) : List Char :=
  (List.range 32).map (fun place =>
    let digit := id.bits >>> (4 * (31 - place)) % 16
    Char.ofNat (if digit < 10 then 48 + digit else 87 + digit))

/-- The name in groups, in lower case. -/
def text (id : RunId) : String :=
  let group (start length : Nat) := String.ofList ((id.digits.drop start).take length)
  "-".intercalate [group 0 8, group 8 4, group 12 4, group 16 4, group 20 12]

end RunId

/-- A report with the name and the times of its run. -/
structure RunRecord where
  id : RunId
  startedAt : Instant
  finishedAt : Instant
  report : RunReport
  deriving Repr

/-- The milliseconds that a run took. -/
def RunRecord.millis (record : RunRecord) : Int :=
  record.finishedAt.millisSince record.startedAt

end Remediation
