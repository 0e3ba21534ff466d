import Remediation.Json.Basic
import Remediation.Number.Binary64
import Remediation.Number.Radix

/-!
The scalars of YAML. A plain scalar without a tag is null, a truth value, a number or a string
by its text; one of another style is a string, and a tag of the core schema decides otherwise.
-/

namespace Remediation.Yaml

inductive ScalarStyle where
  | plain
  | singleQuoted
  | doubleQuoted
  | literal
  | folded
  deriving DecidableEq, Repr

/-- A scalar with its text unescaped and folded. -/
structure Scalar where
  text : String
  style : ScalarStyle
  tag : Option String
  deriving DecidableEq, Repr

/-- What a scalar stands for. -/
inductive Meaning where
  | null
  | bool (value : Bool)
  | int (value : Int)
  /-- An integer of more than 64 bits, which no document has room for. -/
  | wideInt (value : Int)
  | float (value : Binary64)
  | string (text : String)
  /-- A text that is not what its tag says. -/
  | mistagged (text : String) (expected : String)
  deriving DecidableEq, Repr

/-- The prefix of the tags of the core schema. -/
def corePrefix : String := "tag:yaml.org,2002:"

def coreTag (name : String) : String := corePrefix ++ name

def isNullText (text : String) : Bool :=
  text == "null" || text == "Null" || text == "NULL" || text == "~"

def boolOf? (text : String) : Option Bool :=
  if text == "true" || text == "True" || text == "TRUE" then some true
  else if text == "false" || text == "False" || text == "FALSE" then some false
  else none

/-- A text of digits that starts with a zero and goes on, which is no number. -/
def isPaddedDigits (cs : List Char) : Bool :=
  let digits :=
    match cs with
    | '-' :: rest | '+' :: rest => rest
    | cs => cs
  match digits with
  | '0' :: c :: rest => (c :: rest).all Char.isDigit
  | _ => false

/-- The base and the digits of an integer without its sign. -/
def basedDigits? : List Char → Option (Nat × List Char)
  | '0' :: 'x' :: rest => some (16, rest)
  | '0' :: 'o' :: rest => some (8, rest)
  | '0' :: 'b' :: rest => some (2, rest)
  | _ => none

/-- The magnitude of an integer's text after its sign; `padded` says whether the whole text is
digits with a zero in front. -/
def magnitude? (padded : Bool) (cs : List Char) : Option Nat :=
  match (basedDigits? cs).bind (fun (base, digits) => digitsIn? base digits) with
  | some value => some value
  | none => if padded then none else digitsIn? 10 cs

/-- The integer of a text, with an optional sign. -/
def intOf? (text : String) : Option Int :=
  let cs := text.toList
  let padded := isPaddedDigits cs
  match cs with
  | '+' :: rest => (magnitude? padded rest).map Int.ofNat
  | '-' :: rest => (magnitude? padded rest).map (fun n => -(n : Int))
  | cs => (magnitude? padded cs).map Int.ofNat

def isWide (value : Int) : Bool :=
  value < -0x8000000000000000 || 0x10000000000000000 ≤ value

/-- Whether an integer is beyond even 128 bits, and so not read as an integer at all. -/
def isHuge (value : Int) : Bool :=
  value < -0x80000000000000000000000000000000 || 0x100000000000000000000000000000000 ≤ value

/-- Reads an unsigned decimal: digits with an optional point and an optional exponent. -/
def decimal? (cs : List Char) : Option (Nat × Int) := do
  let whole := cs.takeWhile Char.isDigit
  let rest := cs.dropWhile Char.isDigit
  let (fraction, rest) :=
    match rest with
    | '.' :: after => (after.takeWhile Char.isDigit, after.dropWhile Char.isDigit)
    | rest => ([], rest)
  if whole.isEmpty && fraction.isEmpty then none
  else
    let digits := (whole ++ fraction).foldl (fun n c => n * 10 + (c.toNat - 48)) 0
    let exponent ←
      match rest with
      | [] => some 0
      | 'e' :: after | 'E' :: after =>
          match after with
          | '-' :: ds => (digitsIn? 10 ds).map (fun n => -(n : Int))
          | '+' :: ds => (digitsIn? 10 ds).map Int.ofNat
          | ds => (digitsIn? 10 ds).map Int.ofNat
      | _ => none
    some (digits, exponent - fraction.length)

/-- The double of a text: a decimal in range, an infinity, or what is not a number. -/
def floatOf? (text : String) : Option Binary64 :=
  match text with
  | ".inf" | ".Inf" | ".INF" | "+.inf" | "+.Inf" | "+.INF" => some (.infinite false)
  | "-.inf" | "-.Inf" | "-.INF" => some (.infinite true)
  | ".nan" | ".NaN" | ".NAN" => some .nan
  | text => do
      let (negative, rest) :=
        match text.toList with
        | '+' :: rest => (false, rest)
        | '-' :: rest => (true, rest)
        | cs => (false, cs)
      let (digits, exponent) ← decimal? rest
      let value := Binary64.ofDecimal negative digits exponent
      if value.isFinite then some value else none

/-- What a text without a tag stands for when it is plain. -/
def plainMeaning (text : String) : Meaning :=
  if text.isEmpty || isNullText text then .null
  else
    match boolOf? text with
    | some value => .bool value
    | none =>
        match (intOf? text).filter (!isHuge ·) with
        | some value => if isWide value then .wideInt value else .int value
        | none =>
            if isPaddedDigits text.toList then .string text
            else
              match floatOf? text with
              | some value => .float value
              | none => .string text

namespace Scalar

/-- Whether the tag is one of an application, which starts with an exclamation mark. -/
def hasLocalTag (scalar : Scalar) : Bool :=
  scalar.tag.elim false (fun tag => tag.toList.head? == some '!')

def meaning (scalar : Scalar) : Meaning :=
  match scalar.tag with
  | none => if scalar.style = .plain then plainMeaning scalar.text else .string scalar.text
  | some tag =>
      if tag = coreTag "bool" then
        (boolOf? scalar.text).elim (.mistagged scalar.text "a boolean") .bool
      else if tag = coreTag "int" then
        match (intOf? scalar.text).filter (!isHuge ·) with
        | some value => if isWide value then .wideInt value else .int value
        | none => .mistagged scalar.text "an integer"
      else if tag = coreTag "float" then
        (floatOf? scalar.text).elim (.mistagged scalar.text "a float") .float
      else if tag = coreTag "null" then
        if isNullText scalar.text then .null else .mistagged scalar.text "null"
      else if scalar.hasLocalTag && scalar.style = .plain then plainMeaning scalar.text
      else .string scalar.text

/-- Whether a scalar may be read as a number of a kind that has a core tag. -/
def isLiteralFor (scalar : Scalar) (tag : String) : Bool :=
  scalar.style = .plain || (scalar.style = .literal && scalar.tag == some (coreTag tag))

end Scalar

end Remediation.Yaml
