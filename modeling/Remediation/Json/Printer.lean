import Remediation.Json.Basic
import Remediation.Number.Shortest

/-!
The text of JSON values: compact on one line, or pretty over lines that are indented by two
spaces. Fields are written in the order in which the value holds them.
-/

namespace Remediation

/-- Doubles in JSON text are positional from `1e-5` up to `1e16`, keep the fraction of an
integral value and write the sign of a positive exponent. -/
def Json.numberLayout : Digits.Layout :=
  {
    leastPositional := -5,
    endPositional := 16,
    keepsFraction := true,
    plusInExponent := true
  }

namespace Number

/-- The text of a number; a double that is not finite has none and is written as null. -/
def text : Number → String
  | .int value => toString value
  | .float value => if value.isFinite then value.render Json.numberLayout else "null"

end Number

namespace Json

def hexDigit (n : Nat) : Char :=
  Char.ofNat (if n < 10 then 48 + n else 87 + n)

/-- A character inside quotes: quotes, backslashes and control characters are escaped. -/
def escapeChar (c : Char) : List Char :=
  match c with
  | '"' => ['\\', '"']
  | '\\' => ['\\', '\\']
  | '\n' => ['\\', 'n']
  | '\r' => ['\\', 'r']
  | '\t' => ['\\', 't']
  | c =>
      if c.toNat = 8 then ['\\', 'b']
      else if c.toNat = 12 then ['\\', 'f']
      else if c.toNat < 32 then
        ['\\', 'u', '0', '0', hexDigit (c.toNat / 16), hexDigit (c.toNat % 16)]
      else [c]

/-- A string in quotes. -/
def quote (s : String) : String :=
  String.ofList ('"' :: s.toList.flatMap escapeChar ++ ['"'])

mutual

/-- The compact text of a value. -/
def text : Json → String
  | .null => "null"
  | .bool b => if b then "true" else "false"
  | .number n => n.text
  | .string s => quote s
  | .array items => "[" ++ ",".intercalate (itemTexts items) ++ "]"
  | .object fields => "\x7b" ++ ",".intercalate (fieldTexts fields) ++ "\x7d"

def itemTexts : List Json → List String
  | [] => []
  | item :: rest => text item :: itemTexts rest

def fieldTexts : List (String × Json) → List String
  | [] => []
  | (key, value) :: rest => (quote key ++ ":" ++ text value) :: fieldTexts rest

end

/-- The start of a line at a depth. -/
def lineStart (depth : Nat) : String :=
  "\n" ++ String.ofList (List.replicate (2 * depth) ' ')

/-- Parts between brackets, each on a line of its own; no parts leave the brackets empty. -/
def bracketed (opening closing : String) (depth : Nat) (parts : List String) : String :=
  if parts.isEmpty then opening ++ closing
  else
    opening ++ lineStart (depth + 1) ++ ("," ++ lineStart (depth + 1)).intercalate parts
      ++ lineStart depth ++ closing

mutual

/-- The pretty text of a value that starts at a depth. -/
def prettyAt (depth : Nat) : Json → String
  | .array items => bracketed "[" "]" depth (prettyItems (depth + 1) items)
  | .object fields => bracketed "\x7b" "\x7d" depth (prettyFields (depth + 1) fields)
  | .null => "null"
  | .bool b => if b then "true" else "false"
  | .number n => n.text
  | .string s => quote s

def prettyItems (depth : Nat) : List Json → List String
  | [] => []
  | item :: rest => prettyAt depth item :: prettyItems depth rest

def prettyFields (depth : Nat) : List (String × Json) → List String
  | [] => []
  | (key, value) :: rest =>
      (quote key ++ ": " ++ prettyAt depth value) :: prettyFields depth rest

end

/-- The pretty text of a value. -/
def pretty (json : Json) : String := prettyAt 0 json

end Json

end Remediation
