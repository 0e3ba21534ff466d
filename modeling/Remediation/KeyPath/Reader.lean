import Remediation.Json.Reader
import Remediation.KeyPath.Basic
import Remediation.Text.Blank

/-!
Reading key paths. Two scanners find where a bracket closes and where a comparison stands, each
passing over quoted texts; the reader cuts the path into segments with them and reads the paths
inside selectors in the same way.
-/

namespace Remediation.KeyPath

/-- The characters that open a quoted text, which the same character closes. -/
def isQuote (c : Char) : Bool :=
  c == '\'' || c == '`' || c == '"'

/-- The quote that is open after a character. -/
def quoteAfter (quote : Option Char) (c : Char) : Option Char :=
  match quote with
  | some q => if c = q then none else some q
  | none => if isQuote c then some c else none

/-- Splits at the bracket that closes `depth` open ones, and drops this bracket. Brackets in
quotes do not count. -/
def splitAtClosing : Option Char → Nat → List Char → Option (List Char × List Char)
  | _, _, [] => none
  | quote, depth, c :: rest =>
      let after := quoteAfter quote c
      if quote.isNone ∧ c = ']' ∧ depth ≤ 1 then some ([], rest)
      else
        let depth :=
          if quote.isNone ∧ c = '[' then depth + 1
          else if quote.isNone ∧ c = ']' then depth - 1
          else depth
        (splitAtClosing after depth rest).map (fun (inner, rest) => (c :: inner, rest))

/-- The comparison that a text starts with, and what follows it. -/
def comparisonAt? : List Char → Option (Comparison × List Char)
  | '=' :: '=' :: rest => some (.eq, rest)
  | '!' :: '=' :: rest => some (.ne, rest)
  | '>' :: '=' :: rest => some (.ge, rest)
  | '<' :: '=' :: rest => some (.le, rest)
  | '>' :: rest => some (.gt, rest)
  | '<' :: rest => some (.lt, rest)
  | _ => none

/-- Splits a selector at its first comparison outside quotes. -/
def splitAtComparison : Option Char → List Char → Option (List Char × Comparison × List Char)
  | _, [] => none
  | quote, c :: rest =>
      let found := if quote.isNone && !isQuote c then comparisonAt? (c :: rest) else none
      match found with
      | some (comparison, right) => some ([], comparison, right)
      | none =>
          (splitAtComparison (quoteAfter quote c) rest).map
            (fun (left, comparison, right) => (c :: left, comparison, right))

/-- The value of decimal digits; none without digits or with another character. -/
def digits? (cs : List Char) : Option Nat :=
  if cs.isEmpty || !cs.all Char.isDigit then none
  else some (cs.foldl (fun n c => n * 10 + Json.digitValue c) 0)

/-- An integer of 64 bits with an optional sign. -/
def integer? (cs : List Char) : Option Int := do
  let value ←
    match cs with
    | '-' :: rest => (digits? rest).map (fun n => -(n : Int))
    | '+' :: rest => (digits? rest).map Int.ofNat
    | cs => (digits? cs).map Int.ofNat
  if -0x8000000000000000 ≤ value ∧ value < 0x8000000000000000 then some value else none

/-- What stands between the first character and the last, if both are the given one. -/
def between? (q : Char) (cs : List Char) : Option (List Char) :=
  match cs with
  | c :: d :: rest =>
      if c = q ∧ (d :: rest).getLast? = some q then some (d :: rest).dropLast else none
  | _ => none

/-- The literal of a selector: a string in single quotes, or a JSON text, in backticks or
bare. -/
def literal? (cs : List Char) : Option Json :=
  match between? '\'' cs with
  | some inner => some (.string (String.ofList inner))
  | none =>
      match between? '`' cs with
      | some inner => Json.read (String.ofList inner)
      | none => Json.read (String.ofList cs)

/-- Reads a selector with a reader for the paths inside it. -/
def readSelector (inner : List Char → Except MalformedPath (List Step)) (source : String)
    (cs : List Char) : Except MalformedPath Step :=
  if cs.isEmpty then .error ⟨source, .emptySelector⟩
  else
    match splitAtComparison none cs with
    | none => do
        let steps ← inner cs
        .ok (.select steps none)
    | some (left, comparison, right) =>
        let left := Text.trim left
        let right := Text.trim right
        if left.isEmpty then .error ⟨source, .noLeftSide⟩
        else do
          let steps ← inner left
          match literal? right with
          | some literal => .ok (.select steps (some (comparison, literal)))
          | none => .error ⟨source, .invalidLiteral (String.ofList right)⟩

/-- Reads what stands between brackets. -/
def readBracket (inner : List Char → Except MalformedPath (List Step)) (source : String)
    (cs : List Char) : Except MalformedPath Step :=
  match Text.trim cs with
  | [] => .ok .flatten
  | ['*'] => .ok .project
  | '?' :: selector => readSelector inner source (Text.trim selector)
  | cs =>
      match integer? cs with
      | some position => .ok (.index position)
      | none => .error ⟨source, .invalidIndex (String.ofList cs)⟩

/-- Reads the brackets at the front of a text. -/
def readBrackets (inner : List Char → Except MalformedPath (List Step)) (source : String)
    : Nat → List Char → Except MalformedPath (List Step × List Char)
  | 0, cs => .ok ([], cs)
  | fuel + 1, cs =>
      match cs with
      | '[' :: rest =>
          match splitAtClosing none 1 rest with
          | none => .error ⟨source, .unbalancedBracket⟩
          | some (content, rest) => do
              let step ← readBracket inner source content
              let (steps, rest) ← readBrackets inner source fuel rest
              .ok (step :: steps, rest)
      | cs => .ok ([], cs)

/-- The characters that end a bare field name. -/
def endsName (c : Char) : Bool :=
  c == '.' || c == '[' || c == ']'

/-- Reads the field at the front of a segment, if the segment does not start with a bracket. -/
def readField (source : String) (cs : List Char)
    : Except MalformedPath (List Step × List Char) :=
  match cs with
  | [] => .error ⟨source, .endsWithDot⟩
  | '[' :: _ => .ok ([], cs)
  | '"' :: rest =>
      match rest.dropWhile (· ≠ '"') with
      | _ :: after => .ok ([.field (String.ofList (rest.takeWhile (· ≠ '"')))], after)
      | [] => .error ⟨source, .unterminatedQuote⟩
  | cs =>
      let name := Text.trim (cs.takeWhile (!endsName ·))
      .ok ([.field (String.ofList name)], cs.dropWhile (!endsName ·))

/-- Reads segments, which are set apart by dots. -/
def readSegments (inner : List Char → Except MalformedPath (List Step)) (source : String)
    : Nat → List Char → Except MalformedPath (List Step)
  | 0, _ => .ok []
  | fuel + 1, cs => do
      let (field, rest) ← readField source cs
      let (brackets, rest) ← readBrackets inner source rest.length rest
      match rest with
      | [] => .ok (field ++ brackets)
      | '.' :: rest => do
          let steps ← readSegments inner source fuel rest
          .ok (field ++ brackets ++ steps)
      | c :: _ => .error ⟨source, .unexpected c⟩

def Step.isUnnamed : Step → Bool
  | .field name => name.isEmpty
  | _ => false

/-- Reads the steps of a path whose selectors are nested less deep than `depth`. -/
def readSteps : Nat → List Char → Except MalformedPath (List Step)
  | 0, _ => .ok []
  | depth + 1, cs =>
      let source := String.ofList cs
      match Text.trim cs with
      | [] => .error ⟨source, .emptyPath⟩
      | ['@'] => .ok []
      | trimmed => do
          let steps ← readSegments (readSteps depth) source (trimmed.length + 1) trimmed
          if steps.any Step.isUnnamed then .error ⟨source, .emptyFieldName⟩ else .ok steps

/-- Reads a key path. A selector is shorter than the path around it, so that the length of the
text bounds how deep they can be nested. -/
def parse (source : String) : Except MalformedPath KeyPath := do
  let cs := source.toList
  let steps ← readSteps (cs.length + 1) cs
  .ok ⟨source, steps⟩

end Remediation.KeyPath
