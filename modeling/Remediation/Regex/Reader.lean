import Remediation.Regex.Syntax
import Remediation.Text.Blank
import Remediation.Text.Property

/-!
Reading regular expressions. In extended mode blanks and comments between the parts of a pattern
are passed over; `skip` does so, and each reader takes the mode as its first argument. Every
reader answers none where the text is no pattern, for all such texts are reported alike.
-/

namespace Remediation.Regex

def skipComment : List Char → List Char
  | [] => []
  | '\n' :: rest => rest
  | _ :: rest => skipComment rest

/-- Passes over blanks and comments in extended mode. -/
def skipFrom : Nat → List Char → List Char
  | 0, cs => cs
  | fuel + 1, cs =>
      match cs with
      | '#' :: rest => skipFrom fuel (skipComment rest)
      | c :: rest => if Text.isBlank c then skipFrom fuel rest else cs
      | [] => []

def skip (extended : Bool) (cs : List Char) : List Char :=
  if extended then skipFrom (cs.length + 1) cs else cs

def isHexDigit (c : Char) : Bool :=
  c.isDigit || ('a' ≤ c && c ≤ 'f') || ('A' ≤ c && c ≤ 'F')

def hexDigitValue (c : Char) : Nat :=
  if c.isDigit then c.toNat - 48 else if c.toNat < 97 then c.toNat - 55 else c.toNat - 87

/-- The character of a code point, unless the code point is a surrogate or too great. -/
def scalar? (n : Nat) : Option Char :=
  if h : n.isValidChar then some (Char.ofNatAux n h) else none

def hexValue (digits : List Char) : Nat :=
  digits.foldl (fun n c => n * 16 + hexDigitValue c) 0

/-- Reads a number of hexadecimal digits. -/
def readHexDigits (extended : Bool) : Nat → List Char → Option (List Char × List Char)
  | 0, cs => some ([], cs)
  | count + 1, c :: rest =>
      if isHexDigit c then
        (readHexDigits extended count (skip extended rest)).map
          (fun (digits, rest) => (c :: digits, rest))
      else none
  | _ + 1, [] => none

/-- Reads hexadecimal digits up to a closing brace. -/
def readHexBraced (extended : Bool) : Nat → List Char → Option (List Char × List Char)
  | 0, _ => none
  | fuel + 1, cs =>
      match cs with
      | '\x7d' :: rest => some ([], skip extended rest)
      | c :: rest =>
          if isHexDigit c then
            (readHexBraced extended fuel (skip extended rest)).map
              (fun (digits, rest) => (c :: digits, rest))
          else none
      | [] => none

/-- Reads a code point after the letter of its escape, which says how many digits it has unless
they stand in braces. -/
def readHex (extended : Bool) (letter : Char) (cs : List Char)
    : Option (Literal × List Char) :=
  match skip extended cs with
  | '\x7b' :: rest => do
      let (digits, rest) ← readHexBraced extended (rest.length + 1) (skip extended rest)
      if digits.isEmpty then none
      else
        let c ← scalar? (hexValue digits)
        some (⟨c, false⟩, rest)
  | cs => do
      let count := if letter = 'x' then 2 else if letter = 'u' then 4 else 8
      let (digits, rest) ← readHexDigits extended count cs
      let c ← scalar? (hexValue digits)
      some (⟨c, letter == 'x'⟩, rest)

/-- Splits a text at the first place where another one stands in it, which is dropped. -/
def splitAtText (separator : List Char) : List Char → Option (List Char × List Char)
  | [] => none
  | c :: rest =>
      if separator.isPrefixOf (c :: rest) then some ([], (c :: rest).drop separator.length)
      else (splitAtText separator rest).map (fun (before, after) => (c :: before, after))

/-- The query that the text between braces asks. -/
def queryOf (name : List Char) : Query :=
  match splitAtText ['!', '='] name with
  | some (property, value) => .valued property value false
  | none =>
      match splitAtText [':'] name with
      | some (property, value) => .valued property value true
      | none =>
          match splitAtText ['='] name with
          | some (property, value) => .valued property value true
          | none => .named name

/-- Reads a name up to a closing brace, without the blanks of extended mode. -/
def readBracedName (extended : Bool) : Nat → List Char → Option (List Char × List Char)
  | 0, _ => none
  | fuel + 1, cs =>
      match cs with
      | '\x7d' :: rest => some ([], rest)
      | c :: rest =>
          (readBracedName extended fuel (skip extended rest)).map
            (fun (name, rest) => (c :: name, rest))
      | [] => none

/-- Reads a property after the letter of its escape. -/
def readQuery (extended : Bool) (cs : List Char) : Option (Query × List Char) :=
  match skip extended cs with
  | '\x7b' :: rest =>
      (readBracedName extended (rest.length + 1) (skip extended rest)).map
        (fun (name, rest) => (queryOf name, rest))
  | '\\' :: _ | [] => none
  | c :: rest => some (.named [c], skip extended rest)

/-- What an escape or a single character stands for. -/
inductive Primitive where
  | literal (literal : Literal)
  | dot
  | anchor (anchor : Anchor)
  | letter (kind : LetterClass) (negated : Bool)
  | property (query : Query) (negated : Bool)

def isMeta (c : Char) : Bool :=
  "\\.+*?()|[]\x7b\x7d^$#&-~".toList.contains c

/-- Whether a character may be escaped and then stands for itself. -/
def isEscapable (c : Char) : Bool :=
  isMeta c || (c.toNat < 128 && !c.isAlphanum && c != '<' && c != '>')

/-- Reads the characters of a boundary's name. -/
def readBoundaryName (extended : Bool) : Nat → List Char → List Char × List Char
  | 0, cs => ([], cs)
  | fuel + 1, cs =>
      match cs with
      | c :: rest =>
          if c.isAlpha || c == '-' then
            let (name, rest) := readBoundaryName extended fuel (skip extended rest)
            (c :: name, rest)
          else ([], cs)
      | [] => ([], [])

def boundaryNamed? : String → Option Anchor
  | "start" => some .wordStart
  | "end" => some .wordEnd
  | "start-half" => some .wordStartHalf
  | "end-half" => some .wordEndHalf
  | _ => none

/-- Reads the name of a special boundary in braces. A brace that does not start a name belongs
to a repetition instead. -/
def readBoundary (extended : Bool) (cs : List Char) : Option (Anchor × List Char) :=
  match cs with
  | '\x7b' :: rest =>
      match skip extended rest with
      | [] => none
      | c :: rest' =>
          if c.isAlpha || c == '-' then
            let (name, after) := readBoundaryName extended (rest'.length + 1) (c :: rest')
            match after with
            | '\x7d' :: after =>
                (boundaryNamed? (String.ofList name)).map (fun anchor => (anchor, after))
            | _ => none
          else some (.wordBoundary, cs)
  | cs => some (.wordBoundary, cs)

/-- The character that a letter's escape stands for. -/
def controlEscape? : Char → Option Char
  | 'a' => some (Char.ofNat 7)
  | 'f' => some (Char.ofNat 12)
  | 't' => some '\t'
  | 'n' => some '\n'
  | 'r' => some '\r'
  | 'v' => some (Char.ofNat 11)
  | _ => none

/-- Reads what follows a backslash. -/
def readEscape (extended : Bool) : List Char → Option (Primitive × List Char)
  | [] => none
  | c :: rest =>
      match c with
      | 'x' | 'u' | 'U' =>
          (readHex extended c rest).map (fun (l, rest) => (.literal l, rest))
      | 'p' => (readQuery extended rest).map (fun (q, rest) => (.property q false, rest))
      | 'P' => (readQuery extended rest).map (fun (q, rest) => (.property q true, rest))
      | 'd' => some (.letter .digit false, rest)
      | 's' => some (.letter .space false, rest)
      | 'w' => some (.letter .word false, rest)
      | 'D' => some (.letter .digit true, rest)
      | 'S' => some (.letter .space true, rest)
      | 'W' => some (.letter .word true, rest)
      | 'A' => some (.anchor .textStart, rest)
      | 'z' => some (.anchor .textEnd, rest)
      | 'b' => (readBoundary extended rest).map (fun (a, rest) => (.anchor a, rest))
      | 'B' => some (.anchor .noWordBoundary, rest)
      | '<' => some (.anchor .wordStart, rest)
      | '>' => some (.anchor .wordEnd, rest)
      | c =>
          if isEscapable c then some (.literal ⟨c, false⟩, rest)
          else (controlEscape? c).map (fun c => (.literal ⟨c, false⟩, rest))

/-! ### Sets in square brackets -/

/-- The classes that are named between colons. -/
def asciiClass? : String → Option (List (Nat × Nat))
  | "alnum" => some [(48, 57), (65, 90), (97, 122)]
  | "alpha" => some [(65, 90), (97, 122)]
  | "ascii" => some [(0, 127)]
  | "blank" => some [(9, 9), (32, 32)]
  | "cntrl" => some [(0, 31), (127, 127)]
  | "digit" => some [(48, 57)]
  | "graph" => some [(33, 126)]
  | "lower" => some [(97, 122)]
  | "print" => some [(32, 126)]
  | "punct" => some [(33, 47), (58, 64), (91, 96), (123, 126)]
  | "space" => some [(9, 13), (32, 32)]
  | "upper" => some [(65, 90)]
  | "word" => some [(48, 57), (65, 90), (95, 95), (97, 122)]
  | "xdigit" => some [(48, 57), (65, 70), (97, 102)]
  | _ => none

/-- Reads the name of a class behind its mark. -/
def readClassName (negated : Bool) (cs : List Char) : Option (ClassItem × List Char) :=
  match cs.dropWhile (· ≠ ':') with
  | ':' :: ']' :: after =>
      (asciiClass? (String.ofList (cs.takeWhile (· ≠ ':')))).map
        (fun ranges => (.ascii ranges negated, after))
  | _ => none

/-- Reads a named class after its opening bracket; none if there is no such class. -/
def readAsciiClass : List Char → Option (ClassItem × List Char)
  | ':' :: '^' :: rest => readClassName true rest
  | ':' :: rest => readClassName false rest
  | _ => none

/-- Reads one end of a range, or an item that stands alone. -/
def readClassPrimitive (extended : Bool) : List Char → Option (Primitive × List Char)
  | '\\' :: rest => readEscape extended rest
  | c :: rest => some (.literal ⟨c, false⟩, rest)
  | [] => none

def Primitive.classItem? : Primitive → Option ClassItem
  | .literal l => some (.literal l)
  | .letter kind negated => some (.letter kind negated)
  | .property query negated => some (.property query negated)
  | .dot | .anchor _ => none

def Primitive.literal? : Primitive → Option Literal
  | .literal l => some l
  | _ => none

/-- The range between two literals, which have to be in order. -/
def range? (first last : Primitive) : Option ClassItem := do
  let first ← first.literal?
  let last ← last.literal?
  if first.char.toNat ≤ last.char.toNat then some (.range first last) else none

/-- Reads the end of a range. -/
def readRangeEnd (extended : Bool) (first : Primitive) (cs : List Char)
    : Option (ClassItem × List Char) := do
  let (last, rest) ← readClassPrimitive extended cs
  let item ← range? first last
  some (item, rest)

/-- Reads what follows an item that may start a range. A hyphen before a bracket or another hyphen
makes no range. -/
def readBehindItem (extended : Bool) (first : Primitive) (cs : List Char)
    : Option (ClassItem × List Char) :=
  match cs with
  | [] => none
  | '-' :: after => do
      let next := skip extended after
      if next.head? = some ']' ∨ next.head? = some '-' then
        let item ← first.classItem?
        some (item, cs)
      else readRangeEnd extended first next
  | _ => do
      let item ← first.classItem?
      some (item, cs)

/-- Reads an item or a range. -/
def readClassRange (extended : Bool) (cs : List Char) : Option (ClassItem × List Char) := do
  let (first, rest) ← readClassPrimitive extended cs
  readBehindItem extended first (skip extended rest)

/-- The items read so far, after the operation that stands before them. -/
def combined (before : Option (SetOperation × ClassItem)) (items : List ClassItem) : ClassItem :=
  match before with
  | none => .ofItems items.reverse
  | some (operation, left) => .combination operation left (.ofItems items.reverse)

/-- Takes the hyphens at the front of a set, which stand for themselves. -/
def readHyphens (extended : Bool) : Nat → List Char → List ClassItem × List Char
  | 0, cs => ([], cs)
  | fuel + 1, cs =>
      match cs with
      | '-' :: rest =>
          let (items, rest) := readHyphens extended fuel (skip extended rest)
          (.literal ⟨'-', false⟩ :: items, rest)
      | cs => ([], cs)

/-- Reads the mark of a negated set. -/
def readNegation (extended : Bool) (cs : List Char) : Bool × List Char :=
  match cs with
  | '^' :: rest => (true, skip extended rest)
  | cs => (false, cs)

/-- Reads the items at the front of a set that are literal there only. -/
def readFirstItems (extended : Bool) (cs : List Char) : Option (List ClassItem × List Char) :=
  let (hyphens, cs) := readHyphens extended (cs.length + 1) cs
  match cs with
  | [] => none
  | ']' :: rest =>
      if hyphens.isEmpty then
        match skip extended rest with
        | [] => none
        | rest => some ([.literal ⟨']', false⟩], rest)
      else some (hyphens, cs)
  | cs => some (hyphens, cs)

/-- Reads the start of a set after its opening bracket: whether it is negated, and its first
items. -/
def readClassOpening (extended : Bool) (cs : List Char)
    : Option ((Bool × List ClassItem) × List Char) :=
  let (negated, cs) := readNegation extended (skip extended cs)
  (readFirstItems extended cs).map (fun (items, rest) => ((negated, items), rest))

/-- Reads a set after its opening bracket, and whether it is negated. The rest of it, behind the
items it starts with, is read by `inside`. -/
def readBracketed (inside : List ClassItem → List Char → Option (ClassItem × List Char))
    (extended : Bool) (cs : List Char)
    : Option ((Bool × ClassItem) × List Char) := do
  let ((negated, opening), rest) ← readClassOpening extended cs
  let (content, rest) ← inside opening rest
  some ((negated, content), rest)

/-- Reads an item of a set: a class by its name, a set inside of the set, or a range. -/
def readClassItem (inside : List ClassItem → List Char → Option (ClassItem × List Char))
    (extended : Bool) (cs : List Char)
    : Option (ClassItem × List Char) :=
  match cs with
  | '[' :: rest =>
      match readAsciiClass rest with
      | some found => some found
      | none =>
          (readBracketed inside extended rest).map
            (fun ((negated, content), rest) => (.bracketed negated content, rest))
  | cs => readClassRange extended cs

/-- Reads the sign of an operation on sets. -/
def readOperation? : List Char → Option (SetOperation × List Char)
  | '&' :: '&' :: rest => some (.intersection, rest)
  | '-' :: '-' :: rest => some (.difference, rest)
  | '~' :: '~' :: rest => some (.symmetricDifference, rest)
  | _ => none

/-- Reads the rest of a set up to its closing bracket. -/
def readClassRest (extended : Bool)
    : Nat → Option (SetOperation × ClassItem) → List ClassItem → List Char
      → Option (ClassItem × List Char)
  | 0, _, _, _ => none
  | fuel + 1, before, items, cs =>
      match skip extended cs with
      | [] => none
      | c :: rest =>
          if c = ']' then some (combined before items, rest)
          else
            match readOperation? (c :: rest) with
            | some (operation, rest) =>
                readClassRest extended fuel (some (operation, combined before items)) [] rest
            | none => do
                let (item, rest) ←
                  readClassItem (readClassRest extended fuel none) extended (c :: rest)
                readClassRest extended fuel before (item :: items) rest

/-- Reads a set after its opening bracket. -/
def readClass (extended : Bool) (cs : List Char) : Option (Tree × List Char) :=
  (readBracketed (readClassRest extended (cs.length + 1) none) extended cs).map
    (fun ((negated, content), rest) => (.bracketed negated content, rest))

/-! ### Repetitions and groups -/

/-- Reads decimal digits, which blanks may surround in any mode. -/
def readCountDigits (extended : Bool) : Nat → List Char → List Char × List Char
  | 0, cs => ([], cs)
  | fuel + 1, cs =>
      match cs with
      | c :: rest =>
          if c.isDigit then
            let (digits, rest) := readCountDigits extended fuel (skip extended rest)
            (c :: digits, rest)
          else ([], cs)
      | [] => ([], [])

/-- Reads a count of 32 bits. -/
def readCount (extended : Bool) (cs : List Char) : Option (Nat × List Char) :=
  let (digits, rest) := readCountDigits extended (cs.length + 1) (Text.trimLeft cs)
  let value := digits.foldl (fun n c => n * 10 + (c.toNat - 48)) 0
  if digits.isEmpty || UInt32.size ≤ value then none else some (value, Text.trimLeft rest)

/-- Passes over the mark of a lazy repetition, which changes nothing about whether a text
matches. -/
def skipLazy : List Char → List Char
  | '?' :: rest => rest
  | cs => cs

/-- Reads the bounds of a repetition after the opening brace. -/
def readBounds (extended : Bool) (cs : List Char)
    : Option ((Nat × Option Nat) × List Char) := do
  let (least, rest) ← readCount extended (skip extended cs)
  match rest with
  | '\x7d' :: rest => some ((least, some least), skipLazy (skip extended rest))
  | ',' :: rest =>
      match skip extended rest with
      | '\x7d' :: rest => some ((least, none), skipLazy (skip extended rest))
      | rest =>
          let (most, rest) ← readCount extended rest
          match rest with
          | '\x7d' :: rest =>
              if least ≤ most then some ((least, some most), skipLazy (skip extended rest))
              else none
          | _ => none
  | _ => none

def flagOf? : Char → Option Flag
  | 'i' => some .ignoreCase
  | 'm' => some .multiLine
  | 's' => some .dotMatchesNewline
  | 'U' => some .swapGreed
  | 'u' => some .unicode
  | 'R' => some .crlf
  | 'x' => some .extended
  | _ => none

/-- Reads flags up to the colon or parenthesis that ends them, which is not taken. No flag may
be given twice, and a hyphen clears all flags after it. -/
def readFlags (cleared dangling : Bool) (change : FlagChange) : List Char
    → Option (FlagChange × List Char)
  | [] => none
  | c :: rest =>
      if c = ':' ∨ c = ')' then
        if dangling then none else some (change.reverse, c :: rest)
      else if c = '-' then
        if cleared then none else readFlags true true change rest
      else do
        let flag ← flagOf? c
        if change.any (fun (f, _) => f == flag) then none
        else readFlags cleared false ((flag, !cleared) :: change) rest

/-- Whether extended mode is on after a change of flags. -/
def extendedAfter (extended : Bool) (change : FlagChange) : Bool :=
  (change.lookup .extended).getD extended

def startsName (c : Char) : Bool :=
  c == '_' || Text.Property.alphabetic.contains c.toNat

def continuesName (c : Char) : Bool :=
  startsName c || c == '.' || c == '[' || c == ']' || Text.Property.number.contains c.toNat

/-- Reads the name of a group up to its closing angle. -/
def readGroupName (cs : List Char) : Option (String × List Char) :=
  let name := cs.takeWhile (· ≠ '>')
  match name, cs.dropWhile (· ≠ '>') with
  | first :: others, _ :: rest =>
      if startsName first && others.all continuesName then some (String.ofList name, rest)
      else none
  | _, _ => none

/-- What opens with a parenthesis. -/
inductive Opening where
  | flags (change : FlagChange)
  | group (change : FlagChange)
  | named (name : String)

/-- Whether a group, behind its question mark, looks around, which is not supported. -/
def looksAround : List Char → Bool
  | '=' :: _ | '!' :: _ | '<' :: '=' :: _ | '<' :: '!' :: _ => true
  | _ => false

/-- What follows the opening angle of a group's name. -/
def behindAngle? : List Char → Option (List Char)
  | 'P' :: '<' :: rest | '<' :: rest => some rest
  | _ => none

/-- Reads the flags behind a question mark: those of a group, or flags alone, which must not be
empty. -/
def readFlagsOpening (cs : List Char) : Option (Opening × List Char) := do
  let (change, rest) ← readFlags false false [] cs
  match rest with
  | ':' :: rest => some (.group change, rest)
  | _ :: rest => if change.isEmpty then none else some (.flags change, rest)
  | [] => none

/-- Reads what follows an opening parenthesis. -/
def readOpening (extended : Bool) (cs : List Char) : Option (Opening × List Char) :=
  match skip extended cs with
  | '?' :: rest =>
      if looksAround rest then none
      else
        match behindAngle? rest with
        | some rest => (readGroupName rest).map (fun (name, rest) => (.named name, rest))
        | none => readFlagsOpening rest
  | rest => some (.group [], rest)

/-- Whether something can be repeated. -/
def Tree.isRepeatable : Tree → Bool
  | .empty | .flags _ => false
  | _ => true

def Primitive.tree : Primitive → Tree
  | .literal l => .literal l
  | .dot => .dot
  | .anchor a => .anchor a
  | .letter kind negated => .letter kind negated
  | .property query negated => .property query negated

/-- What is read of a group: its branches and parts in reverse, the mode, and the names of all
groups. -/
structure Progress where
  extended : Bool
  names : List String
  branches : List Tree
  parts : List Tree

namespace Progress

def push (progress : Progress) (tree : Tree) : Progress :=
  { progress with parts := tree :: progress.parts }

def tree (progress : Progress) : Tree :=
  .ofBranches ((Tree.ofParts progress.parts.reverse :: progress.branches).reverse)

/-- Puts the last part under a repetition. -/
def repeatLast (progress : Progress) (least : Nat) (most : Option Nat) : Option Progress :=
  match progress.parts with
  | part :: parts =>
      if part.isRepeatable then
        some { progress with parts := .repetition least most part :: parts }
      else none
  | [] => none

end Progress

/-- Reads a group behind its opening. Its body is read by `inside`, up to the parenthesis. -/
def readGroup (inside : Progress → List Char → Option (Progress × List Char)) (progress : Progress)
    (extended : Bool) (names : List String) (change : FlagChange) (cs : List Char)
    : Option (Progress × List Char) := do
  let (inner, rest) ← inside ⟨extended, names, [], []⟩ cs
  let rest ← rest.tail?
  some ({ progress.push (.group change inner.tree) with names := inner.names }, rest)

/-- Reads what a character of a body starts: a part, a repetition of the last one, or the next
branch. -/
def readTurn (inside : Progress → List Char → Option (Progress × List Char)) (progress : Progress)
    (c : Char) (rest : List Char)
    : Option (Progress × List Char) :=
  match c with
  | '|' =>
      some
        ({ progress with
            branches := Tree.ofParts progress.parts.reverse :: progress.branches
            parts := [] },
          rest)
  | '(' => do
      let (opening, rest) ← readOpening progress.extended rest
      match opening with
      | .flags change =>
          some
            ({ progress.push (.flags change) with
                extended := extendedAfter progress.extended change },
              rest)
      | .group change =>
          readGroup inside progress (extendedAfter progress.extended change) progress.names change
            rest
      | .named name =>
          if progress.names.contains name then none
          else readGroup inside progress progress.extended (name :: progress.names) [] rest
  | '[' => (readClass progress.extended rest).map (fun (tree, rest) => (progress.push tree, rest))
  | '?' => (progress.repeatLast 0 (some 1)).map (·, skipLazy rest)
  | '*' => (progress.repeatLast 0 none).map (·, skipLazy rest)
  | '+' => (progress.repeatLast 1 none).map (·, skipLazy rest)
  | '\x7b' => do
      let ((least, most), rest) ← readBounds progress.extended rest
      (progress.repeatLast least most).map (·, rest)
  | '\\' =>
      (readEscape progress.extended rest).map
        (fun (primitive, rest) => (progress.push primitive.tree, rest))
  | '.' => some (progress.push .dot, rest)
  | '^' => some (progress.push (.anchor .lineStart), rest)
  | '$' => some (progress.push (.anchor .lineEnd), rest)
  | c => some (progress.push (.literal ⟨c, false⟩), rest)

/-- Reads the body of a group up to the parenthesis that closes it or the end. -/
def readBody : Nat → Progress → List Char → Option (Progress × List Char)
  | 0, _, _ => none
  | fuel + 1, progress, cs =>
      match skip progress.extended cs with
      | [] => some (progress, [])
      | c :: rest =>
          if c = ')' then some (progress, c :: rest)
          else do
            let (progress, rest) ← readTurn (readBody fuel) progress c rest
            readBody fuel progress rest

/-- Reads a whole pattern. -/
def readTree (pattern : List Char) : Option Tree := do
  let (progress, rest) ← readBody (pattern.length + 1) ⟨false, [], [], []⟩ pattern
  if rest.isEmpty && progress.tree.depth ≤ greatestDepth then some progress.tree else none

end Remediation.Regex
