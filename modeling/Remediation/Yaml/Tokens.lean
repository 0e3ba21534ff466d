import Remediation.Yaml.BlockScalar
import Remediation.Yaml.FlowScalar
import Remediation.Yaml.Tag
import Remediation.Yaml.Token

/-!
From text to tokens. Whether something is a key shows only in the colon behind it, so the place
of every token that may start a key is remembered, one for each flow collection that is open; at
a colon the tokens that announce a key are put in at that place.
-/

namespace Remediation.Yaml

/-- A place where a key may have started. -/
structure KeyStart where
  /-- Whether a key has to be there. -/
  required : Bool
  /-- How many tokens come before. -/
  place : Nat
  index : Nat
  line : Nat
  column : Nat
  deriving Repr

/-- A text that has been turned into tokens in part. -/
structure Lexing where
  cursor : Cursor
  /-- The tokens so far, in reverse. -/
  tokens : List Token
  count : Nat
  /-- The column of the innermost block collection, and those of the ones around it. -/
  indent : Int
  outer : List Int
  /-- Whether a key may start here. -/
  keyAllowed : Bool
  /-- Where a key may have started: in the innermost flow collection and in those around it. -/
  key : Option KeyStart
  outerKeys : List (Option KeyStart)
  deriving Repr

namespace Lexing

def start (text : List Char) : Lexing :=
  {
    cursor := .start text,
    tokens := [],
    count := 0,
    indent := -1,
    outer := [],
    keyAllowed := true,
    key := none,
    outerKeys := []
  }

def inFlow (lexing : Lexing) : Bool := !lexing.outerKeys.isEmpty

def emit (token : Token) (lexing : Lexing) : Lexing :=
  { lexing with tokens := token :: lexing.tokens, count := lexing.count + 1 }

/-- Puts a token in at a place. -/
def emitAt (place : Nat) (token : Token) (lexing : Lexing) : Lexing :=
  let behind := lexing.count - place
  {
    lexing with
    tokens := lexing.tokens.take behind ++ token :: lexing.tokens.drop behind,
    count := lexing.count + 1
  }

/-- Emits a token of some characters. -/
def emitSkip (token : Token) (length : Nat) (lexing : Lexing) : Lexing :=
  { lexing.emit token with cursor := lexing.cursor.skip length }

def allowKey (allowed : Bool) (lexing : Lexing) : Lexing :=
  { lexing with keyAllowed := allowed }

/-- Gives up a place where a key may have started. -/
def dropKey (lexing : Lexing) : Option Lexing :=
  if lexing.key.any (·.required) then none else some { lexing with key := none }

/-- Remembers that a key may start here. -/
def saveKey (lexing : Lexing) : Option Lexing :=
  if lexing.keyAllowed then do
    let dropped ← lexing.dropKey
    let cursor := lexing.cursor
    let required := !lexing.inFlow && lexing.indent == (cursor.column : Int)
    some
      {
        dropped with
        key := some ⟨required, lexing.count, cursor.index, cursor.line, cursor.column⟩
      }
  else some lexing

/-- Whether a key can no longer end here: it has to be on one line and not too long. -/
def isStale (cursor : Cursor) (key : KeyStart) : Bool :=
  key.line < cursor.line || key.index + 1024 < cursor.index

/-- Gives up the places of keys that can no longer end. -/
def dropStale (lexing : Lexing) : Option Lexing :=
  let stale (key : Option KeyStart) : Bool := key.any (isStale lexing.cursor)
  let keys := lexing.key :: lexing.outerKeys
  if keys.any (fun key => stale key && key.any (·.required)) then none
  else
    let fresh (key : Option KeyStart) := if stale key then none else key
    some { lexing with key := fresh lexing.key, outerKeys := lexing.outerKeys.map fresh }

/-- Opens a block collection at a column, unless one is open there; its token goes to a place. -/
def openBlock (column place : Nat) (token : Token) (lexing : Lexing) : Lexing :=
  if !lexing.inFlow && lexing.indent < column then
    { lexing.emitAt place token with indent := column, outer := lexing.indent :: lexing.outer }
  else lexing

/-- Closes the block collections right of a column. -/
def closeBlocks (column : Int) (lexing : Lexing) : Lexing :=
  if lexing.inFlow then lexing
  else
    let columns := lexing.indent :: lexing.outer
    let closed := (columns.takeWhile (column < ·)).length
    match columns.drop closed with
    | [] => lexing
    | indent :: outer =>
        {
          lexing with
          tokens := List.replicate closed .blockEnd ++ lexing.tokens,
          count := lexing.count + closed,
          indent := indent,
          outer := outer
        }

/-- Passes over blanks, comments and line breaks. A tab is a blank only where no key may start. -/
def skipToToken : Nat → Lexing → Lexing
  | 0, lexing => lexing
  | fuel + 1, lexing =>
      let tabs := lexing.inFlow || !lexing.keyAllowed
      let cursor := lexing.cursor.skipWhile (fun c => c == ' ' || (tabs && c == '\t'))
      let cursor := if cursor.seesChar '#' then cursor.skipWhile (!isBreak ·) else cursor
      if cursor.sees isBreak then
        skipToToken fuel
          {
            lexing with
            cursor := cursor.skipBreak,
            keyAllowed := lexing.keyAllowed || !lexing.inFlow
          }
      else { lexing with cursor := cursor }

/-! ### Single tokens -/

def lexDirective (lexing : Lexing) : Option Lexing := do
  let lexing ← (lexing.closeBlocks (-1)).dropKey
  let (directive, cursor) ← takeDirective lexing.cursor
  let token :=
    match directive with
    | .version major minor => Token.versionDirective major minor
    | .tag handle start => Token.tagDirective handle start
  some { (lexing.allowKey false).emit token with cursor := cursor }

def lexMarker (token : Token) (lexing : Lexing) : Option Lexing := do
  let lexing ← (lexing.closeBlocks (-1)).dropKey
  some ((lexing.allowKey false).emitSkip token 3)

def lexFlowStart (token : Token) (lexing : Lexing) : Option Lexing := do
  let lexing ← lexing.saveKey
  let inner := { lexing with key := none, outerKeys := lexing.key :: lexing.outerKeys }
  some ((inner.allowKey true).emitSkip token 1)

def lexFlowEnd (token : Token) (lexing : Lexing) : Option Lexing := do
  let lexing ← lexing.dropKey
  let outer :=
    match lexing.outerKeys with
    | [] => lexing
    | key :: keys => { lexing with key := key, outerKeys := keys }
  some ((outer.allowKey false).emitSkip token 1)

def lexFlowEntry (lexing : Lexing) : Option Lexing := do
  let lexing ← lexing.dropKey
  some ((lexing.allowKey true).emitSkip .flowEntry 1)

def lexBlockEntry (lexing : Lexing) : Option Lexing :=
  if !lexing.inFlow && !lexing.keyAllowed then none
  else do
    let opened := lexing.openBlock lexing.cursor.column lexing.count .blockSequenceStart
    let lexing ← opened.dropKey
    some ((lexing.allowKey true).emitSkip .blockEntry 1)

def lexKey (lexing : Lexing) : Option Lexing :=
  if !lexing.inFlow && !lexing.keyAllowed then none
  else do
    let opened := lexing.openBlock lexing.cursor.column lexing.count .blockMappingStart
    let lexing ← opened.dropKey
    some ((lexing.allowKey (!lexing.inFlow)).emitSkip .key 1)

def lexValue (lexing : Lexing) : Option Lexing :=
  match lexing.key with
  | some key =>
      let announced := lexing.emitAt key.place .key
      let opened := announced.openBlock key.column key.place .blockMappingStart
      some (({ opened with key := none }.allowKey false).emitSkip .value 1)
  | none =>
      if !lexing.inFlow && !lexing.keyAllowed then none
      else
        let opened := lexing.openBlock lexing.cursor.column lexing.count .blockMappingStart
        some ((opened.allowKey (!lexing.inFlow)).emitSkip .value 1)

/-- An alias or an anchor. -/
def lexName (token : String → Token) (lexing : Lexing) : Option Lexing := do
  let lexing ← lexing.saveKey
  let (name, cursor) := (lexing.cursor.skip 1).takeWhile isNameChar
  let ends := ['?', ':', ',', ']', '\x7d', '%', '@', (Char.ofNat 96)]
  if name.isEmpty || !(cursor.blankAt 0 || cursor.sees ends.contains) then none
  else some { (lexing.allowKey false).emit (token (String.ofList name)) with cursor := cursor }

def lexTag (lexing : Lexing) : Option Lexing := do
  let lexing ← lexing.saveKey
  let (tag, cursor) ← takeTag lexing.inFlow lexing.cursor
  some { (lexing.allowKey false).emit (.tag tag.handle tag.suffix) with cursor := cursor }

def lexBlockScalar (literal : Bool) (lexing : Lexing) : Option Lexing := do
  let lexing ← lexing.dropKey
  let (text, cursor) ← takeBlock literal lexing.indent (lexing.cursor.skip 1)
  let token := Token.scalar text (if literal then .literal else .folded)
  some { (lexing.allowKey true).emit token with cursor := cursor }

def lexQuoted (single : Bool) (lexing : Lexing) : Option Lexing := do
  let lexing ← lexing.saveKey
  let (text, cursor) ← takeQuoted single lexing.cursor
  let token := Token.scalar text (if single then .singleQuoted else .doubleQuoted)
  some { (lexing.allowKey false).emit token with cursor := cursor }

def lexPlain (lexing : Lexing) : Option Lexing := do
  let lexing ← lexing.saveKey
  let (text, broken, cursor) ←
    takePlain lexing.inFlow (lexing.indent + 1).toNat lexing.cursor
  some { (lexing.allowKey broken).emit (.scalar text .plain) with cursor := cursor }

/-- The characters that start no plain scalar. -/
def indicators : List Char :=
  ['-', '?', ':', ',', '[', ']', '\x7b', '\x7d', '#', '&', '*', '!', '|', '>', '\'', '"', '%', '@',
    Char.ofNat 96]

/-- Whether a plain scalar starts here. -/
def startsPlain (lexing : Lexing) (c : Char) : Bool :=
  !indicators.contains c
    || (c == '-' && !(lexing.cursor.peekAt? 1).any isGap)
    || (!lexing.inFlow && (c == '?' || c == ':') && !lexing.cursor.blankAt 1)

/-- The next token, which starts with a character. -/
def lexToken (c : Char) (lexing : Lexing) : Option Lexing :=
  let cursor := lexing.cursor
  if cursor.column = 0 ∧ c = '%' then lexing.lexDirective
  else if cursor.seesMarker '-' then lexing.lexMarker .documentStart
  else if cursor.seesMarker '.' then lexing.lexMarker .documentEnd
  else if c = '[' then lexing.lexFlowStart .flowSequenceStart
  else if c = '\x7b' then lexing.lexFlowStart .flowMappingStart
  else if c = ']' then lexing.lexFlowEnd .flowSequenceEnd
  else if c = '\x7d' then lexing.lexFlowEnd .flowMappingEnd
  else if c = ',' then lexing.lexFlowEntry
  else if c = '-' ∧ cursor.blankAt 1 then lexing.lexBlockEntry
  else if c = '?' ∧ (lexing.inFlow ∨ cursor.blankAt 1) then lexing.lexKey
  else if c = ':' ∧ (lexing.inFlow ∨ cursor.blankAt 1) then lexing.lexValue
  else if c = '*' then lexing.lexName .alias
  else if c = '&' then lexing.lexName .anchor
  else if c = '!' then lexing.lexTag
  else if c = '|' ∧ !lexing.inFlow then lexing.lexBlockScalar true
  else if c = '>' ∧ !lexing.inFlow then lexing.lexBlockScalar false
  else if c = '\'' then lexing.lexQuoted true
  else if c = '"' then lexing.lexQuoted false
  else if lexing.startsPlain c then lexing.lexPlain
  else none

/-- The end of the text closes everything. -/
def finish (lexing : Lexing) : Option (List Token) :=
  ((lexing.closeBlocks (-1)).dropKey).map (·.tokens.reverse)

/-- Turns the rest of a text into tokens. Every token takes a character at least, so that fuel of
the length of the text is enough. -/
def run : Nat → Lexing → Option (List Token)
  | 0, lexing => lexing.finish
  | fuel + 1, lexing => do
      let fresh ← (lexing.skipToToken (lexing.cursor.rest.length + 1)).dropStale
      match fresh.cursor.peek? with
      | none => fresh.finish
      | some c =>
          let next ← (fresh.closeBlocks fresh.cursor.column).lexToken c
          run fuel next

end Lexing

/-- The tokens of a text; none if it has a character that may not be there, or none that starts a
token. -/
def tokens? (text : String) : Option (List Token) :=
  let cs :=
    match text.toList with
    | c :: rest => if c.toNat = 0xFEFF then rest else c :: rest
    | [] => []
  if cs.all isPrintable then (Lexing.start cs).run (cs.length + 1) else none

end Remediation.Yaml
