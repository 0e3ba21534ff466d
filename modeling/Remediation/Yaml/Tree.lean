import Remediation.Yaml.Token

/-!
From tokens to the tree of a document. Aliases are kept as the numbers of the anchors that they
name, and the nodes of the anchors are kept beside the tree.
-/

namespace Remediation.Yaml

/-- A node of a document with its aliases unresolved. -/
inductive Tree where
  | scalar (scalar : Scalar)
  | sequence (tag : Option String) (items : List Tree)
  | mapping (tag : Option String) (entries : List (Tree × Tree))
  | alias (number : Nat)
  deriving Inhabited, Repr

/-- What an anchor stands for: its number, how many anchors were met before it, and its node. -/
structure Anchored where
  number : Nat
  order : Nat
  node : Tree
  deriving Repr

/-- Tokens that have been turned into nodes in part. -/
structure Parsing where
  tokens : List Token
  /-- What the handles of tags stand for. -/
  handles : List (String × String)
  /-- The numbers of the names of anchors. -/
  names : List (String × Nat)
  anchorCount : Nat
  anchored : List Anchored
  deriving Repr

/-- A step of parsing, which may fail. -/
abbrev Parse := StateT Parsing Option

namespace Parse

def peek : Parse (Option Token) := do
  pure (← get).tokens.head?

/-- Passes over a token. -/
def skip : Parse Unit :=
  modify (fun parsing => { parsing with tokens := parsing.tokens.drop 1 })

/-- Passes over a token if it is a given one. -/
def accept (token : Token) : Parse Bool := do
  if (← peek) == some token then
    skip
    pure true
  else pure false

/-- Passes over a token that has to be there. -/
def expect (token : Token) : Parse Unit := do
  if ← accept token then pure () else failure

/-- Whether the next token is among some, or there is none. -/
def seesAny (tokens : List Token) : Parse Bool := do
  pure ((← peek).all tokens.contains)

/-- What stands where a node is left out. -/
def empty : Tree := .scalar ⟨"", .plain, none⟩

/-! ### Properties of nodes -/

/-- What is said of a node before its content. -/
structure Properties where
  anchor : Option String
  tag : Option String

def anchor? : Parse (Option String) := do
  match ← peek with
  | some (.anchor name) =>
      skip
      pure (some name)
  | _ => pure none

/-- A tag with its handle replaced by what it stands for. -/
def tag? : Parse (Option String) := do
  match ← peek with
  | some (.tag handle suffix) =>
      skip
      if handle.isEmpty then pure (some suffix)
      else
        match (← get).handles.lookup handle with
        | some start => pure (some (start ++ suffix))
        | none => failure
  | _ => pure none

/-- An anchor and a tag, in either order. -/
def properties : Parse Properties := do
  let anchor ← anchor?
  let tag ← tag?
  match anchor with
  | some name => pure ⟨some name, tag⟩
  | none => pure ⟨← anchor?, tag⟩

/-- Gives the name of an anchor a number, which is how many names there are. Answers the number
and how many anchors came before. -/
def declare (name : String) : Parse (Nat × Nat) := do
  let parsing ← get
  let number := parsing.names.length
  let order := parsing.anchorCount
  let others := parsing.names.filter (fun entry => entry.1 ≠ name)
  set { parsing with names := (name, number) :: others, anchorCount := order + 1 }
  pure (number, order)

/-- Reads a node with its anchor declared before and kept with the node after. -/
def anchoring (anchor : Option String) (read : Parse Tree) : Parse Tree := do
  match anchor with
  | none => read
  | some name => do
      let (number, order) ← declare name
      let node ← read
      modify (fun parsing => { parsing with anchored := ⟨number, order, node⟩ :: parsing.anchored })
      pure node

/-- A scalar with its tag. The tag of one exclamation mark says nothing. -/
def scalarOf (text : String) (style : ScalarStyle) (tag : Option String) : Tree :=
  .scalar ⟨text, style, if tag = some "!" then none else tag⟩

/-! ### Nodes -/

mutual

/-- Reads a node. Block collections are read only where a block may stand, and a sequence that is
not indented only as the value of a mapping. The fuel bounds how many nodes and entries are read
inside of each other or one after the other. -/
def node (block indentless : Bool) : Nat → Parse Tree
  | 0 => failure
  | fuel + 1 => do
      match ← peek with
      | some (.alias name) =>
          skip
          match (← get).names.lookup name with
          | some number => pure (.alias number)
          | none => failure
      | _ => do
          let props ← properties
          anchoring props.anchor (content block indentless props fuel)

/-- Reads what stands behind the properties of a node. -/
def content (block indentless : Bool) (props : Properties) : Nat → Parse Tree
  | 0 => failure
  | fuel + 1 => do
      match ← peek with
      | some (.scalar text style) =>
          skip
          pure (scalarOf text style props.tag)
      | some .flowSequenceStart =>
          skip
          .sequence props.tag <$> flowItems true fuel
      | some .flowMappingStart =>
          skip
          .mapping props.tag <$> flowEntries true fuel
      | token =>
          if indentless && token == some .blockEntry then
            .sequence props.tag <$> indentlessItems fuel
          else if block && token == some .blockSequenceStart then do
            skip
            .sequence props.tag <$> blockItems fuel
          else if block && token == some .blockMappingStart then do
            skip
            .mapping props.tag <$> blockEntries fuel
          else if props.anchor.isSome || props.tag.isSome then pure (scalarOf "" .plain props.tag)
          else failure

/-- Reads the items of a sequence that is not indented. -/
def indentlessItems : Nat → Parse (List Tree)
  | 0 => failure
  | fuel + 1 => do
      if ← accept .blockEntry then
        let first ←
          if ← seesAny [.blockEntry, .key, .value, .blockEnd] then pure empty
          else node true false fuel
        let others ← indentlessItems fuel
        pure (first :: others)
      else pure []

/-- Reads the items of a block sequence and its end. -/
def blockItems : Nat → Parse (List Tree)
  | 0 => failure
  | fuel + 1 => do
      if ← accept .blockEntry then
        let first ←
          if ← seesAny [.blockEntry, .blockEnd] then pure empty else node true false fuel
        let others ← blockItems fuel
        pure (first :: others)
      else do
        expect .blockEnd
        pure []

/-- Reads the entries of a block mapping and its end. A value may come without a key. -/
def blockEntries : Nat → Parse (List (Tree × Tree))
  | 0 => failure
  | fuel + 1 => do
      if ← accept .key then
        let key ←
          if ← seesAny [.key, .value, .blockEnd] then pure empty else node true true fuel
        let value ← blockValue fuel
        let others ← blockEntries fuel
        pure ((key, value) :: others)
      else do
        expect .blockEnd
        pure []

/-- Reads the value of an entry in a block mapping, which may be left out. -/
def blockValue : Nat → Parse Tree
  | 0 => failure
  | fuel + 1 => do
      if ← accept .value then
        if ← seesAny [.key, .value, .blockEnd] then pure empty else node true true fuel
      else pure empty

/-- Reads the items of a flow sequence and its end; before every item but the first there is a
comma. An item may be an entry of a mapping, which stands for a mapping of its own. -/
def flowItems (first : Bool) : Nat → Parse (List Tree)
  | 0 => failure
  | fuel + 1 => do
      if ← accept .flowSequenceEnd then pure []
      else do
        if !first then expect .flowEntry
        if ← accept .key then
          let entry ← pairInFlow fuel
          let others ← flowItems false fuel
          pure (.mapping none [entry] :: others)
        else if ← accept .flowSequenceEnd then pure []
        else do
          let item ← node false false fuel
          let others ← flowItems false fuel
          pure (item :: others)

/-- Reads an entry of a mapping that stands in a flow sequence. Where its key is left out, the
token behind is passed over, and with it the value. -/
def pairInFlow : Nat → Parse (Tree × Tree)
  | 0 => failure
  | fuel + 1 => do
      let key ←
        if ← seesAny [.value, .flowEntry, .flowSequenceEnd] then do
          skip
          pure empty
        else node false false fuel
      if ← accept .value then
        if ← seesAny [.flowEntry, .flowSequenceEnd] then pure (key, empty)
        else do
          let value ← node false false fuel
          pure (key, value)
      else pure (key, empty)

/-- Reads the entries of a flow mapping and its end. An item without a key is a key without a
value. -/
def flowEntries (first : Bool) : Nat → Parse (List (Tree × Tree))
  | 0 => failure
  | fuel + 1 => do
      if ← accept .flowMappingEnd then pure []
      else do
        if !first then expect .flowEntry
        if ← accept .key then
          let key ←
            if ← seesAny [.value, .flowEntry, .flowMappingEnd] then pure empty
            else node false false fuel
          let value ← flowValue fuel
          let others ← flowEntries false fuel
          pure ((key, value) :: others)
        else if ← accept .flowMappingEnd then pure []
        else do
          let key ← node false false fuel
          let others ← flowEntries false fuel
          pure ((key, empty) :: others)

/-- Reads the value of an entry in a flow mapping, which may be left out. -/
def flowValue : Nat → Parse Tree
  | 0 => failure
  | fuel + 1 => do
      if ← accept .value then
        if ← seesAny [.flowEntry, .flowMappingEnd] then pure empty else node false false fuel
      else pure empty

end

/-! ### Documents -/

/-- What the handles stand for that need no directive. -/
def standardHandles : List (String × String) :=
  [("!", "!"), ("!!", corePrefix)]

/-- Reads the directives before a document, each of which may be said once. -/
def directives : Nat → Bool → List (String × String) → Parse (List (String × String))
  | 0, _, handles => pure handles
  | fuel + 1, versioned, handles => do
      match ← peek with
      | some (.versionDirective major minor) =>
          if versioned || major ≠ 1 || !(minor = 1 || minor = 2) then failure
          else do
            skip
            directives fuel true handles
      | some (.tagDirective handle start) =>
          if (handles.lookup handle).isSome then failure
          else do
            skip
            directives fuel versioned ((handle, start) :: handles)
      | _ => pure handles

/-- Whether a token stands before or between documents. -/
def isBetweenDocuments : Token → Bool
  | .versionDirective .. | .tagDirective .. | .documentStart | .documentEnd => true
  | _ => false

/-- Reads the content of a document behind its start. -/
def documentContent (fuel : Nat) : Parse Tree := do
  if (← peek).all isBetweenDocuments then pure empty else node true false fuel

/-- Passes over the ends of documents. -/
def skipEnds : Parse Unit :=
  modify (fun parsing =>
    { parsing with tokens := parsing.tokens.dropWhile (· == .documentEnd) })

/-- Reads a document, whose start may go without saying. -/
def document (implicit : Bool) (fuel : Nat) : Parse Tree := do
  let isStart (token : Token) : Bool := isBetweenDocuments token && token != .documentEnd
  if implicit && !(← peek).all isStart then do
    modify (fun parsing => { parsing with handles := standardHandles })
    node true false fuel
  else do
    let handles ← directives fuel false []
    expect .documentStart
    let isNew (entry : String × String) : Bool := (handles.lookup entry.1).isNone
    modify (fun parsing =>
      { parsing with handles := handles ++ standardHandles.filter isNew })
    documentContent fuel

/-- Reads the first document of a text, or nothing if there is none, and tells whether another
one follows. -/
def firstDocument (fuel : Nat) : Parse (Option Tree × Bool) := do
  if (← peek).isNone then pure (none, false)
  else do
    let tree ← document true fuel
    skipEnds
    pure (some tree, (← peek).isSome)

end Parse

/-- The tree of the first document of a text, which is missing if the text says nothing, and what
its anchors stand for. -/
structure AnchoredTree where
  root : Option Tree
  anchored : List Anchored
  /-- Whether another document follows. -/
  isFollowed : Bool
  deriving Repr

namespace AnchoredTree

/-- The tree of some tokens. Four times their number is more fuel than can be needed. -/
def ofTokens? (tokens : List Token) : Option AnchoredTree :=
  let start :=
    { tokens := tokens, handles := [], names := [], anchorCount := 0, anchored := [] }
  (Parse.firstDocument (4 * tokens.length + 8) start).map (fun ((root, isFollowed), parsing) =>
    ⟨root, parsing.anchored, isFollowed⟩)

/-- The node of an anchor: of those that have its number, the one whose anchor comes last. -/
def node? (tree : AnchoredTree) (number : Nat) : Option Tree :=
  let later (a b : Anchored) : Anchored := if a.order < b.order then b else a
  match tree.anchored.filter (·.number == number) with
  | [] => none
  | first :: rest => some (rest.foldl later first).node

end AnchoredTree

end Remediation.Yaml
