import Remediation.Document.Node

/-!
Giving parts of documents their types. A record takes its fields by name, in the order in which
the document has them, and outside YAML also from a list; the first fault met is reported.
-/

namespace Remediation.Document

/-- What makes a part of a document unfit for its type. The parameter holds the faults that
only the domain knows. -/
inductive ShapeError (ε : Type) where
  | invalidType (found expected : String)
  | invalidValue (found expected : String)
  | invalidLength (length : Nat) (expected : String)
  | missingField (name : String)
  | duplicateField (name : String)
  | unknownVariant (name : String) (known : List String)
  | noVariant (type : String)
  | trailingItems
  | outOfRange
  | domain (error : ε)
  deriving Repr

/-- The names of variants, as a message lists them. -/
def variantList : List String → String
  | [] => "there are no variants"
  | [a] => s!"expected `{a}`"
  | [a, b] => s!"expected `{a}` or `{b}`"
  | names => "expected one of " ++ ", ".intercalate (names.map (fun n => s!"`{n}`"))

def ShapeError.message (domain : ε → String) : ShapeError ε → String
  | .invalidType found expected => s!"invalid type: {found}, expected {expected}"
  | .invalidValue found expected => s!"invalid value: {found}, expected {expected}"
  | .invalidLength length expected => s!"invalid length {length}, expected {expected}"
  | .missingField name => s!"missing field `{name}`"
  | .duplicateField name => s!"duplicate field `{name}`"
  | .unknownVariant name known => s!"unknown variant `{name}`, {variantList known}"
  | .noVariant type => s!"data did not match any variant of untagged enum {type}"
  | .trailingItems => "trailing characters"
  | .outOfRange => "number out of range"
  | .domain error => domain error

variable {ε : Type}

/-- A part of some type, or why it is none. -/
abbrev Shaped (ε : Type) (α : Type) := Except (ShapeError ε) α

/-- The fault of a node that is not what is expected. -/
def mismatch (format : Format) (expected : String) (node : Node) : ShapeError ε :=
  match node.view with
  | .mistagged text wanted => .invalidValue s!"string {Text.shown text}" wanted
  | view => .invalidType (view.found format) expected

/-- A text with a name for what is expected. In YAML any scalar is one, whatever else it may
stand for. -/
def textAs (expected : String) (format : Format) (node : Node) : Shaped ε String :=
  match node with
  | .json (.string s) => .ok s
  | .scalar s => .ok s.text
  | node => .error (mismatch format expected node)

def text (format : Format) (node : Node) : Shaped ε String :=
  textAs "a string" format node

/-- A part that may be left out by writing null. -/
def optional (read : Node → Shaped ε α) (node : Node) : Shaped ε (Option α) :=
  match node with
  | .json .null => .ok none
  | .scalar s =>
      if s.style = .plain ∧ s.tag = none ∧ (s.text.isEmpty || Yaml.isNullText s.text) then .ok none
      else if s.style = .plain ∧ s.tag = some (Yaml.coreTag "null") then
        if Yaml.isNullText s.text then .ok none
        else .error (.invalidValue s!"string {Text.shown s.text}" "null")
      else (read node).map some
  | node => (read node).map some

/-- The items of a list. -/
def items (format : Format) (node : Node) : Shaped ε (List Node) :=
  match node.view with
  | .sequence items => .ok items
  | _ => if node.isBlank then .ok [] else .error (mismatch format "a sequence" node)

def list (format : Format) (read : Node → Shaped ε α) (node : Node) : Shaped ε (List α) := do
  let items ← items format node
  items.mapM read

/-- A table of parts under texts. Of entries with one key the last one is kept. -/
def table (format : Format) (read : Node → Shaped ε α) (node : Node) : Shaped ε (Table α) :=
  match node.view with
  | .mapping entries => do
      let entries ← entries.mapM (fun (key, node) => do
        let key ← text format key
        let part ← read node
        .ok (key, part))
      .ok (Table.ofList entries)
  | _ => if node.isBlank then .ok [] else .error (mismatch format "a map" node)

/-- A count of 64 bits. -/
def count (format : Format) (node : Node) : Shaped ε Nat :=
  match node with
  | .scalar s =>
      if s.isLiteralFor "int" then
        match Yaml.intOf? s.text with
        | some (.ofNat n) =>
            if n < UInt64.size then .ok n else .error (mismatch format "usize" node)
        | some n =>
            if -0x8000000000000000 ≤ n then .error (.invalidValue s!"integer `{n}`" "usize")
            else .error (mismatch format "usize" node)
        | none => .error (mismatch format "usize" node)
      else .error (mismatch format "usize" node)
  | node =>
      match node.view with
      | .number (.int (.ofNat n)) => .ok n
      | .number (.int n) => .error (.invalidValue s!"integer `{n}`" "usize")
      | _ => .error (mismatch format "usize" node)

/-- A double, also from an integer. -/
def double (format : Format) (node : Node) : Shaped ε Binary64 :=
  match node with
  | .scalar s =>
      match if s.isLiteralFor "float" then Yaml.floatOf? s.text else none with
      | some x => .ok x
      | none => .error (mismatch format "f64" node)
  | node =>
      match node.view with
      | .number n =>
          if n.toBinary64.isFinite then .ok n.toBinary64 else .error .outOfRange
      | _ => .error (mismatch format "f64" node)

/-! ### Any value -/

/-- The fault of an application's tag on a part whose type a document leaves open. -/
def localTagFault : ShapeError ε :=
  .invalidType "enum" "any valid JSON value"

/-- A scalar as a JSON value. A double that is not finite is null. -/
def scalarValue (format : Format) (s : Yaml.Scalar) : Shaped ε Json :=
  if s.hasLocalTag then .error localTagFault
  else
    match s.meaning with
    | .null => .ok .null
    | .bool b => .ok (.bool b)
    | .int n => .ok (.ofInt n)
    | .float x => .ok (.ofBinary64 x)
    | .string text => .ok (.string text)
    | .wideInt _ | .mistagged .. =>
        .error (mismatch format "any valid JSON value" (.scalar s))

mutual

/-- A part as a JSON value, for parts whose type a document leaves open. Of entries with one
key the last one is kept. -/
def value (format : Format) : Node → Shaped ε Json
  | .json v => if v.isFinite then .ok v.canonical else .error .outOfRange
  | .scalar s => scalarValue format s
  | .sequence localTag items =>
      if localTag then .error localTagFault else (values format items).map .array
  | .mapping localTag entries =>
      if localTag then .error localTagFault else (entryValues format entries []).map .object

def values (format : Format) : List Node → Shaped ε (List Json)
  | [] => .ok []
  | node :: rest => do
      let first ← value format node
      let others ← values format rest
      .ok (first :: others)

def entryValues (format : Format) : List (Node × Node) → Fields → Shaped ε Fields
  | [], done => .ok done
  | (key, node) :: rest, done => do
      let key ← textAs "a string key" format key
      let first ← value format node
      entryValues format rest (Table.insert key first done)

end

/-! ### Records -/

/-- A field of a record: its name, other names it goes by, and whether it may be left out. -/
structure FieldSpec where
  name : String
  aliases : List String := []
  hasDefault : Bool := false

/-- The field that a key names. -/
def fieldNamed? (fields : List FieldSpec) (key : String) : Option FieldSpec :=
  fields.find? (fun field => field.name == key || field.aliases.contains key)

/-- Takes the entries of a record one after the other. Unknown keys are passed over, and no
field may come twice. Answers also which fields were there. -/
def takeEntries (format : Format) (fields : List FieldSpec)
    (take : σ → String → Node → Shaped ε σ)
    : List (Node × Node) → List String → σ → Shaped ε (List String × σ)
  | [], seen, record => .ok (seen, record)
  | (key, node) :: rest, seen, record => do
      let key ← textAs "field identifier" format key
      match fieldNamed? fields key with
      | none => takeEntries format fields take rest seen record
      | some field =>
          if seen.contains field.name then .error (.duplicateField field.name)
          else do
            let record ← take record field.name node
            takeEntries format fields take rest (field.name :: seen) record

/-- How many elements a message says a record has. -/
def elementCount (n : Nat) : String :=
  if n = 1 then "1 element" else s!"{n} elements"

/-- Takes the fields of a record from a list in their order. The last argument says what is
wrong with a list that is too long. -/
def takePositions (expected : String) (take : σ → String → Node → Shaped ε σ)
    (tooLong : List Node → ShapeError ε)
    : List FieldSpec → List Node → Nat → σ → Shaped ε σ
  | [], [], _, record => .ok record
  | [], extra, _, _ => .error (tooLong extra)
  | field :: fields, [], position, record =>
      if field.hasDefault then
        takePositions expected take tooLong fields [] (position + 1) record
      else .error (.invalidLength position expected)
  | field :: fields, node :: nodes, position, record => do
      let record ← take record field.name node
      takePositions expected take tooLong fields nodes (position + 1) record

/-- The first field that is missing and has no default. -/
def missingField? (fields : List FieldSpec) (seen : List String) : Option FieldSpec :=
  fields.find? (fun field => !field.hasDefault && !seen.contains field.name)

/-- Takes the entries of a mapping as a record. -/
def recordOfEntries (format : Format) (fields : List FieldSpec)
    (take : σ → String → Node → Shaped ε σ) (start : σ) (entries : List (Node × Node))
    : Shaped ε σ := do
  let (seen, record) ← takeEntries format fields take entries [] start
  match missingField? fields seen with
  | some field => .error (.missingField field.name)
  | none => .ok record

/-- A record, whose type is named in messages. -/
def record (format : Format) (type : String) (fields : List FieldSpec)
    (take : σ → String → Node → Shaped ε σ) (start : σ) (node : Node) : Shaped ε σ :=
  match node.view with
  | .mapping entries => recordOfEntries format fields take start entries
  | .sequence nodes =>
      if format = .yaml then .error (mismatch format s!"struct {type}" node)
      else
        takePositions s!"struct {type} with {elementCount fields.length}" take
          (fun _ =>
            if format = .jsonText then .trailingItems
            else .invalidLength nodes.length "fewer elements in array")
          fields nodes 0 start
  | _ =>
      if node.isBlank then recordOfEntries format fields take start []
      else .error (mismatch format s!"struct {type}" node)

/-! ### Variants that a tag names -/

/-- What is left of a part of which a tag was taken: entries without the tag's, or items without
the first, which was the tag. -/
inductive Untagged where
  | entries (entries : List (Node × Node))
  | items (items : List Node)

/-- The name of one of some variants. -/
def variantName (format : Format) (variants : List String) (node : Node) : Shaped ε String := do
  let name ← textAs "variant identifier" format node
  if variants.contains name then .ok name else .error (.unknownVariant name variants)

/-- The variant that the entry with the tag names, and the other entries. -/
def takeTag (format : Format) (tag : String) (variants : List String)
    : List (Node × Node) → Option String → List (Node × Node)
      → Shaped ε (Option String × List (Node × Node))
  | [], name, others => .ok (name, others.reverse)
  | (key, node) :: rest, name, others => do
      let entry ← text format key
      if entry = tag then
        if name.isSome then .error (.duplicateField tag)
        else do
          let name ← variantName format variants node
          takeTag format tag variants rest (some name) others
      else takeTag format tag variants rest name ((key, node) :: others)

/-- A part whose variant is named by one of its entries, or by the first of its items: the name
and what is left. -/
def tagged (format : Format) (type tag : String) (variants : List String) (node : Node)
    : Shaped ε (String × Untagged) :=
  match node.view with
  | .mapping entries => do
      match ← takeTag format tag variants entries none [] with
      | (some name, others) => .ok (name, .entries others)
      | (none, _) => .error (.missingField tag)
  | .sequence (first :: rest) => do
      let name ← variantName format variants first
      .ok (name, .items rest)
  | .sequence [] => .error (.missingField tag)
  | _ => .error (mismatch format s!"internally tagged enum {type}" node)

/-- The fields of a variant. Items beyond its fields are refused. -/
def untaggedRecord (format : Format) (type : String) (fields : List FieldSpec)
    (take : σ → String → Node → Shaped ε σ) (start : σ) : Untagged → Shaped ε σ
  | .entries entries => recordOfEntries format fields take start entries
  | .items nodes =>
      takePositions s!"struct variant {type} with {elementCount fields.length}" take
        (fun _ => .invalidLength nodes.length (elementCount fields.length ++ " in sequence"))
        fields nodes 0 start

end Remediation.Document
