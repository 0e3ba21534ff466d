import Remediation.Document.Node
import Remediation.Yaml.Tokens
import Remediation.Yaml.Tree

/-!
From YAML text to the node of a document. Aliases become what they stand for; how deep nodes may
be nested and how many aliases may be followed is bounded, so that an anchor inside of what it
names is refused.
-/

namespace Remediation.Yaml

open Remediation.Document

mutual

/-- How many events a tree is made of: one for a scalar or an alias, two for a collection. -/
def Tree.eventCount : Tree → Nat
  | .scalar _ => 1
  | .alias _ => 1
  | .sequence _ items => 2 + Tree.eventCountOfAll items
  | .mapping _ entries => 2 + Tree.eventCountOfEntries entries

def Tree.eventCountOfAll : List Tree → Nat
  | [] => 0
  | tree :: rest => tree.eventCount + Tree.eventCountOfAll rest

def Tree.eventCountOfEntries : List (Tree × Tree) → Nat
  | [] => 0
  | (key, value) :: rest =>
      key.eventCount + value.eventCount + Tree.eventCountOfEntries rest

end

/-- Whether a tag is one of an application. -/
def isLocalTag (tag : Option String) : Bool :=
  tag.any (fun tag => tag.toList.head? == some '!')

/-- Follows an alias, as long as the budget lasts. -/
def followAlias : StateT Nat Option Unit := do
  match ← get with
  | 0 => failure
  | budget + 1 => set budget

/-- A tree with its aliases replaced. The fuel bounds how deep it is nested. -/
def AnchoredTree.expand (tree : AnchoredTree) : Nat → Tree → StateT Nat Option Node
  | 0, _ => failure
  | _ + 1, .scalar scalar => pure (.scalar scalar)
  | fuel + 1, .alias number => do
      followAlias
      match tree.node? number with
      | some target => tree.expand fuel target
      | none => failure
  | fuel + 1, .sequence tag items => do
      let items ← items.mapM (tree.expand fuel)
      pure (.sequence (isLocalTag tag) items)
  | fuel + 1, .mapping tag entries => do
      let entries ← entries.mapM (fun (key, value) => do
        let key ← tree.expand fuel key
        let value ← tree.expand fuel value
        pure (key, value))
      pure (.mapping (isLocalTag tag) entries)

/-- How deep collections may be nested. -/
def depthLimit : Nat := 128

mutual

/-- Whether collections are nested no deeper than a number of levels. -/
def nestsWithin : Nat → Node → Bool
  | _, .json _ => true
  | _, .scalar _ => true
  | 0, .sequence .. => false
  | 0, .mapping .. => false
  | levels + 1, .sequence _ items => itemsNestWithin levels items
  | levels + 1, .mapping _ entries => entriesNestWithin levels entries

def itemsNestWithin : Nat → List Node → Bool
  | _, [] => true
  | levels, item :: rest => nestsWithin levels item && itemsNestWithin levels rest

def entriesNestWithin : Nat → List (Node × Node) → Bool
  | _, [] => true
  | levels, (key, value) :: rest =>
      nestsWithin levels key && nestsWithin levels value && entriesNestWithin levels rest

end

/-- The node of the first document of a text, and whether another document follows. A text that
says nothing is a plain scalar without text. -/
def parseFirst? (text : String) : Option (Node × Bool) := do
  let tokens ← tokens? text
  let tree ← AnchoredTree.ofTokens? tokens
  match tree.root with
  | none => some (.scalar ⟨"", .plain, none⟩, tree.isFollowed)
  | some root =>
      let (node, _) ← (tree.expand (2 * depthLimit + 2) root).run (100 * root.eventCount)
      if nestsWithin depthLimit node then some (node, tree.isFollowed) else none

/-- The node of a text that is one document; none if it is not. -/
def parse? (text : String) : Option Node :=
  (parseFirst? text).bind (fun (node, isFollowed) => if isFollowed then none else some node)

/-! ### Texts that are a value of any kind -/

def sameMeaning : Meaning → Meaning → Bool
  | .float a, .float b => a.equal b || a == b
  | a, b => a == b

mutual

/-- Whether two nodes are the same key of a mapping. -/
def sameKey : Node → Node → Bool
  | .scalar a, .scalar b => sameMeaning a.meaning b.meaning && a.hasLocalTag == b.hasLocalTag
  | .sequence tagA as, .sequence tagB bs => tagA == tagB && sameKeys as bs
  | .mapping tagA as, .mapping tagB bs => tagA == tagB && sameEntries as bs
  | _, _ => false

def sameKeys : List Node → List Node → Bool
  | [], [] => true
  | a :: as, b :: bs => sameKey a b && sameKeys as bs
  | _, _ => false

def sameEntries : List (Node × Node) → List (Node × Node) → Bool
  | [], [] => true
  | (k, a) :: as, (l, b) :: bs => sameKey k l && sameKey a b && sameEntries as bs
  | _, _ => false

end

/-- Whether a scalar has a value: an integer has to fit, and a tag of the core schema has to
agree with its text. -/
def hasValue (scalar : Scalar) : Bool :=
  match scalar.meaning with
  | .wideInt _ | .mistagged .. => false
  | _ => true

mutual

/-- Whether a node is a value of any kind: every scalar has a value, and no mapping has a key
twice. -/
def isValue : Node → Bool
  | .json _ => true
  | .scalar scalar => hasValue scalar
  | .sequence _ items => itemsAreValues items
  | .mapping _ entries => entriesAreValues [] entries

def itemsAreValues : List Node → Bool
  | [] => true
  | item :: rest => isValue item && itemsAreValues rest

def entriesAreValues : List Node → List (Node × Node) → Bool
  | _, [] => true
  | seen, (key, value) :: rest =>
      isValue key && isValue value && !seen.any (sameKey key) && entriesAreValues (key :: seen) rest

end

end Remediation.Yaml
