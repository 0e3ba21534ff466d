import Mathlib.Logic.Relation
import Remediation.Proofs.Regex.Bodies
import Remediation.Proofs.Regex.Spans
import Remediation.Regex.Compile

/-! Patterns that are put into a group behind an anchor, as text. A pattern that can be read by
itself then stands in the group as a whole. One that closes a group which it has not opened ends the
group early, and what follows is read behind it; the anchor then stands in front of the first branch
only.
-/

namespace Remediation.Regex

open Relation (ReflTransGen)

variable {cs rest : List Char}

-----------------------------------------------------------------------------------------
-- Turns of reading a body
-----------------------------------------------------------------------------------------

/-- One turn of reading a body: a part is read, the last part comes under a repetition, or a branch
ends. What is left afterwards is an end of what was left before. -/
inductive Turn : Progress × List Char → Progress × List Char → Prop where
  | blank {progress : Progress} {cs rest : List Char} (behind : rest <:+ cs)
      : Turn (progress, cs) (progress, rest)
  | part {progress : Progress} {cs rest : List Char} (tree : Tree) (extended : Bool)
      (names : List String) (behind : rest <:+ cs)
      : Turn (progress, cs) (⟨extended, names, progress.branches, tree :: progress.parts⟩, rest)
  | repetition {progress repeated : Progress} {cs rest : List Char} {least : Nat}
      {most : Option Nat} (last : progress.repeatLast least most = some repeated)
      (behind : rest <:+ cs)
      : Turn (progress, cs) (repeated, rest)
  | branch {progress : Progress} {cs rest : List Char} (behind : '|' :: rest <:+ cs)
      : Turn (progress, cs)
          (⟨progress.extended, progress.names,
            Tree.ofParts progress.parts.reverse :: progress.branches, []⟩, rest)

theorem Turn.behind {state next : Progress × List Char} (turn : Turn state next)
    : next.2 <:+ state.2 := by
  cases turn with
  | blank behind => exact behind
  | part _ _ _ behind => exact behind
  | repetition _ behind => exact behind
  | branch behind => exact (List.suffix_cons _ _).trans behind

theorem suffix_of_turns {state next : Progress × List Char} (turns : ReflTransGen Turn state next)
    : next.2 <:+ state.2 := by
  induction turns with
  | refl => exact List.suffix_rfl
  | tail _ turn ih => exact turn.behind.trans ih

theorem suffix_of_tail? (found : cs.tail? = some rest) : rest <:+ cs := by
  cases cs with
  | nil => cases found
  | cons c tail => exact Option.some.inj found ▸ List.suffix_cons c tail

section Turns

variable {inside inside' : Progress → List Char → Option (Progress × List Char)}

theorem turn_of_readGroup {text : List Char} {progress next : Progress} {extended : Bool}
    {names : List String} {change : FlagChange} (suffix : cs <:+ text)
    (within : ∀ {start inner left}, inside start cs = some (inner, left) → left <:+ cs)
    (read : readGroup inside progress extended names change cs = some (next, rest))
    : Turn (progress, text) (next, rest) ∧ rest <:+ cs := by
  obtain ⟨⟨inner, left⟩, body, read⟩ := Option.bind_eq_some_iff.mp read
  obtain ⟨behind, closed, read⟩ := Option.bind_eq_some_iff.mp read
  cases read
  have shorter := (suffix_of_tail? closed).trans (within body)
  exact ⟨.part _ _ _ (shorter.trans suffix), shorter⟩

/-- What a character starts is a turn, and what is left is behind the character. -/
theorem turn_of_readTurn {progress next : Progress} {c : Char}
    (within : ∀ {start opened inner left}, inside start opened = some (inner, left)
      → left <:+ opened)
    (read : readTurn inside progress c cs = some (next, rest))
    : Turn (progress, c :: cs) (next, rest) ∧ rest <:+ cs := by
  have behind : cs <:+ c :: cs := List.suffix_cons c cs
  unfold readTurn at read
  split at read
  case h_1 =>
    cases read
    exact ⟨.branch List.suffix_rfl, List.suffix_rfl⟩
  case h_2 =>
    obtain ⟨⟨opening, opened⟩, found, read⟩ := Option.bind_eq_some_iff.mp read
    have suffix := (readOpening_ended progress.extended cs).suffix_of found
    cases opening with
    | flags change =>
        cases read
        exact ⟨.part _ _ _ (suffix.trans behind), suffix⟩
    | group change =>
        exact (turn_of_readGroup (suffix.trans behind) within read).imp_right (·.trans suffix)
    | named name =>
        simp only at read
        split at read
        · cases read
        · exact (turn_of_readGroup (suffix.trans behind) within read).imp_right (·.trans suffix)
  case h_3 =>
    obtain ⟨⟨tree, left⟩, found, same⟩ := Option.map_eq_some_iff.mp read
    have suffix := (readClass_ended progress.extended cs).suffix_of found
    cases same
    exact ⟨.part _ _ _ (suffix.trans behind), suffix⟩
  case h_4 | h_5 | h_6 =>
    obtain ⟨repeated, last, same⟩ := Option.map_eq_some_iff.mp read
    cases same
    exact ⟨.repetition last ((skipLazy_suffix cs).trans behind), skipLazy_suffix cs⟩
  case h_7 =>
    obtain ⟨⟨bounds, left⟩, found, read⟩ := Option.bind_eq_some_iff.mp read
    have suffix := (readBounds_ended progress.extended cs).suffix_of found
    obtain ⟨repeated, last, same⟩ := Option.map_eq_some_iff.mp read
    cases same
    exact ⟨.repetition last (suffix.trans behind), suffix⟩
  case h_8 =>
    obtain ⟨⟨primitive, left⟩, found, same⟩ := Option.map_eq_some_iff.mp read
    have suffix := (readEscape_ended progress.extended cs).suffix_of found
    cases same
    exact ⟨.part _ _ _ (suffix.trans behind), suffix⟩
  all_goals
    cases read
    exact ⟨.part _ _ _ behind, List.suffix_rfl⟩

/-- What a turn reads depends on the bodies of the groups in what is left only. -/
theorem readTurn_congr {progress : Progress} {c : Char}
    (same : ∀ start opened, opened <:+ cs → inside start opened = inside' start opened)
    : readTurn inside progress c cs = readTurn inside' progress c cs := by
  unfold readTurn
  split
  case h_2 =>
    refine Option.bind_congr (fun ⟨opening, opened⟩ found => ?_)
    have suffix := (readOpening_ended progress.extended cs).suffix_of found
    simp only [readGroup, same _ opened suffix]
  all_goals rfl

end Turns

/-- A body is read in turns, up to the end or to a parenthesis. -/
theorem turns_of_readBody {fuel : Nat} {progress last : Progress}
    (read : readBody fuel progress cs = some (last, rest))
    : ReflTransGen Turn (progress, cs) (last, rest)
      ∧ (rest = [] ∨ ∃ behind, rest = ')' :: behind) := by
  induction fuel generalizing progress cs last rest with
  | zero => cases read
  | succ fuel ih =>
      have blank : Turn (progress, cs) (progress, skip progress.extended cs) :=
        .blank (skip_suffix _ _)
      simp only [readBody] at read
      generalize skip progress.extended cs = text at read blank
      rcases text with _ | ⟨c, tail⟩
      · cases read
        exact ⟨.single blank, .inl rfl⟩
      · simp only at read
        split at read
        · rename_i closes
          cases read
          exact ⟨.single blank, .inr ⟨tail, closes ▸ rfl⟩⟩
        · obtain ⟨⟨next, left⟩, turn, read⟩ := Option.bind_eq_some_iff.mp read
          obtain ⟨turns, ends⟩ := ih read
          have first := (turn_of_readTurn (fun body => suffix_of_turns (ih body).1) turn).1
          exact ⟨.head blank (.head first turns), ends⟩

/-- More fuel than characters changes nothing. -/
theorem readBody_fuel {fuel fuel' : Nat} (enough : cs.length < fuel) (enough' : cs.length < fuel')
    (progress : Progress)
    : readBody fuel progress cs = readBody fuel' progress cs := by
  induction fuel generalizing cs fuel' progress with
  | zero => exact absurd enough (Nat.not_lt_zero _)
  | succ fuel ih =>
      obtain _ | fuel' := fuel'
      · exact absurd enough' (Nat.not_lt_zero _)
      have shorter := (skip_suffix progress.extended cs).length_le
      simp only [readBody]
      generalize skip progress.extended cs = text at shorter ⊢
      rcases text with _ | ⟨c, tail⟩
      · rfl
      rw [List.length_cons] at shorter
      have onward : ∀ next rest, rest <:+ tail
          → readBody fuel next rest = readBody fuel' next rest := by
        intro next rest suffix
        have := suffix.length_le
        exact ih (by omega) (by omega) next
      simp only
      split
      · rfl
      · rw [readTurn_congr onward]
        refine Option.bind_congr (fun found turn => onward found.1 found.2 ?_)
        exact (turn_of_readTurn
          (fun body => suffix_of_turns (turns_of_readBody body).1) turn).2

/-- Without a bar no branch ends. -/
theorem branches_of_turns {state last : Progress × List Char}
    (turns : ReflTransGen Turn state last) (noBar : '|' ∉ state.2)
    : last.1.branches = state.1.branches := by
  induction turns with
  | refl => rfl
  | tail turns turn ih =>
      rw [← ih]
      have suffix := suffix_of_turns turns
      cases turn with
      | blank => rfl
      | part => rfl
      | @repetition progress repeated _ _ _ _ last =>
          unfold Progress.repeatLast at last
          split at last
          · split at last
            · rw [← Option.some.inj last]
            · cases last
          · cases last
      | branch behind =>
          exact absurd ((behind.trans suffix).subset List.mem_cons_self) noBar

-----------------------------------------------------------------------------------------
-- What stands behind an anchor
-----------------------------------------------------------------------------------------

/-- Parts, last one first, that start with an anchor and go on behind it. -/
def AnchoredParts (parts : List Tree) : Prop :=
  ∃ next more, parts.reverse = .anchor .lineStart :: next :: more

/-- Whether the first branch of what is read starts with an anchor and goes on behind it. -/
def Progress.Anchored (progress : Progress) : Prop :=
  progress.branches = [] ∧ AnchoredParts progress.parts
    ∨ ∃ others next more,
        progress.branches = others ++ [.concatenation (.anchor .lineStart :: next :: more)]

theorem AnchoredParts.push {parts : List Tree} (anchored : AnchoredParts parts) (tree : Tree)
    : AnchoredParts (tree :: parts) := by
  obtain ⟨next, more, same⟩ := anchored
  exact ⟨next, more ++ [tree], by rw [List.reverse_cons, same]; rfl⟩

theorem AnchoredParts.replace {part : Tree} {parts : List Tree}
    (anchored : AnchoredParts (part :: parts)) (tree : Tree)
    : AnchoredParts (tree :: parts) := by
  obtain ⟨next, more, same⟩ := anchored
  rw [List.reverse_cons] at same
  cases front : parts.reverse with
  | nil =>
      rw [front] at same
      cases same
  | cons first others =>
      rw [front, List.cons_append] at same
      obtain ⟨rfl, -⟩ := List.cons.inj same
      cases others with
      | nil => exact ⟨tree, [], by rw [List.reverse_cons, front]; rfl⟩
      | cons second others =>
          exact ⟨second, others ++ [tree], by rw [List.reverse_cons, front]; rfl⟩

theorem AnchoredParts.ofParts {parts : List Tree} (anchored : AnchoredParts parts)
    : ∃ next more,
        Tree.ofParts parts.reverse = .concatenation (.anchor .lineStart :: next :: more) := by
  obtain ⟨next, more, same⟩ := anchored
  exact ⟨next, more, by rw [same]; rfl⟩

theorem Turn.anchored {state next : Progress × List Char} (turn : Turn state next)
    (anchored : state.1.Anchored)
    : next.1.Anchored := by
  cases turn with
  | blank => exact anchored
  | part tree => exact anchored.imp_left (And.imp_right (·.push tree))
  | @repetition progress repeated _ _ least most last =>
      unfold Progress.repeatLast at last
      split at last
      · rename_i part parts same
        split at last
        · rw [← Option.some.inj last]
          refine anchored.imp_left (And.imp_right (fun parts => ?_))
          rw [same] at parts
          exact parts.replace _
        · cases last
      · cases last
  | @branch progress =>
      right
      rcases anchored with ⟨first, parts⟩ | ⟨others, next, more, same⟩
      · obtain ⟨next, more, same⟩ := parts.ofParts
        exact ⟨[], next, more, by rw [first, same]; rfl⟩
      · exact ⟨Tree.ofParts progress.parts.reverse :: others, next, more, by rw [same]; rfl⟩

theorem anchored_of_turns {state last : Progress × List Char}
    (turns : ReflTransGen Turn state last) (anchored : state.1.Anchored)
    : last.1.Anchored := by
  induction turns with
  | refl => exact anchored
  | tail _ turn ih => exact turn.anchored ih

/-- The tree that is read then has the anchor in front of its first branch. -/
theorem Progress.Anchored.tree {progress : Progress} (anchored : progress.Anchored)
    : ∃ next more others,
        progress.tree = .ofBranches (.concatenation (.anchor .lineStart :: next :: more) :: others)
        ∧ (progress.branches = [] → others = []) := by
  unfold Progress.tree
  rcases anchored with ⟨first, parts⟩ | ⟨others, next, more, same⟩
  · obtain ⟨next, more, same⟩ := parts.ofParts
    exact ⟨next, more, [], by rw [first, same]; rfl, fun _ => rfl⟩
  · refine ⟨next, more, others.reverse ++ [Tree.ofParts progress.parts.reverse], ?_, ?_⟩
    · rw [same, List.reverse_cons, List.reverse_append]
      rfl
    · intro empty
      rw [empty] at same
      cases others <;> cases same

theorem meanings_cons {flags after : Flags} {tree : Tree} {trees : List Tree}
    {regexes : List Regex} (means : meanings flags (tree :: trees) = some (regexes, after))
    : ∃ first between others, meaning flags tree = some (first, between)
        ∧ meanings between trees = some (others, after) ∧ regexes = first :: others := by
  unfold meanings at means
  obtain ⟨⟨first, between⟩, one, means⟩ := Option.bind_eq_some_iff.mp means
  obtain ⟨⟨others, last⟩, more, same⟩ := Option.bind_eq_some_iff.mp means
  obtain ⟨rfl, rfl⟩ := Prod.mk.inj (Option.some.inj same)
  exact ⟨first, between, others, one, more, rfl⟩

/-- An anchored concatenation is bound to the start of the text. -/
theorem meaning_anchored {next : Tree} {more : List Tree} {regex : Regex} {after : Flags}
    (means : meaning {} (.concatenation (.anchor .lineStart :: next :: more))
      = some (regex, after))
    : ∃ rest, regex = .seq (.look .textStart) rest := by
  unfold meaning at means
  obtain ⟨⟨parts, flags⟩, all, same⟩ := Option.bind_eq_some_iff.mp means
  obtain ⟨rfl, rfl⟩ := Prod.mk.inj (Option.some.inj same)
  obtain ⟨first, between, others, anchor, rest, rfl⟩ := meanings_cons all
  obtain ⟨second, _, _, _, _, rfl⟩ := meanings_cons rest
  obtain ⟨rfl, -⟩ := Prod.mk.inj (Option.some.inj anchor)
  exact ⟨_, rfl⟩

/-- A choice of branches means a choice of expressions, the first one of which is what the first
branch means. -/
theorem meaning_ofBranches {flags after : Flags} {branch : Tree} {branches : List Tree}
    {regex : Regex} (means : meaning flags (.ofBranches (branch :: branches)) = some (regex, after))
    : ∃ first between others, meaning flags branch = some (first, between)
        ∧ regex = alts (first :: others) ∧ (branches = [] → others = []) := by
  cases branches with
  | nil => exact ⟨regex, after, [], means, rfl, fun _ => rfl⟩
  | cons second branches =>
      change meaning flags (.alternation (branch :: second :: branches)) = _ at means
      unfold meaning at means
      obtain ⟨⟨regexes, last⟩, all, same⟩ := Option.bind_eq_some_iff.mp means
      obtain ⟨rfl, rfl⟩ := Prod.mk.inj (Option.some.inj same)
      obtain ⟨first, between, others, one, _, rfl⟩ := meanings_cons all
      exact ⟨first, between, others, one, rfl, fun none => by cases none⟩

-----------------------------------------------------------------------------------------
-- Patterns in a group behind an anchor
-----------------------------------------------------------------------------------------

/-- What is read of a text as a body, and what is left of it. -/
def readWhole (cs : List Char) : Option (Progress × List Char) :=
  readBody (cs.length + 1) ⟨false, [], [], []⟩ cs

/-- The tree of a text that is read to its end, unless it is too deep. -/
def treeOf (read : Progress × List Char) : Option Tree :=
  if read.2.isEmpty && read.1.tree.depth ≤ greatestDepth then some read.1.tree else none

theorem readTree_eq (cs : List Char) : readTree cs = (readWhole cs).bind treeOf := rfl

/-- Whether a pattern closes a group that it did not open, in front of a text. -/
def ClosesEarly (pattern behind : List Char) : Prop :=
  ∃ inner, readWhole pattern = some (inner, ')' :: behind)

/-- Whether a parenthesis behind a pattern is taken for a part of it. -/
def TakesIn (pattern : List Char) : Prop :=
  ∃ inner, readWhole (pattern ++ [')']) = some (inner, [])

instance : Decidable (TakesIn cs) :=
  decidable_of_iff ((readWhole (cs ++ [')'])).any (·.2.isEmpty) = true) <| by
    unfold TakesIn
    cases readWhole (cs ++ [')']) with
    | none => simp
    | some found =>
        obtain ⟨inner, rest⟩ := found
        simp

theorem readWhole_ended (cs : List Char)
    : Ended Whole cs (readWhole cs) (readWhole (cs ++ [')'])) :=
  readBody_ended (enough_self cs) _

/-- A group behind an anchor. -/
def grouped (pattern : List Char) : List Char :=
  '^' :: '(' :: '?' :: ':' :: (pattern ++ [')'])

theorem readBody_anchor (fuel : Nat) (names : List String) (branches parts : List Tree)
    (rest : List Char)
    : readBody (fuel + 1) ⟨false, names, branches, parts⟩ ('^' :: rest)
      = readBody fuel ⟨false, names, branches, .anchor .lineStart :: parts⟩ rest := rfl

theorem readBody_group (fuel : Nat) (names : List String) (branches parts : List Tree)
    (rest : List Char)
    : readBody (fuel + 1) ⟨false, names, branches, parts⟩ ('(' :: '?' :: ':' :: rest)
      = (readBody fuel ⟨false, names, [], []⟩ rest).bind (fun found =>
          found.2.tail?.bind (readBody fuel
            ⟨false, found.1.names, branches, .group [] found.1.tree :: parts⟩)) :=
  (Option.bind_assoc ..).trans (Option.bind_congr (fun _ _ => Option.bind_assoc ..))

theorem readTree_grouped (pattern : List Char)
    : readTree (grouped pattern)
      = (readWhole (pattern ++ [')'])).bind (fun found =>
          found.2.tail?.bind (fun behind =>
            (readBody (pattern.length + 4)
              ⟨false, found.1.names, [], [.group [] found.1.tree, .anchor .lineStart]⟩
              behind).bind treeOf)) := by
  have fuel : readBody (pattern.length + 4) ⟨false, [], [], []⟩ (pattern ++ [')'])
      = readWhole (pattern ++ [')']) :=
    readBody_fuel (by simp) (by simp) _
  have length : (grouped pattern).length + 1 = pattern.length + 4 + 2 := by
    simp [grouped]
  rw [readTree_eq, ← fuel]
  unfold readWhole
  rw [length]
  unfold grouped
  rw [readBody_anchor, readBody_group, Option.bind_assoc]
  exact Option.bind_congr (fun found _ => Option.bind_assoc ..)

/-- A parenthesis is taken in by a comment. -/
theorem openComment_of_takesIn {own : Progress} (takes : TakesIn cs)
    (whole : readWhole cs = some (own, []))
    : OpenComment cs := by
  obtain ⟨inner, takes⟩ := takes
  have ended := readWhole_ended cs
  rw [whole, takes] at ended
  cases ended with
  | swallowed comment => exact comment

/-- The tree of a pattern in a group behind an anchor. -/
def groupTree (tree : Tree) : Tree :=
  .concatenation [.anchor .lineStart, .group [] tree]

theorem depth_groupTree (tree : Tree) : (groupTree tree).depth = tree.depth + 2 := by
  simp [groupTree, Tree.depth, Tree.depthOfAll]

theorem readTree_grouped_takesIn (takes : TakesIn cs) : readTree (grouped cs) = none := by
  obtain ⟨inner, takes⟩ := takes
  rw [readTree_grouped, takes]
  rfl

theorem readTree_grouped_whole {own : Progress} (whole : readWhole cs = some (own, []))
    (leaves : ¬TakesIn cs)
    : readTree (grouped cs)
      = if own.tree.depth + 2 ≤ greatestDepth then some (groupTree own.tree) else none := by
  have ended := readWhole_ended cs
  rw [whole] at ended
  rw [readTree_grouped]
  generalize read : readWhole (cs ++ [')']) = found at ended ⊢
  cases ended with
  | swallowed => exact absurd ⟨own, read⟩ leaves
  | kept =>
      simp only [List.nil_append, Option.bind_some]
      change treeOf (⟨false, own.names, [], [.group [] own.tree, .anchor .lineStart]⟩, []) = _
      unfold treeOf
      change (if true && (groupTree own.tree).depth ≤ greatestDepth then some (groupTree own.tree)
        else none) = _
      rw [depth_groupTree, Bool.true_and]
      simp only [decide_eq_true_eq]

/-- Behind an early parenthesis the text goes on behind the anchored group. -/
theorem readTree_grouped_early {behind : List Char} {tree : Tree} (early : ClosesEarly cs behind)
    (read : readTree (grouped cs) = some tree)
    : ∃ next more others,
        tree = .ofBranches (.concatenation (.anchor .lineStart :: next :: more) :: others)
        ∧ ('|' ∉ behind → others = []) := by
  obtain ⟨inner, early⟩ := early
  have ended := readWhole_ended cs
  rw [early] at ended
  rw [readTree_grouped] at read
  generalize readWhole (cs ++ [')']) = found at ended read
  cases ended with
  | kept =>
      simp only [Option.bind_some, List.cons_append, List.tail?_cons] at read
      obtain ⟨⟨last, rest⟩, body, done⟩ := Option.bind_eq_some_iff.mp read
      have turns := (turns_of_readBody body).1
      have anchored : last.Anchored :=
        anchored_of_turns turns (.inl ⟨rfl, .group [] inner.tree, [], rfl⟩)
      obtain ⟨next, more, others, same, alone⟩ := anchored.tree
      unfold treeOf at done
      split at done
      · refine ⟨next, more, others, ?_, fun noBar => alone ?_⟩
        · rw [← same]
          exact (Option.some.inj done).symm
        · exact branches_of_turns turns (by simpa using noBar)
      · cases done

theorem readTree_grouped_none (malformed : readWhole cs = none)
    : readTree (grouped cs) = none := by
  have ended := readWhole_ended cs
  rw [malformed] at ended
  rw [readTree_grouped]
  cases read : readWhole (cs ++ [')']) with
  | none => rfl
  | some found =>
      rw [read] at ended
      cases ended with
      | failed short =>
          obtain ⟨inner, rest⟩ := found
          obtain rfl : rest = [] := short inner rest rfl
          rfl

theorem toList_grouped (pattern : String)
    : (s!"^(?:{pattern})").toList = grouped pattern.toList := by
  simp [grouped, toString]

theorem meaning_groupTree (tree : Tree)
    : meaning {} (groupTree tree)
      = (meaning {} tree).map (fun found => (.seq (.look .textStart) found.1, {})) := by
  unfold groupTree
  simp only [meaning, meanings, Flags.apply, List.foldl_nil, Option.bind_eq_bind, Option.bind_some]
  cases meaning {} tree with
  | none => rfl
  | some found => rfl

-----------------------------------------------------------------------------------------
-- Compiling patterns that match from the start
-----------------------------------------------------------------------------------------

/-- The expression of a tree, unless it has no meaning or is too large. -/
def compileTree (tree : Option Tree) : Except Rejection Regex :=
  match tree.bind (meaning {}) with
  | none => .error .malformed
  | some (regex, _) => if sizeLimit < regex.size then .error .tooLarge else .ok regex

theorem compile_eq (pattern : String)
    : compile pattern = compileTree (readTree pattern.toList) := rfl

theorem compileAtStart_eq (pattern : String)
    : compileAtStart pattern = compileTree (readTree (grouped pattern.toList)) := by
  rw [← toList_grouped]
  rfl

theorem compileTree_eq_ok {tree : Option Tree} {regex : Regex}
    (accepted : compileTree tree = .ok regex)
    : ∃ found after, tree = some found ∧ meaning {} found = some (regex, after)
        ∧ regex.size ≤ sizeLimit := by
  unfold compileTree at accepted
  split at accepted
  · cases accepted
  · rename_i means
    obtain ⟨found, read, means⟩ := Option.bind_eq_some_iff.mp means
    split at accepted
    · cases accepted
    · rename_i small
      cases accepted
      exact ⟨found, _, read, means, Nat.le_of_not_lt small⟩

theorem compileTree_ok {tree : Tree} {own : Regex} {after : Flags}
    (means : meaning {} tree = some (own, after)) (small : own.size ≤ sizeLimit)
    : compileTree (some tree) = .ok own := by
  unfold compileTree
  rw [Option.bind_some, means]
  exact if_neg (Nat.not_lt.mpr small)

theorem compileTree_groupTree {tree : Tree} {own : Regex} {after : Flags}
    (means : meaning {} tree = some (own, after))
    : compileTree (some (groupTree tree))
      = if sizeLimit < stateSize + own.size then .error .tooLarge
        else .ok (.seq (.look .textStart) own) := by
  unfold compileTree
  rw [Option.bind_some, meaning_groupTree, means]
  rfl

theorem whole_of_readTree {tree : Tree} (read : readTree cs = some tree)
    : ∃ own, readWhole cs = some (own, []) ∧ own.tree = tree := by
  rw [readTree_eq] at read
  obtain ⟨⟨own, rest⟩, whole, done⟩ := Option.bind_eq_some_iff.mp read
  unfold treeOf at done
  split at done
  · rename_i fits
    obtain ⟨empty, -⟩ := Bool.and_eq_true_iff.mp fits
    obtain rfl : rest = [] := List.isEmpty_iff.mp empty
    exact ⟨own, whole, Option.some.inj done⟩
  · cases done

theorem readTree_of_whole {own : Progress} (whole : readWhole cs = some (own, []))
    (fits : own.tree.depth ≤ greatestDepth)
    : readTree cs = some own.tree := by
  rw [readTree_eq, whole, Option.bind_some]
  simp [treeOf, fits]

/-- A pattern that is accepted by itself is anchored as a whole. It is still refused where a comment
takes in the parenthesis behind it, or where it is too deep for the group or too large for the
anchor. -/
theorem compileAtStart_of_compile {pattern : String} {own : Regex}
    (accepted : compile pattern = .ok own)
    : ∃ tree, readTree pattern.toList = some tree
      ∧ compileAtStart pattern
        = if TakesIn pattern.toList ∨ greatestDepth < tree.depth + 2 then
            Except.error .malformed
          else if sizeLimit < stateSize + own.size then .error .tooLarge
          else .ok (.seq (.look .textStart) own) := by
  rw [compile_eq] at accepted
  obtain ⟨tree, after, read, means, -⟩ := compileTree_eq_ok accepted
  obtain ⟨whole, bare, rfl⟩ := whole_of_readTree read
  refine ⟨whole.tree, read, ?_⟩
  rw [compileAtStart_eq]
  by_cases takes : TakesIn pattern.toList
  · rw [if_pos (.inl takes), readTree_grouped_takesIn takes]
    rfl
  · rw [readTree_grouped_whole bare takes]
    by_cases deep : greatestDepth < whole.tree.depth + 2
    · rw [if_neg (Nat.not_le.mpr deep), if_pos (.inr deep)]
      rfl
    · rw [if_pos (Nat.not_lt.mp deep), if_neg (not_or.mpr ⟨takes, deep⟩)]
      exact compileTree_groupTree means

/-- A pattern that is accepted behind the anchor is accepted by itself, or it closes the group
early. Then the anchor stands in front of the first branch only. -/
theorem compile_of_compileAtStart {pattern : String} {regex : Regex}
    (accepted : compileAtStart pattern = .ok regex)
    : (∃ own, compile pattern = .ok own ∧ regex = .seq (.look .textStart) own)
      ∨ ∃ behind first others,
          ClosesEarly pattern.toList behind
          ∧ regex = alts (.seq (.look .textStart) first :: others)
          ∧ ('|' ∉ behind → others = []) := by
  rw [compileAtStart_eq] at accepted
  obtain ⟨tree, after, read, means, small⟩ := compileTree_eq_ok accepted
  cases whole : readWhole pattern.toList with
  | none =>
      rw [readTree_grouped_none whole] at read
      cases read
  | some found =>
      obtain ⟨inner, rest⟩ := found
      rcases (turns_of_readBody whole).2 with rfl | ⟨behind, rfl⟩
      · left
        by_cases takes : TakesIn pattern.toList
        · rw [readTree_grouped_takesIn takes] at read
          cases read
        · rw [readTree_grouped_whole whole takes] at read
          split at read
          · rename_i fits
            obtain rfl := Option.some.inj read
            rw [meaning_groupTree] at means
            obtain ⟨⟨own, last⟩, bare, same⟩ := Option.map_eq_some_iff.mp means
            obtain ⟨rfl, rfl⟩ := Prod.mk.inj same
            refine ⟨own, ?_, rfl⟩
            rw [compile_eq, readTree_of_whole whole (by omega)]
            exact compileTree_ok bare (Nat.le_trans (Nat.le_add_left _ stateSize) small)
          · cases read
      · right
        have early : ClosesEarly pattern.toList behind := ⟨inner, whole⟩
        obtain ⟨next, more, trees, rfl, alone⟩ := readTree_grouped_early early read
        obtain ⟨branch, between, others, first, rfl, single⟩ := meaning_ofBranches means
        obtain ⟨inner, rfl⟩ := meaning_anchored first
        exact ⟨behind, inner, others, early, rfl, fun noBar => single (alone noBar)⟩

theorem compile_of_closesEarly {pattern : String} {behind : List Char}
    (early : ClosesEarly pattern.toList behind)
    : compile pattern = .error .malformed := by
  obtain ⟨inner, early⟩ := early
  rw [compile_eq, readTree_eq, early]
  rfl

end Remediation.Regex
