import Remediation.Proofs.Except
import Remediation.Proofs.KeyPath.Scanning
import Remediation.Proofs.Text.Trimming

/-! Reading key paths without fuel. The readers count down the depth of selectors and the number of
segments, and both bounds are long enough for every text: what is read from a text follows the
brackets, dots and quotes in it, and from here on nothing but them.
-/

namespace Remediation.KeyPath

/-- A reader for the paths inside selectors. -/
abbrev PathReader := List Char → Except MalformedPath (List Step)

/-- The steps that a text is read as. -/
def readPath : PathReader :=
  fun cs => readSteps (cs.length + 1) cs

/-- The steps of segments. -/
def readWhole (source : String) (cs : List Char) : Except MalformedPath (List Step) :=
  readSegments readPath source (cs.length + 1) cs

/-- The steps of what stands behind the brackets of a segment. -/
def readOnward (source : String) : List Char → Except MalformedPath (List Step)
  | [] => .ok []
  | '.' :: rest => readWhole source rest
  | c :: _ => .error ⟨source, .unexpected c⟩

/-- The steps of what stands behind a field or a bracket. -/
def readBehind (source : String) (cs : List Char) : Except MalformedPath (List Step) := do
  let (brackets, rest) ← readBrackets readPath source cs.length cs
  let steps ← readOnward source rest
  .ok (brackets ++ steps)

theorem parse_eq (source : String)
    : parse source = (readPath source.toList).map (fun steps => ⟨source, steps⟩) := by
  rfl

-----------------------------------------------------------------------------------------
-- Readers that agree on shorter texts
-----------------------------------------------------------------------------------------

variable {inner other : PathReader} {source : String}

theorem readSelector_congr {cs : List Char}
    (agree : ∀ path : List Char, path.length ≤ cs.length → inner path = other path)
    : readSelector inner source cs = readSelector other source cs := by
  unfold readSelector
  split
  · rfl
  · cases split : splitAtComparison none cs with
    | none =>
        dsimp only
        rw [agree cs (Nat.le_refl _)]
    | some found =>
        obtain ⟨left, comparison, right⟩ := found
        have shorter : (Text.trim left).length ≤ cs.length :=
          Nat.le_trans (Text.trim_length_le left) (isPrefix_of_splitAtComparison split).length_le
        dsimp only
        rw [agree (Text.trim left) shorter]

theorem readBracket_congr {cs : List Char}
    (agree : ∀ path : List Char, path.length < cs.length → inner path = other path)
    : readBracket inner source cs = readBracket other source cs := by
  have bound := Text.trim_length_le cs
  unfold readBracket
  split
  · rfl
  · rfl
  · rename_i selector shape
    refine readSelector_congr (fun path shorter => agree path ?_)
    have trimmed := Text.trim_length_le selector
    rw [shape, List.length_cons] at bound
    omega
  · rfl

theorem readBrackets_length {fuel : Nat} {cs rest : List Char} {steps : List Step}
    (read : readBrackets inner source fuel cs = .ok (steps, rest))
    : rest.length ≤ cs.length := by
  induction fuel generalizing cs steps with
  | zero =>
      obtain ⟨-, rfl⟩ := Prod.mk.inj (Except.ok.inj read)
      exact Nat.le_refl _
  | succ fuel ih =>
      simp only [readBrackets] at read
      split at read
      · rename_i content
        cases closing : splitAtClosing none 1 content with
        | none => simp [closing] at read
        | some found =>
            obtain ⟨inside, after⟩ := found
            simp only [closing] at read
            cases bracket : readBracket inner source inside with
            | error fault => simp [bracket, bind, Except.bind] at read
            | ok step =>
                cases brackets : readBrackets inner source fuel after with
                | error fault => simp [bracket, brackets, bind, Except.bind] at read
                | ok found =>
                    obtain ⟨steps, behind⟩ := found
                    simp only [bracket, brackets, bind, Except.bind] at read
                    obtain ⟨-, rfl⟩ := Prod.mk.inj (Except.ok.inj read)
                    have shorter := ih brackets
                    rw [eq_of_splitAtClosing closing]
                    simp only [List.length_cons, List.length_append]
                    omega
      · obtain ⟨-, rfl⟩ := Prod.mk.inj (Except.ok.inj read)
        exact Nat.le_refl _

/-- As many brackets are read as there are, with any fuel that is enough. -/
theorem readBrackets_congr {cs : List Char} {fuel more : Nat}
    (agree : ∀ path : List Char, path.length < cs.length → inner path = other path)
    (enough : cs.length ≤ fuel) (also : cs.length ≤ more)
    : readBrackets inner source fuel cs = readBrackets other source more cs := by
  induction fuel generalizing cs more with
  | zero =>
      have empty : cs = [] := List.eq_nil_of_length_eq_zero (by omega)
      subst empty
      cases more with
      | zero => rfl
      | succ more => rfl
  | succ fuel ih =>
      cases cs with
      | nil =>
          cases more with
          | zero => rfl
          | succ more => rfl
      | cons c rest =>
          obtain ⟨more, rfl⟩ : ∃ less, more = less + 1 := ⟨more - 1, by
            simp only [List.length_cons] at also
            omega⟩
          simp only [List.length_cons] at enough also agree
          by_cases opening : c = '['
          · subst opening
            simp only [readBrackets]
            cases closing : splitAtClosing none 1 rest with
            | none => rfl
            | some found =>
                obtain ⟨content, after⟩ := found
                have lengths := congrArg List.length (eq_of_splitAtClosing closing)
                simp only [List.length_append, List.length_cons] at lengths
                have step : readBracket inner source content = readBracket other source content :=
                  readBracket_congr (fun path shorter => agree path (by omega))
                have others
                    : readBrackets inner source fuel after = readBrackets other source more after :=
                  ih (fun path shorter => agree path (by omega)) (by omega) (by omega)
                dsimp only
                rw [step, others]
          · simp [readBrackets, opening]

theorem readField_length {cs rest : List Char} {field : List Step}
    (read : readField source cs = .ok (field, rest))
    : rest.length ≤ cs.length := by
  unfold readField at read
  split at read
  · cases read
  · obtain ⟨-, rfl⟩ := Prod.mk.inj (Except.ok.inj read)
    exact Nat.le_refl _
  · rename_i name
    split at read
    · rename_i quote after shape
      obtain ⟨-, rfl⟩ := Prod.mk.inj (Except.ok.inj read)
      have shorter := (List.dropWhile_suffix (· ≠ '"') (l := name)).length_le
      rw [shape] at shorter
      simp only [List.length_cons] at shorter ⊢
      omega
    · cases read
  · obtain ⟨-, rfl⟩ := Prod.mk.inj (Except.ok.inj read)
    exact (List.dropWhile_suffix _).length_le

/-- As many segments are read as there are, with any fuel that is enough. -/
theorem readSegments_congr {cs : List Char} {fuel more : Nat}
    (agree : ∀ path : List Char, path.length < cs.length → inner path = other path)
    (enough : cs.length < fuel) (also : cs.length < more)
    : readSegments inner source fuel cs = readSegments other source more cs := by
  induction fuel generalizing cs more with
  | zero => omega
  | succ fuel ih =>
      obtain ⟨more, rfl⟩ : ∃ less, more = less + 1 := ⟨more - 1, by omega⟩
      simp only [readSegments]
      cases field : readField source cs with
      | error fault => rfl
      | ok found =>
          obtain ⟨field, rest⟩ := found
          have shorter := readField_length field
          have same
              : readBrackets inner source rest.length rest
                = readBrackets other source rest.length rest :=
            readBrackets_congr (fun path less => agree path (by omega)) (Nat.le_refl _)
              (Nat.le_refl _)
          simp only [bind, Except.bind]
          rw [same]
          cases brackets : readBrackets other source rest.length rest with
          | error fault => rfl
          | ok found =>
              obtain ⟨brackets, after⟩ := found
              have behind := readBrackets_length brackets
              dsimp only
              split
              · rfl
              · rename_i next
                simp only [List.length_cons] at behind
                have others
                    : readSegments inner source fuel next = readSegments other source more next :=
                  ih (fun path less => agree path (by omega)) (by omega) (by omega)
                rw [others]
              · rfl

/-- Every depth that is enough for a text reads the same steps from it. Witness: induction on the
length of the text, since the paths inside selectors are shorter.
-/
theorem readSteps_eq {depth : Nat} {cs : List Char} (enough : cs.length < depth)
    : readSteps depth cs = readPath cs := by
  induction length : cs.length using Nat.strong_induction_on generalizing cs depth with
  | _ length' ih =>
      obtain ⟨depth, rfl⟩ : ∃ less, depth = less + 1 := ⟨depth - 1, by omega⟩
      have bound := Text.trim_length_le cs
      have agree {path : List Char} (shorter : path.length < (Text.trim cs).length)
          : readSteps depth path = readSteps cs.length path := by
        rw [ih path.length (by omega) (by omega) rfl, ih path.length (by omega) (by omega) rfl]
      have same
          : readSegments (readSteps depth) (String.ofList cs) ((Text.trim cs).length + 1)
              (Text.trim cs)
            = readSegments (readSteps cs.length) (String.ofList cs) ((Text.trim cs).length + 1)
              (Text.trim cs) :=
        readSegments_congr (fun path shorter => agree shorter) (by omega) (by omega)
      unfold readPath
      simp only [readSteps]
      split
      · rfl
      · rfl
      · rw [same]

-----------------------------------------------------------------------------------------
-- What the readers do, piece by piece
-----------------------------------------------------------------------------------------

theorem readPath_here {cs : List Char} (here : Text.trim cs = ['@']) : readPath cs = .ok [] := by
  simp [readPath, readSteps, here]

theorem readPath_segments {cs : List Char} (some : Text.trim cs ≠ [])
    (more : Text.trim cs ≠ ['@'])
    : readPath cs
      = (do
          let steps ← readWhole (String.ofList cs) (Text.trim cs)
          if steps.any Step.isUnnamed then .error ⟨String.ofList cs, .emptyFieldName⟩
          else .ok steps) := by
  have bound := Text.trim_length_le cs
  have same
      : readSegments (readSteps cs.length) (String.ofList cs) ((Text.trim cs).length + 1)
          (Text.trim cs)
        = readWhole (String.ofList cs) (Text.trim cs) := by
    refine readSegments_congr (fun path shorter => ?_) (by omega) (by omega)
    exact readSteps_eq (by omega)
  unfold readPath
  simp only [readSteps]
  rw [same]

/-- The steps of a path are those of its segments, and none of them is unnamed. -/
theorem readPath_eq_ok_iff {cs : List Char} (some : Text.trim cs ≠ [])
    (more : Text.trim cs ≠ ['@']) {steps : List Step}
    : readPath cs = .ok steps
      ↔ readWhole (String.ofList cs) (Text.trim cs) = .ok steps
        ∧ steps.any Step.isUnnamed = false := by
  rw [readPath_segments some more, exceptBind_eq_ok_iff]
  constructor
  · rintro ⟨found, read, checked⟩
    split at checked
    · cases checked
    · rename_i named
      obtain rfl := Except.ok.inj checked
      exact ⟨read, Bool.eq_false_iff.mpr named⟩
  · rintro ⟨read, named⟩
    refine ⟨steps, read, ?_⟩
    rw [named]
    rfl

/-- The field of a segment, and what stands behind it. -/
theorem readWhole_eq (source : String) (cs : List Char)
    : readWhole source cs
      = (do
          let (field, rest) ← readField source cs
          let steps ← readBehind source rest
          .ok (field ++ steps)) := by
  unfold readWhole readBehind
  simp only [readSegments]
  cases field : readField source cs with
  | error fault => rfl
  | ok found =>
      obtain ⟨field, rest⟩ := found
      have shorter := readField_length field
      simp only [bind, Except.bind]
      cases brackets : readBrackets readPath source rest.length rest with
      | error fault => rfl
      | ok found =>
          obtain ⟨brackets, after⟩ := found
          have behind := readBrackets_length brackets
          dsimp only
          split
          · simp [readOnward]
          · rename_i next
            simp only [List.length_cons] at behind
            have others
                : readSegments readPath source cs.length next = readWhole source next :=
              readSegments_congr (fun path less => rfl) (by omega) (by omega)
            rw [others]
            change _ = Except.bind (Except.bind (readWhole source next) _) _
            cases readWhole source next with
            | error fault => rfl
            | ok steps => simp [Except.bind]
          · rename_i c rest noDot
            have stopped
                : readOnward source (c :: rest) = .error ⟨source, .unexpected c⟩ := by
              unfold readOnward
              split <;> simp_all
            rw [stopped]

theorem readBehind_nil (source : String) : readBehind source [] = .ok [] := rfl

theorem readBehind_dot (source : String) (rest : List Char)
    : readBehind source ('.' :: rest) = readWhole source rest := by
  change Except.bind (readWhole source rest) (fun steps => .ok ([] ++ steps)) = _
  cases readWhole source rest with
  | error fault => rfl
  | ok steps => rfl

theorem readWhole_bracket (source : String) (rest : List Char)
    : readWhole source ('[' :: rest) = readBehind source ('[' :: rest) := by
  rw [readWhole_eq]
  change Except.bind (readBehind source ('[' :: rest)) (fun steps => .ok ([] ++ steps)) = _
  cases readBehind source ('[' :: rest) with
  | error fault => rfl
  | ok steps => rfl

theorem readWhole_quoted (source : String) {name : List Char} (closed : '"' ∉ name)
    (rest : List Char)
    : readWhole source ('"' :: (name ++ '"' :: rest))
      = (readBehind source rest).map (.field (String.ofList name) :: ·) := by
  have others : ∀ c ∈ name, (decide (c ≠ '"')) = true := by
    intro c member
    simp only [decide_eq_true_eq]
    rintro rfl
    exact closed member
  have front : (name ++ '"' :: rest).takeWhile (· ≠ '"') = name := by
    rw [List.takeWhile_append_of_pos others]
    simp
  have back : (name ++ '"' :: rest).dropWhile (· ≠ '"') = '"' :: rest := by
    rw [List.dropWhile_append_of_pos others]
    simp
  have field
      : readField source ('"' :: (name ++ '"' :: rest))
        = .ok ([.field (String.ofList name)], rest) := by
    simp only [readField, front, back]
  rw [readWhole_eq, field]
  simp only [bind, Except.bind]
  cases readBehind source rest with
  | error fault => rfl
  | ok steps => rfl

theorem readBehind_unbalanced (source : String) {rest : List Char}
    (missing : splitAtClosing none 1 rest = none)
    : readBehind source ('[' :: rest) = .error ⟨source, .unbalancedBracket⟩ := by
  unfold readBehind
  simp [readBrackets, missing, bind, Except.bind]

theorem readBehind_bracket (source : String) {rest content after : List Char}
    (closing : splitAtClosing none 1 rest = some (content, after))
    : readBehind source ('[' :: rest)
      = (do
          let step ← readBracket readPath source content
          let steps ← readBehind source after
          .ok (step :: steps)) := by
  have lengths := congrArg List.length (eq_of_splitAtClosing closing)
  simp only [List.length_append, List.length_cons] at lengths
  have same
      : readBrackets readPath source rest.length after
        = readBrackets readPath source after.length after :=
    readBrackets_congr (fun path less => rfl) (by omega) (by omega)
  unfold readBehind
  simp only [List.length_cons, readBrackets, closing, same]
  cases readBracket readPath source content with
  | error fault => rfl
  | ok step =>
      simp only [bind, Except.bind]
      cases readBrackets readPath source after.length after with
      | error fault => rfl
      | ok found =>
          obtain ⟨brackets, rest⟩ := found
          dsimp only
          cases readOnward source rest with
          | error fault => rfl
          | ok steps => rfl

theorem between?_quoted (q : Char) (body : List Char)
    : between? q (q :: (body ++ [q])) = some body := by
  cases body with
  | nil => simp [between?]
  | cons c rest =>
      have last : (c :: (rest ++ [q])).getLast? = some q := by
        rw [← List.cons_append, List.getLast?_concat]
      have others : (c :: (rest ++ [q])).dropLast = c :: rest := by
        rw [← List.cons_append, List.dropLast_concat]
      simp only [between?, List.cons_append, last, others, and_self, if_true]

theorem between?_other {q c : Char} (different : c ≠ q) (rest : List Char)
    : between? q (c :: rest) = none := by
  cases rest with
  | nil => rfl
  | cons d others => simp [between?, different]

theorem literal?_quoted (body : List Char)
    : literal? ('\'' :: (body ++ ['\''])) = some (.string (String.ofList body)) := by
  unfold literal?
  rw [between?_quoted]

theorem literal?_ticked (body : List Char)
    : literal? ('`' :: (body ++ ['`'])) = Json.read (String.ofList body) := by
  unfold literal?
  rw [between?_other (by decide), between?_quoted]

end Remediation.KeyPath

namespace Remediation.Step

-----------------------------------------------------------------------------------------
-- Steps that compare
-----------------------------------------------------------------------------------------

mutual

/-- Whether a step is a selector with a comparison, or one whose path has such a step. -/
def compares : Step → Bool
  | .select path test => test.isSome || anyCompares path
  | _ => false

/-- Whether one of the steps compares. -/
def anyCompares : List Step → Bool
  | [] => false
  | step :: rest => compares step || anyCompares rest

end

end Remediation.Step
