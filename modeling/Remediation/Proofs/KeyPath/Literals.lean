import Remediation.Proofs.KeyPath.Selections

/-! Literals of selectors. The scanners take the next quote for the end of a quoted text, the reader of
literals looks at the first and the last character only: it also reads what overruns a quote, as one
literal that holds the quotes in between.
-/

namespace Remediation

namespace Step

mutual

/-- The comparisons of a step, those in the path of a selector too. -/
def tests : Step → List (Comparison × Json)
  | .select path test => test.toList ++ testsIn path
  | _ => []

/-- The comparisons of steps, at any depth. -/
def testsIn : List Step → List (Comparison × Json)
  | [] => []
  | step :: rest => tests step ++ testsIn rest

end

end Step

open Step (testsIn)

namespace KeyPath

-----------------------------------------------------------------------------------------
-- One literal
-----------------------------------------------------------------------------------------

/-- The texts of one literal: a string in single quotes or a JSON text in backticks, which hold no
further quote of their kind, or a bare JSON text.
-/
inductive IsLiteral : List Char → Json → Prop where
  | quoted {body : List Char} (noQuote : '\'' ∉ body)
    : IsLiteral ('\'' :: (body ++ ['\''])) (.string (String.ofList body))
  | ticked {body : List Char} {value : Json} (noTick : '`' ∉ body)
      (read : Json.read (String.ofList body) = some value)
    : IsLiteral ('`' :: (body ++ ['`'])) value
  | bare {cs : List Char} {value : Json} (read : Json.read (String.ofList cs) = some value)
    : IsLiteral cs value

/-- Texts in which a quoted literal has ended before their last quote, and what they are taken for. -/
inductive Overruns : List Char → Json → Prop where
  | quoted {body : List Char} (inside : '\'' ∈ body)
    : Overruns ('\'' :: (body ++ ['\''])) (.string (String.ofList body))
  | ticked {body : List Char} {value : Json} (inside : '`' ∈ body)
      (read : Json.read (String.ofList body) = some value)
    : Overruns ('`' :: (body ++ ['`'])) value

theorem eq_of_between? {q : Char} {cs inner : List Char} (found : between? q cs = some inner)
    : cs = q :: (inner ++ [q]) := by
  unfold between? at found
  split at found
  · rename_i c d rest
    split at found
    · rename_i ends
      obtain ⟨rfl, last⟩ := ends
      obtain rfl := Option.some.inj found
      rw [List.dropLast_append_getLast? c last]
    · cases found
  · cases found

/-- No JSON text starts with a quote of the two kinds. -/
theorem read_quote {q : Char} (mark : q = '\'' ∨ q = '`') (rest : List Char)
    : Json.read (String.ofList (q :: rest)) = none := by
  have unread : Json.readValue Json.depthLimit (q :: rest) = none := by
    rcases mark with rfl | rfl <;> rfl
  simp [Json.read, Json.readMembers, unread]

theorem literal?_bare {cs : List Char} {value : Json}
    (read : Json.read (String.ofList cs) = some value)
    : literal? cs = some value := by
  have unquoted {q : Char} (mark : q = '\'' ∨ q = '`') : between? q cs = none := by
    cases cs with
    | nil => rfl
    | cons c rest =>
        refine between?_other ?_ rest
        rintro rfl
        rw [read_quote mark] at read
        cases read
  unfold literal?
  rw [unquoted (.inl rfl), unquoted (.inr rfl)]
  exact read

/-- What is read as a literal is one, or overruns a quote. -/
theorem literal?_eq_some_iff {cs : List Char} {value : Json}
    : literal? cs = some value ↔ IsLiteral cs value ∨ Overruns cs value := by
  constructor
  · intro read
    unfold literal? at read
    split at read
    · rename_i body found
      obtain rfl := eq_of_between? found
      obtain rfl := Option.some.inj read
      by_cases inside : '\'' ∈ body
      · exact .inr (.quoted inside)
      · exact .inl (.quoted inside)
    · split at read
      · rename_i body found
        obtain rfl := eq_of_between? found
        by_cases inside : '`' ∈ body
        · exact .inr (.ticked inside read)
        · exact .inl (.ticked inside read)
      · exact .inl (.bare read)
  · rintro (literal | overruns)
    · cases literal with
      | quoted noQuote => exact literal?_quoted _
      | ticked noTick read => exact (literal?_ticked _).trans read
      | bare read => exact literal?_bare read
    · cases overruns with
      | quoted inside => exact literal?_quoted _
      | ticked inside read => exact (literal?_ticked _).trans read

/-- What overruns a quote is no literal. -/
theorem Overruns.not_isLiteral {cs : List Char} {value other : Json} (overruns : Overruns cs value)
    : ¬IsLiteral cs other := by
  intro literal
  cases overruns with
  | quoted inside =>
      generalize shape : '\'' :: (_ ++ ['\'']) = cs at literal
      cases literal with
      | quoted noQuote =>
          obtain rfl := List.append_cancel_right (List.cons.inj shape).2
          exact noQuote inside
      | ticked noTick read => exact absurd (List.cons.inj shape).1 (by decide)
      | bare read =>
          rw [← shape, read_quote (.inl rfl)] at read
          cases read
  | ticked inside found =>
      generalize shape : '`' :: (_ ++ ['`']) = cs at literal
      cases literal with
      | quoted noQuote => exact absurd (List.cons.inj shape).1 (by decide)
      | ticked noTick read =>
          obtain rfl := List.append_cancel_right (List.cons.inj shape).2
          exact noTick inside
      | bare read =>
          rw [← shape, read_quote (.inr rfl)] at read
          cases read

-----------------------------------------------------------------------------------------
-- Where literals come from
-----------------------------------------------------------------------------------------

/-- A comparison that stands in a text with its literal behind it. Every quote there is closed; what
stands there is one literal or overruns a quote.
-/
def StandsIn (cs : List Char) (test : Comparison × Json) : Prop :=
  ∃ left right,
    left ++ (test.1.token.toList ++ right) <:+: cs ∧ quoteBehind none right = none
    ∧ (IsLiteral (Text.trim right) test.2 ∨ Overruns (Text.trim right) test.2)

theorem StandsIn.within {cs whole : List Char} {test : Comparison × Json}
    (stands : StandsIn cs test) (within : cs <:+: whole)
    : StandsIn whole test := by
  obtain ⟨left, right, part, closed, literal⟩ := stands
  exact ⟨left, right, part.trans within, closed, literal⟩

theorem trim_isInfix (cs : List Char) : Text.trim cs <:+: cs := by
  obtain ⟨front, back, shape, -, -⟩ := Text.exists_trim cs
  exact ⟨front, back, by rw [List.append_assoc, ← shape]⟩

/-- White space opens and closes no quotes. -/
theorem quoteBehind_of_blank {front cs back : List Char}
    (before : ∀ c ∈ front, Text.isBlank c = true) (after : ∀ c ∈ back, Text.isBlank c = true)
    (closed : quoteBehind none (front ++ (cs ++ back)) = none)
    : quoteBehind none cs = none := by
  have noQuote {c : Char} (blank : Text.isBlank c = true) : isQuote c = false := by
    have ordinary := (isOrdinary_of_isBlank blank).1
    simp only [isOrdinary, Bool.and_eq_true, Bool.not_eq_true'] at ordinary
    exact ordinary.1.1
  rw [quoteBehind_append, quoteBehind_plain (fun c member => noQuote (before c member)),
    quoteBehind_append] at closed
  cases opened : quoteBehind none cs with
  | none => rfl
  | some q =>
      have mark := isQuote_of_quoteBehind opened (by simp)
      have missing : q ∉ back := by
        intro member
        rw [noQuote (after q member)] at mark
        cases mark
      rw [opened, quoteBehind_open missing] at closed
      cases closed

theorem quoteBehind_trim {cs : List Char} (closed : quoteBehind none cs = none)
    : quoteBehind none (Text.trim cs) = none := by
  obtain ⟨front, back, shape, before, after⟩ := Text.exists_trim cs
  rw [shape] at closed
  exact quoteBehind_of_blank before after closed

theorem selector_isInfix {content selector : List Char} (shape : Text.trim content = '?' :: selector)
    : Text.trim selector <:+: content := by
  have part := trim_isInfix content
  rw [shape] at part
  exact (trim_isInfix selector).trans ((List.suffix_cons '?' selector).isInfix.trans part)

/-- What is compared in a bracket: the two sides of the operator, between white space. -/
theorem sides_of_content {content selector left right : List Char} {comparison : Comparison}
    (shape : Text.trim content = '?' :: selector)
    (found : splitAtComparison none (Text.trim selector) = some (left, comparison, right))
    (closed : quoteBehind none content = none)
    : left ++ (comparison.token.toList ++ right) <:+: content ∧ quoteBehind none right = none := by
  obtain ⟨sides, leftClosed⟩ := eq_of_splitAtComparison found
  have inner := selector_isInfix shape
  have inside : quoteBehind none (Text.trim selector) = none := by
    have whole := quoteBehind_trim closed
    rw [shape] at whole
    exact quoteBehind_trim whole
  have token : quoteBehind none comparison.token.toList = none := by cases comparison <;> rfl
  rw [sides] at inner inside
  rw [quoteBehind_append, leftClosed, quoteBehind_append, token] at inside
  exact ⟨inner, inside⟩

/-- Every comparison of a path stands in its text. Witness: induction on the parts of the text, where
a bracket closes only behind closed quotes.
-/
theorem Spells.standsIn {part : Part} {cs : List Char} {steps : List Step}
    (spells : Spells part cs steps) (closed : part = .content → quoteBehind none cs = none)
    : ∀ test ∈ testsIn steps, StandsIn cs test := by
  induction spells with
  | here same => simp [testsIn]
  | path more segments ih =>
      intro test member
      exact (ih (by simp) test member).within (trim_isInfix _)
  | quoted named quote others ih =>
      intro test member
      rename_i name rest steps
      have behind : rest <:+: '"' :: (name ++ '"' :: rest) := ⟨'"' :: (name ++ ['"']), [], by simp⟩
      exact (ih (by simp) test member).within behind
  | bare noQuote plain named others ih =>
      intro test member
      exact (ih (by simp) test member).within (List.suffix_append _ _).isInfix
  | unnamed brackets ih => exact ih (by simp)
  | last => simp [testsIn]
  | dot segments ih =>
      intro test member
      exact (ih (by simp) test member).within (List.suffix_cons _ _).isInfix
  | bracket closing inside others ihInside ihOthers =>
      rename_i rest content after step steps
      have shape := eq_of_splitAtClosing closing
      intro test member
      rcases List.mem_append.mp member with here | behind
      · have part : content <:+: '[' :: rest := ⟨['['], ']' :: after, by simp [shape]⟩
        refine (ihInside (fun _ => quoteBehind_of_splitAtClosing closing) test ?_).within part
        simpa [testsIn] using here
      · have part : after <:+: '[' :: rest := ⟨'[' :: (content ++ [']']), [], by simp [shape]⟩
        exact (ihOthers (by simp) test behind).within part
  | flatten empty => simp [testsIn, Step.tests]
  | project star => simp [testsIn, Step.tests]
  | index digits => simp [testsIn, Step.tests]
  | truthy shape missing inside ih =>
      intro test member
      refine (ih (by simp) test ?_).within (selector_isInfix shape)
      simpa [testsIn, Step.tests] using member
  | comparing shape found inside literal ih =>
      intro test member
      obtain ⟨part, quotes⟩ := sides_of_content shape found (closed rfl)
      simp only [testsIn, Step.tests, Option.toList_some, List.append_nil, List.singleton_append]
        at member
      rcases List.mem_cons.mp member with rfl | deeper
      · exact ⟨_, _, part, quotes, literal?_eq_some_iff.mp literal⟩
      · have front := (trim_isInfix _).trans ((List.prefix_append _ _).isInfix.trans part)
        exact (ih (by simp) test deeper).within front

-----------------------------------------------------------------------------------------
-- Selections by their literals
-----------------------------------------------------------------------------------------

section Selections

variable {list element literal : String} {front path : KeyPath} (leads : Leads list front)
  (compared : Compared element path) (against : Against literal) (comparison : Comparison)

include leads compared against

theorem parse_selection_eq_ok_iff {value : Json}
    : parse (selection list element comparison literal)
        = .ok
            ⟨selection list element comparison literal,
              front.steps ++ [.select path.steps (some (comparison, value))]⟩
      ↔ IsLiteral literal.toList value ∨ Overruns literal.toList value := by
  rw [← literal?_eq_some_iff, parse_selection leads compared against]
  cases literal? literal.toList with
  | none => simp
  | some found => simp

theorem parse_selection_eq_error
    (unread : ∀ value, ¬IsLiteral literal.toList value ∧ ¬Overruns literal.toList value)
    : parse (selection list element comparison literal)
      = .error ⟨selection list element comparison literal, .invalidLiteral literal⟩ := by
  have none : literal? literal.toList = none := by
    rw [Option.eq_none_iff_forall_ne_some]
    intro value read
    exact (literal?_eq_some_iff.mp read).elim (unread value).1 (unread value).2
  rw [parse_selection leads compared against, none]

theorem parse_selection_accepts_iff
    : (∃ read, parse (selection list element comparison literal) = .ok read)
      ↔ ∃ value, IsLiteral literal.toList value ∨ Overruns literal.toList value := by
  simp only [← literal?_eq_some_iff]
  rw [parse_selection leads compared against]
  cases literal? literal.toList with
  | none => simp
  | some found => simp

end Selections

/-- The literal of a selector is all that stands behind its operator. Every comparison of an accepted
path, at any depth, has one literal there or one that overruns a quote. A selection is accepted exactly
if such a text stands behind its operator, and is refused for its literal otherwise: it is accepted for
one literal alone exactly if no quote is overrun.
-/
theorem parse_literals (source : String)
    : (∀ path, parse source = .ok path
        → ∀ test ∈ testsIn path.steps, StandsIn source.toList test)
      ∧ ∀ list element front path comparison literal,
        Leads list front → Compared element path → Against literal
        → source = selection list element comparison literal
        → (∀ value,
            parse source
              = .ok ⟨source, front.steps ++ [.select path.steps (some (comparison, value))]⟩
            ↔ IsLiteral literal.toList value ∨ Overruns literal.toList value)
          ∧ ((∀ value, ¬IsLiteral literal.toList value ∧ ¬Overruns literal.toList value)
            → parse source = .error ⟨source, .invalidLiteral literal⟩)
          ∧ (((∃ read, parse source = .ok read) ↔ ∃ value, IsLiteral literal.toList value)
            ↔ ∀ value, ¬Overruns literal.toList value) := by
  refine ⟨?_, ?_⟩
  · intro path read
    exact (spells_of_parse read).standsIn (by simp)
  · rintro list element front path comparison literal leads compared against rfl
    have accepts := parse_selection_accepts_iff leads compared against comparison
    refine ⟨fun value => parse_selection_eq_ok_iff leads compared against comparison,
      parse_selection_eq_error leads compared against comparison, ?_, ?_⟩
    · intro one value overruns
      obtain ⟨other, literal⟩ := one.mp (accepts.mpr ⟨value, .inr overruns⟩)
      exact overruns.not_isLiteral literal
    · intro none
      exact accepts.trans (exists_congr (fun value => or_iff_left (none value)))

namespace Sample

theorem leads_a : Leads "a" ⟨"a", [.field "a"]⟩ where
  read := by rfl
  trimmed := by rfl
  notHere := by decide

theorem compared_b : Compared "b" ⟨"b", [.field "b"]⟩ where
  read := by rfl
  trimmed := by rfl
  passed := .single rfl rfl

theorem against_conjunction : Against "'x' && c=='y'" where
  trimmed := by rfl
  balanced := by
    have quoted (c : Char) (other : '\'' ≠ c) : Balanced ['\'', c, '\''] := by
      have noQuote : '\'' ∉ [c] := by simpa using other
      exact .quoted rfl noQuote
    have all : " && c==".toList.all isOrdinary = true := by rfl
    exact (quoted 'x' (by decide)).append
      ((Balanced.ofAll (List.all_eq_true.mp all)).append (quoted 'y' (by decide)))
  noEq := by simp

theorem overruns_conjunction
    : Overruns "'x' && c=='y'".toList (.string "x' && c=='y") := by
  have inside : '\'' ∈ "x' && c=='y".toList := by decide
  exact .quoted inside

end Sample

open Sample

theorem parse_literals_conjunction
    : Leads "a" ⟨"a", [.field "a"]⟩ ∧ Compared "b" ⟨"b", [.field "b"]⟩
      ∧ Against "'x' && c=='y'" ∧ Overruns "'x' && c=='y'".toList (.string "x' && c=='y")
      ∧ parse "a[?b=='x' && c=='y']"
        = .ok
            ⟨"a[?b=='x' && c=='y']",
              [.field "a", .select [.field "b"] (some (.eq, .string "x' && c=='y"))]⟩
      ∧ StandsIn "a[?b=='x' && c=='y']".toList (.eq, .string "x' && c=='y")
      ∧ ¬∃ value, IsLiteral "'x' && c=='y'".toList value := by
  obtain ⟨stands, selections⟩ := parse_literals "a[?b=='x' && c=='y']"
  have selected := (selections "a" "b" _ _ .eq "'x' && c=='y'" leads_a compared_b
    against_conjunction rfl).1 (.string "x' && c=='y")
  have accepted
      : parse "a[?b=='x' && c=='y']"
        = .ok
            ⟨"a[?b=='x' && c=='y']",
              [.field "a", .select [.field "b"] (some (.eq, .string "x' && c=='y"))]⟩ :=
    selected.mpr (.inr overruns_conjunction)
  refine ⟨leads_a, compared_b, against_conjunction, overruns_conjunction, accepted,
    stands _ accepted _ (by simp [testsIn, Step.tests]), ?_⟩
  rintro ⟨value, literal⟩
  exact overruns_conjunction.not_isLiteral literal

end KeyPath

end Remediation
