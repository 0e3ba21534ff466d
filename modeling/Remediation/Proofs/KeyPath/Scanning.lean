import Mathlib.Data.List.Basic
import Remediation.KeyPath.Reader

/-! The two scanners of key paths. One splits at the bracket that closes, the other at the first
comparison, and both pass over quoted texts; here it is what they pass over in one piece, and what
they do with a text that goes on behind what they found.
-/

namespace Remediation.KeyPath

/-- A split of what stands behind a text as a split of the two together. -/
def behind {α : Type} (front : List Char) (split : List Char × α) : List Char × α :=
  (front ++ split.1, split.2)

theorem map_behind_behind {α : Type} (front next : List Char) (split : Option (List Char × α))
    : (split.map (behind next)).map (behind front) = split.map (behind (front ++ next)) := by
  rw [Option.map_map]
  congr 1
  funext found
  simp [behind]

theorem map_behind_nil {α : Type} (split : Option (List Char × α))
    : split.map (behind []) = split := by
  cases split with
  | none => rfl
  | some found => rfl

/-- The quote that is open behind a text. -/
def quoteBehind (quote : Option Char) (cs : List Char) : Option Char :=
  cs.foldl quoteAfter quote

theorem quoteBehind_append (quote : Option Char) (front back : List Char)
    : quoteBehind quote (front ++ back) = quoteBehind (quoteBehind quote front) back :=
  List.foldl_append

/-- Characters that are no quotes leave no quote open. -/
theorem quoteBehind_plain {cs : List Char} (plain : ∀ c ∈ cs, isQuote c = false)
    : quoteBehind none cs = none := by
  induction cs with
  | nil => rfl
  | cons c rest ih =>
      have first : quoteAfter none c = none := by simp [quoteAfter, plain c List.mem_cons_self]
      rw [quoteBehind, List.foldl_cons, first]
      exact ih (fun other member => plain other (List.mem_cons_of_mem c member))

/-- An open quote stays open until it is met again. -/
theorem quoteBehind_open {q : Char} {cs : List Char} (missing : q ∉ cs)
    : quoteBehind (some q) cs = some q := by
  induction cs with
  | nil => rfl
  | cons c rest ih =>
      obtain ⟨different, others⟩ := not_or.mp (mt List.mem_cons.mpr missing)
      have first : quoteAfter (some q) c = some q := by simp [quoteAfter, Ne.symm different]
      rw [quoteBehind, List.foldl_cons, first]
      exact ih others

/-- Only quotes are opened. -/
theorem isQuote_of_quoteBehind {cs : List Char} {quote : Option Char} {q : Char}
    (opened : quoteBehind quote cs = some q) (first : ∀ c, quote = some c → isQuote c = true)
    : isQuote q = true := by
  induction cs generalizing quote with
  | nil => exact first q opened
  | cons c rest ih =>
      refine ih opened (fun d after => ?_)
      cases quote with
      | none =>
          simp only [quoteAfter] at after
          split at after
          · rename_i mark
            obtain rfl := Option.some.inj after
            exact mark
          · cases after
      | some other =>
          simp only [quoteAfter] at after
          split at after
          · cases after
          · exact first d after

-----------------------------------------------------------------------------------------
-- The bracket that closes
-----------------------------------------------------------------------------------------

/-- Inside a quoted text only the quote matters. -/
theorem splitAtClosing_quote (q c : Char) (depth : Nat) (rest : List Char)
    : splitAtClosing (some q) depth (c :: rest)
      = (splitAtClosing (if c = q then none else some q) depth rest).map (behind [c]) := by
  simp only [splitAtClosing, quoteAfter, Option.isNone_some, Bool.false_eq_true, false_and,
    if_false]
  rfl

theorem splitAtClosing_opening {q : Char} (quotes : isQuote q = true) (depth : Nat)
    (rest : List Char)
    : splitAtClosing none depth (q :: rest)
      = (splitAtClosing (some q) depth rest).map (behind [q]) := by
  have noClosing : q ≠ ']' := by
    rintro rfl
    exact absurd quotes (by decide)
  have noOpening : q ≠ '[' := by
    rintro rfl
    exact absurd quotes (by decide)
  simp only [splitAtClosing, quoteAfter, Option.isNone_none, noClosing, noOpening, quotes,
    and_false, false_and, if_false, if_true]
  rfl

/-- The characters that bracket scanning takes no notice of outside quotes. -/
def isOrdinary (c : Char) : Bool :=
  !isQuote c && c != '[' && c != ']'

theorem splitAtClosing_ordinary {c : Char} (ordinary : isOrdinary c = true) (depth : Nat)
    (rest : List Char)
    : splitAtClosing none depth (c :: rest)
      = (splitAtClosing none depth rest).map (behind [c]) := by
  simp only [isOrdinary, Bool.and_eq_true, Bool.not_eq_true', bne_iff_ne, ne_eq] at ordinary
  obtain ⟨⟨noQuote, noOpening⟩, noClosing⟩ := ordinary
  simp only [splitAtClosing, quoteAfter, Option.isNone_none, noClosing, noOpening, noQuote,
    and_false, false_and, if_false, Bool.false_eq_true]
  rfl

theorem splitAtClosing_deeper (depth : Nat) (rest : List Char)
    : splitAtClosing none depth ('[' :: rest)
      = (splitAtClosing none (depth + 1) rest).map (behind ['[']) := rfl

theorem splitAtClosing_higher (depth : Nat) (rest : List Char)
    : splitAtClosing none (depth + 2) (']' :: rest)
      = (splitAtClosing none (depth + 1) rest).map (behind [']']) := by
  have deeper : ¬depth + 2 ≤ 1 := by omega
  simp only [splitAtClosing, quoteAfter, Option.isNone_none, deeper, and_false, if_false]
  rfl

@[simp]
theorem splitAtClosing_last (rest : List Char)
    : splitAtClosing none 1 (']' :: rest) = some ([], rest) := rfl

/-- The two sides of the closing bracket. -/
theorem eq_of_splitAtClosing {quote : Option Char} {depth : Nat} {cs inner rest : List Char}
    (split : splitAtClosing quote depth cs = some (inner, rest))
    : cs = inner ++ ']' :: rest := by
  induction cs generalizing quote depth inner with
  | nil => simp [splitAtClosing] at split
  | cons c tail ih =>
      simp only [splitAtClosing] at split
      split at split
      · rename_i closes
        obtain ⟨rfl, rfl⟩ := Prod.mk.inj (Option.some.inj split)
        rw [List.nil_append, closes.2.1]
      · obtain ⟨⟨front, after⟩, found, same⟩ := Option.map_eq_some_iff.mp split
        obtain ⟨rfl, rfl⟩ := Prod.mk.inj same
        rw [ih found, List.cons_append]

/-- A closing bracket that was found stays the one that closes when the text goes on. -/
theorem splitAtClosing_append {quote : Option Char} {depth : Nat} {cs inner rest : List Char}
    (split : splitAtClosing quote depth cs = some (inner, rest)) (more : List Char)
    : splitAtClosing quote depth (cs ++ more) = some (inner, rest ++ more) := by
  induction cs generalizing quote depth inner with
  | nil => simp [splitAtClosing] at split
  | cons c tail ih =>
      simp only [List.cons_append, splitAtClosing] at split ⊢
      split at split
      · rename_i closes
        obtain ⟨rfl, rfl⟩ := Prod.mk.inj (Option.some.inj split)
        rw [if_pos closes]
      · rename_i goesOn
        obtain ⟨⟨front, after⟩, found, same⟩ := Option.map_eq_some_iff.mp split
        obtain ⟨rfl, rfl⟩ := Prod.mk.inj same
        rw [if_neg goesOn, ih found, Option.map_some]

/-- What stands behind the closing bracket does not matter. -/
theorem splitAtClosing_replace {quote : Option Char} {depth : Nat} {cs inner rest : List Char}
    (split : splitAtClosing quote depth cs = some (inner, rest)) (tail : List Char)
    : splitAtClosing quote depth (inner ++ ']' :: tail) = some (inner, tail) := by
  induction cs generalizing quote depth inner with
  | nil => simp [splitAtClosing] at split
  | cons c others ih =>
      simp only [splitAtClosing] at split
      split at split
      · rename_i closes
        obtain ⟨rfl, rfl⟩ := Prod.mk.inj (Option.some.inj split)
        obtain ⟨noQuote, rfl, least⟩ := closes
        simp only [List.nil_append, splitAtClosing, noQuote, least, and_self, if_true]
      · rename_i goesOn
        obtain ⟨⟨front, after⟩, found, same⟩ := Option.map_eq_some_iff.mp split
        obtain ⟨rfl, rfl⟩ := Prod.mk.inj same
        simp only [List.cons_append, splitAtClosing]
        rw [if_neg goesOn, ih found, Option.map_some]

/-- No bracket closes within what stands in front of the closing one. -/
theorem splitAtClosing_of_isPrefix {quote : Option Char} {depth : Nat}
    {cs inner rest start : List Char} (split : splitAtClosing quote depth cs = some (inner, rest))
    (front : start <+: inner)
    : splitAtClosing quote depth start = none := by
  cases early : splitAtClosing quote depth start with
  | none => rfl
  | some found =>
      obtain ⟨less, after⟩ := found
      obtain ⟨more, rfl⟩ := front
      have shape := eq_of_splitAtClosing split
      have again := splitAtClosing_append early (more ++ ']' :: rest)
      rw [← List.append_assoc, ← shape, split] at again
      have same := (Prod.mk.inj (Option.some.inj again)).1
      have lengths := congrArg List.length (eq_of_splitAtClosing early)
      rw [← same] at lengths
      simp only [List.length_append, List.length_cons] at lengths
      omega

/-- Behind the closing bracket no quote is open. -/
theorem quoteBehind_of_splitAtClosing {quote : Option Char} {depth : Nat}
    {cs inner rest : List Char} (split : splitAtClosing quote depth cs = some (inner, rest))
    : quoteBehind quote inner = none := by
  induction cs generalizing quote depth inner with
  | nil => simp [splitAtClosing] at split
  | cons c tail ih =>
      simp only [splitAtClosing] at split
      split at split
      · rename_i closes
        obtain ⟨rfl, rfl⟩ := Prod.mk.inj (Option.some.inj split)
        exact Option.isNone_iff_eq_none.mp closes.1
      · obtain ⟨⟨front, after⟩, found, same⟩ := Option.map_eq_some_iff.mp split
        obtain ⟨rfl, rfl⟩ := Prod.mk.inj same
        change quoteBehind (quoteAfter quote c) front = none
        exact ih found

/-- The bracket that closes `depth` open ones closes them among more open ones too, and the scanner
goes on behind it with those. Witness: induction on the text.
-/
theorem splitAtClosing_among {quote : Option Char} {depth : Nat} {cs inner rest : List Char}
    (split : splitAtClosing quote depth cs = some (inner, rest)) (opened : 1 ≤ depth)
    (more : Nat) (tail : List Char)
    : splitAtClosing quote (depth + (more + 1)) (inner ++ ']' :: tail)
      = (splitAtClosing none (more + 1) tail).map (behind (inner ++ [']'])) := by
  induction cs generalizing quote depth inner with
  | nil => simp [splitAtClosing] at split
  | cons c others ih =>
      simp only [splitAtClosing] at split
      split at split
      · rename_i closes
        obtain ⟨rfl, rfl⟩ := Prod.mk.inj (Option.some.inj split)
        have one : depth = 1 := by omega
        rw [Option.isNone_iff_eq_none.mp closes.1, one, Nat.add_comm 1 (more + 1)]
        exact splitAtClosing_higher more tail
      · rename_i goesOn
        obtain ⟨⟨front, after⟩, found, same⟩ := Option.map_eq_some_iff.mp split
        obtain ⟨rfl, rfl⟩ := Prod.mk.inj same
        have still : ¬(quote.isNone = true ∧ c = ']' ∧ depth + (more + 1) ≤ 1) := by omega
        simp only [List.cons_append, splitAtClosing]
        rw [if_neg still]
        have deeper
            : (if quote.isNone = true ∧ c = '[' then depth + (more + 1) + 1
                else if quote.isNone = true ∧ c = ']' then depth + (more + 1) - 1
                else depth + (more + 1))
              = (if quote.isNone = true ∧ c = '[' then depth + 1
                  else if quote.isNone = true ∧ c = ']' then depth - 1
                  else depth) + (more + 1) := by
          split
          · omega
          · split
            · omega
            · rfl
        have positive
            : 1 ≤ (if quote.isNone = true ∧ c = '[' then depth + 1
                  else if quote.isNone = true ∧ c = ']' then depth - 1
                  else depth) := by
          split
          · omega
          · split
            · rename_i closing
              by_contra small
              exact goesOn ⟨closing.1, closing.2, by omega⟩
            · exact opened
        rw [deeper, ih found positive]
        exact map_behind_behind [c] (front ++ [']']) _

-----------------------------------------------------------------------------------------
-- Texts that bracket scanning passes over
-----------------------------------------------------------------------------------------

/-- A text that the scanner for a closing bracket passes over: its brackets stand in pairs and its
quotes are closed.
-/
def Balanced (cs : List Char) : Prop :=
  ∀ (depth : Nat) (rest : List Char),
    splitAtClosing none (depth + 1) (cs ++ rest)
      = (splitAtClosing none (depth + 1) rest).map (behind cs)

namespace Balanced

theorem nil : Balanced [] := by
  intro depth rest
  rw [List.nil_append, map_behind_nil]

theorem append {front back : List Char} (first : Balanced front) (second : Balanced back)
    : Balanced (front ++ back) := by
  intro depth rest
  rw [List.append_assoc, first, second, map_behind_behind]

theorem single {c : Char} (ordinary : isOrdinary c = true) : Balanced [c] := by
  intro depth rest
  exact splitAtClosing_ordinary ordinary (depth + 1) rest

theorem ofAll {cs : List Char} (all : ∀ c ∈ cs, isOrdinary c = true) : Balanced cs := by
  induction cs with
  | nil => exact nil
  | cons c rest ih =>
      have others := ih (fun other member => all other (List.mem_cons_of_mem c member))
      exact append (single (all c List.mem_cons_self)) others

/-- A quoted text, whatever stands in it. -/
theorem quoted {q : Char} (quotes : isQuote q = true) {body : List Char} (closed : q ∉ body)
    : Balanced (q :: (body ++ [q])) := by
  have inside (depth : Nat) (rest : List Char)
      : splitAtClosing (some q) depth (body ++ q :: rest)
        = (splitAtClosing none depth rest).map (behind (body ++ [q])) := by
    induction body with
    | nil => rw [List.nil_append, splitAtClosing_quote, if_pos rfl, List.nil_append]
    | cons c others ih =>
        have different : c ≠ q := fun same => closed (same ▸ List.mem_cons_self)
        rw [List.cons_append, splitAtClosing_quote, if_neg different,
          ih (fun member => closed (List.mem_cons_of_mem c member)), map_behind_behind,
          List.singleton_append, List.cons_append]
  intro depth rest
  rw [List.cons_append, splitAtClosing_opening quotes, List.append_assoc, List.singleton_append,
    inside, map_behind_behind, List.singleton_append]

/-- A text in brackets that a scan found. -/
theorem bracketed {cs inner rest : List Char}
    (split : splitAtClosing none 1 cs = some (inner, rest))
    : Balanced ('[' :: (inner ++ [']'])) := by
  intro depth tail
  rw [List.cons_append, splitAtClosing_deeper, List.append_assoc, List.singleton_append,
    Nat.add_comm (depth + 1) 1, splitAtClosing_among split (Nat.le_refl 1), map_behind_behind,
    List.singleton_append]

/-- A balanced text is what stands in front of the bracket that closes behind it. -/
theorem splitAtClosing {inner : List Char} (balanced : Balanced inner) (rest : List Char)
    : splitAtClosing none 1 (inner ++ ']' :: rest) = some (inner, rest) := by
  rw [balanced 0, splitAtClosing_last]
  simp [behind]

theorem inBrackets {inner : List Char} (balanced : Balanced inner)
    : Balanced ('[' :: (inner ++ [']'])) :=
  bracketed (balanced.splitAtClosing [])

end Balanced

-----------------------------------------------------------------------------------------
-- The first comparison
-----------------------------------------------------------------------------------------

/-- Only a quoted text hides a comparison. -/
theorem splitAtComparison_quote (q c : Char) (rest : List Char)
    : splitAtComparison (some q) (c :: rest)
      = (splitAtComparison (if c = q then none else some q) rest).map (behind [c]) := rfl

theorem splitAtComparison_opening {q : Char} (quotes : isQuote q = true) (rest : List Char)
    : splitAtComparison none (q :: rest)
      = (splitAtComparison (some q) rest).map (behind [q]) := by
  simp only [splitAtComparison, quoteAfter, Option.isNone_none, quotes, Bool.not_true,
    Bool.and_false, Bool.false_eq_true, if_false, if_true]
  rfl

/-- The characters that comparisons are made of. -/
def isSign (c : Char) : Bool :=
  c == '=' || c == '!' || c == '>' || c == '<'

theorem comparisonAt?_eq_none {c : Char} (plain : isSign c = false) (rest : List Char)
    : comparisonAt? (c :: rest) = none := by
  simp only [isSign, Bool.or_eq_false_iff, beq_eq_false_iff_ne, ne_eq] at plain
  obtain ⟨⟨⟨noEq, noBang⟩, noGreater⟩, noLess⟩ := plain
  unfold comparisonAt?
  split <;> simp_all

/-- A text that starts with no equality sign leaves the comparison in front of it as it is. -/
theorem comparisonAt?_append {tail : List Char} (noEq : ∀ rest, tail ≠ '=' :: rest) (c : Char)
    (rest : List Char)
    : comparisonAt? (c :: (rest ++ tail))
      = (comparisonAt? (c :: rest)).map (fun (comparison, right) =>
          (comparison, right ++ tail)) := by
  cases sign : isSign c with
  | false => rw [comparisonAt?_eq_none sign, comparisonAt?_eq_none sign, Option.map_none]
  | true =>
      simp only [isSign, Bool.or_eq_true, beq_iff_eq] at sign
      cases rest with
      | nil =>
          cases tail with
          | nil => rcases sign with ((rfl | rfl) | rfl) | rfl <;> rfl
          | cons d others =>
              have different : d ≠ '=' := fun same => noEq others (by rw [same])
              rcases sign with ((rfl | rfl) | rfl) | rfl <;> simp [comparisonAt?, different]
      | cons next others =>
          by_cases double : next = '='
          · subst double
            rcases sign with ((rfl | rfl) | rfl) | rfl <;> rfl
          · rcases sign with ((rfl | rfl) | rfl) | rfl <;> simp [comparisonAt?, double]

theorem splitAtComparison_plain {c : Char} (noQuote : isQuote c = false) (rest : List Char)
    : splitAtComparison none (c :: rest)
      = match comparisonAt? (c :: rest) with
        | some (comparison, right) => some ([], comparison, right)
        | none => (splitAtComparison none rest).map (behind [c]) := by
  simp only [splitAtComparison, quoteAfter, Option.isNone_none, noQuote, Bool.not_false,
    Bool.and_true, if_true, Bool.false_eq_true, if_false]
  rfl

/-- The two sides of a comparison that stands at the front of a text. -/
theorem eq_of_comparisonAt? {cs right : List Char} {comparison : Comparison}
    (found : comparisonAt? cs = some (comparison, right))
    : cs = comparison.token.toList ++ right := by
  unfold comparisonAt? at found
  split at found
  all_goals cases found
  all_goals rfl

/-- The two sides of the first comparison, on the left of which every quote is closed. -/
theorem eq_of_splitAtComparison {quote : Option Char} {cs left right : List Char}
    {comparison : Comparison}
    (split : splitAtComparison quote cs = some (left, comparison, right))
    : cs = left ++ (comparison.token.toList ++ right) ∧ quoteBehind quote left = none := by
  induction cs generalizing quote left with
  | nil => simp [splitAtComparison] at split
  | cons c rest ih =>
      simp only [splitAtComparison] at split
      split at split
      · rename_i front sign
        obtain ⟨rfl, sides⟩ := Prod.mk.inj (Option.some.inj split)
        obtain ⟨rfl, rfl⟩ := Prod.mk.inj sides
        split at sign
        · rename_i outside
          rw [Bool.and_eq_true, Option.isNone_iff_eq_none] at outside
          exact ⟨eq_of_comparisonAt? sign, outside.1⟩
        · cases sign
      · obtain ⟨⟨front, others⟩, found, same⟩ := Option.map_eq_some_iff.mp split
        obtain ⟨rfl, sides⟩ := Prod.mk.inj same
        obtain rfl : others = (comparison, right) := sides
        obtain ⟨shape, closed⟩ := ih found
        exact ⟨by rw [shape, List.cons_append], closed⟩

/-- The left side of a comparison starts the text. -/
theorem isPrefix_of_splitAtComparison {quote : Option Char} {cs left right : List Char}
    {comparison : Comparison}
    (split : splitAtComparison quote cs = some (left, comparison, right))
    : left <+: cs := by
  rw [(eq_of_splitAtComparison split).1]
  exact List.prefix_append left _

/-- What stands behind a text is the right side of the comparison that the text holds; it is
searched itself only if the text holds none.
-/
theorem splitAtComparison_append {tail : List Char} (noEq : ∀ rest, tail ≠ '=' :: rest)
    (quote : Option Char) (cs : List Char)
    : splitAtComparison quote (cs ++ tail)
      = ((splitAtComparison quote cs).map (fun (left, comparison, right) =>
          (left, comparison, right ++ tail))).or
          ((splitAtComparison (quoteBehind quote cs) tail).map (behind cs)) := by
  induction cs generalizing quote with
  | nil => simp [splitAtComparison, quoteBehind, map_behind_nil]
  | cons c rest ih =>
      have later (after : Option Char)
          : (splitAtComparison after (rest ++ tail)).map (behind [c])
            = (((splitAtComparison after rest).map (behind [c])).map
                (fun (left, comparison, right) => (left, comparison, right ++ tail))).or
              ((splitAtComparison (quoteBehind after rest) tail).map (behind (c :: rest))) := by
        rw [ih after]
        cases splitAtComparison after rest with
        | none => exact map_behind_behind [c] rest _
        | some found => rfl
      cases quote with
      | some q => exact later _
      | none =>
          cases noQuote : isQuote c with
          | true =>
              have same : quoteBehind none (c :: rest) = quoteBehind (some c) rest := by
                simp [quoteBehind, quoteAfter, noQuote]
              rw [List.cons_append, splitAtComparison_opening noQuote,
                splitAtComparison_opening noQuote, same]
              exact later (some c)
          | false =>
              have same : quoteBehind none (c :: rest) = quoteBehind none rest := by
                simp [quoteBehind, quoteAfter, noQuote]
              rw [List.cons_append, splitAtComparison_plain noQuote,
                splitAtComparison_plain noQuote, comparisonAt?_append noEq, same]
              cases comparisonAt? (c :: rest) with
              | some found => rfl
              | none => exact later none

-----------------------------------------------------------------------------------------
-- Texts without a comparison
-----------------------------------------------------------------------------------------

/-- A text that the scanner for a comparison passes over: its quotes are closed and it holds no
comparison outside of them.
-/
def Uncompared (cs : List Char) : Prop :=
  ∀ rest, splitAtComparison none (cs ++ rest) = (splitAtComparison none rest).map (behind cs)

namespace Uncompared

theorem nil : Uncompared [] := by
  intro rest
  rw [List.nil_append, map_behind_nil]

theorem append {front back : List Char} (first : Uncompared front) (second : Uncompared back)
    : Uncompared (front ++ back) := by
  intro rest
  rw [List.append_assoc, first, second, map_behind_behind]

theorem single {c : Char} (noQuote : isQuote c = false) (noSign : isSign c = false)
    : Uncompared [c] := by
  intro rest
  rw [List.singleton_append, splitAtComparison_plain noQuote, comparisonAt?_eq_none noSign]

theorem ofAll {cs : List Char} (all : ∀ c ∈ cs, isQuote c = false ∧ isSign c = false)
    : Uncompared cs := by
  induction cs with
  | nil => exact nil
  | cons c rest ih =>
      have first : Uncompared [c] :=
        single (all c List.mem_cons_self).1 (all c List.mem_cons_self).2
      exact append first (ih (fun other member => all other (List.mem_cons_of_mem c member)))

/-- A quoted text, whatever stands in it. -/
theorem quoted {q : Char} (quotes : isQuote q = true) {body : List Char} (closed : q ∉ body)
    : Uncompared (q :: (body ++ [q])) := by
  have inside (rest : List Char)
      : splitAtComparison (some q) (body ++ q :: rest)
        = (splitAtComparison none rest).map (behind (body ++ [q])) := by
    induction body with
    | nil => rw [List.nil_append, splitAtComparison_quote, if_pos rfl, List.nil_append]
    | cons c others ih =>
        have different : c ≠ q := fun same => closed (same ▸ List.mem_cons_self)
        rw [List.cons_append, splitAtComparison_quote, if_neg different,
          ih (fun member => closed (List.mem_cons_of_mem c member)), map_behind_behind,
          List.singleton_append, List.cons_append]
  intro rest
  rw [List.cons_append, splitAtComparison_opening quotes, List.append_assoc,
    List.singleton_append, inside, map_behind_behind, List.singleton_append]

/-- A text in brackets whose quotes are closed and in which no comparison was found. -/
theorem bracketed {inner : List Char} (closed : quoteBehind none inner = none)
    (missing : splitAtComparison none inner = none)
    : Uncompared ('[' :: (inner ++ [']'])) := by
  intro rest
  rw [List.cons_append, List.append_assoc, List.singleton_append,
    splitAtComparison_plain rfl, comparisonAt?_eq_none rfl, splitAtComparison_append (by simp),
    missing, closed, Option.map_none, Option.none_or, splitAtComparison_plain rfl,
    comparisonAt?_eq_none rfl]
  dsimp only
  rw [map_behind_behind, map_behind_behind, List.singleton_append, List.cons_append]

/-- A text that holds no comparison is not split. -/
theorem splitAtComparison {cs : List Char} (uncompared : Uncompared cs)
    : splitAtComparison none cs = none := by
  rw [← List.append_nil cs, uncompared []]
  rfl

theorem inBrackets {inner : List Char} (uncompared : Uncompared inner)
    : Uncompared ('[' :: (inner ++ [']'])) :=
  append (single rfl rfl) (append uncompared (single rfl rfl))

end Uncompared

/-- A text that both scanners pass over. -/
structure Passed (cs : List Char) : Prop where
  balanced : Balanced cs
  uncompared : Uncompared cs

namespace Passed

theorem nil : Passed [] := ⟨.nil, .nil⟩

theorem append {front back : List Char} (first : Passed front) (second : Passed back)
    : Passed (front ++ back) :=
  ⟨first.balanced.append second.balanced, first.uncompared.append second.uncompared⟩

theorem quoted {q : Char} (quotes : isQuote q = true) {body : List Char} (closed : q ∉ body)
    : Passed (q :: (body ++ [q])) :=
  ⟨.quoted quotes closed, .quoted quotes closed⟩

theorem inBrackets {inner : List Char} (passed : Passed inner)
    : Passed ('[' :: (inner ++ [']'])) :=
  ⟨passed.balanced.inBrackets, passed.uncompared.inBrackets⟩

theorem single {c : Char} (ordinary : isOrdinary c = true) (noSign : isSign c = false)
    : Passed [c] := by
  refine ⟨.single ordinary, .single ?_ noSign⟩
  simp only [isOrdinary, Bool.and_eq_true, Bool.not_eq_true'] at ordinary
  exact ordinary.1.1

/-- Characters that neither scanner takes notice of. -/
theorem ofAll {cs : List Char} (all : ∀ c ∈ cs, isOrdinary c = true ∧ isSign c = false)
    : Passed cs := by
  induction cs with
  | nil => exact nil
  | cons c rest ih =>
      obtain ⟨ordinary, noSign⟩ := all c List.mem_cons_self
      have others := ih (fun other member => all other (List.mem_cons_of_mem c member))
      exact append (single ordinary noSign) others

end Passed

end Remediation.KeyPath
