import Mathlib.Data.List.Basic
import Mathlib.Tactic.SplitIfs
import Remediation.Json.Reader

/-! JSON text without backticks. In a JSON text a backtick can only stand in a string, where an
escape sequence can take its place: the value that is read from the text remains the same.
-/

namespace Remediation.Json

/-- A text with the escape sequence of the backtick in the place of every backtick. -/
def withoutBackticks (cs : List Char) : List Char :=
  cs.flatMap (fun c => if c = '`' then ['\\', 'u', '0', '0', '6', '0'] else [c])

/-- No backtick is left. -/
theorem backtick_notMem_withoutBackticks (cs : List Char) : '`' ∉ withoutBackticks cs := by
  intro member
  obtain ⟨c, -, shown⟩ := List.mem_flatMap.mp member
  split at shown
  · exact absurd shown (by decide)
  · rename_i other
    exact other (List.mem_singleton.mp shown).symm

@[simp]
theorem withoutBackticks_nil : withoutBackticks [] = [] := rfl

@[simp]
theorem withoutBackticks_backtick (cs : List Char)
    : withoutBackticks ('`' :: cs)
      = '\\' :: 'u' :: '0' :: '0' :: '6' :: '0' :: withoutBackticks cs := rfl

theorem withoutBackticks_cons {c : Char} (other : c ≠ '`') (cs : List Char)
    : withoutBackticks (c :: cs) = c :: withoutBackticks cs := by
  simp [withoutBackticks, other]

theorem length_le_withoutBackticks (cs : List Char)
    : cs.length ≤ (withoutBackticks cs).length := by
  induction cs with
  | nil => exact Nat.le_refl _
  | cons c rest ih =>
      by_cases tick : c = '`'
      · subst tick
        simp only [withoutBackticks_backtick, List.length_cons]
        omega
      · simp only [withoutBackticks_cons tick, List.length_cons]
        omega

/-- A text starts with the character that it starts with without backticks, unless that is a
backslash.
-/
theorem starts_of_withoutBackticks {c : Char} {cs rest : List Char} (other : c ≠ '\\')
    (starts : withoutBackticks cs = c :: rest)
    : ∃ behind, cs = c :: behind := by
  cases cs with
  | nil => cases starts
  | cons first behind =>
      by_cases tick : first = '`'
      · subst tick
        exact absurd (List.cons.inj starts).1.symm other
      · rw [withoutBackticks_cons tick] at starts
        exact ⟨behind, by rw [(List.cons.inj starts).1]⟩

-----------------------------------------------------------------------------------------
-- Characters that are passed over
-----------------------------------------------------------------------------------------

section Runs

variable {p : Char → Bool} (noTick : p '`' = false) (noEscape : p '\\' = false)

include noTick noEscape

theorem takeWhile_withoutBackticks (cs : List Char)
    : (withoutBackticks cs).takeWhile p = cs.takeWhile p := by
  induction cs with
  | nil => rfl
  | cons c rest ih =>
      by_cases tick : c = '`'
      · subst tick
        simp [noTick, noEscape]
      · rw [withoutBackticks_cons tick, List.takeWhile_cons, List.takeWhile_cons, ih]

theorem dropWhile_withoutBackticks (cs : List Char)
    : (withoutBackticks cs).dropWhile p = withoutBackticks (cs.dropWhile p) := by
  induction cs with
  | nil => rfl
  | cons c rest ih =>
      by_cases tick : c = '`'
      · subst tick
        simp [noTick, noEscape]
      · rw [withoutBackticks_cons tick, List.dropWhile_cons, List.dropWhile_cons, ih]
        split
        · rfl
        · rw [withoutBackticks_cons tick]

end Runs

theorem skipBlanks_withoutBackticks (cs : List Char)
    : skipBlanks (withoutBackticks cs) = withoutBackticks (skipBlanks cs) :=
  dropWhile_withoutBackticks rfl rfl cs

-----------------------------------------------------------------------------------------
-- Numbers
-----------------------------------------------------------------------------------------

/-- What was read, with the escape sequences in what is left. -/
def escaped {α : Type} (read : α × List Char) : α × List Char :=
  (read.1, withoutBackticks read.2)

theorem gather_withoutBackticks (significand count : Nat) (cs : List Char)
    : gather significand count (withoutBackticks cs)
      = ((gather significand count cs).1, escaped (gather significand count cs).2) := by
  induction cs generalizing significand count with
  | nil => rfl
  | cons c rest ih =>
      by_cases tick : c = '`'
      · subst tick
        rfl
      · rw [withoutBackticks_cons tick]
        simp only [gather]
        split
        · exact ih _ _
        · simp [escaped, withoutBackticks_cons tick]

theorem takeDigits_withoutBackticks (cs : List Char)
    : (withoutBackticks cs).takeWhile Char.isDigit = cs.takeWhile Char.isDigit :=
  takeWhile_withoutBackticks (by decide) (by decide) cs

theorem dropDigits_withoutBackticks (cs : List Char)
    : (withoutBackticks cs).dropWhile Char.isDigit
      = withoutBackticks (cs.dropWhile Char.isDigit) :=
  dropWhile_withoutBackticks (by decide) (by decide) cs

theorem readExponent_withoutBackticks (negative : Bool) (significand : Nat) (start : Int)
    (cs : List Char)
    : readExponent negative significand start (withoutBackticks cs)
      = (readExponent negative significand start cs).map escaped := by
  cases cs with
  | nil => rfl
  | cons c rest =>
      by_cases tick : c = '`'
      · subst tick
        rfl
      · have digits := takeDigits_withoutBackticks (c :: rest)
        have behind := dropDigits_withoutBackticks (c :: rest)
        rw [withoutBackticks_cons tick] at digits behind ⊢
        by_cases plus : c = '+'
        · subst plus
          simp only [readExponent, takeDigits_withoutBackticks, dropDigits_withoutBackticks]
          split_ifs <;> rfl
        · by_cases minus : c = '-'
          · subst minus
            simp only [readExponent, takeDigits_withoutBackticks, dropDigits_withoutBackticks]
            split_ifs <;> rfl
          · simp only [readExponent, List.cons.injEq, plus, minus, false_and, imp_self,
              implies_true, digits, behind]
            split_ifs <;> rfl

theorem readTail_withoutBackticks (negative : Bool) (significand : Nat) (exponent : Int)
    (cs : List Char)
    : readTail negative significand exponent (withoutBackticks cs)
      = (readTail negative significand exponent cs).map escaped := by
  cases cs with
  | nil => rfl
  | cons c rest =>
      by_cases tick : c = '`'
      · subst tick
        rfl
      · rw [withoutBackticks_cons tick]
        by_cases low : c = 'e'
        · subst low
          exact readExponent_withoutBackticks negative significand exponent rest
        · by_cases high : c = 'E'
          · subst high
            exact readExponent_withoutBackticks negative significand exponent rest
          · simp [readTail, low, high, escaped, withoutBackticks_cons tick]

theorem readFraction_withoutBackticks (negative : Bool) (significand : Nat) (exponent : Int)
    (cs : List Char)
    : readFraction negative significand exponent (withoutBackticks cs)
      = (readFraction negative significand exponent cs).map escaped := by
  cases cs with
  | nil => rfl
  | cons c rest =>
      by_cases tick : c = '`'
      · subst tick
        rfl
      · have gathered := gather_withoutBackticks significand 0 (c :: rest)
        rw [withoutBackticks_cons tick] at gathered ⊢
        simp only [readFraction]
        split
        · rw [gathered]
          simp only [escaped, dropDigits_withoutBackticks]
          exact readTail_withoutBackticks ..
        · rfl

theorem readAfter_withoutBackticks (negative : Bool) (significand : Nat) (cs : List Char)
    : readUnsigned.readAfter negative significand (withoutBackticks cs)
      = (readUnsigned.readAfter negative significand cs).map escaped := by
  cases cs with
  | nil => rfl
  | cons c rest =>
      by_cases tick : c = '`'
      · subst tick
        rfl
      · have digits := takeDigits_withoutBackticks (c :: rest)
        have behind := dropDigits_withoutBackticks (c :: rest)
        rw [withoutBackticks_cons tick] at digits behind ⊢
        by_cases dot : c = '.'
        · subst dot
          exact readFraction_withoutBackticks negative significand 0 rest
        · by_cases low : c = 'e'
          · subst low
            exact readExponent_withoutBackticks negative significand 0 rest
          · by_cases high : c = 'E'
            · subst high
              exact readExponent_withoutBackticks negative significand 0 rest
            · simp only [readUnsigned.readAfter, List.cons.injEq, dot, low, high, false_and,
                imp_self, implies_true, digits, behind]
              split
              · rw [Option.map_some, escaped, withoutBackticks_cons tick]
              · cases (c :: rest).dropWhile Char.isDigit with
                | nil => exact readTail_withoutBackticks negative significand _ []
                | cons next others =>
                    by_cases point : next = '.'
                    · subst point
                      exact readFraction_withoutBackticks negative significand _ others
                    · have tail := readTail_withoutBackticks negative significand
                        ((c :: rest).takeWhile Char.isDigit).length (next :: others)
                      by_cases tick : next = '`'
                      · subst tick
                        exact tail
                      · rw [withoutBackticks_cons tick] at tail ⊢
                        simpa only [List.cons.injEq, point, false_and, imp_self, implies_true]
                          using tail

theorem readUnsigned_withoutBackticks (negative : Bool) (cs : List Char)
    : readUnsigned negative (withoutBackticks cs)
      = (readUnsigned negative cs).map escaped := by
  cases cs with
  | nil => rfl
  | cons c rest =>
      by_cases tick : c = '`'
      · subst tick
        rfl
      · have gathered := gather_withoutBackticks 0 0 (c :: rest)
        have behind
            : readUnsigned.readAfter negative (gather 0 0 (c :: rest)).1
                (withoutBackticks (gather 0 0 (c :: rest)).2.2)
              = (readUnsigned.readAfter negative (gather 0 0 (c :: rest)).1
                  (gather 0 0 (c :: rest)).2.2).map escaped :=
          readAfter_withoutBackticks ..
        rw [withoutBackticks_cons tick] at gathered ⊢
        by_cases zero : c = '0'
        · subst zero
          cases rest with
          | nil => rfl
          | cons next others =>
              by_cases tick : next = '`'
              · subst tick
                exact readAfter_withoutBackticks negative 0 ('`' :: others)
              · have after := readAfter_withoutBackticks negative 0 (next :: others)
                rw [withoutBackticks_cons tick] at after ⊢
                simp only [readUnsigned]
                split
                · rfl
                · exact after
        · simp only [readUnsigned, zero, false_implies, implies_true]
          split
          · rw [gathered]
            exact behind
          · rfl

theorem readNumber_withoutBackticks (cs : List Char)
    : readNumber (withoutBackticks cs) = (readNumber cs).map escaped := by
  cases cs with
  | nil => rfl
  | cons c rest =>
      by_cases tick : c = '`'
      · subst tick
        rfl
      · have unsigned := readUnsigned_withoutBackticks false (c :: rest)
        rw [withoutBackticks_cons tick] at unsigned ⊢
        by_cases minus : c = '-'
        · subst minus
          exact readUnsigned_withoutBackticks true rest
        · simpa only [readNumber, List.cons.injEq, minus, false_and, imp_self, implies_true]
            using unsigned

-----------------------------------------------------------------------------------------
-- Strings
-----------------------------------------------------------------------------------------

theorem ne_backtick_of_hexValue? {c : Char} {value : Nat} (hex : hexValue? c = some value)
    : c ≠ '`' := by
  rintro rfl
  have noHex : hexValue? '`' = none := by decide
  rw [noHex] at hex
  cases hex

theorem readUnit_withoutBackticks {cs rest : List Char} {unit : Nat}
    (read : readUnit cs = some (unit, rest))
    : readUnit (withoutBackticks cs) = some (unit, withoutBackticks rest) := by
  unfold readUnit at read
  split at read
  · rename_i a b c d behind
    simp only [bind, Option.bind_eq_some_iff] at read
    obtain ⟨first, hexA, second, hexB, third, hexC, fourth, hexD, same⟩ := read
    obtain ⟨rfl, rfl⟩ := Prod.mk.inj (Option.some.inj same)
    rw [withoutBackticks_cons (ne_backtick_of_hexValue? hexA),
      withoutBackticks_cons (ne_backtick_of_hexValue? hexB),
      withoutBackticks_cons (ne_backtick_of_hexValue? hexC),
      withoutBackticks_cons (ne_backtick_of_hexValue? hexD)]
    simp [readUnit, hexA, hexB, hexC, hexD]
  · cases read

theorem readUnicode_withoutBackticks {cs rest : List Char} {c : Char}
    (read : readUnicode cs = some (c, rest))
    : readUnicode (withoutBackticks cs) = some (c, withoutBackticks rest) := by
  unfold readUnicode at read
  simp only [bind, Option.bind_eq_some_iff] at read
  obtain ⟨⟨unit, behind⟩, first, read⟩ := read
  have shown := readUnit_withoutBackticks first
  simp only [readUnicode, shown, bind, Option.bind_some]
  split at read
  · cases read
  · rename_i notLow
    split at read
    · rename_i high
      split at read
      · rename_i pair
        obtain ⟨⟨low, after⟩, second, read⟩ := Option.bind_eq_some_iff.mp read
        have next := readUnit_withoutBackticks second
        dsimp only at pair
        subst pair
        rw [withoutBackticks_cons (by decide), withoutBackticks_cons (by decide)]
        simp only [next, Option.bind_some]
        split at read
        · rename_i inside
          obtain ⟨rfl, rfl⟩ := Prod.mk.inj (Option.some.inj read)
          rw [if_neg notLow, if_pos high, if_pos inside]
        · cases read
      · cases read
    · rename_i notHigh
      obtain ⟨rfl, rfl⟩ := Prod.mk.inj (Option.some.inj read)
      rw [if_neg notLow, if_neg notHigh]

/-- A string is read with any fuel that is enough for it, whether its backticks are escaped or
not. Witness: induction on the fuel.
-/
theorem readStringFrom_withoutBackticks {fuel more : Nat} {cs done rest : List Char} {text : String}
    (read : readStringFrom fuel cs done = some (text, rest)) (enough : fuel ≤ more)
    : readStringFrom more (withoutBackticks cs) done = some (text, withoutBackticks rest) := by
  induction fuel generalizing more cs done with
  | zero => simp [readStringFrom] at read
  | succ fuel ih =>
      obtain ⟨more, rfl⟩ : ∃ less, more = less + 1 := ⟨more - 1, by omega⟩
      have less : fuel ≤ more := by omega
      unfold readStringFrom at read
      split at read
      · cases read
      · obtain ⟨rfl, rfl⟩ := Prod.mk.inj (Option.some.inj read)
        rw [withoutBackticks_cons (by decide)]
        rfl
      · simp only [bind, Option.bind_eq_some_iff] at read
        obtain ⟨⟨c, behind⟩, escape, read⟩ := read
        rw [withoutBackticks_cons (by decide), withoutBackticks_cons (by decide)]
        simp only [readStringFrom, readUnicode_withoutBackticks escape, bind, Option.bind_some]
        exact ih read less
      · rename_i letter behind noUnicode
        simp only [bind, Option.bind_eq_some_iff] at read
        obtain ⟨c, escape, read⟩ := read
        have other : letter ≠ '`' := by
          rintro rfl
          cases escape
        rw [withoutBackticks_cons (by decide), withoutBackticks_cons other]
        simp only [readStringFrom, escape, bind, Option.bind_some]
        exact ih read less
      · rename_i c behind noQuote noUnicode noEscape
        split at read
        · cases read
        · rename_i printable
          by_cases tick : c = '`'
          · subst tick
            have shown (cs : List Char)
                : readUnicode ('0' :: '0' :: '6' :: '0' :: cs) = some ('`', cs) := rfl
            rw [withoutBackticks_backtick]
            simp only [readStringFrom, shown, bind, Option.bind_some]
            exact ih read less
          · have noBackslash : c ≠ '\\' := by
              rintro rfl
              cases behind with
              | nil => cases fuel <;> simp [readStringFrom] at read
              | cons next others => exact noEscape next others rfl rfl
            rw [withoutBackticks_cons tick]
            simp only [readStringFrom, noBackslash, false_implies, implies_true, printable,
              if_false]
            exact ih read less

theorem readString_withoutBackticks {cs rest : List Char} {text : String}
    (read : readString cs = some (text, rest))
    : readString (withoutBackticks cs) = some (text, withoutBackticks rest) := by
  refine readStringFrom_withoutBackticks read ?_
  have longer := length_le_withoutBackticks cs
  omega

-----------------------------------------------------------------------------------------
-- Values
-----------------------------------------------------------------------------------------

/-- A reader that reads the same from a text and from the text without backticks. -/
def IgnoresBackticks {α : Type} (reader : List Char → Option (α × List Char)) : Prop :=
  ∀ ⦃cs rest : List Char⦄ ⦃value : α⦄,
    reader cs = some (value, rest)
    → reader (withoutBackticks cs) = some (value, withoutBackticks rest)

theorem readItems_withoutBackticks {item : List Char → Option (Json × List Char)}
    (same : IgnoresBackticks item) {fuel more : Nat} {cs rest : List Char} {done : List Json}
    {value : Json} (read : readItems item fuel cs done = some (value, rest)) (enough : fuel ≤ more)
    : readItems item more (withoutBackticks cs) done = some (value, withoutBackticks rest) := by
  induction fuel generalizing more cs done with
  | zero => simp [readItems] at read
  | succ fuel ih =>
      obtain ⟨more, rfl⟩ : ∃ less, more = less + 1 := ⟨more - 1, by omega⟩
      have less : fuel ≤ more := by omega
      simp only [readItems, bind, Option.bind_eq_some_iff] at read
      obtain ⟨⟨first, behind⟩, head, read⟩ := read
      simp only [readItems, same head, skipBlanks_withoutBackticks, bind, Option.bind_some]
      dsimp only at read
      split at read
      · rename_i others shape
        rw [shape, withoutBackticks_cons (by decide)]
        exact ih read less
      · rename_i others shape
        obtain ⟨rfl, rfl⟩ := Prod.mk.inj (Option.some.inj read)
        rw [shape, withoutBackticks_cons (by decide)]
        rfl
      · cases read

theorem readMembersFrom_withoutBackticks {item : List Char → Option (Json × List Char)}
    (same : IgnoresBackticks item) {fuel more : Nat} {cs rest : List Char}
    {done : List (String × Json)} {value : Json}
    (read : readMembersFrom item fuel cs done = some (value, rest)) (enough : fuel ≤ more)
    : readMembersFrom item more (withoutBackticks cs) done
      = some (value, withoutBackticks rest) := by
  induction fuel generalizing more cs done with
  | zero => simp [readMembersFrom] at read
  | succ fuel ih =>
      obtain ⟨more, rfl⟩ : ∃ less, more = less + 1 := ⟨more - 1, by omega⟩
      have less : fuel ≤ more := by omega
      simp only [readMembersFrom] at read
      simp only [readMembersFrom, skipBlanks_withoutBackticks]
      split at read
      · rename_i start opening
        simp only [bind, Option.bind_eq_some_iff] at read
        obtain ⟨⟨key, behind⟩, name, read⟩ := read
        rw [opening, withoutBackticks_cons (by decide)]
        simp only [readString_withoutBackticks name, skipBlanks_withoutBackticks, bind,
          Option.bind_some]
        dsimp only at read
        split at read
        · rename_i after colon
          obtain ⟨⟨found, next⟩, member, read⟩ := Option.bind_eq_some_iff.mp read
          rw [colon, withoutBackticks_cons (by decide)]
          simp only [same member, skipBlanks_withoutBackticks, Option.bind_some]
          dsimp only at read
          split at read
          · rename_i others shape
            rw [shape, withoutBackticks_cons (by decide)]
            exact ih read less
          · rename_i others shape
            obtain ⟨rfl, rfl⟩ := Prod.mk.inj (Option.some.inj read)
            rw [shape, withoutBackticks_cons (by decide)]
            rfl
          · cases read
        · cases read
      · cases read

theorem stripWord?_withoutBackticks {word cs rest : List Char} (noTick : '`' ∉ word)
    (read : stripWord? word cs = some rest)
    : stripWord? word (withoutBackticks cs) = some (withoutBackticks rest) := by
  induction word generalizing cs with
  | nil =>
      obtain rfl := Option.some.inj read
      rfl
  | cons w ws ih =>
      cases cs with
      | nil => cases read
      | cons c others =>
          simp only [stripWord?] at read
          split at read
          · rename_i equal
            subst equal
            have other : w ≠ '`' := fun tick => noTick (tick ▸ List.mem_cons_self)
            rw [withoutBackticks_cons other]
            simp only [stripWord?, if_true]
            exact ih (fun member => noTick (List.mem_cons_of_mem w member)) read
          · cases read

/-- A value is read whether the backticks of its strings are escaped or not. Witness: induction on
the depth of arrays and objects.
-/
theorem readValue_withoutBackticks (depth : Nat) : IgnoresBackticks (readValue depth) := by
  induction depth using Nat.strongRecOn with
  | ind depth ih =>
      intro cs rest value read
      unfold readValue at read ⊢
      rw [skipBlanks_withoutBackticks]
      split at read
      · rename_i behind shape
        obtain ⟨⟨text, after⟩, found, same⟩ := Option.map_eq_some_iff.mp read
        obtain ⟨rfl, rfl⟩ := Prod.mk.inj same
        rw [shape, withoutBackticks_cons (by decide)]
        simp only [readString_withoutBackticks found, Option.map_some]
      · rename_i behind shape
        obtain ⟨after, found, same⟩ := Option.map_eq_some_iff.mp read
        obtain ⟨rfl, rfl⟩ := Prod.mk.inj same
        rw [shape, withoutBackticks_cons (by decide)]
        simp only [stripWord?_withoutBackticks (by decide) found, Option.map_some]
      · rename_i behind shape
        obtain ⟨after, found, same⟩ := Option.map_eq_some_iff.mp read
        obtain ⟨rfl, rfl⟩ := Prod.mk.inj same
        rw [shape, withoutBackticks_cons (by decide)]
        simp only [stripWord?_withoutBackticks (by decide) found, Option.map_some]
      · rename_i behind shape
        obtain ⟨after, found, same⟩ := Option.map_eq_some_iff.mp read
        obtain ⟨rfl, rfl⟩ := Prod.mk.inj same
        rw [shape, withoutBackticks_cons (by decide)]
        simp only [stripWord?_withoutBackticks (by decide) found, Option.map_some]
      · rename_i behind shape
        rw [shape, withoutBackticks_cons (by decide)]
        split at read
        · cases read
        · cases read
        · rename_i less positive
          simp only [skipBlanks_withoutBackticks]
          split at read
          · rename_i after closing
            obtain ⟨rfl, rfl⟩ := Prod.mk.inj (Option.some.inj read)
            simp only [closing, withoutBackticks_cons (by decide : ']' ≠ '`')]
          · rename_i noClosing
            have longer := length_le_withoutBackticks (skipBlanks behind)
            have items := readItems_withoutBackticks (ih less (by omega)) read longer
            split
            · rename_i after closing
              obtain ⟨rest, starts⟩ := starts_of_withoutBackticks (by decide) closing
              exact (noClosing rest starts).elim
            · exact items
      · rename_i behind shape
        rw [shape, withoutBackticks_cons (by decide)]
        split at read
        · cases read
        · cases read
        · rename_i less positive
          simp only [skipBlanks_withoutBackticks]
          split at read
          · rename_i after closing
            obtain ⟨rfl, rfl⟩ := Prod.mk.inj (Option.some.inj read)
            simp only [closing, withoutBackticks_cons (by decide : '\x7d' ≠ '`')]
          · rename_i noClosing
            have longer := length_le_withoutBackticks (skipBlanks behind)
            have members := readMembersFrom_withoutBackticks (ih less (by omega)) read longer
            split
            · rename_i after closing
              obtain ⟨rest, starts⟩ := starts_of_withoutBackticks (by decide) closing
              exact (noClosing rest starts).elim
            · exact members
      · rename_i noString noTrue noFalse noNull noArray noObject
        obtain ⟨⟨number, after⟩, found, same⟩ := Option.map_eq_some_iff.mp read
        obtain ⟨rfl, rfl⟩ := Prod.mk.inj same
        have shown := readNumber_withoutBackticks (skipBlanks cs)
        rw [found, Option.map_some] at shown
        have never {c : Char} {rest : List Char} (other : c ≠ '\\')
            (absent : ∀ behind, skipBlanks cs = c :: behind → False)
            (starts : withoutBackticks (skipBlanks cs) = c :: rest) : False := by
          obtain ⟨behind, first⟩ := starts_of_withoutBackticks other starts
          exact absent behind first
        split
        · exact (never (by decide) noString ‹_›).elim
        · exact (never (by decide) noTrue ‹_›).elim
        · exact (never (by decide) noFalse ‹_›).elim
        · exact (never (by decide) noNull ‹_›).elim
        · exact (never (by decide) noArray ‹_›).elim
        · exact (never (by decide) noObject ‹_›).elim
        · rw [shown]
          rfl

/-- A JSON text that is read as a value is read as the same value when its backticks are escaped. -/
theorem read_withoutBackticks {text : String} {value : Json} (read : Json.read text = some value)
    : Json.read (String.ofList (withoutBackticks text.toList)) = some value := by
  unfold Json.read at read ⊢
  obtain ⟨found, finite, canonical⟩ := Option.map_eq_some_iff.mp read
  obtain ⟨members, isFinite⟩ := Option.filter_eq_some_iff.mp finite
  unfold readMembers at members
  simp only [bind, Option.bind_eq_some_iff] at members
  obtain ⟨⟨json, rest⟩, whole, ends⟩ := members
  dsimp only at ends
  split at ends
  · rename_i empty
    obtain rfl := Option.some.inj ends
    have behind : skipBlanks (withoutBackticks rest) = [] := by
      rw [skipBlanks_withoutBackticks, List.isEmpty_iff.mp empty, withoutBackticks_nil]
    have again
        : readMembers (String.ofList (withoutBackticks text.toList)) = some json := by
      unfold readMembers
      rw [String.toList_ofList]
      simp [readValue_withoutBackticks depthLimit whole, behind]
    rw [again, Option.filter_some, if_pos isFinite, Option.map_some, canonical]
  · cases ends

end Remediation.Json
