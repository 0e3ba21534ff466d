import Mathlib.Tactic.SplitIfs
import Remediation.Json.Printer
import Remediation.Json.Reader

/-! Printed JSON text. Strings, natural numbers of 64 bits and null are read back from their text,
and so is every object of values that are: its pretty text has each field on a line of its own,
which ends in a comma or is followed by the line of the closing brace.
-/

namespace Remediation.Json

-----------------------------------------------------------------------------------------
-- Strings
-----------------------------------------------------------------------------------------

theorem hexValue?_hexDigit {n : Nat} (small : n < 16) : hexValue? (hexDigit n) = some n := by
  have all : ∀ n < 16, hexValue? (hexDigit n) = some n := by decide
  exact all n small

/-- The escape of a control character is read as it. -/
theorem readUnicode_control {c : Char} (control : c.toNat < 32) (rest : List Char)
    : readUnicode ('0' :: '0' :: hexDigit (c.toNat / 16) :: hexDigit (c.toNat % 16) :: rest)
      = some (c, rest) := by
  have zero : hexValue? '0' = some 0 := rfl
  have whole : c.toNat / 16 * 16 + c.toNat % 16 = c.toNat := Nat.div_add_mod' c.toNat 16
  simp only [readUnicode, readUnit, zero, hexValue?_hexDigit (show c.toNat / 16 < 16 by omega),
    hexValue?_hexDigit (show c.toNat % 16 < 16 by omega), Option.bind_eq_bind, Option.bind_some,
    Nat.zero_mul, Nat.zero_add, whole]
  rw [if_neg (by omega), if_neg (by omega), Char.ofNat_toNat]

/-- A character is read from its escape. -/
theorem readStringFrom_escapeChar (fuel : Nat) (c : Char) (cs done : List Char)
    : readStringFrom (fuel + 1) (escapeChar c ++ cs) done = readStringFrom fuel cs (c :: done) := by
  unfold escapeChar
  split
  · rfl
  · rfl
  · rfl
  · rfl
  · rfl
  · rename_i noQuote noBackslash _ _ _
    split
    · rename_i backspace
      have same : c = Char.ofNat 8 := by rw [← backspace, Char.ofNat_toNat]
      rw [same]
      rfl
    · split
      · rename_i formFeed
        have same : c = Char.ofNat 12 := by rw [← formFeed, Char.ofNat_toNat]
        rw [same]
        rfl
      · split
        · rename_i control
          simp only [List.cons_append, List.nil_append, readStringFrom,
            readUnicode_control control, Option.bind_eq_bind, Option.bind_some]
        · rename_i printable
          rw [List.singleton_append]
          rw [readStringFrom, if_neg printable]
          · exact noQuote
          · exact fun _ same _ => noBackslash same
          · exact fun _ _ same _ => noBackslash same

theorem escapeChar_ne_nil (c : Char) : escapeChar c ≠ [] := by
  unfold escapeChar
  split
  case h_6 =>
    split_ifs
    all_goals exact List.cons_ne_nil _ _
  all_goals exact List.cons_ne_nil _ _

/-- A string is read back behind its opening quote. Witness: induction on its characters, with what
is read so far. -/
theorem readStringFrom_escaped {fuel : Nat} {cs : List Char}
    (enough : (cs.flatMap escapeChar).length < fuel) (rest done : List Char)
    : readStringFrom fuel (cs.flatMap escapeChar ++ '"' :: rest) done
      = some (String.ofList (done.reverse ++ cs), rest) := by
  induction cs generalizing fuel done with
  | nil =>
      obtain ⟨fuel, rfl⟩ := Nat.exists_eq_add_one_of_ne_zero (Nat.ne_of_gt enough)
      rw [List.append_nil]
      rfl
  | cons c others ih =>
      have longer := List.length_pos_iff.mpr (escapeChar_ne_nil c)
      rw [List.flatMap_cons, List.length_append] at enough
      obtain ⟨fuel, rfl⟩ := Nat.exists_eq_add_one_of_ne_zero (show fuel ≠ 0 by omega)
      rw [List.flatMap_cons, List.append_assoc, readStringFrom_escapeChar,
        ih (show _ < fuel by omega), List.reverse_cons, List.append_assoc]
      rfl

theorem readString_quoted (text : String) (rest : List Char)
    : readString (text.toList.flatMap escapeChar ++ '"' :: rest) = some (text, rest) := by
  have enough
      : (text.toList.flatMap escapeChar).length
        < (text.toList.flatMap escapeChar ++ '"' :: rest).length + 1 := by
    rw [List.length_append]
    omega
  rw [readString, readStringFrom_escaped enough, List.reverse_nil, List.nil_append,
    String.ofList_toList]

-----------------------------------------------------------------------------------------
-- Natural numbers
-----------------------------------------------------------------------------------------

theorem gather_digit {significand count n : Nat} (small : n < 10)
    (fits : significand * 10 + n ≤ greatestSignificand) (rest : List Char)
    : gather significand count (n.digitChar :: rest)
      = gather (significand * 10 + n) (count + 1) rest := by
  have digit : n.digitChar.isDigit = true ∧ digitValue n.digitChar = n := by
    have all : ∀ n < 10, n.digitChar.isDigit = true ∧ digitValue n.digitChar = n := by decide
    exact all n small
  rw [gather, digit.2, if_pos ⟨digit.1, fits⟩]

/-- The digits of a number are gathered to it. Witness: strong induction; the last digit comes
behind the ones of the number without it. -/
theorem gather_toDigits {n : Nat} (fits : n ≤ greatestSignificand) (rest : List Char)
    : ∃ count, gather 0 0 (Nat.toDigits 10 n ++ rest) = gather n count rest := by
  induction n using Nat.strongRecOn generalizing rest with
  | ind n ih =>
      by_cases small : n < 10
      · refine ⟨1, ?_⟩
        rw [Nat.toDigits_of_lt_base small, List.singleton_append,
          gather_digit small (by omega), Nat.zero_mul, Nat.zero_add, Nat.zero_add]
      · have whole : n / 10 * 10 + n % 10 = n := Nat.div_add_mod' n 10
        obtain ⟨count, gathered⟩ :=
          ih (n / 10) (by omega) (by omega) ((n % 10).digitChar :: rest)
        refine ⟨count + 1, ?_⟩
        rw [Nat.toDigits_of_base_le (by decide) (by omega), List.append_assoc,
          List.singleton_append, gathered, gather_digit (by omega) (by omega), whole]

/-- The first digit of a positive number is not zero. -/
theorem exists_toDigits_cons {n : Nat} (positive : 0 < n)
    : ∃ first others,
        Nat.toDigits 10 n = first :: others ∧ first.isDigit = true ∧ first ≠ '0' := by
  induction n using Nat.strongRecOn with
  | ind n ih =>
      by_cases small : n < 10
      · have all : ∀ n < 10, 0 < n → n.digitChar.isDigit = true ∧ n.digitChar ≠ '0' := by decide
        exact ⟨_, [], Nat.toDigits_of_lt_base small, all n small positive⟩
      · obtain ⟨first, others, digits, starts⟩ := ih (n / 10) (by omega) (by omega)
        refine ⟨first, others ++ [(n % 10).digitChar], ?_, starts⟩
        rw [Nat.toDigits_of_base_le (by decide) (by omega), digits, List.cons_append]

/-- What follows a value that stands on a line of its own: a comma or the end of the line. -/
def Follows (rest : List Char) : Prop :=
  rest.head? = some ',' ∨ rest.head? = some '\n'

theorem readAfter_follows {rest : List Char} (follows : Follows rest) (n : Nat)
    : readUnsigned.readAfter false n rest = some (.int n, rest) := by
  rcases follows with comma | line
  · obtain ⟨others, rfl⟩ := List.head?_eq_some_iff.mp comma
    rfl
  · obtain ⟨others, rfl⟩ := List.head?_eq_some_iff.mp line
    rfl

/-- A natural number of 64 bits is read back from its digits. -/
theorem readNumber_toDigits {n : Nat} (fits : n ≤ greatestSignificand) {rest : List Char}
    (follows : Follows rest)
    : readNumber (Nat.toDigits 10 n ++ rest) = some (.int n, rest) := by
  rcases Nat.eq_zero_or_pos n with rfl | positive
  · rcases follows with comma | line
    · obtain ⟨others, rfl⟩ := List.head?_eq_some_iff.mp comma
      rfl
    · obtain ⟨others, rfl⟩ := List.head?_eq_some_iff.mp line
      rfl
  · obtain ⟨first, others, digits, isDigit, noZero⟩ := exists_toDigits_cons positive
    obtain ⟨count, gathered⟩ := gather_toDigits fits rest
    have ended : gather n count rest = (n, count, rest) := by
      rcases follows with comma | line
      · obtain ⟨behind, rfl⟩ := List.head?_eq_some_iff.mp comma
        rfl
      · obtain ⟨behind, rfl⟩ := List.head?_eq_some_iff.mp line
        rfl
    have noMinus : first ≠ '-' := by
      rintro rfl
      cases isDigit
    rw [digits, List.cons_append] at gathered ⊢
    rw [readNumber]
    · rw [readUnsigned]
      · rw [if_pos isDigit, gathered, ended]
        exact readAfter_follows follows n
      · exact fun _ _ same _ => noZero same
    · exact fun _ same => noMinus (List.cons.inj same).1

-----------------------------------------------------------------------------------------
-- Values on lines
-----------------------------------------------------------------------------------------

/-- The pretty text of a value is read as the value in front of whatever may follow it, where values
may be nested less deep than `depth`. -/
def ReadsBack (depth : Nat) (value : Json) : Prop :=
  ∀ level rest,
    Follows rest → readValue depth ((prettyAt level value).toList ++ rest) = some (value, rest)

theorem readsBack_null (depth : Nat) : ReadsBack depth .null := by
  intro level rest _
  have whole : (prettyAt level .null).toList ++ rest = 'n' :: 'u' :: 'l' :: 'l' :: rest := by
    simp [prettyAt]
  rw [whole, readValue]
  rfl

theorem readsBack_string (depth : Nat) (text : String) : ReadsBack depth (.string text) := by
  intro level rest _
  have whole : (prettyAt level (.string text)).toList ++ rest
      = '"' :: (text.toList.flatMap escapeChar ++ '"' :: rest) := by
    simp [prettyAt, quote]
  have blank (cs : List Char) : skipBlanks ('"' :: cs) = '"' :: cs := rfl
  rw [whole, readValue, blank]
  simp only [readString_quoted, Option.map_some]

theorem readsBack_ofNat (depth : Nat) {n : Nat} (fits : n ≤ greatestSignificand)
    : ReadsBack depth (.ofNat n) := by
  intro level rest follows
  have digits : (prettyAt level (.ofNat n)).toList = Nat.toDigits 10 n := Nat.toList_repr
  obtain ⟨first, others, starts, isDigit⟩
      : ∃ first others, Nat.toDigits 10 n = first :: others ∧ first.isDigit = true := by
    obtain ⟨first, others, starts⟩ := List.exists_cons_of_ne_nil (Nat.toDigits_ne_nil (n := n))
    exact ⟨first, others, starts,
      Nat.isDigit_of_mem_toDigits (by decide) (by decide) (starts ▸ List.mem_cons_self)⟩
  have read := readNumber_toDigits fits follows
  have different {c : Char} (other : c.isDigit = false) : first ≠ c := by
    rintro rfl
    rw [other] at isDigit
    cases isDigit
  have visible : isBlank first = false := by
    simp [isBlank, different (c := ' ') rfl, different (c := '\n') rfl,
      different (c := '\t') rfl, different (c := '\r') rfl]
  rw [digits]
  rw [starts, List.cons_append] at read ⊢
  have blank : skipBlanks (first :: (others ++ rest)) = first :: (others ++ rest) := by
    rw [skipBlanks, List.dropWhile_cons_of_neg (by simp [visible])]
  rw [readValue, blank]
  split
  · rename_i same
    exact absurd (List.cons.inj same).1 (different rfl)
  · rename_i same
    exact absurd (List.cons.inj same).1 (different rfl)
  · rename_i same
    exact absurd (List.cons.inj same).1 (different rfl)
  · rename_i same
    exact absurd (List.cons.inj same).1 (different rfl)
  · rename_i same
    exact absurd (List.cons.inj same).1 (different rfl)
  · rename_i same
    exact absurd (List.cons.inj same).1 (different rfl)
  · rw [read]
    rfl

-----------------------------------------------------------------------------------------
-- Objects
-----------------------------------------------------------------------------------------

/-- The text of a field. -/
def fieldText (level : Nat) (field : String × Json) : String :=
  quote field.1 ++ ": " ++ prettyAt level field.2

theorem prettyFields_eq (level : Nat) (fields : List (String × Json))
    : prettyFields level fields = fields.map (fieldText level) := by
  induction fields with
  | nil => rfl
  | cons field rest ih => rw [prettyFields, ih, List.map_cons, fieldText]

theorem skipBlanks_lineStart (level : Nat) (cs : List Char)
    : skipBlanks ((lineStart level).toList ++ cs) = skipBlanks cs := by
  have blank : ∀ c ∈ (lineStart level).toList, isBlank c = true := by
    intro c member
    simp only [lineStart, String.toList_append, String.toList_ofList, List.mem_append,
      List.mem_replicate] at member
    rcases member with line | ⟨_, rfl⟩
    · rw [List.mem_singleton.mp line]
      rfl
    · rfl
  rw [skipBlanks, List.dropWhile_append_of_pos blank]
  rfl

theorem readMembersFrom_lineStart (item : List Char → Option (Json × List Char)) (fuel level : Nat)
    (cs : List Char) (done : List (String × Json))
    : readMembersFrom item fuel ((lineStart level).toList ++ cs) done
      = readMembersFrom item fuel cs done := by
  cases fuel with
  | zero => rfl
  | succ fuel => simp only [readMembersFrom, skipBlanks_lineStart]

/-- How members are read on behind the last one. -/
def readBehindMember (depth fuel : Nat) (done : List (String × Json))
    : List Char → Option (Json × List Char)
  | ',' :: rest => readMembersFrom (readValue depth) fuel rest done
  | '\x7d' :: rest => some (.object done.reverse, rest)
  | _ => none

/-- A field is read from its text, and then what follows it says how to go on. -/
theorem readMembersFrom_fieldText {depth : Nat} {field : String × Json}
    (back : ReadsBack depth field.2) {behind : List Char} (follows : Follows behind)
    (fuel level : Nat) (done : List (String × Json))
    : readMembersFrom (readValue depth) (fuel + 1) ((fieldText level field).toList ++ behind) done
      = readBehindMember depth fuel (field :: done) (skipBlanks behind) := by
  have whole
      : (fieldText level field).toList ++ behind
        = '"' :: (field.1.toList.flatMap escapeChar
          ++ '"' :: ':' :: ' ' :: ((prettyAt level field.2).toList ++ behind)) := by
    simp [fieldText, quote]
  have blank (cs : List Char) : skipBlanks ('"' :: cs) = '"' :: cs := rfl
  have colon (cs : List Char) : skipBlanks (':' :: cs) = ':' :: cs := rfl
  have space (cs : List Char) : readValue depth (' ' :: cs) = readValue depth cs := by
    rw [readValue, readValue]
    rfl
  rw [whole, readMembersFrom, blank]
  simp only [readString_quoted, colon, space, back level behind follows, Option.bind_eq_bind,
    Option.bind_some]
  rfl

/-- The text of fields, each on a line of its own. -/
def fieldsText (level : Nat) (fields : List (String × Json)) : String :=
  ("," ++ lineStart level).intercalate (fields.map (fieldText level))

/-- What closes an object. -/
def closing (level : Nat) (rest : List Char) : List Char :=
  (lineStart level).toList ++ '\x7d' :: rest

theorem follows_closing (level : Nat) (rest : List Char) : Follows (closing level rest) := by
  refine .inr ?_
  simp [closing, lineStart]

/-- Fields are read from their texts up to the closing brace. Witness: induction on the fields. -/
theorem readMembersFrom_fieldsText {depth : Nat} {fields : List (String × Json)}
    (filled : fields ≠ []) (back : ∀ field ∈ fields, ReadsBack depth field.2) {fuel : Nat}
    (enough : fields.length ≤ fuel) (level outer : Nat) (rest : List Char)
    (done : List (String × Json))
    : readMembersFrom (readValue depth) fuel
        ((fieldsText level fields).toList ++ closing outer rest) done
      = some (.object (done.reverse ++ fields), rest) := by
  induction fields generalizing fuel done with
  | nil => exact absurd rfl filled
  | cons field others ih =>
      rw [List.length_cons] at enough
      obtain ⟨fuel, rfl⟩ := Nat.exists_eq_add_one_of_ne_zero (show fuel ≠ 0 by omega)
      have backHere := back field List.mem_cons_self
      cases others with
      | nil =>
          rw [fieldsText, List.map_singleton, String.intercalate_singleton,
            readMembersFrom_fieldText backHere (follows_closing outer rest), closing,
            skipBlanks_lineStart]
          have brace : skipBlanks ('\x7d' :: rest) = '\x7d' :: rest := rfl
          rw [brace, readBehindMember]
          simp
      | cons next others =>
          have whole
              : (fieldsText level (field :: next :: others)).toList ++ closing outer rest
                = (fieldText level field).toList
                  ++ ',' :: ((lineStart level).toList
                    ++ ((fieldsText level (next :: others)).toList ++ closing outer rest)) := by
            simp [fieldsText, String.intercalate_cons_cons]
          have comma (cs : List Char) : skipBlanks (',' :: cs) = ',' :: cs := rfl
          have fewer : (next :: others).length ≤ fuel := by omega
          have later := ih (List.cons_ne_nil _ _)
            (fun other member => back other (List.mem_cons_of_mem _ member)) fewer (field :: done)
          rw [whole, readMembersFrom_fieldText backHere (.inl rfl), comma, readBehindMember]
          simp only [readMembersFrom_lineStart, later, List.reverse_cons, List.append_assoc,
            List.singleton_append]

/-- The text of fields starts with the quote of the first one, and has a character for each. -/
theorem exists_fieldsText_cons {fields : List (String × Json)} (filled : fields ≠ []) (level : Nat)
    : ∃ more,
        (fieldsText level fields).toList = '"' :: more ∧ fields.length ≤ more.length + 1 := by
  induction fields with
  | nil => exact absurd rfl filled
  | cons field others ih =>
      have starts : ∃ more, (fieldText level field).toList = '"' :: more :=
        ⟨_, by simp only [fieldText, quote, String.toList_append, String.toList_ofList,
          List.cons_append]; rfl⟩
      obtain ⟨more, text⟩ := starts
      cases others with
      | nil =>
          rw [fieldsText, List.map_singleton, String.intercalate_singleton]
          exact ⟨more, text, Nat.le_add_left _ _⟩
      | cons next others =>
          obtain ⟨behind, texts, enough⟩ := ih (List.cons_ne_nil _ _)
          refine ⟨more ++ ',' :: ((lineStart level).toList ++ '"' :: behind), ?_, ?_⟩
          · rw [fieldsText] at texts ⊢
            rw [List.map_cons, List.map_cons, String.intercalate_cons_cons]
            simp only [String.toList_append, text]
            rw [← List.map_cons, texts]
            simp
          · simp only [List.length_append, List.length_cons] at enough ⊢
            omega

/-- An object of values that are read back is read from its text, whatever follows. -/
theorem readValue_object {depth : Nat} {fields : List (String × Json)}
    (back : ∀ field ∈ fields, ReadsBack (depth + 1) field.2) (level : Nat) (rest : List Char)
    : readValue (depth + 2) ((prettyAt level (.object fields)).toList ++ rest)
      = some (.object fields, rest) := by
  rw [prettyAt, prettyFields_eq]
  cases fields with
  | nil =>
      have whole
          : (bracketed "\x7b" "\x7d" level []).toList ++ rest = '\x7b' :: '\x7d' :: rest := by
        simp [bracketed]
      rw [List.map_nil, whole, readValue]
      rfl
  | cons field others =>
      have filled : field :: others ≠ [] := List.cons_ne_nil _ _
      have whole
          : (bracketed "\x7b" "\x7d" level ((field :: others).map (fieldText (level + 1)))).toList
              ++ rest
            = '\x7b' :: ((lineStart (level + 1)).toList
              ++ ((fieldsText (level + 1) (field :: others)).toList ++ closing level rest)) := by
        simp [bracketed, fieldsText, closing]
      obtain ⟨more, starts, enough⟩ := exists_fieldsText_cons filled (level + 1)
      have fuel : (field :: others).length ≤ (more ++ closing level rest).length + 1 := by
        rw [List.length_append]
        omega
      have members := readMembersFrom_fieldsText filled back fuel (level + 1) level rest []
      have brace (cs : List Char) : skipBlanks ('\x7b' :: cs) = '\x7b' :: cs := rfl
      have quoted (cs : List Char) : skipBlanks ('"' :: cs) = '"' :: cs := rfl
      rw [starts, List.cons_append] at members
      rw [whole, readValue, brace, starts]
      simp only [skipBlanks_lineStart, List.cons_append, quoted]
      exact members

theorem readsBack_object {depth : Nat} {fields : List (String × Json)}
    (back : ∀ field ∈ fields, ReadsBack (depth + 1) field.2)
    : ReadsBack (depth + 2) (.object fields) :=
  fun level rest _ => readValue_object back level rest

/-- The pretty text of an object of values that are read back is a JSON text of it. -/
theorem readMembers_pretty {fields : List (String × Json)}
    (back : ∀ field ∈ fields, ReadsBack (depthLimit - 1) field.2)
    : readMembers (Json.object fields).pretty = some (.object fields) := by
  have read
      : readValue depthLimit ((prettyAt 0 (.object fields)).toList ++ [])
        = some (.object fields, []) :=
    readValue_object back 0 []
  rw [List.append_nil] at read
  rw [readMembers, pretty, read]
  rfl

end Remediation.Json
