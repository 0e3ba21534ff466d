import Remediation.Proofs.Url.Segments

/-! Segments that read as dots. Whether its dots are escaped or not, a path takes a segment of one
or two dots for a step: no path of a URL that is read has a segment that reads back as `.` or `..`.
-/

namespace Remediation.Url

variable {keeps : Char → Bool} {isFile : Bool}

-----------------------------------------------------------------------------------------
-- Texts that read as dots
-----------------------------------------------------------------------------------------

/-- A hexadecimal digit is an ASCII character. -/
theorem ascii_of_digitIn? {c : Char} {n : Nat} (digit : digitIn? 16 c = some n)
    : c.toNat < 128 := by
  unfold digitIn? at digit
  split at digit
  · rename_i decimal
    simp only [Char.isDigit, Bool.and_eq_true, decide_eq_true_eq, UInt32.le_iff_toNat_le] at decimal
    exact Nat.lt_of_le_of_lt decimal.2 (by decide)
  · split at digit
    · rename_i lower
      exact Nat.lt_of_le_of_lt lower.2 (by decide)
    · split at digit
      · rename_i upper
        exact Nat.lt_of_le_of_lt upper.2 (by decide)
      · cases digit

theorem lt_of_digitIn? {base n : Nat} {c : Char} (digit : digitIn? base c = some n) : n < base := by
  unfold digitIn? at digit
  simp only [Option.ite_none_right_eq_some] at digit
  exact Option.some.inj digit.2 ▸ digit.1

theorem digits_of_dot {a b : Char} {high low : Nat} (first : digitIn? 16 a = some high)
    (second : digitIn? 16 b = some low) (dot : 16 * high + low = '.'.toNat)
    : a = '2' ∧ (b = 'e' ∨ b = 'E') := by
  have small : low < 16 := lt_of_digitIn? second
  have value : '.'.toNat = 46 := rfl
  have two : high = 2 := by omega
  have fourteen : low = 14 := by omega
  subst two fourteen
  constructor
  · exact Text.of_ascii (p := fun c => digitIn? 16 c = some 2 → c = '2') (by decide)
      (ascii_of_digitIn? first) first
  · exact Text.of_ascii (p := fun c => digitIn? 16 c = some 14 → c = 'e' ∨ c = 'E') (by decide)
      (ascii_of_digitIn? second) second

/-- A text that is read as the bytes of dots is one that a path takes for dots. Witness: induction
on the text. -/
theorem unescapeDots_of_percentDecode {cs : List Char} {n : Nat}
    (dots : percentDecode cs = List.replicate n '.'.toNat)
    : unescapeDots cs = List.replicate n '.' := by
  fun_induction percentDecode cs generalizing n with
  | case1 a b rest high low second first ih =>
      cases n with
      | zero => cases dots
      | succ n =>
          obtain ⟨dot, others⟩ := List.cons.inj dots
          obtain ⟨rfl, small⟩ := digits_of_dot first second dot
          rw [unescapeDots, if_pos small, ih others]
          rfl
  | case2 a b rest noDigits ih =>
      cases n with
      | zero => cases dots
      | succ n => cases (List.cons.inj dots).1
  | case3 c rest other ih =>
      obtain ⟨byte, bytes, written, _⟩ := Text.utf8Bytes_starts c
      cases n with
      | zero =>
          rw [written] at dots
          cases dots
      | succ n =>
          have starts := dots
          rw [written] at starts
          have dot : byte = '.'.toNat := (List.cons.inj starts).1
          have same : c.toNat = byte := Text.eq_of_mem_utf8Bytes
            (written ▸ List.mem_cons_self) (by rw [dot]; decide)
          have isDot : c = '.' := Char.toNat_inj.mp (same.trans dot)
          subst isDot
          rw [unescapeDots, ih (List.cons.inj dots).2]
          · rfl
          · intro _ _ impossible
            cases impossible
  | case4 =>
      cases n with
      | zero => rfl
      | succ n => cases dots

-----------------------------------------------------------------------------------------
-- Escaping what has escapes
-----------------------------------------------------------------------------------------

/-- A digit in front of an escaped text was there before. -/
theorem cons_of_percentEncode {cs rest : List Char} {c : Char} {n : Nat}
    (encoded : percentEncode keeps cs = c :: rest) (digit : digitIn? 16 c = some n)
    : ∃ others, cs = c :: others ∧ rest = percentEncode keeps others := by
  cases cs with
  | nil => cases encoded
  | cons first others =>
      unfold percentEncode at encoded
      rw [List.flatMap_cons] at encoded
      split at encoded
      · obtain ⟨rfl, rfl⟩ := List.cons.inj encoded
        exact ⟨others, rfl, rfl⟩
      · obtain ⟨_, _, _, starts⟩ := percentChar_starts first
        rw [starts] at encoded
        obtain ⟨rfl, -⟩ := List.cons.inj encoded
        cases digit

/-- A percent sign that starts no escape stands for itself. -/
theorem percentDecode_percent {cs : List Char}
    (alone
      : ∀ a b rest high low,
          cs = a :: b :: rest → digitIn? 16 a = some high → digitIn? 16 b ≠ some low)
    : percentDecode ('%' :: cs) = Text.utf8Bytes '%' ++ percentDecode cs := by
  match cs with
  | [] => rfl
  | [a] => rfl
  | a :: b :: rest =>
      rw [percentDecode]
      split
      · rename_i high low first second
        exact absurd second (alone a b rest high low rfl first)
      · rfl

/-- Escaping what is neither a percent sign nor a digit does not change what is read. Witness:
induction on the reading. -/
theorem percentDecode_percentEncode_of_keeps (percent : keeps '%' = true)
    (digits : ∀ c n, digitIn? 16 c = some n → keeps c = true) (cs : List Char)
    : percentDecode (percentEncode keeps cs) = percentDecode cs := by
  have kept {c : Char} (keep : keeps c = true) (rest : List Char)
      : percentEncode keeps (c :: rest) = c :: percentEncode keeps rest := by
    unfold percentEncode
    rw [List.flatMap_cons, if_pos keep]
    rfl
  have stands {cs : List Char}
      (alone
        : ∀ a b rest high low,
            cs = a :: b :: rest → digitIn? 16 a = some high → digitIn? 16 b ≠ some low)
      (ih : percentDecode (percentEncode keeps cs) = percentDecode cs)
      : percentDecode (percentEncode keeps ('%' :: cs)) = percentDecode ('%' :: cs) := by
    rw [kept percent, percentDecode_percent alone, percentDecode_percent, ih]
    intro a b rest high low encoded first second
    obtain ⟨others, rfl, behind⟩ := cons_of_percentEncode encoded first
    obtain ⟨others, rfl, -⟩ := cons_of_percentEncode behind.symm second
    exact alone a b others high low rfl first second
  fun_induction percentDecode cs with
  | case1 a b rest high low second first ih =>
      simp only [kept percent, kept (digits a high first), kept (digits b low second),
        percentDecode, first, second, ih]
  | case2 a b rest noDigits ih =>
      rw [stands _ ih, percentDecode_percent]
      · intro a' b' rest' high low same first second
        cases same
        exact noDigits high low first second
      · intro a' b' rest' high low same first second
        cases same
        exact noDigits high low first second
  | case3 c rest other ih =>
      by_cases percent : c = '%'
      · subst percent
        have alone (a b : Char) (others : List Char) (high low : Nat)
            (same : rest = a :: b :: others) (_ : digitIn? 16 a = some high)
            : digitIn? 16 b ≠ some low :=
          absurd same (other a b others rfl)
        rw [stands alone ih, percentDecode_percent alone]
      · rw [← ih]
        by_cases keep : keeps c = true
        · rw [kept keep, percentDecode_cons percent]
        · have escaped
              : percentEncode keeps (c :: rest) = percentChar c ++ percentEncode keeps rest := by
            unfold percentEncode
            rw [List.flatMap_cons, if_neg keep]
          rw [escaped, percentDecode_percentChar]
  | case4 => rfl

-----------------------------------------------------------------------------------------
-- Paths without steps
-----------------------------------------------------------------------------------------

/-- A segment that reads back as one or two dots. -/
def IsStep (text : String) : Prop :=
  ∃ n, (n = 1 ∨ n = 2) ∧ percentDecode text.toList = List.replicate n '.'.toNat

/-- A segment that reads back as `.` or `..` is a step. -/
theorem isStep_of_reads {id text : String} (dots : id ∈ [".", ".."])
    (read : Text.ofUtf8? (percentDecode text.toList) = some id.toList)
    : IsStep text := by
  have bytes := Text.bytes_of_ofUtf8? read
  rcases List.mem_cons.mp dots with rfl | double
  · exact ⟨1, .inl rfl, bytes⟩
  · rw [List.mem_singleton.mp double] at bytes
    exact ⟨2, .inr rfl, bytes⟩

theorem not_isStep_empty : ¬IsStep "" := by
  rintro ⟨_, rfl | rfl, read⟩
  · cases read
  · cases read

theorem keepsInPath_of_digitIn? {c : Char} {n : Nat} (digit : digitIn? 16 c = some n)
    : keepsInPath c = true :=
  Text.of_ascii (p := fun c => (digitIn? 16 c).isSome = true → keepsInPath c = true) (by decide)
    (ascii_of_digitIn? digit) (by rw [digit]; rfl)

/-- A segment that is kept is no step. -/
theorem not_isStep_keptSegment {kept : List String} {segment : List Char}
    (noDouble : ¬isDoubleDot segment = true) (noSingle : ¬isSingleDot segment = true)
    : ¬IsStep (keptSegment isFile kept segment) := by
  have plain : ¬IsStep (String.ofList (percentEncode keepsInPath segment)) := by
    rintro ⟨n, count, read⟩
    rw [String.toList_ofList, percentDecode_percentEncode_of_keeps rfl] at read
    · have dots := unescapeDots_of_percentDecode read
      rcases count with rfl | rfl
      · exact noSingle (beq_iff_eq.mpr dots)
      · exact noDouble (beq_iff_eq.mpr dots)
    · exact fun c n digit => keepsInPath_of_digitIn? digit
  have drive {letter : Char} (alpha : letter.isAlpha = true)
      : ¬IsStep (String.ofList [letter, ':']) := by
    rintro ⟨n, _, read⟩
    have noPercent : letter ≠ '%' := by
      rintro rfl
      cases alpha
    have colon : ':'.toNat ∈ percentDecode [letter, ':'] := by
      rw [percentDecode_cons noPercent]
      exact List.mem_append_right _ List.mem_cons_self
    rw [String.toList_ofList] at read
    rw [read] at colon
    cases List.eq_of_mem_replicate colon
  unfold keptSegment
  split
  · rename_i letter
    split
    · rename_i named
      simp only [Bool.and_eq_true] at named
      exact drive named.2
    · exact plain
  · exact plain

theorem parent_subset (segments : List String) : parent isFile segments ⊆ segments := by
  unfold parent
  split
  · split
    · exact fun _ => id
    · exact List.nil_subset _
  · exact List.dropLast_subset _

/-- Resolving leaves no steps. Witness: induction on the segments. -/
theorem not_isStep_resolve {kept : List String} (none : ∀ text ∈ kept, ¬IsStep text)
    (segments : List (List Char))
    : ∀ text ∈ resolve isFile kept segments, ¬IsStep text := by
  induction segments generalizing kept with
  | nil => exact none
  | cons segment rest ih =>
      have ended {kept : List String} (none : ∀ text ∈ kept, ¬IsStep text)
          : ∀ text ∈ (if rest.isEmpty then kept ++ [""] else kept), ¬IsStep text := by
        intro text member
        split at member
        · rcases List.mem_append.mp member with before | last
          · exact none text before
          · rw [List.mem_singleton.mp last]
            exact not_isStep_empty
        · exact none text member
      rw [resolve]
      split
      · exact ih (ended fun text member => none text (parent_subset kept member))
      · rename_i noDouble
        split
        · exact ih (ended none)
        · rename_i noSingle
          refine ih fun text member => ?_
          rcases List.mem_append.mp member with before | here
          · exact none text before
          · rw [List.mem_singleton.mp here]
            exact not_isStep_keptSegment noDouble noSingle

theorem not_isStep_pathOf {scheme : String} {cs : List Char} {segments : List String}
    (path : pathOf scheme cs = .segments segments)
    : ∀ text ∈ segments, ¬IsStep text := by
  have nothing : ∀ text ∈ ([] : List String), ¬IsStep text := nofun
  unfold pathOf at path
  split at path
  · rw [← Path.segments.inj path]
    intro text member
    split at member
    · rw [List.mem_singleton.mp member]
      exact not_isStep_empty
    · cases member
  · rw [← Path.segments.inj path]
    exact not_isStep_resolve nothing _

/-- A URL with segments has the path of a text. -/
theorem exists_pathOf_of_readBehind {scheme : String} {cs : List Char} {url : Url}
    {segments : List String} (reads : readBehind scheme cs = .ok url)
    (path : url.path = .segments segments)
    : ∃ scheme rest, pathOf scheme rest = .segments segments := by
  have tail {scheme : String} {host : Option Host} {rest : List Char}
      (same : withTail scheme host (pathOf scheme) rest = url)
      : ∃ scheme rest, pathOf scheme rest = .segments segments := by
    rw [← same] at path
    exact ⟨scheme, (Tail.of rest).path, path⟩
  have authority {scheme : String} {cs : List Char} (reads : withAuthority scheme cs = .ok url)
      : ∃ scheme rest, pathOf scheme rest = .segments segments := by
    have settled := withAuthority_of_authority reads rfl
    rw [reads] at settled
    rw [Except.ok.inj settled] at path
    exact ⟨_, _, path⟩
  have file {cs : List Char} (reads : ofFile cs = .ok url)
      : ∃ scheme rest, pathOf scheme rest = .segments segments := by
    unfold ofFile at reads
    split at reads
    · split at reads
      · simp only at reads
        split at reads
        · exact tail (Except.ok.inj reads)
        · split at reads
          · exact tail (Except.ok.inj reads)
          · obtain ⟨_, _, reads⟩ := exceptBind_eq_ok_iff.mp reads
            exact tail (Except.ok.inj reads)
      · exact tail (Except.ok.inj reads)
    · exact tail (Except.ok.inj reads)
  unfold readBehind at reads
  split at reads
  · exact file reads
  · split at reads
    · exact authority reads
    · split at reads
      · exact authority reads
      · exact tail (Except.ok.inj reads)
      · cases reads
        cases path

/-- No URL that is read has a step in its path. -/
theorem not_isStep_of_parse {source : String} {url : Url} {segments : List String}
    (reads : parse source = .ok url) (path : url.path = .segments segments)
    : ∀ text ∈ segments, ¬IsStep text := by
  rw [parse_eq] at reads
  split at reads
  · cases reads
  · obtain ⟨_, _, path⟩ := exists_pathOf_of_readBehind reads path
    exact not_isStep_pathOf path

end Remediation.Url
