import Mathlib.Data.List.TakeWhile
import Remediation.Proofs.Except
import Remediation.Url.Reader

/-! URLs behind a slash. Scheme, user, host and port are settled in front of the last slash of a
text that reads as a URL with segments, and so is everything that the text says about its path: what
is put behind the slash only goes on from there.
-/

namespace Remediation.Url

variable {front back cs rest : List Char} {base : Url}

/-- A text with a slash at its end. -/
def EndsInSlash (cs : List Char) : Prop :=
  ['/'] <:+ cs

theorem EndsInSlash.of_suffix (ends : EndsInSlash cs) (suffix : rest <:+ cs) (filled : rest ≠ [])
    : EndsInSlash rest :=
  List.suffix_of_suffix_length_le ends suffix (List.length_pos_iff.mpr filled)

theorem EndsInSlash.mem (ends : EndsInSlash cs) : '/' ∈ cs :=
  ends.subset (List.mem_singleton_self _)

/-- A scan that stops in a text stops at the same place if the text goes on. -/
theorem scan_append {p : Char → Bool} {c : Char} (member : c ∈ cs) (stops : p c = false)
    (back : List Char)
    : (cs ++ back).takeWhile p = cs.takeWhile p
      ∧ (cs ++ back).dropWhile p = cs.dropWhile p ++ back
      ∧ cs.dropWhile p ≠ [] := by
  have stopped : cs.dropWhile p ≠ [] := by
    intro none
    have passed := List.dropWhile_eq_nil_iff.mp none c member
    rw [stops] at passed
    cases passed
  have shorter : (cs.takeWhile p).length ≠ cs.length := by
    intro same
    have whole := congrArg List.length (cs.takeWhile_append_dropWhile (p := p))
    rw [List.length_append, same] at whole
    exact stopped (List.length_eq_zero_iff.mp (Nat.add_left_cancel whole))
  rw [List.takeWhile_append, List.dropWhile_append, if_neg shorter,
    if_neg (by rwa [List.isEmpty_iff])]
  exact ⟨rfl, rfl, stopped⟩

theorem drop_length_takeWhile (p : Char → Bool) (cs : List Char)
    : cs.drop (cs.takeWhile p).length = cs.dropWhile p := by
  conv => lhs; arg 2; rw [← cs.takeWhile_append_dropWhile (p := p)]
  exact List.drop_left

/-- A scan that passes over no slash finds all of them. -/
theorem count_dropWhile {p : Char → Bool} (stops : p '/' = false) (cs : List Char)
    : (cs.dropWhile p).count '/' = cs.count '/' := by
  have none : (cs.takeWhile p).count '/' = 0 := by
    rw [List.count_eq_zero]
    intro member
    have passed := List.mem_takeWhile_imp member
    rw [stops] at passed
    cases passed
  conv => rhs; rw [← cs.takeWhile_append_dropWhile (p := p)]
  rw [List.count_append, none, Nat.zero_add]

-----------------------------------------------------------------------------------------
-- The characters that count
-----------------------------------------------------------------------------------------

/-- The characters of a text that count behind others. -/
def significantEnd (cs : List Char) : List Char :=
  (cs.reverse.dropWhile (fun c => c.toNat ≤ 32)).reverse.filter (fun c =>
    c ≠ '\t' ∧ c ≠ '\n' ∧ c ≠ '\r')

theorem significantEnd_append (visible : ∀ c ∈ front, 32 < c.toNat) (back : List Char)
    : significantEnd (front ++ back) = front ++ significantEnd back := by
  have kept : front.filter (fun c => decide (c ≠ '\t' ∧ c ≠ '\n' ∧ c ≠ '\r')) = front := by
    rw [List.filter_eq_self]
    intro c member
    have large := visible c member
    rw [decide_eq_true_eq]
    refine ⟨?_, ?_, ?_⟩
    · rintro rfl
      exact absurd large (by decide)
    · rintro rfl
      exact absurd large (by decide)
    · rintro rfl
      exact absurd large (by decide)
  have stays : front.reverse.dropWhile (fun c => decide (c.toNat ≤ 32)) = front.reverse := by
    cases reversed : front.reverse with
    | nil => rfl
    | cons last _ =>
        have large := visible last (List.mem_reverse.mp (reversed ▸ List.mem_cons_self))
        rw [List.dropWhile_cons_of_neg (by simpa using large)]
  simp only [significantEnd, List.reverse_append, List.dropWhile_append]
  split
  · rename_i blank
    rw [stays, List.isEmpty_iff.mp blank, List.reverse_reverse, kept]
    simp
  · rw [List.reverse_append, List.reverse_reverse, List.filter_append, kept]

/-- What counts up to a slash does not depend on what is behind it, and no slash is lost. -/
theorem exists_significant_append (ends : EndsInSlash front)
    : ∃ read,
        EndsInSlash read
        ∧ read.count '/' = front.count '/'
        ∧ ∀ back, significant (front ++ back) = read ++ significantEnd back := by
  let isEdge (c : Char) : Bool := c.toNat ≤ 32
  let counts (c : Char) : Bool := c ≠ '\t' ∧ c ≠ '\n' ∧ c ≠ '\r'
  have edge : isEdge '/' = false := by decide
  obtain ⟨inner, whole⟩ := ends.of_suffix (List.dropWhile_suffix isEdge)
    (scan_append ends.mem edge []).2.2
  refine ⟨(front.dropWhile isEdge).filter counts, ?_, ?_, ?_⟩
  · rw [← whole, List.filter_append]
    exact List.suffix_append _ _
  · rw [List.count_filter (by decide), count_dropWhile edge]
  · intro back
    have lower : significant (front ++ back) = significantEnd (front.dropWhile isEdge ++ back) := by
      rw [← (scan_append ends.mem edge back).2.1]
      rfl
    rw [lower, ← whole]
    simp only [significantEnd, List.reverse_append, List.dropWhile_append]
    split
    · rename_i blank
      rw [List.isEmpty_iff.mp blank]
      simp [counts]
    · simp [counts]

-----------------------------------------------------------------------------------------
-- Schemes and authorities
-----------------------------------------------------------------------------------------

/-- The URL that has another rest behind its authority. -/
def withRest (base : Url) (rest : List Char) : Url :=
  {
    withTail base.scheme base.host (pathOf base.scheme) rest with
    username := base.username,
    password := base.password,
    port := base.port
  }

/-- What a text is read as behind its scheme. -/
def readBehind (scheme : String) (cs : List Char) : Except UrlError Url :=
  if scheme = "file" then ofFile cs
  else if isSpecial scheme then withAuthority scheme (cs.dropWhile (isSlash true))
  else
    match cs with
    | '/' :: '/' :: rest => withAuthority scheme rest
    | '/' :: rest => .ok (withTail scheme none (pathOf scheme) ('/' :: rest))
    | rest =>
        .ok
          (withTail scheme none
            (fun cs => .rootless (String.ofList (percentEncode keepsInRootless cs))) rest)

theorem parse_eq (source : String)
    : parse source
      = match scheme? (significant source.toList) with
        | none => .error .relative
        | some (scheme, rest) => readBehind scheme rest := by
  unfold parse
  split
  · rename_i none
    rw [none]
  · rename_i file
    rw [file]
    rfl
  · rename_i scheme rest other found
    rw [found]
    exact (if_neg other).symm

theorem scheme?_append (slash : '/' ∈ cs) {scheme : String}
    (found : scheme? cs = some (scheme, rest)) (back : List Char)
    : scheme? (cs ++ back) = some (scheme, rest ++ back) := by
  obtain ⟨taken, dropped, _⟩ := scan_append (p := isSchemeChar) slash (by decide) back
  unfold scheme? at found ⊢
  rw [taken, dropped]
  split at found
  · rename_i behind colon
    rw [colon, List.cons_append]
    simp only at found ⊢
    split at found
    · rename_i letter
      obtain ⟨rfl, rfl⟩ := Prod.mk.inj (Option.some.inj found)
      rw [if_pos letter]
    · cases found
  · cases found

/-- No slash is in front of the colon of a scheme. -/
theorem scheme?_suffix {scheme : String} (found : scheme? cs = some (scheme, rest))
    : rest <:+ cs ∧ rest.count '/' = cs.count '/' := by
  have all := count_dropWhile (p := isSchemeChar) (by decide) cs
  have behind := List.dropWhile_suffix (l := cs) isSchemeChar
  unfold scheme? at found
  split at found
  · rename_i rest' colon
    simp only at found
    split at found
    · obtain ⟨-, rfl⟩ := Prod.mk.inj (Option.some.inj found)
      rw [colon] at all behind
      refine ⟨(List.suffix_cons _ _).trans behind, ?_⟩
      rwa [List.count_cons_of_ne (by decide)] at all
    · cases found
  · cases found

/-- The authority of a URL settles what comes before the rest. -/
theorem withAuthority_of_authority {scheme : String} (reads : withAuthority scheme cs = .ok base)
    {other : List Char}
    (same
      : other.takeWhile (!endsAuthority (isSpecial scheme) ·)
        = cs.takeWhile (!endsAuthority (isSpecial scheme) ·))
    : withAuthority scheme other
      = .ok
          (base.withRest
            (other.drop (cs.takeWhile (!endsAuthority (isSpecial scheme) ·)).length)) := by
  unfold withAuthority at reads ⊢
  simp only [same]
  simp only at reads
  split at reads
  · cases reads
  · rename_i filled
    rw [if_neg filled]
    obtain ⟨host, named, reads⟩ := exceptBind_eq_ok_iff.mp reads
    obtain ⟨port, numbered, reads⟩ := exceptBind_eq_ok_iff.mp reads
    cases reads
    rw [named, numbered]
    rfl

theorem withAuthority_append {scheme : String} (slash : '/' ∈ cs)
    (reads : withAuthority scheme cs = .ok base)
    : ∃ tail,
        tail <:+ cs
        ∧ tail ≠ []
        ∧ ∀ back, withAuthority scheme (cs ++ back) = .ok (base.withRest (tail ++ back)) := by
  let inside (c : Char) : Bool := !endsAuthority (isSpecial scheme) c
  have ends : inside '/' = false := by simp [inside, endsAuthority, isSlash]
  refine ⟨cs.dropWhile inside, List.dropWhile_suffix inside, (scan_append slash ends []).2.2, ?_⟩
  intro back
  obtain ⟨taken, dropped, _⟩ := scan_append slash ends back
  have settled := withAuthority_of_authority reads taken
  rw [← dropped, ← drop_length_takeWhile, taken]
  exact settled

theorem ofFile_append (slashes : 3 ≤ cs.count '/') (reads : ofFile cs = .ok base)
    : ∃ tail,
        tail <:+ cs
        ∧ tail ≠ []
        ∧ ∀ back, ofFile (cs ++ back) = .ok (base.withRest (tail ++ back)) := by
  have few (c : Char) : [c].count '/' ≤ 1 := List.count_le_length
  match cs, slashes, reads with
  | [], slashes, _ => cases slashes
  | [c], slashes, _ => exact absurd slashes (by have := few c; omega)
  | a :: b :: rest, slashes, reads =>
      have slash : '/' ∈ rest := by
        have two : [a, b].count '/' ≤ 2 := List.count_le_length
        have all : ([a, b] ++ rest).count '/' = [a, b].count '/' + rest.count '/' :=
          List.count_append
        rw [List.cons_append, List.cons_append, List.nil_append] at all
        exact List.count_pos_iff.mp (by omega)
      have filled : rest ≠ [] := List.ne_nil_of_mem slash
      have behind : rest <:+ a :: b :: rest := List.suffix_append [a, b] rest
      have goesOn (back : List Char) :=
        scan_append (p := (!endsAuthority true ·)) slash rfl back
      have taken (back : List Char) := (goesOn back).1
      simp only [ofFile, List.cons_append, taken] at reads ⊢
      split at reads
      · rename_i host
        simp only [if_pos host] at reads ⊢
        split at reads
        · rename_i drive
          cases reads
          exact ⟨rest, behind, filled, fun back => by rw [if_pos drive]; rfl⟩
        · rename_i noDrive
          split at reads
          · rename_i empty
            cases reads
            refine ⟨rest, behind, filled, fun back => ?_⟩
            rw [if_neg noDrive, if_pos empty]
            rfl
          · rename_i named
            obtain ⟨host, found, reads⟩ := exceptBind_eq_ok_iff.mp reads
            cases reads
            refine ⟨_, (List.dropWhile_suffix _).trans behind, (goesOn []).2.2, fun back => ?_⟩
            rw [if_neg noDrive, if_neg named, found, ← (goesOn back).2.1, ← drop_length_takeWhile,
              taken back]
            rfl
      · rename_i noHost
        cases reads
        refine ⟨a :: b :: rest, List.suffix_rfl, List.cons_ne_nil _ _, fun back => ?_⟩
        rw [if_neg noHost]
        rfl

/-- The schemes of the web have hosts. -/
theorem withAuthority_nil {scheme : String} (special : isSpecial scheme = true)
    : withAuthority scheme [] = .error .emptyHost := by
  simp [withAuthority, splitUser, splitPort, special]

/-- What is put behind a text with three slashes goes on with the path that the text is read as. -/
theorem readBehind_append {scheme : String} {kept : List String} (ends : EndsInSlash cs)
    (slashes : 3 ≤ cs.count '/') (reads : readBehind scheme cs = .ok base)
    (path : base.path = .segments kept)
    : ∃ tail,
        tail <:+ cs
        ∧ tail ≠ []
        ∧ ∀ back, readBehind scheme (cs ++ back) = .ok (base.withRest (tail ++ back)) := by
  unfold readBehind at reads ⊢
  split at reads
  · rename_i file
    simp only [if_pos file]
    exact ofFile_append slashes reads
  · rename_i noFile
    simp only [if_neg noFile]
    split at reads
    · rename_i special
      simp only [if_pos special]
      have left : cs.dropWhile (isSlash true) ≠ [] := by
        intro none
        rw [none, withAuthority_nil special] at reads
        cases reads
      have behind := List.dropWhile_suffix (l := cs) (isSlash true)
      obtain ⟨tail, suffix, filled, goesOn⟩ :=
        withAuthority_append (ends.of_suffix behind left).mem reads
      refine ⟨tail, suffix.trans behind, filled, fun back => ?_⟩
      rw [List.dropWhile_append, if_neg (by rwa [List.isEmpty_iff])]
      exact goesOn back
    · rename_i plain
      simp only [if_neg plain]
      split at reads
      · rename_i rest
        have slash : '/' ∈ rest := by
          rw [List.count_cons_self, List.count_cons_self] at slashes
          exact List.count_pos_iff.mp (by omega)
        obtain ⟨tail, suffix, filled, goesOn⟩ := withAuthority_append slash reads
        exact ⟨tail, suffix.trans (List.suffix_append ['/', '/'] rest), filled, goesOn⟩
      · rename_i rest single
        cases reads
        refine ⟨'/' :: rest, List.suffix_rfl, List.cons_ne_nil _ _, fun back => ?_⟩
        have filled : rest ≠ [] := by
          rintro rfl
          exact absurd slashes (by decide)
        obtain ⟨c, others, rfl⟩ := List.exists_cons_of_ne_nil filled
        have noSlash : c ≠ '/' := fun same => single others (by rw [same])
        simp only [List.cons_append]
        split
        · rename_i same
          exact absurd (List.cons.inj (List.cons.inj same).2).1 noSlash
        · rename_i same
          rw [(List.cons.inj same).2]
          rfl
        · rename_i other
          exact absurd rfl (other _)
      · cases reads
        cases path

/-- What is put behind a slash goes on with the path that the text up to it is read as. -/
theorem parse_append {kept : List String} (ends : EndsInSlash front)
    (slashes : 3 ≤ front.count '/') (reads : parse (String.ofList front) = .ok base)
    (path : base.path = .segments kept)
    : ∃ tail,
        EndsInSlash tail
        ∧ ∀ back,
            parse (String.ofList (front ++ back))
              = .ok (base.withRest (tail ++ significantEnd back)) := by
  obtain ⟨read, readEnds, count, goesOn⟩ := exists_significant_append ends
  have alone : significant front = read := by
    have nothing : significantEnd [] = [] := rfl
    have whole := goesOn []
    rwa [List.append_nil, nothing, List.append_nil] at whole
  rw [parse_eq, String.toList_ofList, alone] at reads
  split at reads
  · cases reads
  · rename_i scheme rest found
    obtain ⟨suffix, all⟩ := scheme?_suffix found
    have filled : rest ≠ [] := by
      rintro rfl
      rw [List.count_nil] at all
      omega
    obtain ⟨tail, behind, left, continues⟩ :=
      readBehind_append (readEnds.of_suffix suffix filled) (by omega) reads path
    refine ⟨tail, readEnds.of_suffix (behind.trans suffix) left, fun back => ?_⟩
    rw [parse_eq, String.toList_ofList, goesOn, scheme?_append readEnds.mem found]
    exact continues _

-----------------------------------------------------------------------------------------
-- Path, query and fragment
-----------------------------------------------------------------------------------------

theorem tail?_eq_none {cs : List Char} (none : cs.tail? = none) : cs = [] := by
  cases cs with
  | nil => rfl
  | cons c rest => cases none

/-- A text that has neither query nor fragment is a path. -/
theorem plain_of_tail {cs : List Char} (query : (Tail.of cs).query = none)
    (fragment : (Tail.of cs).fragment = none)
    : ∀ c ∈ cs, c ≠ '#' ∧ c ≠ '?' := by
  have noFragment : ∀ c ∈ cs, c ≠ '#' := by
    simpa using List.dropWhile_eq_nil_iff.mp (tail?_eq_none fragment)
  have body : cs.takeWhile (· ≠ '#') = cs := by
    rw [List.takeWhile_eq_self_iff]
    simpa using noFragment
  have noQuery : ∀ c ∈ cs, c ≠ '?' := by
    have none := tail?_eq_none query
    rw [body] at none
    simpa using List.dropWhile_eq_nil_iff.mp none
  exact fun c member => ⟨noFragment c member, noQuery c member⟩

theorem Tail.of_append (plain : ∀ c ∈ front, c ≠ '#' ∧ c ≠ '?') (back : List Char)
    : Tail.of (front ++ back) = { Tail.of back with path := front ++ (Tail.of back).path } := by
  have noFragment : ∀ c ∈ front, decide (c ≠ '#') = true := by simpa using fun c m => (plain c m).1
  have noQuery : ∀ c ∈ front, decide (c ≠ '?') = true := by simpa using fun c m => (plain c m).2
  simp only [Tail.of, List.takeWhile_append_of_pos noFragment,
    List.dropWhile_append_of_pos noFragment, List.takeWhile_append_of_pos noQuery,
    List.dropWhile_append_of_pos noQuery]

end Remediation.Url
