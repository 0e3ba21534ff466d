import Remediation.Proofs.Text.Lines
import Remediation.Proofs.Url.Continuations
import Remediation.Proofs.Url.Escapes

/-! Segments in one place of a path. Whatever stands between the same two slashes, a path is read in
the same way up to there and from there on; only dots take back what is in front of them.
-/

namespace Remediation

namespace Url

variable {isFile : Bool} {front back : List Char} {base : Url} {before : List String}

-----------------------------------------------------------------------------------------
-- Resolving
-----------------------------------------------------------------------------------------

/-- What is kept after a segment that others follow. -/
def advance (isFile : Bool) (kept : List String) (segment : List Char) : List String :=
  if isDoubleDot segment then parent isFile kept
  else if isSingleDot segment then kept
  else kept ++ [keptSegment isFile kept segment]

theorem resolve_advance (kept : List String) (front : List (List Char)) {back : List (List Char)}
    (filled : back ≠ [])
    : resolve isFile kept (front ++ back)
      = resolve isFile (front.foldl (advance isFile) kept) back := by
  induction front generalizing kept with
  | nil => rfl
  | cons segment rest ih =>
      have follows : (rest ++ back).isEmpty = false := by
        rw [List.isEmpty_eq_false_iff]
        exact List.append_ne_nil_of_right_ne_nil _ filled
      rw [List.cons_append, resolve, follows, List.foldl_cons, advance]
      split
      · exact ih _
      · split
        · exact ih _
        · exact ih _

theorem resolve_single (kept : List String) (behind : List (List Char))
    : resolve isFile kept (['.'] :: behind)
      = resolve isFile (kept ++ if behind = [] then [""] else []) behind := by
  have double : isDoubleDot ['.'] = false := rfl
  have single : isSingleDot ['.'] = true := rfl
  rw [resolve, double, single]
  cases behind with
  | nil => rfl
  | cons segment rest => simp

theorem resolve_double (kept : List String) (behind : List (List Char))
    : resolve isFile kept (['.', '.'] :: behind)
      = resolve isFile (parent isFile kept ++ if behind = [] then [""] else []) behind := by
  have double : isDoubleDot ['.', '.'] = true := rfl
  rw [resolve, double]
  cases behind with
  | nil => rfl
  | cons segment rest => simp

theorem keptSegment_of_ne_nil {kept : List String} (filled : kept ≠ []) (segment : List Char)
    : keptSegment isFile kept segment = String.ofList (percentEncode keepsInPath segment) := by
  unfold keptSegment
  split
  · rw [List.isEmpty_eq_false_iff.mpr filled, Bool.and_false, Bool.false_and,
      if_neg Bool.false_ne_true]
  · rfl

theorem parent_place {text : String} (noDrive : isDrive text.toList = false) (before : List String)
    : parent isFile (before ++ [text]) = before := by
  cases before with
  | nil => simp [parent, noDrive]
  | cons first rest =>
      rw [parent]
      · exact List.dropLast_concat
      · intro drive single
        have lengths := congrArg List.length single
        simp at lengths

theorem parent_behind (before post : List String) (text last : String)
    : parent isFile (before ++ text :: (post ++ [last])) = before ++ text :: post := by
  have whole : before ++ text :: (post ++ [last]) = (before ++ text :: post) ++ [last] := by simp
  rw [whole, parent]
  · rw [List.dropLast_concat]
  · intro drive single
    have lengths := congrArg List.length single
    simp only [List.length_append, List.length_cons, List.length_nil] at lengths
    omega

/-- One segment goes on behind a place, whatever text is there, or takes it back. -/
theorem resolve_behind_place (before post : List String) (segment : List Char)
    (rest : List (List Char))
    : (∃ next,
        ∀ text : String,
          isDrive text.toList = false →
            resolve isFile (before ++ text :: post) (segment :: rest)
              = resolve isFile (before ++ text :: next) rest)
      ∨ isDoubleDot segment = true
        ∧ ∃ kept,
          ∀ text : String,
            isDrive text.toList = false →
              resolve isFile (before ++ text :: post) (segment :: rest) = kept := by
  have ended (post : List String) (text : String)
      : (if rest.isEmpty then before ++ text :: post ++ [""] else before ++ text :: post)
        = before ++ text :: (if rest.isEmpty then post ++ [""] else post) := by
    split
    · rw [List.append_assoc, List.cons_append]
    · rfl
  by_cases double : isDoubleDot segment = true
  · rcases List.eq_nil_or_concat post with rfl | ⟨post, last, rfl⟩
    · refine .inr
        ⟨double, resolve isFile (if rest.isEmpty then before ++ [""] else before) rest,
          fun text noDrive => ?_⟩
      simp only [resolve, if_pos double, parent_place noDrive]
    · refine .inl ⟨if rest.isEmpty then post ++ [""] else post, fun text _ => ?_⟩
      simp only [resolve, if_pos double, List.concat_eq_append, parent_behind, ended]
  · by_cases single : isSingleDot segment = true
    · refine .inl ⟨if rest.isEmpty then post ++ [""] else post, fun text _ => ?_⟩
      simp only [resolve, if_neg double, if_pos single, ended]
    · refine .inl
        ⟨post ++ [String.ofList (percentEncode keepsInPath segment)], fun text _ => ?_⟩
      have filled : before ++ text :: post ≠ [] := by simp
      simp only [resolve, if_neg double, if_neg single, keptSegment_of_ne_nil filled,
        List.append_assoc, List.cons_append]

/-- A path treats every text in a place alike: either all stay where they are, or two dots behind
take back the place. Witness: induction on what is behind. -/
theorem resolve_place (isFile : Bool) (before post : List String) (behind : List (List Char))
    : (∃ after,
        ∀ text : String,
          isDrive text.toList = false →
            resolve isFile (before ++ text :: post) behind = before ++ text :: after)
      ∨ (∃ part ∈ behind, isDoubleDot part = true)
        ∧ ∃ kept,
          ∀ text : String,
            isDrive text.toList = false →
              resolve isFile (before ++ text :: post) behind = kept := by
  induction behind generalizing post with
  | nil => exact .inl ⟨post, fun _ _ => rfl⟩
  | cons segment rest ih =>
      rcases resolve_behind_place before post segment rest with ⟨next, same⟩ | ⟨double, kept, taken⟩
      · rcases ih next with ⟨after, stays⟩ | ⟨⟨part, member, double⟩, kept, taken⟩
        · exact .inl ⟨after, fun text plain => (same text plain).trans (stays text plain)⟩
        · exact .inr
            ⟨⟨part, List.mem_cons_of_mem _ member, double⟩, kept,
              fun text plain => (same text plain).trans (taken text plain)⟩
      · exact .inr ⟨⟨segment, List.mem_cons_self, double⟩, kept, taken⟩

-----------------------------------------------------------------------------------------
-- A segment behind a slash
-----------------------------------------------------------------------------------------

/-- A text that is one segment wherever it stands between slashes. -/
structure IsSegment (cs : List Char) : Prop where
  filled : cs ≠ []
  plain : ∀ c ∈ cs, 32 < c.toNat ∧ c ≠ '/' ∧ c ≠ '\\' ∧ c ≠ '#' ∧ c ≠ '?'

/-- The segments of a path behind a place in it, as they are written. -/
def partsBehind (special : Bool) : List Char → List (List Char)
  | [] => []
  | _ :: rest => Text.splitOn (isSlash special) (Tail.of (significantEnd rest)).path

/-- The path of a text that ends in a slash goes on with the parts of what is put behind it. -/
theorem exists_pathOf_append (scheme : String) {tail : List Char} (ends : EndsInSlash tail)
    : ∃ before,
        ∀ back,
          pathOf scheme (tail ++ back)
            = .segments
                (resolve (scheme == "file") before
                  (Text.splitOn (isSlash (isSpecial scheme)) back)) := by
  obtain ⟨front, rfl⟩ := ends
  have slash : isSlash (isSpecial scheme) '/' = true := rfl
  cases front with
  | nil => exact ⟨[], fun _ => rfl⟩
  | cons c rest =>
      refine
        ⟨(Text.splitOn (isSlash (isSpecial scheme))
            (if isSlash (isSpecial scheme) c then rest else c :: rest)).foldl
          (advance (scheme == "file")) [], fun back => ?_⟩
      rw [← resolve_advance _ _ (Text.splitOn_ne_nil _ _), ← Text.splitOn_append slash]
      simp only [pathOf, List.cons_append, List.append_assoc, List.nil_append]
      split
      · rfl
      · rfl

theorem splitOn_segment {segment : List Char} (single : IsSegment segment)
    (closes : back = [] ∨ back.head? = some '/') (special : Bool)
    : Text.splitOn (isSlash special) (segment ++ (Tail.of (significantEnd back)).path)
      = segment :: partsBehind special back := by
  have whole : Text.splitOn (isSlash special) segment = [segment] := by
    refine Text.splitOn_eq_singleton fun c member => ?_
    obtain ⟨_, noSlash, noBackslash, _⟩ := single.plain c member
    simp [isSlash, noSlash, noBackslash]
  rcases closes with rfl | slash
  · rw [partsBehind, ← whole]
    exact congrArg _ (List.append_nil segment)
  · obtain ⟨rest, rfl⟩ := List.head?_eq_some_iff.mp slash
    have visible : ∀ c ∈ ['/'], 32 < c.toNat := List.forall_mem_singleton.mpr (by decide)
    have plain : ∀ c ∈ ['/'], c ≠ '#' ∧ c ≠ '?' := List.forall_mem_singleton.mpr (by decide)
    have counts : significantEnd ('/' :: rest) = '/' :: significantEnd rest :=
      significantEnd_append visible rest
    have path : (Tail.of ('/' :: significantEnd rest)).path
        = '/' :: (Tail.of (significantEnd rest)).path :=
      congrArg Tail.path (Tail.of_append plain _)
    rw [counts, path, Text.splitOn_append (by rfl), whole, partsBehind]
    rfl

/-- What stands between two slashes is a segment of the path, which is resolved from what the text
in front of it is read as; scheme, user, host and port are the ones of that text, query and fragment
do not depend on the segment. -/
theorem parse_segment (ends : EndsInSlash front) (slashes : 3 ≤ front.count '/')
    (closes : back = [] ∨ back.head? = some '/') (reads : parse (String.ofList front) = .ok base)
    (path : base.path = .segments (before ++ [""])) (query : base.query = none)
    (fragment : base.fragment = none)
    : ∃ query fragment,
        ∀ segment,
          IsSegment segment →
            parse (String.ofList (front ++ (segment ++ back)))
              = .ok
                  {
                    base with
                    path :=
                      .segments
                        (resolve (base.scheme == "file") before
                          (segment :: partsBehind (isSpecial base.scheme) back)),
                    query := query,
                    fragment := fragment
                  } := by
  obtain ⟨tail, tailEnds, goesOn⟩ := parse_append ends slashes reads path
  have whole : base.withRest tail = base := by
    have same := goesOn []
    rw [List.append_nil, reads] at same
    have nothing : significantEnd [] = [] := rfl
    rw [nothing, List.append_nil] at same
    exact (Except.ok.inj same).symm
  have noQuery : (Tail.of tail).query = none :=
    Option.map_eq_none_iff.mp ((congrArg Url.query whole).trans query)
  have noFragment : (Tail.of tail).fragment = none :=
    Option.map_eq_none_iff.mp ((congrArg Url.fragment whole).trans fragment)
  have plain := plain_of_tail noQuery noFragment
  have alone : (Tail.of tail).path = tail := by
    have split := Tail.of_append plain []
    rw [List.append_nil] at split
    exact (congrArg Tail.path split).trans (List.append_nil tail)
  obtain ⟨kept, continues⟩ := exists_pathOf_append base.scheme tailEnds
  have same : kept = before := by
    have ended := continues []
    rw [List.append_nil, ← alone] at ended
    have resolved := (ended.symm.trans (congrArg Url.path whole)).trans path
    exact List.append_cancel_right (Path.segments.inj resolved)
  subst same
  let behind := base.withRest (significantEnd back)
  refine ⟨behind.query, behind.fragment, fun segment single => ?_⟩
  have visible : ∀ c ∈ segment, 32 < c.toNat := fun c member => (single.plain c member).1
  have inside : ∀ c ∈ segment, c ≠ '#' ∧ c ≠ '?' := fun c member =>
    (single.plain c member).2.2.2
  rw [goesOn, significantEnd_append visible]
  simp only [withRest, withTail, Tail.of_append plain, Tail.of_append inside, continues,
    splitOn_segment single closes]
  rfl

-----------------------------------------------------------------------------------------
-- Escaped texts
-----------------------------------------------------------------------------------------

/-- What means the same everywhere in a URL is kept in its path. -/
theorem keepsInPath_of_isUnreserved {c : Char} (unreserved : isUnreserved c = true)
    : keepsInPath c = true := by
  have below {last : Char} (most : c.val ≤ last.val) (ascii : last.toNat < 128) : c.toNat < 128 :=
    Nat.lt_of_le_of_lt most ascii
  have ascii : c.toNat < 128 := by
    simp only [isUnreserved, Bool.or_eq_true, beq_iff_eq] at unreserved
    rcases unreserved with (((alphanumeric | rfl) | rfl) | rfl) | rfl
    · rcases Bool.or_eq_true_iff.mp alphanumeric with letter | digit
      · rcases Bool.or_eq_true_iff.mp letter with upper | lower
        · exact below (of_decide_eq_true upper).2 (by decide)
        · exact below (of_decide_eq_true (Bool.and_eq_true_iff.mp lower).2) (by decide)
      · exact below (of_decide_eq_true (Bool.and_eq_true_iff.mp digit).2) (by decide)
    · decide
    · decide
    · decide
    · decide
  exact Text.of_ascii (p := fun c => isUnreserved c = true → keepsInPath c = true) (by decide)
    ascii unreserved

theorem keepsInPath_of_mem_escaped {cs : List Char} {c : Char} (member : c ∈ escaped cs)
    : keepsInPath c = true := by
  rcases of_mem_escaped member with unreserved | rfl
  · exact keepsInPath_of_isUnreserved unreserved
  · rfl

/-- An escaped text is a segment. -/
theorem isSegment_escaped {cs : List Char} (filled : cs ≠ []) : IsSegment (escaped cs) := by
  refine ⟨escaped_ne_nil filled, fun c member => ?_⟩
  have kept := keepsInPath_of_mem_escaped member
  simp only [keepsInPath, isPlainBut, Bool.and_eq_true, decide_eq_true_eq] at kept
  refine ⟨kept.1.1, ?_⟩
  rcases of_mem_escaped member with unreserved | rfl
  · refine ⟨?_, ?_, ?_, ?_⟩
    · rintro rfl
      cases unreserved
    · rintro rfl
      cases unreserved
    · rintro rfl
      cases unreserved
    · rintro rfl
      cases unreserved
  · decide

theorem not_bar_of_mem_escaped {cs : List Char} {c : Char} (member : c ∈ escaped cs)
    : c ≠ ':' ∧ c ≠ '|' := by
  rcases of_mem_escaped member with unreserved | rfl
  · constructor
    · rintro rfl
      cases unreserved
    · rintro rfl
      cases unreserved
  · decide

theorem isDrive_escaped (cs : List Char) : isDrive (escaped cs) = false := by
  unfold isDrive
  split
  · rename_i letter mark same
    have member : mark ∈ escaped cs := by
      rw [same]
      simp
    obtain ⟨noColon, noBar⟩ := not_bar_of_mem_escaped member
    simp [noColon, noBar]
  · rfl

/-- An escaped text that is no dots is kept as it is. -/
theorem resolve_escaped {cs : List Char} (noDot : cs ≠ ['.']) (noDots : cs ≠ ['.', '.'])
    (kept : List String) (behind : List (List Char))
    : resolve isFile kept (escaped cs :: behind)
      = resolve isFile (kept ++ [String.ofList (escaped cs)]) behind := by
  have same : keptSegment isFile kept (escaped cs) = String.ofList (escaped cs) := by
    have whole : percentEncode keepsInPath (escaped cs) = escaped cs :=
      percentEncode_of_kept fun _ => keepsInPath_of_mem_escaped
    unfold keptSegment
    split
    · rename_i letter bar
      have member : '|' ∈ escaped cs := by
        rw [bar]
        simp
      exact absurd rfl (not_bar_of_mem_escaped member).2
    · rw [whole]
  rw [resolve, isDoubleDot_escaped noDots, isSingleDot_escaped noDot, same,
    if_neg Bool.false_ne_true, if_neg Bool.false_ne_true]

end Url

end Remediation
