import Mathlib
import Remediation.Proofs.Action.Placeholders
import Remediation.Proofs.Except

/-! What templates become. A template is filled by what its placeholders reach in a record, and
fails exactly if one of them reaches nothing or null. The meaning of a text is given by its literal
parts and its placeholders, without any scan: what a record puts into a text is no part of the
template, so that braces in it have no meaning.
-/

namespace Remediation

/-- A text is one of the values of a template, at whatever depth. Keys are none. -/
inductive Json.HasText : Json → String → Prop
  | self (text : String) : HasText (.string text) text
  | inArray {items : List Json} {item : Json} {text : String} (member : item ∈ items)
    (below : HasText item text)
    : HasText (.array items) text
  | inObject {fields : Fields} {key : String} {value : Json} {text : String}
    (member : (key, value) ∈ fields) (below : HasText value text)
    : HasText (.object fields) text

namespace Template

-----------------------------------------------------------------------------------------
-- What a placeholder stands for
-----------------------------------------------------------------------------------------

/-- A path is a key path that reaches a value, which is not null. -/
def Reaches (record : Json) (path : String) (value : Json) : Prop :=
  ∃ keyPath,
    KeyPath.parse path = .ok keyPath ∧ keyPath.resolve record = some value ∧ value ≠ .null

/-- A path is no key path, or one that reaches nothing or null. -/
def IsMissing (record : Json) (path : String) : Prop :=
  (∃ fault, KeyPath.parse path = .error fault)
  ∨ ∃ keyPath,
      KeyPath.parse path = .ok keyPath
      ∧ (keyPath.resolve record = none ∨ keyPath.resolve record = some .null)

/-- A placeholder stands for what its path reaches. -/
theorem lookup_eq_ok_iff {record : Json} {path : String} {value : Json}
    : lookup record path = .ok value ↔ Reaches record path value := by
  unfold lookup Reaches
  cases KeyPath.parse path with
  | error fault => simp [Except.toOption]
  | ok keyPath =>
      simp only [Except.toOption, Option.bind_some, KeyPath.find?, Except.ok.injEq,
        exists_eq_left']
      cases keyPath.resolve record with
      | none => simp
      | some found => cases found <;> simp +contextual [eq_comm]

/-- Without anything to stand for, its path is missing. -/
theorem lookup_eq_error_iff {record : Json} {path : String} {missing : MissingField}
    : lookup record path = .error missing ↔ missing = ⟨path⟩ ∧ IsMissing record path := by
  unfold lookup IsMissing
  cases KeyPath.parse path with
  | error fault => simp [Except.toOption, eq_comm]
  | ok keyPath =>
      simp only [Except.toOption, Option.bind_some, KeyPath.find?, Except.ok.injEq,
        exists_eq_left']
      cases keyPath.resolve record with
      | none => simp [eq_comm]
      | some found => cases found <;> simp [eq_comm]

-----------------------------------------------------------------------------------------
-- Texts
-----------------------------------------------------------------------------------------

/-- A text becomes another one: its literal parts hold no placeholders and stay, and each of its
placeholders is replaced by the text of the value that it stands for. -/
inductive Rendered (record : Json) : List Char → List Char → Prop
  | literal {literal : List Char} (plain : IsPlain literal) : Rendered record literal literal
  | placeholder {literal path rest rendered : List Char} {value : Json} (plain : IsPlain literal)
    (isPath : IsPath path) (reaches : Reaches record (String.ofList path) value)
    (others : Rendered record rest rendered)
    : Rendered record (literal ++ braced path ++ rest)
        (literal ++ (inlineText value).toList ++ rendered)

/-- A text becomes a value: the one that it stands for if it is a placeholder, and else a text. -/
inductive TextBecomes (record : Json) : List Char → Json → Prop
  | value {path : List Char} {value : Json} (isPath : IsPath path)
    (reaches : Reaches record (String.ofList path) value)
    : TextBecomes record (braced path) value
  | text {text rendered : List Char} (mixed : ∀ path, IsPath path → text ≠ braced path)
    (renders : Rendered record text rendered)
    : TextBecomes record text (.string (String.ofList rendered))

/-- The pieces of a text are rendered to texts that together are another one. -/
def RendersTo (record : Json) (text rendered : List Char) : Prop :=
  ∃ texts,
    (piecesAfter 0 text).mapM (renderPiece record) = .ok texts
    ∧ texts.flatMap String.toList = rendered

theorem render_eq_ok_iff {record : Json} {text rendered : String}
    : render record text = .ok rendered ↔ RendersTo record text.toList rendered.toList := by
  unfold render RendersTo pieces
  rw [exceptMap_eq_ok_iff]
  refine exists_congr (fun texts => and_congr_right (fun _ => ?_))
  rw [← String.toList_join, String.toList_inj]

theorem rendersTo_nil_iff (record : Json) (rendered : List Char)
    : RendersTo record [] rendered ↔ rendered = [] := by
  simp [RendersTo, piecesAfter, pure, Except.pure, eq_comm]

/-- A text is rendered to what its first piece is, followed by what the others are. -/
theorem rendersTo_iff_of_pieces {record : Json} {text rest : List Char} {piece : Piece}
    (pieces : piecesAfter 0 text = piece :: piecesAfter 0 rest) (rendered : List Char)
    : RendersTo record text rendered
      ↔ ∃ start others,
          renderPiece record piece = .ok start
          ∧ RendersTo record rest others
          ∧ rendered = start.toList ++ others := by
  unfold RendersTo
  rw [pieces, List.mapM_cons]
  constructor
  · rintro ⟨_, read, rfl⟩
    obtain ⟨start, first, read⟩ := exceptBind_eq_ok_iff.mp read
    obtain ⟨texts, behind, read⟩ := exceptBind_eq_ok_iff.mp read
    cases read
    exact ⟨start, _, first, ⟨texts, behind, rfl⟩, List.flatMap_cons⟩
  · rintro ⟨start, _, first, ⟨texts, behind, rfl⟩, rfl⟩
    refine ⟨start :: texts, ?_, List.flatMap_cons⟩
    rw [first, behind]
    rfl

namespace Rendered

variable {record : Json}

theorem of_nil {rendered : List Char} (renders : Rendered record [] rendered)
    : rendered = [] := by
  generalize whole : [] = text at renders
  cases renders with
  | literal => rfl
  | placeholder => simp [braced] at whole

/-- A character where no placeholder starts stays. -/
theorem cons {c : Char} {rest rendered : List Char} (unstarted : ¬StartsPlaceholder (c :: rest))
    (renders : Rendered record rest rendered)
    : Rendered record (c :: rest) (c :: rendered) := by
  cases renders with
  | literal plain =>
      exact .literal (fun path holds => plain path ((holds_cons_iff unstarted path).mp holds))
  | @placeholder literal path rest rendered value plain isPath reaches others =>
      have stillPlain : IsPlain (c :: literal) := by
        intro other holds
        refine plain other ((holds_cons_iff ?_ other).mp holds)
        rintro ⟨path, isPath, starts⟩
        refine unstarted ⟨path, isPath, starts.trans ?_⟩
        rw [List.append_assoc]
        exact List.prefix_append (c :: literal) _
      exact .placeholder stillPlain isPath reaches others

/-- What is rendered without a placeholder at its start is its first character and what the rest is
rendered to. -/
theorem of_cons {c : Char} {rest rendered : List Char}
    (unstarted : ¬StartsPlaceholder (c :: rest)) (renders : Rendered record (c :: rest) rendered)
    : ∃ others, Rendered record rest others ∧ rendered = c :: others := by
  generalize whole : c :: rest = text at renders
  cases renders with
  | literal plain =>
      subst whole
      exact ⟨rest, .literal (fun path holds =>
        plain path ((holds_cons_iff unstarted path).mpr holds)), rfl⟩
  | @placeholder literal path behind rendered value plain isPath reaches others =>
      cases literal with
      | nil =>
          refine absurd ⟨path, isPath, behind, ?_⟩ unstarted
          rw [whole, List.nil_append]
      | cons first literal =>
          simp only [List.cons_append] at whole
          obtain ⟨rfl, rfl⟩ := List.cons.inj whole
          refine ⟨_, .placeholder ?_ isPath reaches others, rfl⟩
          intro other holds
          exact plain other ⟨holds.1, holds.2.trans (List.infix_cons List.infix_rfl)⟩

/-- What is rendered with a placeholder at its start is the text of its value and what the rest is
rendered to. -/
theorem of_braced {path rest rendered : List Char} (isPath : IsPath path)
    (renders : Rendered record (braced path ++ rest) rendered)
    : ∃ value others,
        Reaches record (String.ofList path) value
        ∧ Rendered record rest others
        ∧ rendered = (inlineText value).toList ++ others := by
  generalize whole : braced path ++ rest = text at renders
  cases renders with
  | literal plain =>
      subst whole
      exact absurd ((isPath.holds_append_iff path).mpr (.inl rfl)) (plain path)
  | @placeholder literal other behind rendered value plain otherIsPath reaches others =>
      cases literal with
      | nil =>
          rw [List.nil_append] at whole
          obtain ⟨rfl, rfl⟩ := isPath.braced_inj otherIsPath whole
          exact ⟨value, rendered, reaches, others, rfl⟩
      | cons first literal =>
          -- The placeholder at the start would lie within the literal part.
          obtain ⟨rfl, behindBrace⟩ := List.cons.inj whole
          have split
              : (path ++ ['\x7d']) ++ rest = literal ++ '\x7b' :: (other ++ '\x7d' :: behind) := by
            simpa [braced] using behindBrace
          obtain ⟨more, rfl⟩ := prefix_of_append_cons isPath.opening_notMem split
          exact absurd ((isPath.holds_append_iff path).mpr (.inl rfl)) (plain path)

end Rendered

/-- The scan of a text renders it as its literal parts and its placeholders say. Witness: by the
first piece; whatever the literal parts are, the text has the same pieces. -/
theorem rendersTo_iff (record : Json) (text rendered : List Char)
    : RendersTo record text rendered ↔ Rendered record text rendered := by
  induction text using scan_induction generalizing rendered with
  | nothing =>
      rw [rendersTo_nil_iff]
      constructor
      · rintro rfl
        exact .literal isPlain_nil
      · exact Rendered.of_nil
  | placeholder path rest isPath ih =>
      rw [rendersTo_iff_of_pieces (isPath.piecesAfter_append rest)]
      constructor
      · rintro ⟨start, others, first, behind, rfl⟩
        obtain ⟨value, found, rfl⟩ := exceptMap_eq_ok_iff.mp first
        exact .placeholder isPlain_nil isPath (lookup_eq_ok_iff.mp found) ((ih others).mp behind)
      · intro renders
        obtain ⟨value, others, reaches, behind, rfl⟩ := renders.of_braced isPath
        refine ⟨_, others, ?_, (ih others).mpr behind, rfl⟩
        rw [renderPiece, lookup_eq_ok_iff.mpr reaches]
        rfl
  | char c rest unstarted ih =>
      rw [rendersTo_iff_of_pieces (piecesAfter_cons unstarted)]
      constructor
      · rintro ⟨_, others, first, behind, rfl⟩
        cases first
        rw [String.toList_singleton]
        exact .cons unstarted ((ih others).mp behind)
      · intro renders
        obtain ⟨others, behind, rfl⟩ := renders.of_cons unstarted
        exact ⟨_, others, rfl, (ih others).mpr behind, by rw [String.toList_singleton]; rfl⟩

namespace TextBecomes

variable {record : Json} {result : Json}

/-- A placeholder alone becomes the value that it stands for. -/
theorem braced_iff {path : List Char} (isPath : IsPath path)
    : TextBecomes record (braced path) result ↔ Reaches record (String.ofList path) result := by
  refine ⟨fun becomes => ?_, .value isPath⟩
  generalize whole : braced path = text at becomes
  cases becomes with
  | @value other _ otherIsPath reaches =>
      obtain ⟨rfl, _⟩ := isPath.braced_inj otherIsPath (congrArg (· ++ []) whole)
      exact reaches
  | text mixed _ => exact absurd whole.symm (mixed path isPath)

/-- Any other text becomes a text. -/
theorem mixed_iff {text : List Char} (mixed : ∀ path, IsPath path → text ≠ braced path)
    : TextBecomes record text result
      ↔ ∃ rendered, Rendered record text rendered ∧ .string (String.ofList rendered) = result := by
  constructor
  · intro becomes
    cases becomes with
    | value isPath _ => exact absurd rfl (mixed _ isPath)
    | text _ renders => exact ⟨_, renders, rfl⟩
  · rintro ⟨rendered, renders, rfl⟩
    exact .text mixed renders

end TextBecomes

/-- A text is expanded to what it becomes. -/
theorem expandText_eq_ok_iff {record : Json} {text : String} {result : Json}
    : expandText record text = .ok result ↔ TextBecomes record text.toList result := by
  unfold expandText
  split
  · rename_i path alone
    rw [← @String.ofList_toList path] at alone ⊢
    obtain ⟨isPath, same⟩ := (piecesAfter_eq_singleton_iff text.toList).mp alone
    rw [lookup_eq_ok_iff, same, TextBecomes.braced_iff isPath]
  · rename_i several
    have mixed (path : List Char) (isPath : IsPath path) : text.toList ≠ braced path :=
      fun same => several _ ((piecesAfter_eq_singleton_iff text.toList).mpr ⟨isPath, same⟩)
    rw [exceptMap_eq_ok_iff, TextBecomes.mixed_iff mixed]
    constructor
    · rintro ⟨rendered, read, rfl⟩
      refine ⟨rendered.toList, (rendersTo_iff _ _ _).mp (render_eq_ok_iff.mp read), ?_⟩
      rw [String.ofList_toList]
    · rintro ⟨rendered, renders, rfl⟩
      refine ⟨String.ofList rendered, render_eq_ok_iff.mpr ?_, rfl⟩
      rw [String.toList_ofList]
      exact (rendersTo_iff _ _ _).mpr renders

/-- A text holds a placeholder whose path is missing in a record. -/
def Lacks (record : Json) (text path : String) : Prop :=
  Holds text.toList path.toList ∧ IsMissing record path

theorem mem_pieces_iff {text path : String}
    : .placeholder path ∈ pieces text ↔ Holds text.toList path.toList := by
  rw [← mem_piecesAfter_iff, String.ofList_toList]
  rfl

/-- A text fails with the path of a placeholder of it that is missing. -/
theorem lacks_of_expandText_eq_error {record : Json} {text : String} {missing : MissingField}
    (failed : expandText record text = .error missing)
    : Lacks record text missing.path := by
  unfold expandText at failed
  split at failed
  · rename_i path alone
    obtain ⟨rfl, isMissing⟩ := lookup_eq_error_iff.mp failed
    exact ⟨mem_pieces_iff.mp (alone ▸ List.mem_singleton_self _), isMissing⟩
  · obtain ⟨piece, member, failed⟩ :=
      exists_of_exceptMapM_eq_error (exceptMap_eq_error_iff.mp (exceptMap_eq_error_iff.mp failed))
    cases piece with
    | char c => cases failed
    | placeholder path =>
        obtain ⟨rfl, isMissing⟩ := lookup_eq_error_iff.mp (exceptMap_eq_error_iff.mp failed)
        exact ⟨mem_pieces_iff.mp member, isMissing⟩

/-- A text with a placeholder whose path is missing fails, whatever else it holds. -/
theorem expandText_eq_error_of_lacks {record : Json} {text path : String}
    (lacks : Lacks record text path)
    : ∃ missing, expandText record text = .error missing := by
  obtain ⟨holds, isMissing⟩ := lacks
  have member := mem_pieces_iff.mpr holds
  have unknown : lookup record path = .error ⟨path⟩ := lookup_eq_error_iff.mpr ⟨rfl, isMissing⟩
  unfold expandText
  split
  · rename_i other alone
    rw [alone, List.mem_singleton] at member
    cases member
    exact ⟨_, unknown⟩
  · have unrendered : renderPiece record (.placeholder path) = .error ⟨path⟩ :=
      exceptMap_eq_error_iff.mpr unknown
    obtain ⟨missing, failed⟩ := exceptMapM_eq_error_of_mem member unrendered
    exact ⟨missing, exceptMap_eq_error_iff.mpr (exceptMap_eq_error_iff.mpr failed)⟩

-----------------------------------------------------------------------------------------
-- Templates
-----------------------------------------------------------------------------------------

mutual

/-- A template becomes a value: arrays and objects stay what they are, with the same keys, and so do
all values but texts. -/
inductive Expanded (record : Json) : Json → Json → Prop
  | null : Expanded record .null .null
  | bool (b : Bool) : Expanded record (.bool b) (.bool b)
  | number (n : Number) : Expanded record (.number n) (.number n)
  | text {text : String} {result : Json} (becomes : TextBecomes record text.toList result)
    : Expanded record (.string text) result
  | array {items results : List Json} (each : ExpandedItems record items results)
    : Expanded record (.array items) (.array results)
  | object {fields results : Fields} (each : ExpandedFields record fields results)
    : Expanded record (.object fields) (.object results)

inductive ExpandedItems (record : Json) : List Json → List Json → Prop
  | nothing : ExpandedItems record [] []
  | item {item result : Json} {items results : List Json} (first : Expanded record item result)
    (others : ExpandedItems record items results)
    : ExpandedItems record (item :: items) (result :: results)

inductive ExpandedFields (record : Json) : Fields → Fields → Prop
  | nothing : ExpandedFields record [] []
  | field {key : String} {value result : Json} {fields results : Fields}
    (first : Expanded record value result) (others : ExpandedFields record fields results)
    : ExpandedFields record ((key, value) :: fields) ((key, result) :: results)

end

mutual

theorem expand_eq_ok_iff (record template result : Json)
    : expand record template = .ok result ↔ Expanded record template result := by
  cases template with
  | null =>
      simp only [expand, Except.ok.injEq]
      exact ⟨fun same => same ▸ .null, fun expanded => by cases expanded; rfl⟩
  | bool b =>
      simp only [expand, Except.ok.injEq]
      exact ⟨fun same => same ▸ .bool b, fun expanded => by cases expanded; rfl⟩
  | number n =>
      simp only [expand, Except.ok.injEq]
      exact ⟨fun same => same ▸ .number n, fun expanded => by cases expanded; rfl⟩
  | string text =>
      rw [expand, expandText_eq_ok_iff]
      exact ⟨.text, fun expanded => by cases expanded; assumption⟩
  | array items =>
      rw [expand, exceptMap_eq_ok_iff]
      constructor
      · rintro ⟨results, read, rfl⟩
        exact .array ((expandItems_eq_ok_iff record items results).mp read)
      · intro expanded
        cases expanded with
        | array each => exact ⟨_, (expandItems_eq_ok_iff record items _).mpr each, rfl⟩
  | object fields =>
      rw [expand, exceptMap_eq_ok_iff]
      constructor
      · rintro ⟨results, read, rfl⟩
        exact .object ((expandFields_eq_ok_iff record fields results).mp read)
      · intro expanded
        cases expanded with
        | object each => exact ⟨_, (expandFields_eq_ok_iff record fields _).mpr each, rfl⟩

theorem expandItems_eq_ok_iff (record : Json) (items results : List Json)
    : expandItems record items = .ok results ↔ ExpandedItems record items results := by
  cases items with
  | nil =>
      simp only [expandItems, Except.ok.injEq]
      exact ⟨fun same => same ▸ .nothing, fun expanded => by cases expanded; rfl⟩
  | cons item rest =>
      rw [expandItems, exceptBind_eq_ok_iff]
      constructor
      · rintro ⟨first, readFirst, read⟩
        obtain ⟨others, readOthers, same⟩ := exceptBind_eq_ok_iff.mp read
        cases same
        exact .item ((expand_eq_ok_iff record item first).mp readFirst)
          ((expandItems_eq_ok_iff record rest others).mp readOthers)
      · intro expanded
        cases expanded with
        | item first others =>
            exact ⟨_, (expand_eq_ok_iff record item _).mpr first,
              exceptBind_eq_ok_iff.mpr
                ⟨_, (expandItems_eq_ok_iff record rest _).mpr others, rfl⟩⟩

theorem expandFields_eq_ok_iff (record : Json) (fields results : Fields)
    : expandFields record fields = .ok results ↔ ExpandedFields record fields results := by
  cases fields with
  | nil =>
      simp only [expandFields, Except.ok.injEq]
      exact ⟨fun same => same ▸ .nothing, fun expanded => by cases expanded; rfl⟩
  | cons entry rest =>
      obtain ⟨key, value⟩ := entry
      rw [expandFields, exceptBind_eq_ok_iff]
      constructor
      · rintro ⟨first, readFirst, read⟩
        obtain ⟨others, readOthers, same⟩ := exceptBind_eq_ok_iff.mp read
        cases same
        exact .field ((expand_eq_ok_iff record value first).mp readFirst)
          ((expandFields_eq_ok_iff record rest others).mp readOthers)
      · intro expanded
        cases expanded with
        | field first others =>
            exact ⟨_, (expand_eq_ok_iff record value _).mpr first,
              exceptBind_eq_ok_iff.mpr
                ⟨_, (expandFields_eq_ok_iff record rest _).mpr others, rfl⟩⟩

end

/-- Items are expanded one by one. -/
theorem expandItems_eq_mapM (record : Json) (items : List Json)
    : expandItems record items = items.mapM (expand record) := by
  induction items with
  | nil => rfl
  | cons item rest ih =>
      rw [expandItems, List.mapM_cons, ih]
      rfl

/-- Expands a field, which keeps its key. -/
def expandField (record : Json) (field : String × Json) : Except MissingField (String × Json) :=
  (expand record field.2).map (fun result => (field.1, result))

/-- Fields are expanded one by one as well. -/
theorem expandFields_eq_mapM (record : Json) (fields : Fields)
    : expandFields record fields = fields.mapM (expandField record) := by
  induction fields with
  | nil => rfl
  | cons entry rest ih =>
      rw [expandFields, List.mapM_cons, ih, expandField]
      cases expand record entry.2 <;> rfl

/-- A template fails with the path of a placeholder of one of its texts. -/
theorem lacks_of_expand_eq_error (record template : Json) {missing : MissingField}
    (failed : expand record template = .error missing)
    : ∃ text, template.HasText text ∧ Lacks record text missing.path := by
  cases template with
  | null | bool _ | number _ => cases failed
  | string text => exact ⟨text, .self text, lacks_of_expandText_eq_error failed⟩
  | array items =>
      rw [expand, exceptMap_eq_error_iff, expandItems_eq_mapM] at failed
      obtain ⟨item, member, failed⟩ := exists_of_exceptMapM_eq_error failed
      obtain ⟨text, inside, lacks⟩ := lacks_of_expand_eq_error record item failed
      exact ⟨text, .inArray member inside, lacks⟩
  | object fields =>
      rw [expand, exceptMap_eq_error_iff, expandFields_eq_mapM] at failed
      obtain ⟨⟨key, value⟩, member, failed⟩ := exists_of_exceptMapM_eq_error failed
      obtain ⟨text, inside, lacks⟩ :=
        lacks_of_expand_eq_error record value (exceptMap_eq_error_iff.mp failed)
      exact ⟨text, .inObject member inside, lacks⟩
termination_by sizeOf template
decreasing_by
  · have smaller := List.sizeOf_lt_of_mem member
    subst_vars
    simp only [Json.array.sizeOf_spec]
    omega
  · have smaller := List.sizeOf_lt_of_mem member
    subst_vars
    simp only [Prod.mk.sizeOf_spec] at smaller
    simp only [Json.object.sizeOf_spec]
    omega

/-- A template fails if any of its texts does. Witness: induction on the way down to the text. -/
theorem expand_eq_error_of_lacks {record template : Json} {text path : String}
    (inside : template.HasText text) (lacks : Lacks record text path)
    : ∃ missing, expand record template = .error missing := by
  induction inside with
  | self text => exact expandText_eq_error_of_lacks lacks
  | inArray member _ ih =>
      obtain ⟨_, failed⟩ := ih lacks
      obtain ⟨other, failed⟩ := exceptMapM_eq_error_of_mem member failed
      refine ⟨other, ?_⟩
      rw [expand, exceptMap_eq_error_iff, expandItems_eq_mapM, failed]
  | @inObject fields key value text member _ ih =>
      obtain ⟨missing, failed⟩ := ih lacks
      have atField : expandField record (key, value) = .error missing :=
        exceptMap_eq_error_iff.mpr failed
      obtain ⟨other, failed⟩ := exceptMapM_eq_error_of_mem member atField
      refine ⟨other, ?_⟩
      rw [expand, exceptMap_eq_error_iff, expandFields_eq_mapM, failed]

/-- Expanding a template fails exactly if one of its texts, at whatever depth, holds a placeholder
whose path is no key path or reaches nothing or null, and the error tells the path of such a
placeholder. If it does not fail, it has what the template becomes, and nothing else: the same
arrays, keys and other values, with the value that it stands for in the place of each text that is a
placeholder, and in the place of any other text its literal parts with the texts of the values that
its placeholders stand for between them.
-/
theorem expand_exact (record template : Json)
    : ((∃ missing, expand record template = .error missing)
        ↔ ∃ text path, template.HasText text ∧ Lacks record text path)
      ∧ (∀ missing,
          expand record template = .error missing
          → ∃ text, template.HasText text ∧ Lacks record text missing.path)
      ∧ ∀ result, expand record template = .ok result ↔ Expanded record template result := by
  refine ⟨⟨?_, ?_⟩, fun _ => lacks_of_expand_eq_error record template,
    expand_eq_ok_iff record template⟩
  · rintro ⟨missing, failed⟩
    obtain ⟨text, inside, lacks⟩ := lacks_of_expand_eq_error record template failed
    exact ⟨text, missing.path, inside, lacks⟩
  · rintro ⟨text, path, inside, lacks⟩
    exact expand_eq_error_of_lacks inside lacks

end Template

-----------------------------------------------------------------------------------------
-- A record with braces in one of its texts
-----------------------------------------------------------------------------------------

namespace Sample

/-- A record whose name looks like a placeholder. -/
def braceful : Json :=
  .object
    [
      ("name", .string "\x7bzone\x7d"),
      ("owner", .null),
      ("tags", .array [.string "a", .ofNat 2]),
      ("zone", .string "north")
    ]

/-- A template with a placeholder alone, one in other text, unbalanced braces and one in a key. -/
def patched : Json :=
  .object
    [
      ("tags", .string "\x7btags\x7d"),
      ("title", .array [.string "\x7b\x7bname\x7d in \x7bzone\x7d\x7d: \x7btags\x7d"]),
      ("\x7bowner\x7d", .bool true)
    ]

end Sample

/-- The name stays as it is, with its braces. A template with the owner in the last one of its texts
fails. -/
theorem Template.expand_exact_braceful
    : Template.Expanded Sample.braceful Sample.patched
          (.object
            [
              ("tags", .array [.string "a", .ofNat 2]),
              ("title", .array [.string "\x7b\x7bzone\x7d in north\x7d: [\"a\",2]"]),
              ("\x7bowner\x7d", .bool true)
            ])
      ∧ ∃ text path,
          Json.HasText (.array [Sample.patched, .string "\x7bname\x7d\x7bowner\x7d"]) text
          ∧ Template.Lacks Sample.braceful text path := by
  refine ⟨?_, ?_⟩
  · obtain ⟨_, _, becomes⟩ := Template.expand_exact Sample.braceful Sample.patched
    exact (becomes _).mp (by cbv)
  · obtain ⟨fails, _⟩ :=
      Template.expand_exact Sample.braceful
        (.array [Sample.patched, .string "\x7bname\x7d\x7bowner\x7d"])
    exact fails.mp ⟨⟨"owner"⟩, by cbv⟩

end Remediation
