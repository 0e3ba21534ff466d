import Remediation.Document.Shape
import Remediation.Proofs.Except

/-! Records and tables of documents. A record is built from its fields one after the other, so what
every field leaves in place holds of the whole record, whether its fields come by name or in a list.
A table in a JSON text is read exactly if all its parts are.
-/

namespace Remediation

variable {ε σ : Type}

namespace Document

/-- Taking a field leaves in place what holds of a record. -/
def Keeps (holds : σ → Prop) (take : σ → String → Node → Shaped ε σ) : Prop :=
  ∀ {record field node taken}, holds record → take record field node = .ok taken → holds taken

namespace Keeps

variable {holds : σ → Prop} {take : σ → String → Node → Shaped ε σ} {format : Format}
  {fields : List FieldSpec} {start read : σ}

theorem takeEntries (keeps : Keeps holds take) {entries : List (Node × Node)}
    {seen names : List String} (before : holds start)
    (taken : Document.takeEntries format fields take entries seen start = .ok (names, read))
    : holds read := by
  induction entries generalizing seen start with
  | nil =>
      cases taken
      exact before
  | cons entry rest ih =>
      simp only [Document.takeEntries] at taken
      obtain ⟨key, _, taken⟩ := exceptBind_eq_ok_iff.mp taken
      split at taken
      · exact ih before taken
      · split at taken
        · cases taken
        · obtain ⟨next, field, taken⟩ := exceptBind_eq_ok_iff.mp taken
          exact ih (keeps before field) taken

theorem takePositions (keeps : Keeps holds take) {expected : String}
    {tooLong : List Node → ShapeError ε} {nodes : List Node} {position : Nat} (before : holds start)
    (taken
      : Document.takePositions expected take tooLong fields nodes position start = .ok read)
    : holds read := by
  induction fields generalizing nodes position start with
  | nil =>
      cases nodes with
      | nil =>
          cases taken
          exact before
      | cons => cases taken
  | cons field fields ih =>
      cases nodes with
      | nil =>
          simp only [Document.takePositions] at taken
          split at taken
          · exact ih before taken
          · cases taken
      | cons node nodes =>
          simp only [Document.takePositions] at taken
          obtain ⟨next, field, taken⟩ := exceptBind_eq_ok_iff.mp taken
          exact ih (keeps before field) taken

theorem recordOfEntries (keeps : Keeps holds take) {entries : List (Node × Node)}
    (before : holds start)
    (taken : Document.recordOfEntries format fields take start entries = .ok read)
    : holds read := by
  obtain ⟨⟨names, record⟩, entriesTaken, complete⟩ := exceptBind_eq_ok_iff.mp taken
  dsimp only at complete
  split at complete
  · cases complete
  · cases complete
    exact keeps.takeEntries before entriesTaken

/-- What holds at the start and is left in place by every field holds of a record that is read. -/
theorem record (keeps : Keeps holds take) {type : String} {node : Node} (before : holds start)
    (taken : Document.record format type fields take start node = .ok read)
    : holds read := by
  unfold Document.record at taken
  split at taken
  · exact keeps.recordOfEntries before taken
  · split at taken
    · cases taken
    · exact keeps.takePositions before taken
  · split at taken
    · exact keeps.recordOfEntries before taken
    · cases taken

end Keeps

-----------------------------------------------------------------------------------------
-- Records with a single field
-----------------------------------------------------------------------------------------

/-- The value of the only field of a record, or that the field is left out. A document with the
field twice or with more than one item is no such record. -/
def onlyField? (name : String) : Json → Option (Option Json)
  | .object members =>
      match members.filter (fun member => member.1 = name) with
      | [] => some none
      | [member] => some (some member.2)
      | _ => none
  | .array [] => some none
  | .array [value] => some (some value)
  | _ => none

section OnlyField

variable {read : Node → Shaped ε σ} {name : String} {start found : σ}

/-- The field of a record that has no other. -/
def onlySpec (name : String) : List FieldSpec :=
  [{ name := name, hasDefault := true }]

/-- The entries of an object are taken one after the other as the only field or passed over. -/
theorem takeEntries_onlySpec_cons (key : String) (value : Json) (rest : List (Node × Node))
    (seen : List String)
    : takeEntries .jsonText (onlySpec name) (fun _ _ node => read node)
        ((.json (.string key), .json value) :: rest) seen start
      = if key = name then
          if name ∈ seen then .error (.duplicateField name)
          else
            read (.json value) >>=
              takeEntries .jsonText (onlySpec name) (fun _ _ node => read node) rest (name :: seen)
        else takeEntries .jsonText (onlySpec name) (fun _ _ node => read node) rest seen start := by
  have named
      : (textAs "field identifier" .jsonText (.json (.string key)) : Shaped ε String) = .ok key :=
    rfl
  rw [takeEntries, named]
  by_cases same : key = name
  · subst same
    simp [bind, Except.bind, onlySpec, fieldNamed?]
  · simp [bind, Except.bind, onlySpec, fieldNamed?, same, Ne.symm same]

/-- Once the only field was there, no other entry of an object may have its name. -/
theorem takeEntries_onlySpec_after {members : List (String × Json)} {answer : List String × σ}
    : takeEntries .jsonText (onlySpec name) (fun _ _ node => read node)
          (members.map fun (key, value) => (.json (.string key), .json value)) [name] start
        = .ok answer
      ↔ members.filter (fun member => member.1 = name) = [] ∧ answer = ([name], start) := by
  induction members with
  | nil =>
      constructor
      · intro taken
        cases taken
        exact ⟨rfl, rfl⟩
      · rintro ⟨_, rfl⟩
        rfl
  | cons member rest ih =>
      obtain ⟨key, value⟩ := member
      rw [List.map_cons, takeEntries_onlySpec_cons]
      by_cases same : key = name
      · simp [same]
      · simp [same, ih]

/-- An object is taken as its only field says. Witness: induction on the members; those behind the
field have other names. -/
theorem takeEntries_onlySpec {members : List (String × Json)}
    : (∃ seen,
        takeEntries .jsonText (onlySpec name) (fun _ _ node => read node)
            (members.map fun (key, value) => (.json (.string key), .json value)) [] start
        = .ok (seen, found))
      ↔ ∃ field?,
          onlyField? name (.object members) = some field?
          ∧ field?.elim (.ok start) (fun value => read (.json value)) = .ok found := by
  induction members with
  | nil =>
      constructor
      · rintro ⟨_, taken⟩
        cases taken
        exact ⟨none, rfl, rfl⟩
      · rintro ⟨_, same, taken⟩
        cases same
        cases taken
        exact ⟨[], rfl⟩
  | cons member rest ih =>
      obtain ⟨key, value⟩ := member
      rw [List.map_cons, takeEntries_onlySpec_cons]
      by_cases same : key = name
      · subst same
        rw [if_pos rfl, if_neg List.not_mem_nil]
        simp only [exceptBind_eq_ok_iff, takeEntries_onlySpec_after, onlyField?,
          List.filter_cons, decide_true, if_true]
        constructor
        · rintro ⟨_, taken, first, alone, same⟩
          cases same
          rw [alone]
          exact ⟨some value, rfl, first⟩
        · rintro ⟨field?, alone, taken⟩
          split at alone
          · rename_i none
            cases none
          · rename_i single
            obtain ⟨rfl, others⟩ := List.cons.inj single
            cases alone
            exact ⟨[key], found, taken, others, rfl⟩
          · cases alone
      · have skipped
            : onlyField? name (.object ((key, value) :: rest))
              = onlyField? name (.object rest) := by
          simp only [onlyField?, List.filter_cons, same, decide_false, Bool.false_eq_true, if_false]
        rw [skipped, if_neg same]
        exact ih

/-- A record with one field that may be left out is read exactly if its document has the field at
most once and no more, and then it is what the field is read as. -/
theorem record_onlySpec_eq_ok_iff {type : String} {document : Json}
    : record .jsonText type (onlySpec name) (fun _ _ node => read node) start (.json document)
        = .ok found
      ↔ ∃ field?,
          onlyField? name document = some field?
          ∧ field?.elim (.ok start) (fun value => read (.json value)) = .ok found := by
  match document with
  | .object members =>
      have complete (seen : List String) : missingField? (onlySpec name) seen = none := rfl
      rw [← takeEntries_onlySpec]
      simp only [record, Node.view, recordOfEntries, exceptBind_eq_ok_iff, complete]
      constructor
      · rintro ⟨⟨seen, _⟩, taken, same⟩
        cases same
        exact ⟨seen, taken⟩
      · rintro ⟨seen, taken⟩
        exact ⟨(seen, found), taken, rfl⟩
  | .array [] =>
      constructor
      · exact fun taken => ⟨none, rfl, taken⟩
      · rintro ⟨_, same, taken⟩
        cases same
        exact taken
  | .array [value] =>
      have single
          : record .jsonText type (onlySpec name) (fun _ _ node => read node) start
              (.json (.array [value]))
            = read (.json value) >>= pure :=
        rfl
      rw [single, bind_pure]
      constructor
      · exact fun taken => ⟨some value, rfl, taken⟩
      · rintro ⟨_, same, taken⟩
        cases same
        exact taken
  | .array (value :: second :: rest) =>
      have tooLong
          : record .jsonText type (onlySpec name) (fun _ _ node => read node) start
              (.json (.array (value :: second :: rest)))
            = read (.json value) >>= fun _ => .error .trailingItems :=
        rfl
      rw [tooLong, exceptBind_eq_ok_iff]
      exact ⟨nofun, nofun⟩
  | .null | .bool _ | .number _ | .string _ => exact ⟨nofun, nofun⟩

end OnlyField

-----------------------------------------------------------------------------------------
-- Tables
-----------------------------------------------------------------------------------------

section Tables

variable {α : Type} {read : Node → Shaped ε α} {typed? : Json → Option α}
  (reads : ∀ value found, read (.json value) = .ok found ↔ typed? value = some found)

include reads

/-- An entry of a table is read exactly if its part is. -/
theorem entry_eq_ok_iff (entry : String × Json) (found : String × α)
    : (do
        let key ← text .jsonText (.json (.string entry.1))
        let part ← read (.json entry.2)
        .ok (key, part) : Shaped ε _)
        = .ok found
      ↔ (typed? entry.2).map (entry.1, ·) = some found := by
  rw [exceptBind_eq_ok_iff, Option.map_eq_some_iff]
  constructor
  · rintro ⟨key, named, taken⟩
    obtain ⟨part, typed, same⟩ := exceptBind_eq_ok_iff.mp taken
    cases named
    cases same
    exact ⟨part, (reads _ _).mp typed, rfl⟩
  · rintro ⟨part, typed, rfl⟩
    refine ⟨entry.1, rfl, ?_⟩
    rw [(reads _ _).mpr typed]
    rfl

/-- An object is read as a table exactly if all its parts are of their type. -/
theorem table_eq_ok_iff {members : List (String × Json)} {found : Table α}
    : table .jsonText read (.json (.object members)) = .ok found
      ↔ members.all (fun member => (typed? member.2).isSome) = true
        ∧ found = .ofList (members.filterMap fun (key, value) => (typed? value).map (key, ·)) := by
  have parts (entry : String × Json)
      : ((typed? entry.2).map (entry.1, ·)).isSome = (typed? entry.2).isSome :=
    Option.isSome_map
  simp only [table, Node.view]
  rw [exceptBind_eq_ok_iff, List.mapM_map]
  constructor
  · rintro ⟨found, taken, same⟩
    cases same
    obtain ⟨typed, rfl⟩ := (exceptMapM_eq_ok_iff (entry_eq_ok_iff reads)).mp taken
    simp only [parts] at typed
    exact ⟨typed, rfl⟩
  · rintro ⟨typed, rfl⟩
    simp only [← parts] at typed
    exact ⟨_, (exceptMapM_eq_ok_iff (entry_eq_ok_iff reads)).mpr ⟨typed, rfl⟩, rfl⟩

end Tables

end Document

end Remediation
