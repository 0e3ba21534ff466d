import Remediation.Proofs.Document.Records
import Remediation.Proofs.Table
import Remediation.Settings.File

/-! Settings of a file that is an object. What each setting is by itself does not depend on the
others, but a file is read only if all of them are well-typed: a single one that is not costs all
the others.
-/

namespace Remediation

namespace Settings

/-- The names of the settings in a file. -/
def names : List String :=
  ["project_id", "region", "endpoints", "concurrency", "max_depth"]

/-- Whether a value is of the type of a setting. -/
def fits (name : String) (value : Json) : Bool :=
  match name with
  | "project_id" | "region" => value.isNull || value.string?.isSome
  | "endpoints" =>
      match value with
      | .object entries => entries.all (fun entry => entry.2.string?.isSome)
      | _ => false
  | _ => value.isNull || value.nat?.isSome

/-- The settings among the names of members. -/
def recognized (members : List (String × Json)) : List String :=
  (Table.keys members).filter (fun name => name ∈ names)

/-- Members with each setting at most once and with a value of its type. -/
structure WellTyped (members : List (String × Json)) : Prop where
  once : (recognized members).Nodup
  typed : ∀ member ∈ members, member.1 ∈ names → fits member.1 member.2 = true

/-- The endpoints in a value, without what is none. -/
def endpointsIn : Json → Table String
  | .object entries =>
      .ofList (entries.filterMap (fun (service, url) => url.string?.map (service, ·)))
  | _ => []

/-- The settings with those of members in their place. -/
def overlaid (settings : Settings) (members : List (String × Json)) : Settings :=
  {
    projectId := (Table.get? members "project_id").elim settings.projectId Json.string?,
    region := (Table.get? members "region").elim settings.region Json.string?,
    endpoints := (Table.get? members "endpoints").elim settings.endpoints endpointsIn,
    concurrency := (Table.get? members "concurrency").elim settings.concurrency Json.nat?,
    maxDepth := (Table.get? members "max_depth").elim settings.maxDepth Json.nat?
  }

/-- What each setting has among members, looked at by itself: nothing if its value is not of its
type. -/
def held (members : List (String × Json)) : Settings :=
  overlaid {} members

-----------------------------------------------------------------------------------------
-- One setting
-----------------------------------------------------------------------------------------

theorem text_eq_ok_iff {value : Json} {found : String}
    : (Document.text .jsonText (.json value) : Document.Shaped Empty _) = .ok found
      ↔ value.string? = some found := by
  cases value with
  | string text =>
      constructor
      · intro read
        cases read
        rfl
      · intro read
        cases read
        rfl
  | _ => exact ⟨nofun, nofun⟩

theorem count_eq_ok_iff {value : Json} {found : Nat}
    : (Document.count .jsonText (.json value) : Document.Shaped Empty _) = .ok found
      ↔ value.nat? = some found := by
  match value with
  | .number (.int (.ofNat n)) =>
      constructor
      · intro read
        cases read
        rfl
      · intro read
        cases read
        rfl
  | .number (.int (.negSucc n)) => exact ⟨nofun, nofun⟩
  | .number (.float x) => exact ⟨nofun, nofun⟩
  | .null | .bool _ | .string _ | .array _ | .object _ => exact ⟨nofun, nofun⟩

/-- A setting that may be left out is null or of its type. -/
theorem optional_eq_ok_iff {α : Type} {read : Document.Node → Document.Shaped Empty α}
    {typed? : Json → Option α} (null : typed? .null = none)
    (reads : ∀ value found, read (.json value) = .ok found ↔ typed? value = some found)
    {value : Json} {found : Option α}
    : Document.optional read (.json value) = .ok found
      ↔ (value.isNull || (typed? value).isSome) = true ∧ found = typed? value := by
  by_cases empty : value = .null
  · subst empty
    constructor
    · intro taken
      cases taken
      exact ⟨rfl, null.symm⟩
    · rintro ⟨_, rfl⟩
      rw [null]
      rfl
  · have noNull : value.isNull = false := by
      cases value with
      | null => exact absurd rfl empty
      | _ => rfl
    have direct : Document.optional read (.json value) = (read (.json value)).map some := by
      unfold Document.optional
      split
      · rename_i same
        exact absurd (Document.Node.json.inj same) empty
      · rename_i same
        cases same
      · rfl
    rw [direct, exceptMap_eq_ok_iff, noNull, Bool.false_or, Option.isSome_iff_exists]
    constructor
    · rintro ⟨given, taken, rfl⟩
      have typed := (reads value given).mp taken
      exact ⟨⟨given, typed⟩, typed.symm⟩
    · rintro ⟨⟨given, typed⟩, rfl⟩
      exact ⟨given, (reads value given).mpr typed, typed.symm⟩

/-- The endpoints are an object of texts. -/
theorem endpoints_eq_ok_iff {value : Json} {found : Table String}
    : (Document.table .jsonText (Document.text .jsonText) (.json value) : Document.Shaped Empty _)
        = .ok found
      ↔ fits "endpoints" value = true ∧ found = endpointsIn value := by
  match value with
  | .object entries => exact Document.table_eq_ok_iff @text_eq_ok_iff
  | .null | .bool _ | .number _ | .string _ | .array _ => exact ⟨nofun, nofun⟩

theorem bind_eq_ok_iff {α : Type} {part : Document.Shaped Empty α} {typed : Prop} {answer : α}
    (reads : ∀ found, part = .ok found ↔ typed ∧ found = answer) (put : α → Settings)
    {taken : Settings}
    : (part >>= fun found => .ok (put found)) = .ok taken ↔ typed ∧ taken = put answer := by
  rw [exceptBind_eq_ok_iff]
  constructor
  · rintro ⟨found, read, same⟩
    obtain ⟨fitting, rfl⟩ := (reads found).mp read
    cases same
    exact ⟨fitting, rfl⟩
  · rintro ⟨fitting, rfl⟩
    exact ⟨answer, (reads answer).mpr ⟨fitting, rfl⟩, rfl⟩

/-- A setting is taken from its value exactly if the value is of its type, and no other setting is
touched. -/
theorem take_eq_ok_iff {settings taken : Settings} {name : String} {value : Json}
    (known : name ∈ names)
    : take settings name (.json value) = .ok taken
      ↔ fits name value = true ∧ taken = settings.overlaid [(name, value)] := by
  simp only [names, List.mem_cons, List.not_mem_nil, or_false] at known
  rcases known with rfl | rfl | rfl | rfl | rfl
  · exact bind_eq_ok_iff (fun _ => optional_eq_ok_iff rfl @text_eq_ok_iff) fun project =>
      { settings with projectId := project }
  · exact bind_eq_ok_iff (fun _ => optional_eq_ok_iff rfl @text_eq_ok_iff) fun region =>
      { settings with region := region }
  · exact bind_eq_ok_iff (fun _ => endpoints_eq_ok_iff) fun endpoints =>
      { settings with endpoints := endpoints }
  · exact bind_eq_ok_iff (fun _ => optional_eq_ok_iff rfl @count_eq_ok_iff) fun concurrency =>
      { settings with concurrency := concurrency }
  · exact bind_eq_ok_iff (fun _ => optional_eq_ok_iff rfl @count_eq_ok_iff) fun maxDepth =>
      { settings with maxDepth := maxDepth }

-----------------------------------------------------------------------------------------
-- All settings
-----------------------------------------------------------------------------------------

/-- A later member says nothing of a setting that the first one is of. -/
theorem elim_get?_cons {β : Type} (read : Json → β) (other : β) {name field : String}
    (value : Json) {rest : List (String × Json)} (fresh : name = field → name ∉ Table.keys rest)
    : (Table.get? ((name, value) :: rest) field).elim other read
      = (Table.get? rest field).elim ((Table.get? [(name, value)] field).elim other read) read := by
  by_cases same : name = field
  · subst same
    rw [Table.get?_eq_none_of_not_mem (fresh rfl)]
    simp only [Table.get?, List.lookup_cons_self, Option.elim_some, Option.elim_none]
  · have different : (field == name) = false := beq_false_of_ne (Ne.symm same)
    simp only [Table.get?, List.lookup_cons, different, List.lookup_nil, Option.elim_none]

/-- Members are put in the place of settings one after the other. -/
theorem overlaid_cons {settings : Settings} {name : String} (value : Json)
    {rest : List (String × Json)} (fresh : name ∈ names → name ∉ Table.keys rest)
    : settings.overlaid ((name, value) :: rest)
      = (settings.overlaid [(name, value)]).overlaid rest := by
  have named {field : String} (known : field ∈ names) (same : name = field)
      : name ∉ Table.keys rest :=
    fresh (same ▸ known)
  unfold overlaid
  rw [elim_get?_cons _ _ _ (named (by decide)), elim_get?_cons _ _ _ (named (by decide)),
    elim_get?_cons _ _ _ (named (by decide)), elim_get?_cons _ _ _ (named (by decide)),
    elim_get?_cons _ _ _ (named (by decide))]

/-- A member that is no setting takes no place. -/
theorem overlaid_of_unknown {name : String} (unknown : name ∉ names) (value : Json)
    (settings : Settings)
    : settings.overlaid [(name, value)] = settings := by
  have absent {field : String} (known : field ∈ names)
      : Table.get? [(name, value)] field = none := by
    refine Table.get?_eq_none_of_not_mem fun member => unknown ?_
    have same : field = name := List.mem_singleton.mp member
    exact same ▸ known
  unfold overlaid
  rw [absent (by decide), absent (by decide), absent (by decide), absent (by decide),
    absent (by decide)]
  rfl

/-- The fields of a file are found by the names of the settings. -/
theorem fieldNamed?_fieldSpecs (key : String)
    : Document.fieldNamed? fieldSpecs key
      = if key ∈ names then some { name := key, hasDefault := true } else none := by
  have found (listed : List String)
      : Document.fieldNamed?
          (listed.map (fun name => { name := name, hasDefault := true : Document.FieldSpec })) key
        = if key ∈ listed then some { name := key, hasDefault := true } else none := by
    unfold Document.fieldNamed?
    induction listed with
    | nil => rfl
    | cons name rest ih =>
        rw [List.map_cons, List.find?_cons, ih]
        by_cases same : name = key
        · simp [same]
        · simp [beq_false_of_ne same, Ne.symm same]
  exact found names

theorem recognized_cons_of_mem {name : String} (known : name ∈ names) (value : Json)
    (rest : List (String × Json))
    : recognized ((name, value) :: rest) = name :: recognized rest := by
  simp [recognized, Table.keys, known]

theorem recognized_cons_of_not_mem {name : String} (unknown : name ∉ names) (value : Json)
    (rest : List (String × Json))
    : recognized ((name, value) :: rest) = recognized rest := by
  simp [recognized, Table.keys, unknown]

theorem mem_recognized {name : String} {members : List (String × Json)}
    : name ∈ recognized members ↔ name ∈ Table.keys members ∧ name ∈ names := by
  simp [recognized]

/-- A first member that is no setting makes no difference. -/
theorem wellTyped_cons_of_not_mem {name : String} (unknown : name ∉ names) (value : Json)
    (rest : List (String × Json))
    : WellTyped ((name, value) :: rest) ↔ WellTyped rest := by
  constructor
  · rintro ⟨once, typed⟩
    rw [recognized_cons_of_not_mem unknown] at once
    exact ⟨once, fun member inside => typed member (List.mem_cons_of_mem _ inside)⟩
  · rintro ⟨once, typed⟩
    refine ⟨by rwa [recognized_cons_of_not_mem unknown], fun member inside known => ?_⟩
    rcases List.mem_cons.mp inside with rfl | later
    · exact absurd known unknown
    · exact typed member later known

/-- A first member that is a setting is of its type and comes once. -/
theorem wellTyped_cons_of_mem {name : String} (known : name ∈ names) (value : Json)
    (rest : List (String × Json))
    : WellTyped ((name, value) :: rest)
      ↔ fits name value = true ∧ name ∉ recognized rest ∧ WellTyped rest := by
  constructor
  · rintro ⟨once, typed⟩
    rw [recognized_cons_of_mem known, List.nodup_cons] at once
    exact
      ⟨typed _ List.mem_cons_self known, once.1, once.2,
        fun member inside => typed member (List.mem_cons_of_mem _ inside)⟩
  · rintro ⟨fitting, fresh, once, typed⟩
    refine
      ⟨by rw [recognized_cons_of_mem known]; exact List.nodup_cons.mpr ⟨fresh, once⟩,
        fun member inside named => ?_⟩
    rcases List.mem_cons.mp inside with rfl | later
    · exact fitting
    · exact typed member later named

/-- The entries of an object, as records are made of. -/
def entriesOf (members : List (String × Json)) : List (Document.Node × Document.Node) :=
  members.map (fun (key, value) => (.json (.string key), .json value))

theorem takeEntries_cons (name : String) (value : Json) (rest : List (String × Json))
    (seen : List String) (settings : Settings)
    : Document.takeEntries .jsonText fieldSpecs take (entriesOf ((name, value) :: rest)) seen
        settings
      = if name ∈ names then
          if name ∈ seen then .error (.duplicateField name)
          else
            take settings name (.json value) >>=
              Document.takeEntries .jsonText fieldSpecs take (entriesOf rest) (name :: seen)
        else Document.takeEntries .jsonText fieldSpecs take (entriesOf rest) seen settings := by
  have first
      : entriesOf ((name, value) :: rest)
        = (.json (.string name), .json value) :: entriesOf rest :=
    rfl
  have key {ε : Type}
      : (Document.textAs "field identifier" .jsonText (.json (.string name))
          : Document.Shaped ε String)
        = .ok name :=
    rfl
  have looked := fieldNamed?_fieldSpecs name
  rw [first, Document.takeEntries, key]
  by_cases known : name ∈ names
  · rw [if_pos known] at looked ⊢
    simp only [bind, Except.bind, looked, List.contains_iff_mem]
  · rw [if_neg known] at looked ⊢
    simp only [bind, Except.bind, looked]

/-- The entries of an object are taken exactly if its settings are well-typed and none was there
before. Witness: induction on the members; a setting that is taken leaves the others as they are. -/
theorem takeEntries_eq_ok_iff {members : List (String × Json)} {seen : List String}
    {settings taken : Settings}
    : (∃ all,
        Document.takeEntries .jsonText fieldSpecs take (entriesOf members) seen settings
        = .ok (all, taken))
      ↔ WellTyped members
        ∧ (∀ name ∈ recognized members, name ∉ seen)
        ∧ taken = settings.overlaid members := by
  induction members generalizing seen settings with
  | nil =>
      have empty : WellTyped [] := ⟨List.nodup_nil, nofun⟩
      constructor
      · rintro ⟨_, same⟩
        cases same
        exact ⟨empty, nofun, rfl⟩
      · rintro ⟨_, _, rfl⟩
        exact ⟨_, rfl⟩
  | cons member rest ih =>
      obtain ⟨name, value⟩ := member
      rw [takeEntries_cons]
      by_cases known : name ∈ names
      · rw [if_pos known, wellTyped_cons_of_mem known, recognized_cons_of_mem known]
        constructor
        · rintro ⟨all, read⟩
          split at read
          · cases read
          · rename_i fresh
            obtain ⟨next, readFirst, readRest⟩ := exceptBind_eq_ok_iff.mp read
            obtain ⟨fitting, rfl⟩ := (take_eq_ok_iff known).mp readFirst
            obtain ⟨typed, unseen, rfl⟩ := ih.mp ⟨all, readRest⟩
            have notLater : name ∉ recognized rest := fun later =>
              unseen name later List.mem_cons_self
            refine ⟨⟨fitting, notLater, typed⟩, ?_, ?_⟩
            · intro other member
              rcases List.mem_cons.mp member with rfl | later
              · exact fresh
              · exact fun before => unseen other later (List.mem_cons_of_mem _ before)
            · rw [overlaid_cons value fun _ member =>
                notLater (mem_recognized.mpr ⟨member, known⟩)]
        · rintro ⟨⟨fitting, notLater, typed⟩, unseen, rfl⟩
          rw [if_neg (unseen name List.mem_cons_self),
            (take_eq_ok_iff known).mpr ⟨fitting, rfl⟩]
          refine ih.mpr ⟨typed, fun other later before => ?_, ?_⟩
          · rcases List.mem_cons.mp before with rfl | before
            · exact notLater later
            · exact unseen other (List.mem_cons_of_mem _ later) before
          · rw [overlaid_cons value fun _ member =>
              notLater (mem_recognized.mpr ⟨member, known⟩)]
      · rw [if_neg known, wellTyped_cons_of_not_mem known, recognized_cons_of_not_mem known,
          overlaid_cons value (absurd · known), overlaid_of_unknown known]
        exact ih

/-- An object is read as settings exactly if its settings are well-typed, and then they are what
each of them is by itself. -/
theorem record_eq_ok_iff {members : List (String × Json)} {settings : Settings}
    : Document.record .jsonText "Config" fieldSpecs take {} (.json (.object members)) = .ok settings
      ↔ WellTyped members ∧ settings = held members := by
  have complete (seen : List String) : Document.missingField? fieldSpecs seen = none := rfl
  have unfolded
      : Document.record .jsonText "Config" fieldSpecs take {} (.json (.object members))
        = Document.recordOfEntries .jsonText fieldSpecs take {} (entriesOf members) :=
    rfl
  rw [unfolded, Document.recordOfEntries, exceptBind_eq_ok_iff]
  simp only [complete]
  constructor
  · rintro ⟨⟨all, taken⟩, read, same⟩
    cases same
    obtain ⟨typed, _, same⟩ := takeEntries_eq_ok_iff.mp ⟨all, read⟩
    exact ⟨typed, same⟩
  · rintro ⟨typed, rfl⟩
    obtain ⟨all, read⟩ := takeEntries_eq_ok_iff.mpr
      ⟨typed, fun _ _ => List.not_mem_nil, rfl⟩
    exact ⟨_, read, rfl⟩

/-- The settings of a file that is an object: each of them if all are well-typed, and none if not.
-/
theorem load_eq {source : String} {members : List (String × Json)}
    (object : Json.readMembers source = some (.object members))
    : (WellTyped members → load (some source) = held members)
      ∧ (¬WellTyped members → load (some source) = {}) := by
  cases read : Document.record .jsonText "Config" fieldSpecs take {} (.json (.object members)) with
  | ok settings =>
      have loaded : load (some source) = settings := by
        simp only [load, Option.map_some, parse, object, read]
      obtain ⟨typed, same⟩ := record_eq_ok_iff.mp read
      exact ⟨fun _ => loaded.trans same, fun ill => absurd typed ill⟩
  | error fault =>
      have loaded : load (some source) = {} := by
        simp only [load, Option.map_some, parse, object, read]
      refine ⟨fun typed => ?_, fun _ => loaded⟩
      cases read.symm.trans (record_eq_ok_iff.mpr ⟨typed, rfl⟩)

end Settings

end Remediation
