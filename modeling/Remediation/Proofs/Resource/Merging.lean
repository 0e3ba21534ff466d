import Remediation.Proofs.Document.Records
import Remediation.Proofs.Resource.Lookup

/-! Loading texts into a registry one after the other. What a text defines is told apart from how it
is loaded: it is there as a whole or not at all, so that a text with a fault in any place changes
nothing. Each key leads to the definition of the last text that has one for it, in whatever order
the definitions of one text are taken over.
-/

namespace Remediation

namespace ResourceRegistry

-----------------------------------------------------------------------------------------
-- What a text defines
-----------------------------------------------------------------------------------------

/-- The definition in a value. -/
def definition? (value : Json) : Option ResourceType :=
  (ResourceType.ofNode (.json value)).toOption

/-- The definitions in an object under their names, all of them or none. -/
def definitionsIn? : Json → Option (List (String × ResourceType))
  | .object members =>
      if members.all (fun member => (definition? member.2).isSome) then
        some (members.filterMap fun (key, value) => (definition? value).map (key, ·))
      else none
  | _ => none

/-- The definitions of a text in the order in which it has them, or nothing if any part of it is
not as it should be. -/
def definitions? (source : String) : Option (List (String × ResourceType)) := do
  let document ← Json.readMembers source
  let resources? ← Document.onlyField? "resources" document
  resources?.elim (some []) definitionsIn?

/-- What a text defines under a key: of several definitions the last one, which gets the key. -/
def given? (key : String) (source : String) : Option ResourceType :=
  (definitions? source).bind fun definitions =>
    (definitions.reverse.lookup key).map fun definition => { definition with key := key }

theorem definition_eq_ok_iff (value : Json) (found : ResourceType)
    : ResourceType.ofNode (.json value) = .ok found ↔ definition? value = some found := by
  unfold definition?
  cases ResourceType.ofNode (.json value) with
  | error error => exact ⟨nofun, nofun⟩
  | ok definition => simp [Except.toOption]

/-- A table of definitions is read exactly if all of them are. -/
theorem table_eq_ok_iff {value : Json} {found : Table ResourceType}
    : Document.table .jsonText ResourceType.ofNode (.json value) = .ok found
      ↔ ∃ definitions, definitionsIn? value = some definitions ∧ found = .ofList definitions := by
  match value with
  | .object members =>
      rw [Document.table_eq_ok_iff definition_eq_ok_iff, definitionsIn?]
      split
      · rename_i all
        simp [all]
      · rename_i notAll
        simp [notAll]
  | .null | .bool _ | .number _ | .string _ | .array _ => exact ⟨nofun, nofun⟩

/-- A document is read exactly if it has definitions and no more. -/
theorem readDefinitions_eq_ok_iff {document : Json} {found : Table ResourceType}
    : readDefinitions document = .ok found
      ↔ ∃ definitions,
          (Document.onlyField? "resources" document >>= fun resources? =>
            resources?.elim (some []) definitionsIn?) = some definitions
          ∧ found = .ofList definitions := by
  refine Document.record_onlySpec_eq_ok_iff.trans ?_
  constructor
  · rintro ⟨resources?, only, taken⟩
    rw [only]
    cases resources? with
    | none =>
        cases taken
        exact ⟨[], rfl, rfl⟩
    | some value => exact table_eq_ok_iff.mp taken
  · rintro ⟨definitions, defined, rfl⟩
    obtain ⟨resources?, only, given⟩ := Option.bind_eq_some_iff.mp defined
    refine ⟨resources?, only, ?_⟩
    cases resources? with
    | none =>
        cases given
        rfl
    | some value => exact table_eq_ok_iff.mpr ⟨definitions, given, rfl⟩

/-- A text is read exactly if it has definitions, of which the last one under each key counts. -/
theorem parseDefinitions_eq_ok_iff {source : String} {found : Table ResourceType}
    : parseDefinitions source = .ok found
      ↔ ∃ definitions, definitions? source = some definitions ∧ found = .ofList definitions := by
  unfold parseDefinitions definitions?
  cases Json.readMembers source with
  | none => exact ⟨nofun, nofun⟩
  | some document =>
      refine Iff.trans ?_ readDefinitions_eq_ok_iff
      dsimp only
      cases readDefinitions document with
      | ok definitions => simp only [Except.ok.injEq]
      | error cause => exact ⟨nofun, nofun⟩

theorem exists_parseDefinitions_eq_error_iff {source : String}
    : (∃ error, parseDefinitions source = .error error) ↔ definitions? source = none := by
  cases parsed : parseDefinitions source with
  | ok found =>
      obtain ⟨definitions, defined, _⟩ := parseDefinitions_eq_ok_iff.mp parsed
      simp [defined]
  | error error =>
      refine ⟨fun _ => Option.eq_none_iff_forall_ne_some.mpr fun definitions defined => ?_,
        fun _ => ⟨error, rfl⟩⟩
      cases parsed.symm.trans (parseDefinitions_eq_ok_iff.mpr ⟨definitions, defined, rfl⟩)

/-- A registry refuses exactly the texts without definitions, whatever it has. -/
theorem exists_extendFromText_eq_error_iff {registry : ResourceRegistry} {source : String}
    : (∃ error, registry.extendFromText source = .error error) ↔ definitions? source = none := by
  simp only [extendFromText, exceptMap_eq_error_iff, exists_parseDefinitions_eq_error_iff]

-----------------------------------------------------------------------------------------
-- What a key leads to
-----------------------------------------------------------------------------------------

variable {registry : ResourceRegistry} {source : String}

/-- A text that is read extends a registry by its definitions. -/
theorem load_of_read {definitions : Table ResourceType}
    (read : parseDefinitions source = .ok definitions)
    : registry.load source = registry.extend definitions := by
  rw [load, extendFromText, read]
  rfl

/-- A text that is refused leaves a registry as it was. -/
theorem load_of_refused (refused : definitions? source = none)
    : registry.load source = registry := by
  obtain ⟨error, failed⟩ := exists_extendFromText_eq_error_iff.mpr refused
  rw [load, failed]

theorem loadAll_cons (registry : ResourceRegistry) (source : String) (rest : List String)
    : registry.loadAll (source :: rest) = (registry.load source).loadAll rest :=
  rfl

theorem loadAll_append (registry : ResourceRegistry) (before after : List String)
    : registry.loadAll (before ++ after) = (registry.loadAll before).loadAll after :=
  List.foldl_append

/-- The definitions of a table count before those of a registry that is extended by them. -/
theorem get?_extend {definitions : Table ResourceType} (ordered : Table.Ordered definitions)
    (key : String)
    : Table.get? (registry.extend definitions).types key
      = ((Table.get? definitions key).map fun definition => { definition with key := key }).or
          (Table.get? registry.types key) :=
  ordered.get?_insertAll_map (fun name definition => { definition with key := name }) _ key

/-- What a text gives to a key counts before what the registry had for it. -/
theorem get?_load (key : String)
    : Table.get? (registry.load source).types key
      = (given? key source).or (Table.get? registry.types key) := by
  cases defined : definitions? source with
  | none =>
      rw [load_of_refused defined, given?, defined]
      rfl
  | some definitions =>
      have last : Table.get? (.ofList definitions) key = definitions.reverse.lookup key :=
        (Table.get?_insertAll [] definitions key).trans Option.or_none
      have read := parseDefinitions_eq_ok_iff.mpr ⟨definitions, defined, rfl⟩
      rw [load_of_read read, get?_extend (.ofList definitions), last, given?, defined]
      rfl

/-- A key leads to what the last text gives to it that gives anything. Witness: induction on the
texts. -/
theorem get?_loadAll (sources : List String) (key : String)
    : Table.get? (registry.loadAll sources).types key
      = (sources.reverse.findSome? (given? key)).or (Table.get? registry.types key) := by
  induction sources generalizing registry with
  | nil => rfl
  | cons source rest ih =>
      calc Table.get? (registry.loadAll (source :: rest)).types key
        _ = (rest.reverse.findSome? (given? key)).or
              ((given? key source).or (Table.get? registry.types key)) := by
            rw [loadAll_cons, ih, get?_load]
        _ = ((source :: rest).reverse.findSome? (given? key)).or
              (Table.get? registry.types key) := by
            rw [List.reverse_cons, List.findSome?_append, Option.or_assoc,
              List.findSome?_singleton]

/-- What the last text gives to a key that gives anything to it. -/
theorem findSome?_reverse_given?_eq_some_iff {sources : List String} {key : String}
    {definition : ResourceType}
    : sources.reverse.findSome? (given? key) = some definition
      ↔ ∃ before source after,
          sources = before ++ source :: after
          ∧ given? key source = some definition
          ∧ ∀ later ∈ after, given? key later = none := by
  rw [List.findSome?_eq_some_iff]
  constructor
  · rintro ⟨later, source, before, same, given, none⟩
    refine ⟨before.reverse, source, later.reverse, ?_, given, ?_⟩
    · simpa using congrArg List.reverse same
    · simpa using none
  · rintro ⟨before, source, after, rfl, given, none⟩
    refine ⟨after.reverse, source, before.reverse, ?_, given, ?_⟩
    · simp
    · simpa using none

/-- A definition is found under a key exactly if the last text that gives anything to the key gives
this definition, or if none does and the registry had it. -/
theorem get?_loadAll_eq_some_iff {sources : List String} {key : String} {definition : ResourceType}
    : Table.get? (registry.loadAll sources).types key = some definition
      ↔ (∃ before source after,
            sources = before ++ source :: after
            ∧ given? key source = some definition
            ∧ ∀ later ∈ after, given? key later = none)
        ∨ (∀ source ∈ sources, given? key source = none)
          ∧ Table.get? registry.types key = some definition := by
  rw [get?_loadAll, Option.or_eq_some_iff, findSome?_reverse_given?_eq_some_iff,
    List.findSome?_eq_none_iff]
  simp only [List.mem_reverse]

/-- What a text gives to a key knows the key as its own. -/
theorem key_of_given? {key : String} {definition : ResourceType}
    (given : given? key source = some definition)
    : definition.key = key := by
  obtain ⟨definitions, _, found⟩ := Option.bind_eq_some_iff.mp given
  obtain ⟨_, _, rfl⟩ := Option.map_eq_some_iff.mp found
  rfl

/-- What a keyed registry has for a key knows the key as its own. -/
theorem Keyed.key_of_get? (keyed : registry.Keyed) {key : String} {definition : ResourceType}
    (found : Table.get? registry.types key = some definition)
    : definition.key = key := by
  obtain ⟨front, back, same, _⟩ := List.lookup_eq_some_iff.mp found
  exact keyed.own (key, definition) (same ▸ List.mem_append_right front List.mem_cons_self)

-----------------------------------------------------------------------------------------
-- Texts that are refused
-----------------------------------------------------------------------------------------

/-- Without the texts that are refused a registry ends up the same. -/
theorem loadAll_filter (registry : ResourceRegistry) (sources : List String)
    : registry.loadAll (sources.filter fun source => (definitions? source).isSome)
      = registry.loadAll sources := by
  induction sources generalizing registry with
  | nil => rfl
  | cons source rest ih =>
      cases defined : definitions? source with
      | none =>
          rw [List.filter_cons_of_neg (by simp [defined]), ih, loadAll_cons,
            load_of_refused defined]
      | some definitions =>
          rw [List.filter_cons_of_pos (by simp [defined]), loadAll_cons, loadAll_cons, ih]

-----------------------------------------------------------------------------------------
-- Definitions in any order
-----------------------------------------------------------------------------------------

/-- Loading texts one after the other, where the definitions of one text are taken over in any order
and a text that cannot be read is passed over. -/
inductive Loads : ResourceRegistry → List String → ResourceRegistry → Prop where
  | done (registry : ResourceRegistry) : Loads registry [] registry
  | refused {registry final : ResourceRegistry} {source : String} {sources : List String}
      {error : DefinitionsError} (failed : parseDefinitions source = .error error)
      (later : Loads registry sources final)
      : Loads registry (source :: sources) final
  | merged {registry final : ResourceRegistry} {source : String} {sources : List String}
      {definitions taken : Table ResourceType}
      (read : parseDefinitions source = .ok definitions) (order : definitions.Perm taken)
      (later : Loads (registry.extend taken) sources final)
      : Loads registry (source :: sources) final

/-- Definitions with different keys may be taken over in any order. -/
theorem extend_perm {definitions taken : Table ResourceType} (order : definitions.Perm taken)
    (distinct : (Table.keys definitions).Nodup)
    : registry.extend definitions = registry.extend taken := by
  refine congrArg ResourceRegistry.mk (Table.insertAll_perm (order.map _) ?_ _)
  rw [Table.keys, List.map_map]
  exact distinct

/-- Whatever the order, a registry ends up as if the definitions of each text were taken over by
their keys. Witness: induction on the texts; no text has two definitions for one key once it is
read. -/
theorem loads_iff {sources : List String} {final : ResourceRegistry}
    : Loads registry sources final ↔ final = registry.loadAll sources := by
  constructor
  · intro loads
    induction loads with
    | done registry => rfl
    | @refused registry final source sources error failed later ih =>
        have refused := exists_parseDefinitions_eq_error_iff.mp ⟨error, failed⟩
        rw [ih, loadAll_cons, load_of_refused refused]
    | @merged registry final source sources definitions taken read order later ih =>
        obtain ⟨_, _, given⟩ := parseDefinitions_eq_ok_iff.mp read
        have distinct : (Table.keys definitions).Nodup := given ▸ (Table.Ordered.ofList _).distinct
        rw [ih, loadAll_cons, load_of_read read, extend_perm order distinct]
  · rintro rfl
    induction sources generalizing registry with
    | nil => exact .done registry
    | cons source rest ih =>
        rw [loadAll_cons]
        cases read : parseDefinitions source with
        | error error =>
            have refused := exists_parseDefinitions_eq_error_iff.mp ⟨error, read⟩
            rw [load_of_refused refused]
            exact .refused read ih
        | ok definitions =>
            rw [load_of_read read]
            exact .merged read (.refl _) ih

/-- Loading texts is a union of what they define, in which later texts count before earlier ones and
the registry counts last. In whatever order the definitions of each text are taken over, the same
registry results. Each of its keys leads to what the last text says that was read and has the key,
or else to what the registry had before, and the definition knows the key as its own. A text is
refused exactly if some part of it is not as it should be; then the registry is as it was before the
text, and it ends up the same without the texts that are refused.
-/
theorem loadAll_union (registry : ResourceRegistry) (sources : List String)
    : (∀ final, Loads registry sources final ↔ final = registry.loadAll sources)
      ∧ (∀ key definition,
          Table.get? (registry.loadAll sources).types key = some definition
          ↔ (∃ before source after,
                sources = before ++ source :: after
                ∧ given? key source = some definition
                ∧ ∀ later ∈ after, given? key later = none)
            ∨ (∀ source ∈ sources, given? key source = none)
              ∧ Table.get? registry.types key = some definition)
      ∧ (∀ key definition,
          Table.get? (registry.loadAll sources).types key = some definition
          → (registry.Keyed ∨ ∃ source ∈ sources, given? key source ≠ none)
          → definition.key = key)
      ∧ (∀ before source after,
          sources = before ++ source :: after
          → ((∃ error, (registry.loadAll before).extendFromText source = .error error)
              ↔ definitions? source = none)
            ∧ (definitions? source = none
              → registry.loadAll (before ++ [source]) = registry.loadAll before))
      ∧ registry.loadAll (sources.filter fun source => (definitions? source).isSome)
        = registry.loadAll sources := by
  refine ⟨fun _ => loads_iff, fun _ _ => get?_loadAll_eq_some_iff, ?_, ?_,
    loadAll_filter registry sources⟩
  · intro key definition found known
    rcases known with keyed | ⟨source, member, gives⟩
    · exact (keyed.loadAll sources).key_of_get? found
    · rcases get?_loadAll_eq_some_iff.mp found with ⟨_, _, _, _, given, _⟩ | ⟨none, _⟩
      · exact key_of_given? given
      · exact absurd (none source member) gives
  · rintro before source after rfl
    refine ⟨exists_extendFromText_eq_error_iff, fun refused => ?_⟩
    rw [loadAll_append]
    exact load_of_refused refused

end ResourceRegistry

namespace Sample

/-- A definition of things, as a member of an object. -/
def thingMember (displayName : String) : String :=
  "\"thing\": \x7b\"display_name\": \"" ++ displayName ++ "\", \"service\": \"svc\", "
    ++ "\"list_path\": \"things\", \"id_field\": \"id\", \"name_field\": \"name\"\x7d"

/-- A text that defines things. -/
def thingText (displayName : String) : String :=
  "\x7b\"resources\": \x7b" ++ thingMember displayName ++ "\x7d\x7d"

/-- A text that defines things, and something else that lacks what it needs. -/
def brokenText : String :=
  "\x7b\"resources\": \x7b" ++ thingMember "Lost" ++ ", \"other\": \x7b\x7d\x7d\x7d"

end Sample

/-- The last text that can be read counts. One of which a definition is no good changes nothing,
though it has good ones too. -/
theorem ResourceRegistry.loadAll_union_things
    : (∃ definition,
        Table.get?
            (ResourceRegistry.builtin.loadAll
              [Sample.thingText "First", Sample.thingText "Second", Sample.brokenText]).types
            "thing"
          = some definition
        ∧ definition.displayName = "Second"
        ∧ definition.key = "thing")
      ∧ (∃ error,
          (ResourceRegistry.builtin.loadAll
                [Sample.thingText "First", Sample.thingText "Second"]).extendFromText
              Sample.brokenText
          = .error error)
      ∧ ResourceRegistry.builtin.loadAll
            [Sample.thingText "First", Sample.thingText "Second", Sample.brokenText]
        = ResourceRegistry.builtin.loadAll
            [Sample.thingText "First", Sample.thingText "Second"] := by
  obtain ⟨_, union, own, refused, _⟩ :=
    ResourceRegistry.loadAll_union .builtin
      [Sample.thingText "First", Sample.thingText "Second", Sample.brokenText]
  have broken : ResourceRegistry.definitions? Sample.brokenText = none :=
    Option.isNone_iff_eq_none.mp (by decide +kernel)
  have nothing : ResourceRegistry.given? "thing" Sample.brokenText = none := by
    rw [ResourceRegistry.given?, broken]
    rfl
  have given
      : (ResourceRegistry.given? "thing" (Sample.thingText "Second")).map ResourceType.displayName
        = some "Second" := by
    decide +kernel
  obtain ⟨definition, gives, named⟩ := Option.map_eq_some_iff.mp given
  have found := (union "thing" definition).mpr
    (.inl
      ⟨[Sample.thingText "First"], Sample.thingText "Second", [Sample.brokenText], rfl, gives,
        List.forall_mem_singleton.mpr nothing⟩)
  obtain ⟨failed, same⟩ :=
    refused [Sample.thingText "First", Sample.thingText "Second"] Sample.brokenText [] rfl
  exact
    ⟨⟨definition, found, named, own _ _ found (.inl .builtin)⟩, failed.mpr broken, same broken⟩

end Remediation
