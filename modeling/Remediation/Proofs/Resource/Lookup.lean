import Mathlib.Data.List.Basic
import Remediation.Command.Completion
import Remediation.Proofs.Table

/-! Looking up the resource types of a registry. A name may have the provider in front of it, which
is taken off before the name is looked up; definitions are kept under their keys as they are
written. So a key that itself starts with the provider leads elsewhere, unless the provider stands
in front of it once more.
-/

namespace Remediation

-----------------------------------------------------------------------------------------
-- Registries that were loaded
-----------------------------------------------------------------------------------------

namespace ResourceRegistry

/-- A registry whose definitions are kept in order under the keys that they know as their own. -/
structure Keyed (registry : ResourceRegistry) : Prop where
  ordered : Table.Ordered registry.types
  own : ∀ entry ∈ registry.types, entry.2.key = entry.1

/-- The registry with the definitions of a text, or as it was if the text has none. -/
def load (registry : ResourceRegistry) (source : String) : ResourceRegistry :=
  match registry.extendFromText source with
  | .ok extended => extended
  | .error _ => registry

/-- The registry after texts were loaded one after the other. -/
def loadAll (registry : ResourceRegistry) (sources : List String) : ResourceRegistry :=
  sources.foldl load registry

/-- Setting one more key leaves every definition under its own key. -/
theorem own_insert {types : Table ResourceType} (own : ∀ entry ∈ types, entry.2.key = entry.1)
    (key : String) (resource : ResourceType)
    : ∀ entry ∈ Table.insert key { resource with key := key } types, entry.2.key = entry.1 := by
  intro entry member
  rcases Table.eq_or_mem_of_mem_insert member with rfl | before
  · rfl
  · exact own entry before

namespace Keyed

variable {registry : ResourceRegistry}

theorem empty : Keyed ResourceRegistry.empty where
  ordered := .nil
  own := by simp [ResourceRegistry.empty]

theorem builtin : Keyed ResourceRegistry.builtin where
  ordered := .ofList _
  own := by decide

/-- More definitions are kept under their own keys as well. Witness: induction on the definitions
that are added. -/
theorem extend (keyed : registry.Keyed) (definitions : Table ResourceType)
    : (registry.extend definitions).Keyed := by
  refine ⟨keyed.ordered.insertAll _, ?_⟩
  have own := keyed.own
  unfold ResourceRegistry.extend Table.insertAll
  generalize registry.types = types at own ⊢
  induction definitions generalizing types with
  | nil => exact own
  | cons definition rest ih => exact ih _ (own_insert own definition.1 definition.2)

/-- One text keeps a registry keyed, whether it can be read or not. -/
theorem load (keyed : registry.Keyed) (source : String) : (registry.load source).Keyed := by
  unfold ResourceRegistry.load extendFromText
  cases parseDefinitions source with
  | error _ => exact keyed
  | ok definitions => exact keyed.extend definitions

/-- Any texts keep a registry keyed. -/
theorem loadAll (keyed : registry.Keyed) (sources : List String)
    : (registry.loadAll sources).Keyed := by
  induction sources generalizing registry with
  | nil => exact keyed
  | cons source rest ih => exact ih (keyed.load source)

end Keyed

-----------------------------------------------------------------------------------------
-- Names with the provider in front of them
-----------------------------------------------------------------------------------------

/-- The provider in front of a name is taken off once. -/
theorem shortName_append (name : String) : shortName (providerPrefix ++ name) = name := by
  have starts : providerPrefix.toList.isPrefixOf (providerPrefix ++ name).toList = true := by
    rw [String.toList_append]
    exact List.isPrefixOf_iff_prefix.mpr (List.prefix_append _ _)
  rw [shortName, if_pos starts, String.toList_append, ← String.length_toList,
    List.drop_left, String.ofList_toList]

/-- A name without the provider in front of it stays as it is. -/
theorem shortName_of_plain {name : String} (plain : ∀ short, name ≠ providerPrefix ++ short)
    : shortName name = name := by
  refine if_neg (fun starts => ?_)
  obtain ⟨rest, same⟩ := List.isPrefixOf_iff_prefix.mp starts
  refine plain (String.ofList rest) (String.toList_inj.mp ?_)
  rw [String.toList_append, String.toList_ofList, same]

variable {registry : ResourceRegistry}

/-- A listed key leads to a definition that knows it as its own, behind the provider. -/
theorem Keyed.get?_behind (keyed : registry.Keyed) {key : String} (listed : key ∈ registry.keys)
    : ∃ definition,
        definition.key = key
        ∧ (key, definition) ∈ registry.types
        ∧ registry.get? (providerPrefix ++ key) = some definition := by
  obtain ⟨⟨_, definition⟩, member, rfl⟩ := List.mem_map.mp listed
  refine ⟨definition, keyed.own _ member, member, ?_⟩
  rw [get?, shortName_append]
  exact keyed.ordered.get?_of_mem member

/-- What is found under a name is known by the name without the provider, and it is found exactly if
that is a key. -/
theorem Keyed.map_key_get? (keyed : registry.Keyed) (name : String)
    : (registry.get? name).map ResourceType.key
      = if shortName name ∈ registry.keys then some (shortName name) else none := by
  split
  · rename_i listed
    obtain ⟨⟨key, definition⟩, member, same⟩ := List.mem_map.mp listed
    have found : registry.get? name = some definition := by
      rw [get?, ← same]
      exact keyed.ordered.get?_of_mem member
    rw [found, ← same]
    exact congrArg some (keyed.own _ member)
  · rename_i absent
    rw [get?, Table.get?_eq_none_of_not_mem absent]
    rfl

-----------------------------------------------------------------------------------------
-- The keys of a registry
-----------------------------------------------------------------------------------------

/-- The lines of a list that is made by looking up every key. -/
def lines (registry : ResourceRegistry) : List String :=
  registry.keys.filterMap (fun key => (registry.get? key).map ResourceType.line)

/-- Where no key starts with the provider, looking up the keys leads to the definitions, one after
the other. -/
theorem Keyed.lines_of_plain (keyed : registry.Keyed)
    (plain : ∀ key ∈ registry.keys, ∀ short, key ≠ providerPrefix ++ short)
    : registry.lines = registry.types.map (fun (_, definition) => definition.line) := by
  unfold lines keys Table.keys
  rw [List.filterMap_map]
  refine List.filterMap_eq_map_iff_forall_eq_some.mpr (fun entry member => ?_)
  have listed : entry.1 ∈ registry.keys := List.mem_map_of_mem member
  have found : registry.get? entry.1 = some entry.2 := by
    rw [get?, shortName_of_plain (plain _ listed)]
    exact keyed.ordered.get?_of_mem member
  simp only [Function.comp_apply, found, Option.map_some]

/-- After any texts were loaded, each of which may be readable or not, every listed key has a
definition that knows it as its own and that is found under the key with the provider in front of
it. Under the key itself this definition is found exactly if the key does not start with the
provider. Otherwise what is found there belongs to the key behind the provider, if that is listed,
and else nothing is. Where no key starts with the provider there is one line for each key in a list
that looks all of them up, as the list of the types that come with the program is.
-/
theorem get?_listed (registry : ResourceRegistry) (keyed : registry.Keyed) (sources : List String)
    : (∀ key ∈ (registry.loadAll sources).keys,
        ∃ definition,
          definition.key = key
          ∧ (registry.loadAll sources).get? (providerPrefix ++ key) = some definition
          ∧ ((registry.loadAll sources).get? key = some definition
            ↔ ∀ short, key ≠ providerPrefix ++ short)
          ∧ ∀ short,
              key = providerPrefix ++ short
              → ((registry.loadAll sources).get? key).map ResourceType.key
                = if short ∈ (registry.loadAll sources).keys then some short else none)
      ∧ ((∀ key ∈ (registry.loadAll sources).keys, ∀ short, key ≠ providerPrefix ++ short)
        → (registry.loadAll sources).lines.length = (registry.loadAll sources).keys.length)
      ∧ ∀ surroundings : Surroundings,
          surroundings.listResources.output = String.join ResourceRegistry.builtin.lines := by
  have loaded := keyed.loadAll sources
  refine ⟨fun key listed => ?_, fun plain => ?_, fun surroundings => ?_⟩
  · obtain ⟨definition, own, member, found⟩ := loaded.get?_behind listed
    refine ⟨definition, own, found, ⟨?_, ?_⟩, ?_⟩
    · rintro foundHere short rfl
      have shorter := loaded.map_key_get? (providerPrefix ++ short)
      rw [foundHere, shortName_append, Option.map_some, own] at shorter
      split at shorter
      · have lengths := congrArg String.length (Option.some.inj shorter)
        rw [String.length_append] at lengths
        have some : 0 < providerPrefix.length := by decide
        omega
      · cases shorter
    · intro plain
      rw [get?, shortName_of_plain plain]
      exact loaded.ordered.get?_of_mem member
    · rintro short rfl
      rw [loaded.map_key_get?, shortName_append]
  · rw [loaded.lines_of_plain plain]
    simp only [keys, Table.keys, List.length_map]
  · rw [Keyed.builtin.lines_of_plain]
    · rfl
    · intro key listed short same
      have plain
          : ∀ key ∈ ResourceRegistry.builtin.keys,
              providerPrefix.toList.isPrefixOf key.toList = false := by
        decide
      have starts := plain key listed
      rw [same, String.toList_append] at starts
      rw [List.isPrefixOf_iff_prefix.mpr (List.prefix_append _ _)] at starts
      cases starts

end ResourceRegistry

namespace Sample

/-- A text that is no JSON, and one with a definition whose key starts with the provider. -/
def providerTexts : List String :=
  [
    "things",
    "\x7b\"resources\": \x7b\"huaweicloud.thing\": \x7b\"display_name\": \"Things\", "
      ++ "\"service\": \"svc\", \"list_path\": \"things\", \"id_field\": \"id\", "
      ++ "\"name_field\": \"name\"\x7d\x7d\x7d"
  ]

end Sample

/-- A definition whose key starts with the provider is listed and not found under its key. -/
theorem ResourceRegistry.get?_listed_provider
    : "huaweicloud.thing" ∈ (ResourceRegistry.builtin.loadAll Sample.providerTexts).keys
      ∧ (ResourceRegistry.builtin.loadAll Sample.providerTexts).get? "huaweicloud.thing" = none
      ∧ ∃ definition,
          definition.key = "huaweicloud.thing"
          ∧ (ResourceRegistry.builtin.loadAll Sample.providerTexts).get?
                "huaweicloud.huaweicloud.thing"
              = some definition := by
  have keys
      : (ResourceRegistry.builtin.loadAll Sample.providerTexts).keys
        = ["alarm", "huaweicloud.thing", "topic"] := by
    decide +kernel
  have listed
      : "huaweicloud.thing" ∈ (ResourceRegistry.builtin.loadAll Sample.providerTexts).keys := by
    rw [keys]
    decide
  obtain ⟨definition, own, found, _, otherwise⟩ :=
    (ResourceRegistry.get?_listed ResourceRegistry.builtin .builtin Sample.providerTexts).1 _ listed
  refine ⟨listed, ?_, definition, own, found⟩
  have absent := otherwise "thing" rfl
  rw [keys, if_neg (by decide)] at absent
  exact Option.map_eq_none_iff.mp absent

end Remediation
