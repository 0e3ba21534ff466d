import Remediation.Proofs.Json.Printed
import Remediation.Proofs.Json.Ranges
import Remediation.Proofs.Settings.Endpoints
import Remediation.Proofs.Settings.Typed

/-! Saving defaults. The text that is written holds the settings that it was made of: the ones of
the file with those that are given. A file with one setting that is not of its type counts as one
without settings, so that saving a default leaves no other setting of it.
-/

namespace Remediation

namespace Settings

-----------------------------------------------------------------------------------------
-- The text that is written
-----------------------------------------------------------------------------------------

/-- Settings that can be written and read again: their numbers have at most 64 bits, and every
service has one endpoint. -/
structure Writable (settings : Settings) : Prop where
  concurrency : ∀ n, settings.concurrency = some n → n ≤ Json.greatestSignificand
  maxDepth : ∀ n, settings.maxDepth = some n → n ≤ Json.greatestSignificand
  endpoints : Table.Ordered settings.endpoints

theorem readsBack_text (depth : Nat) (text : Option String)
    : Json.ReadsBack depth (.ofOption .string text) := by
  cases text with
  | none => exact Json.readsBack_null depth
  | some text => exact Json.readsBack_string depth text

theorem readsBack_count (depth : Nat) {count : Option Nat}
    (fits : ∀ n, count = some n → n ≤ Json.greatestSignificand)
    : Json.ReadsBack depth (.ofOption .ofNat count) := by
  cases count with
  | none => exact Json.readsBack_null depth
  | some n => exact Json.readsBack_ofNat depth (fits n rfl)

/-- The members of the text that saving writes. -/
def members (settings : Settings) : List (String × Json) :=
  [
    ("project_id", .ofOption .string settings.projectId),
    ("region", .ofOption .string settings.region),
    ("endpoints", .object (settings.endpoints.map (fun (service, url) => (service, .string url)))),
    ("concurrency", .ofOption .ofNat settings.concurrency),
    ("max_depth", .ofOption .ofNat settings.maxDepth)
  ]

/-- The text that saving writes is read as its members. -/
theorem readMembers_render {settings : Settings} (writable : settings.Writable)
    : Json.readMembers settings.render = some (.object settings.members) := by
  have endpoints
      : ∀ field ∈ settings.endpoints.map (fun (service, url) => (service, Json.string url)),
          Json.ReadsBack 126 field.2 := by
    intro field member
    obtain ⟨entry, _, rfl⟩ := List.mem_map.mp member
    exact Json.readsBack_string 126 entry.2
  refine Json.readMembers_pretty fun field member => ?_
  simp only [List.mem_cons, List.not_mem_nil, or_false] at member
  rcases member with rfl | rfl | rfl | rfl | rfl
  · exact readsBack_text _ _
  · exact readsBack_text _ _
  · exact Json.readsBack_object endpoints
  · exact readsBack_count _ writable.concurrency
  · exact readsBack_count _ writable.maxDepth

theorem ofOption_string (text : Option String)
    : (Json.ofOption .string text).string? = text
      ∧ ((Json.ofOption .string text).isNull || (Json.ofOption .string text).string?.isSome)
        = true := by
  cases text with
  | none => exact ⟨rfl, rfl⟩
  | some text => exact ⟨rfl, rfl⟩

theorem ofOption_ofNat (count : Option Nat)
    : (Json.ofOption .ofNat count).nat? = count
      ∧ ((Json.ofOption .ofNat count).isNull || (Json.ofOption .ofNat count).nat?.isSome)
        = true := by
  cases count with
  | none => exact ⟨rfl, rfl⟩
  | some n => exact ⟨rfl, rfl⟩

/-- What is written holds the settings that it was made of. -/
theorem held_members {settings : Settings} (ordered : Table.Ordered settings.endpoints)
    : held settings.members = settings := by
  have endpoints
      : endpointsIn
          (.object (settings.endpoints.map (fun (service, url) => (service, .string url))))
        = settings.endpoints := by
    rw [endpointsIn, List.filterMap_map]
    exact (congrArg Table.ofList List.filterMap_some).trans ordered.ofList_eq
  have projectId
      : Table.get? settings.members "project_id" = some (.ofOption .string settings.projectId) :=
    rfl
  have region
      : Table.get? settings.members "region" = some (.ofOption .string settings.region) :=
    rfl
  have written
      : Table.get? settings.members "endpoints"
        = some
            (.object (settings.endpoints.map (fun (service, url) => (service, .string url)))) :=
    rfl
  have concurrency
      : Table.get? settings.members "concurrency" = some (.ofOption .ofNat settings.concurrency) :=
    rfl
  have maxDepth
      : Table.get? settings.members "max_depth" = some (.ofOption .ofNat settings.maxDepth) :=
    rfl
  unfold held overlaid
  rw [projectId, region, written, concurrency, maxDepth]
  simp only [Option.elim_some, (ofOption_string _).1, (ofOption_ofNat _).1, endpoints]

theorem wellTyped_members (settings : Settings) : WellTyped settings.members := by
  constructor
  · have all : recognized settings.members = names := rfl
    rw [all]
    decide
  · intro member inside _
    simp only [members, List.mem_cons, List.not_mem_nil, or_false] at inside
    rcases inside with rfl | rfl | rfl | rfl | rfl
    · exact (ofOption_string settings.projectId).2
    · exact (ofOption_string settings.region).2
    · simp [fits, Json.string?]
    · exact (ofOption_ofNat settings.concurrency).2
    · exact (ofOption_ofNat settings.maxDepth).2

theorem mem_of_get? {members : List (String × Json)} {name : String} {value : Json}
    (found : Table.get? members name = some value)
    : (name, value) ∈ members := by
  obtain ⟨front, back, rfl, _⟩ := List.lookup_eq_some_iff.mp found
  exact List.mem_append_right front List.mem_cons_self

/-- A count in a file has at most 64 bits. -/
theorem le_of_elim {source : String} {members : List (String × Json)} {name : String} {n : Nat}
    (object : Json.readMembers source = some (.object members))
    (counted : (Table.get? members name).elim none Json.nat? = some n)
    : n ≤ Json.greatestSignificand := by
  cases found : Table.get? members name with
  | none =>
      rw [found] at counted
      cases counted
  | some value =>
      rw [found, Option.elim_some] at counted
      have number : value = .ofNat n := by
        match value, counted with
        | .number (.int (.ofNat m)), counted =>
            cases counted
            rfl
      exact Json.le_of_readMembers object (number ▸ mem_of_get? found)

/-- What each setting is by itself in a file that was read can be written. -/
theorem writable_held {source : String} {members : List (String × Json)}
    (object : Json.readMembers source = some (.object members))
    : (held members).Writable := by
  refine
    ⟨fun n counted => le_of_elim object counted, fun n counted => le_of_elim object counted, ?_⟩
  have empty : Table.Ordered ([] : Table String) := List.Pairwise.nil
  unfold held overlaid
  cases Table.get? members "endpoints" with
  | none => exact empty
  | some value =>
      cases value with
      | object entries => exact .ofList _
      | _ => exact empty

-----------------------------------------------------------------------------------------
-- Saving
-----------------------------------------------------------------------------------------

theorem Writable.withDefaults {settings : Settings} (writable : settings.Writable)
    (project region : Option String)
    : (settings.withDefaults project region).Writable :=
  ⟨writable.concurrency, writable.maxDepth, writable.endpoints⟩

end Settings

variable {surroundings : Surroundings} {options : CommonOptions} {source : String}
  {members : List (String × Json)}

/-- The file that is written has the settings of the old one with those that are given. -/
theorem Surroundings.settingsFile_configure (placed : surroundings.settingsPath.isSome = true)
    (found : surroundings.settingsFile = some source)
    (given : options.project.isSome = true ∨ options.region.isSome = true)
    : (surroundings.configure options).settingsFile
      = some
          ((Settings.load (some source)).withDefaults options.project options.region).render := by
  have saves : (options.project.isSome || options.region.isSome) = true :=
    Bool.or_eq_true_iff.mpr given
  simp only [configure, Settings.saveDefaults, found, placed, saves, if_true]

/-- What saving defaults leaves of a file that is an object. The file that is written has every
setting with a value of its type. If the old file has too, each setting that is not given is kept;
if a single one of the old file is not of its type, none is left but those that are given. -/
theorem Surroundings.configure_settings (placed : surroundings.settingsPath.isSome = true)
    (found : surroundings.settingsFile = some source)
    (object : Json.readMembers source = some (.object members))
    (given : options.project.isSome = true ∨ options.region.isSome = true)
    : ∃ written after,
        (surroundings.configure options).settingsFile = some written
        ∧ Json.readMembers written = some (.object after)
        ∧ Settings.WellTyped after
        ∧ (Settings.WellTyped members →
            Settings.held after
              = (Settings.held members).withDefaults options.project options.region)
        ∧ (¬Settings.WellTyped members →
            Settings.held after = { projectId := options.project, region := options.region }) := by
  have written := settingsFile_configure placed found given
  have nothing : ({} : Settings).Writable := ⟨nofun, nofun, List.Pairwise.nil⟩
  obtain ⟨typed, illTyped⟩ := Settings.load_eq object
  by_cases wellTyped : Settings.WellTyped members
  · have kept := (Settings.writable_held object).withDefaults options.project options.region
    rw [typed wellTyped] at written
    exact
      ⟨_, _, written, Settings.readMembers_render kept, Settings.wellTyped_members _,
        fun _ => Settings.held_members kept.endpoints, fun ill => absurd wellTyped ill⟩
  · have left := nothing.withDefaults options.project options.region
    have given : ({} : Settings).withDefaults options.project options.region
        = { projectId := options.project, region := options.region } := by
      simp [Settings.withDefaults]
    rw [illTyped wellTyped] at written
    refine
      ⟨_, _, written, Settings.readMembers_render left, Settings.wellTyped_members _,
        fun typed => absurd typed wellTyped, fun _ => ?_⟩
    rw [Settings.held_members left.endpoints, given]

-----------------------------------------------------------------------------------------
-- A file with a word for a number
-----------------------------------------------------------------------------------------

namespace Sample

/-- The surroundings with a text in the file of the settings. -/
def withSettings (text : String) : Surroundings :=
  { Sample.surroundings with settingsFile := some text }

/-- Settings with a concurrency, as it is written. -/
def limitedText (concurrency : String) : String :=
  "\x7b\"region\": \"south\", \"endpoints\": \x7b\"ces\": \"http://own\"\x7d, \"concurrency\": "
    ++ concurrency ++ "\x7d"

/-- The members of such a file. -/
def limitedMembers (concurrency : Json) : List (String × Json) :=
  [
    ("region", .string "south"),
    ("endpoints", .object [("ces", .string "http://own")]),
    ("concurrency", concurrency)
  ]

/-- The options of a command that is given a project. -/
def savingProject : CommonOptions := { project := some "home" }

end Sample

/-- A project is saved beside region, endpoint and concurrency, and in their place if the
concurrency is written as a word. -/
theorem Surroundings.configure_settings_word
    : (∃ written after,
        ((Sample.withSettings (Sample.limitedText "8")).configure Sample.savingProject).settingsFile
          = some written
        ∧ Json.readMembers written = some (.object after)
        ∧ Settings.held after
          = {
              projectId := some "home",
              region := some "south",
              endpoints := [("ces", "http://own")],
              concurrency := some 8
            })
      ∧ ∃ written after,
          ((Sample.withSettings (Sample.limitedText "\"eight\"")).configure
              Sample.savingProject).settingsFile
            = some written
          ∧ Json.readMembers written = some (.object after)
          ∧ Settings.held (Sample.limitedMembers (.string "eight"))
            = { region := some "south", endpoints := [("ces", "http://own")] }
          ∧ Settings.held after = { projectId := some "home" } := by
  have saves (concurrency : String)
      : (Sample.withSettings (Sample.limitedText concurrency)).settingsFile
        = some (Sample.limitedText concurrency) :=
    rfl
  have given
      : Sample.savingProject.project.isSome = true ∨ Sample.savingProject.region.isSome = true :=
    .inl rfl
  constructor
  · have object
        : Json.readMembers (Sample.limitedText "8")
          = some (.object (Sample.limitedMembers (.ofNat 8))) := by
      rfl
    have typed : Settings.WellTyped (Sample.limitedMembers (.ofNat 8)) := by
      constructor
      · decide
      · decide
    obtain ⟨written, after, file, read, _, kept, _⟩ :=
      Surroundings.configure_settings rfl (saves "8") object given
    exact ⟨written, after, file, read, kept typed⟩
  · have object
        : Json.readMembers (Sample.limitedText "\"eight\"")
          = some (.object (Sample.limitedMembers (.string "eight"))) := by
      rfl
    have illTyped : ¬Settings.WellTyped (Sample.limitedMembers (.string "eight")) := fun typed =>
      absurd (typed.typed ("concurrency", .string "eight") (by simp [Sample.limitedMembers])
        (by decide)) (by decide)
    obtain ⟨written, after, file, read, _, _, lost⟩ :=
      Surroundings.configure_settings rfl (saves "\"eight\"") object given
    exact ⟨written, after, file, read, rfl, lost illTyped⟩

end Remediation
