import Mathlib.Data.List.Nodup
import Remediation.Resource.Fetch

/-! What a fetch hands out: the reading of a list page by page as an equation on states, and the
records that are kept of it, each with an identity that no other one has.
-/

namespace Remediation

variable {σ : Type}

-----------------------------------------------------------------------------------------
-- One page
-----------------------------------------------------------------------------------------

/-- What a reading makes of the answer to its request for a page: it ends, or it goes on behind the
page. -/
def Listing.goOn (plane : ControlPlane σ) (resource : ResourceType) (budget : Nat)
    (cursor : Option String)
    : Except RemoteError Page → StateM σ Listing
  | .error source => pure ⟨[], .failed (.remote resource.key source)⟩
  | .ok page =>
      match page.next? with
      | none => pure ⟨[page], .complete⟩
      | some next =>
          if cursor = some next then pure ⟨[page], .repeatedCursor⟩
          else do
            let rest ← Listing.read plane resource budget (some next)
            pure (rest.after page)

theorem Listing.read_succ (plane : ControlPlane σ) (resource : ResourceType) (budget : Nat)
    (cursor : Option String)
    : Listing.read plane resource (budget + 1) cursor
      = (do
          if plane.cancelled (← get) then pure ⟨[], .failed .cancelled⟩
          else plane.listPage resource cursor >>= Listing.goOn plane resource budget cursor) :=
  rfl

/-- Reading on asks for one page, unless the run has been cancelled, and goes on behind it as long
as the page names a cursor that it was not asked for with. -/
theorem Listing.run_read_succ (plane : ControlPlane σ) (resource : ResourceType) (budget : Nat)
    (cursor : Option String) (state : σ)
    : (Listing.read plane resource (budget + 1) cursor).run state
      = if plane.cancelled state then (⟨[], .failed .cancelled⟩, state)
        else
          match (plane.listPage resource cursor).run state with
          | (.error source, after) => (⟨[], .failed (.remote resource.key source)⟩, after)
          | (.ok page, after) =>
              match page.next? with
              | none => (⟨[page], .complete⟩, after)
              | some next =>
                  if cursor = some next then (⟨[page], .repeatedCursor⟩, after)
                  else
                    (((Listing.read plane resource budget (some next)).run after).1.after page,
                      ((Listing.read plane resource budget (some next)).run after).2) := by
  rw [Listing.read_succ]
  change (if plane.cancelled state then (pure ⟨[], .failed .cancelled⟩ : StateM σ Listing)
    else plane.listPage resource cursor >>= Listing.goOn plane resource budget cursor).run state = _
  cases plane.cancelled state with
  | true => rfl
  | false =>
      change (Listing.goOn plane resource budget cursor
        ((plane.listPage resource cursor).run state).1).run
          ((plane.listPage resource cursor).run state).2 = _
      cases (plane.listPage resource cursor).run state with
      | mk answer after =>
          cases answer with
          | error source => rfl
          | ok page =>
              simp only [Listing.goOn, Bool.false_eq_true, if_false]
              cases page.next? with
              | none => rfl
              | some next =>
                  by_cases same : cursor = some next
                  · simp only [same, if_true]
                    rfl
                  · simp only [same, if_false]
                    rfl

/-- A fetch hands out what its reading of the list holds. -/
theorem run_fetchAll (plane : ControlPlane σ) (budget : Nat) (resource : ResourceType) (state : σ)
    : (fetchAll plane budget resource).run state
      = (((Listing.read plane resource budget none).run state).1.records resource,
        ((Listing.read plane resource budget none).run state).2) :=
  rfl

-----------------------------------------------------------------------------------------
-- Records that can be told apart
-----------------------------------------------------------------------------------------

/-- Records that all have an identity, no two of them the same one. -/
structure Distinguished (idField : String) (records : List Json) : Prop where
  identified : ∀ record ∈ records, ∃ id, identity record idField = some id
  distinct : (identities records idField).Nodup

/-- Records that have identities have as many of them, in their order. -/
theorem identities_of_identified {idField : String} {records : List Json}
    (identified : ∀ record ∈ records, ∃ id, identity record idField = some id)
    : (identities records idField).map some = records.map (identity · idField) := by
  induction records with
  | nil => rfl
  | cons record rest ih =>
      obtain ⟨id, found⟩ := identified record (by simp)
      have others := ih (fun other member => identified other (by simp [member]))
      simp only [identities, List.filterMap_cons, found, List.map_cons] at others ⊢
      rw [others]

/-- Records that can be told apart still can be when some of them are left out. -/
theorem Distinguished.sublist {idField : String} {records fewer : List Json}
    (told : Distinguished idField records) (sub : fewer.Sublist records)
    : Distinguished idField fewer where
  identified := fun record member => told.identified record (sub.mem member)
  distinct := told.distinct.sublist (sub.filterMap _)

/-- No two records that can be told apart have the same identity. -/
theorem Distinguished.nodup_map {idField : String} {records : List Json}
    (told : Distinguished idField records)
    : (records.map (identity · idField)).Nodup := by
  rw [← identities_of_identified told.identified]
  exact told.distinct.map (fun _ _ => Option.some.inj)

/-- Among records that can be told apart, the identity of a record is one of some chosen ones
exactly if the record is chosen itself. -/
theorem Distinguished.mem_identities_filter {idField : String} {records : List Json}
    (told : Distinguished idField records) (chosen : Json → Bool) {record : Json}
    (member : record ∈ records) {id : String} (found : identity record idField = some id)
    : id ∈ identities (records.filter chosen) idField ↔ chosen record = true := by
  unfold identities
  rw [List.mem_filterMap]
  constructor
  · rintro ⟨other, among, same⟩
    obtain ⟨inside, holds⟩ := List.mem_filter.mp among
    have one := List.inj_on_of_nodup_map told.nodup_map member inside (found.trans same.symm)
    rw [one]
    exact holds
  · intro holds
    exact ⟨record, List.mem_filter.mpr ⟨member, holds⟩, found⟩

/-- The records that are kept can be told apart from each other and from those met before.
Witness: induction on the records, where a kept identity is met before for those behind it.
-/
theorem distinctRecords_distinguished (resource : ResourceType) (seen : List String)
    (records : List Json)
    : Distinguished resource.idField (distinctRecords resource seen records).1
      ∧ ∀ id ∈ identities (distinctRecords resource seen records).1 resource.idField,
          id ∉ seen := by
  induction records generalizing seen with
  | nil => exact ⟨⟨by simp [distinctRecords], by simp [distinctRecords, identities]⟩,
      by simp [distinctRecords, identities]⟩
  | cons record rest ih =>
      cases found : identity record resource.idField with
      | none => simpa only [distinctRecords, found] using ih seen
      | some id =>
          cases met : seen.contains id with
          | true => simpa only [distinctRecords, found, met, if_true] using ih seen
          | false =>
              obtain ⟨told, fresh⟩ := ih (id :: seen)
              simp only [distinctRecords, found, met, Bool.false_eq_true, if_false]
              refine ⟨⟨?_, ?_⟩, ?_⟩
              · intro other member
                rcases List.mem_cons.mp member with same | later
                · exact ⟨id, same ▸ found⟩
                · exact told.identified other later
              · simp only [identities, List.filterMap_cons, found]
                refine List.nodup_cons.mpr ⟨?_, told.distinct⟩
                intro again
                exact fresh id again (by simp)
              · intro other member
                simp only [identities, List.filterMap_cons, found] at member
                rcases List.mem_cons.mp member with same | later
                · simpa [same] using met
                · exact fun before => fresh other later (by simp [before])

/-- The kept records come in the order in which they were met. -/
theorem distinctRecords_sublist (resource : ResourceType) (seen : List String)
    (records : List Json)
    : (distinctRecords resource seen records).1.Sublist records := by
  induction records generalizing seen with
  | nil => exact List.Sublist.slnil
  | cons record rest ih =>
      cases found : identity record resource.idField with
      | none => simpa only [distinctRecords, found] using (ih seen).cons record
      | some id =>
          cases met : seen.contains id with
          | true =>
              simpa only [distinctRecords, found, met, if_true] using (ih seen).cons record
          | false =>
              simpa only [distinctRecords, found, met, Bool.false_eq_true, if_false]
                using (ih (id :: seen)).cons_cons record

/-- Records that can be told apart from each other and from those met before are all kept. -/
theorem distinctRecords_of_distinguished {resource : ResourceType} (seen : List String)
    {records : List Json} (told : Distinguished resource.idField records)
    (unseen : ∀ id ∈ identities records resource.idField, id ∉ seen)
    : (distinctRecords resource seen records).1 = records := by
  induction records generalizing seen with
  | nil => rfl
  | cons record rest ih =>
      obtain ⟨id, found⟩ := told.identified record List.mem_cons_self
      have distinct := told.distinct
      simp only [identities, List.filterMap_cons, found, List.nodup_cons] at distinct unseen
      have fresh : seen.contains id = false := by
        simpa using unseen id List.mem_cons_self
      have later := ih (id :: seen) (told.sublist (List.sublist_cons_self record rest)) ?_
      · simp only [distinctRecords, found, fresh, Bool.false_eq_true, if_false, later]
      · intro other member
        rw [List.mem_cons, not_or]
        exact ⟨fun same => distinct.1 (same ▸ member),
          unseen other (List.mem_cons_of_mem _ member)⟩

/-- Records that can be told apart from each other and from all records in front of them are kept
behind those that are kept of the others. -/
theorem distinctRecords_append {resource : ResourceType} (seen : List String)
    {records new : List Json} (told : Distinguished resource.idField new)
    (unseen : ∀ id ∈ identities new resource.idField, id ∉ seen)
    (unmet
      : ∀ id ∈ identities new resource.idField, id ∉ identities records resource.idField)
    : (distinctRecords resource seen (records ++ new)).1
      = (distinctRecords resource seen records).1 ++ new := by
  induction records generalizing seen with
  | nil => exact distinctRecords_of_distinguished seen told unseen
  | cons record rest ih =>
      cases found : identity record resource.idField with
      | none =>
          simp only [identities, List.filterMap_cons, found] at unmet
          simpa only [List.cons_append, distinctRecords, found] using ih seen unseen unmet
      | some id =>
          simp only [identities, List.filterMap_cons, found, List.mem_cons, not_or] at unmet
          have unmetLater := fun other member => (unmet other member).2
          cases met : seen.contains id with
          | true =>
              simpa only [List.cons_append, distinctRecords, found, met, if_true]
                using ih seen unseen unmetLater
          | false =>
              have unseenLater
                  : ∀ other ∈ identities new resource.idField, other ∉ id :: seen := by
                intro other member
                rw [List.mem_cons, not_or]
                exact ⟨(unmet other member).1, unseen other member⟩
              simp only [List.cons_append, distinctRecords, found, met, Bool.false_eq_true,
                if_false, ih (id :: seen) unseenLater unmetLater]

/-- Records that a fetch hands out are those of the pages that it read, in their order, without the
ones that cannot be told apart. -/
theorem Listing.records_eq_ok {resource : ResourceType} {listing : Listing}
    {records : List Json} (handed : listing.records resource = .ok records)
    : records = (distinctRecords resource [] listing.items).1
      ∧ ∀ error, listing.ending ≠ .failed error := by
  unfold Listing.records at handed
  split at handed
  · cases handed
  · rename_i notFailed
    exact ⟨(Except.ok.inj handed).symm, fun error failed => notFailed error failed⟩

/-- A reading that did not fail hands out all records that can be told apart. -/
theorem Listing.records_of_not_failed {resource : ResourceType} {listing : Listing}
    (finished : ∀ error, listing.ending ≠ .failed error)
    : listing.records resource = .ok (distinctRecords resource [] listing.items).1 := by
  unfold Listing.records
  split
  · rename_i error failed
    exact absurd failed (finished error)
  · rfl

/-- A reading that failed hands out no records at all. -/
theorem Listing.records_eq_error {resource : ResourceType} {listing : Listing}
    {error : FetchError} (failed : listing.ending = .failed error)
    : listing.records resource = .error error := by
  rw [Listing.records, failed]

theorem Listing.records_distinguished {resource : ResourceType} {listing : Listing}
    {records : List Json} (handed : listing.records resource = .ok records)
    : Distinguished resource.idField records := by
  rw [(Listing.records_eq_ok handed).1]
  exact (distinctRecords_distinguished resource [] listing.items).1

end Remediation
