import Remediation.Proofs.ControlPlane.Memory
import Remediation.Proofs.Run.Steps

/-! Control planes that hold a stock of records: lists read all of it, however it is divided into
pages, and deleting takes away the records that carry one of the given identities. What a fetch
hands out after that is what it handed out before, without these records; a repeated record never
takes the place of one that was deleted, as both carry the same identity.
-/

namespace Remediation

variable {σ : Type}

-----------------------------------------------------------------------------------------
-- Records that are taken away
-----------------------------------------------------------------------------------------

/-- Records without those that carry one of some identities. -/
def withoutIds (idField : String) (ids : List String) (records : List Json) : List Json :=
  records.filter (fun record => (identity record idField).all (!ids.contains ·))

theorem withoutIds_nil (idField : String) (records : List Json)
    : withoutIds idField [] records = records := by
  refine List.filter_eq_self.mpr (fun record _ => ?_)
  cases identity record idField <;> rfl

/-- Identities can be taken away one part after the other. -/
theorem withoutIds_append (idField : String) (ids more : List String) (records : List Json)
    : withoutIds idField (ids ++ more) records
      = withoutIds idField more (withoutIds idField ids records) := by
  unfold withoutIds
  rw [List.filter_filter]
  refine List.filter_congr (fun record _ => ?_)
  cases identity record idField with
  | none => rfl
  | some id => simp [Bool.and_comm]

/-- Taking identities away before or after records that cannot be told apart are dropped comes to
the same. Witness: induction on the records; two lists of identities met before do not differ in
what they drop, if they differ only in identities that are taken away.
-/
theorem distinctRecords_withoutIds (resource : ResourceType) (ids : List String)
    (records : List Json) {met seen : List String} (agree : ∀ id, id ∉ ids → (id ∈ met ↔ id ∈ seen))
    : (distinctRecords resource met (withoutIds resource.idField ids records)).1
      = withoutIds resource.idField ids (distinctRecords resource seen records).1 := by
  induction records generalizing met seen with
  | nil => rfl
  | cons record rest ih =>
      cases found : identity record resource.idField with
      | none =>
          have left
              : withoutIds resource.idField ids (record :: rest)
                = record :: withoutIds resource.idField ids rest := by
            simp [withoutIds, found]
          rw [left]
          simpa only [distinctRecords, found] using ih agree
      | some id =>
          by_cases gone : id ∈ ids
          · have left
                : withoutIds resource.idField ids (record :: rest)
                  = withoutIds resource.idField ids rest := by
              simp [withoutIds, found, gone]
            rw [left]
            cases before : seen.contains id with
            | true => simpa only [distinctRecords, found, before, if_true] using ih agree
            | false =>
                simp only [distinctRecords, found, before, Bool.false_eq_true, if_false]
                have dropped (kept : List Json)
                    : withoutIds resource.idField ids (record :: kept)
                      = withoutIds resource.idField ids kept := by
                  simp [withoutIds, found, gone]
                rw [dropped]
                refine ih (fun other stays => (agree other stays).trans ?_)
                have different : other ≠ id := fun same => stays (same ▸ gone)
                simp [different]
          · have stays (kept : List Json)
                : withoutIds resource.idField ids (record :: kept)
                  = record :: withoutIds resource.idField ids kept := by
              simp [withoutIds, found, gone]
            rw [stays]
            have same : met.contains id = seen.contains id := by
              rw [Bool.eq_iff_iff, List.contains_iff_mem, List.contains_iff_mem]
              exact agree id gone
            cases before : seen.contains id with
            | true =>
                simp only [distinctRecords, found, same, before, if_true]
                exact ih agree
            | false =>
                simp only [distinctRecords, found, same, before, Bool.false_eq_true, if_false]
                rw [stays]
                refine congrArg (record :: ·) (ih (fun other left => ?_))
                simp only [List.mem_cons, agree other left]

/-- Without the identities of the records that are chosen, the others are left. -/
theorem Distinguished.withoutIds_filter {idField : String} {records : List Json}
    (told : Distinguished idField records) (chosen : Json → Bool)
    : withoutIds idField (identities (records.filter chosen) idField) records
      = records.filter (fun record => !chosen record) := by
  refine List.filter_congr (fun record member => ?_)
  obtain ⟨id, found⟩ := told.identified record member
  rw [found, Option.all_some, Bool.not_inj_iff, Bool.eq_iff_iff, List.contains_iff_mem]
  exact told.mem_identities_filter chosen member found

-----------------------------------------------------------------------------------------
-- Lists that are read to their end
-----------------------------------------------------------------------------------------

/-- Asking for at most a number of pages of a list, one after the other and each with the cursor of
the page before, hands out records and leads from a state to another one. -/
inductive ControlPlane.Lists (plane : ControlPlane σ) (resource : ResourceType)
    : Nat → Option String → σ → List Json → σ → Prop
  | last {budget : Nat} {cursor : Option String} {before after : σ} {page : Page}
    (answered : (plane.listPage resource cursor).run before = (.ok page, after))
    (ends : page.next? = none)
    : Lists plane resource (budget + 1) cursor before page.items after
  | goesOn {budget : Nat} {cursor : Option String} {next : String} {before middle after : σ}
    {page : Page} {items : List Json}
    (answered : (plane.listPage resource cursor).run before = (.ok page, middle))
    (named : page.next? = some next) (onward : cursor ≠ some next)
    (others : Lists plane resource budget (some next) middle items after)
    : Lists plane resource (budget + 1) cursor before (page.items ++ items) after

/-- A reading hands out what the list holds, unless the run is cancelled before its end. -/
theorem ControlPlane.Lists.read {plane : ControlPlane σ} {resource : ResourceType} {budget : Nat}
    {cursor : Option String} {before after : σ} {items : List Json}
    (lists : plane.Lists resource budget cursor before items after)
    : (∃ pages,
        (Listing.read plane resource budget cursor).run before = (⟨pages, .complete⟩, after)
        ∧ pages.flatMap Page.items = items)
      ∨ ∃ pages stopped,
          (Listing.read plane resource budget cursor).run before
            = (⟨pages, .failed .cancelled⟩, stopped)
          ∧ plane.cancelled stopped = true := by
  induction lists with
  | @last budget cursor before after page answered ends =>
      rw [Listing.run_read_succ]
      cases cancelled : plane.cancelled before with
      | true => exact .inr ⟨_, _, rfl, cancelled⟩
      | false =>
          simp only [Bool.false_eq_true, if_false, answered, ends]
          exact .inl ⟨_, rfl, List.append_nil _⟩
  | @goesOn budget cursor next before middle after page items answered named onward _ ih =>
      rw [Listing.run_read_succ]
      cases cancelled : plane.cancelled before with
      | true => exact .inr ⟨_, _, rfl, cancelled⟩
      | false =>
          simp only [Bool.false_eq_true, if_false, answered, named, onward]
          rcases ih with ⟨pages, read, joined⟩ | ⟨pages, stopped, read, atStop⟩
          · rw [read]
            exact .inl ⟨page :: pages, rfl, congrArg (page.items ++ ·) joined⟩
          · rw [read]
            exact .inr ⟨page :: pages, stopped, rfl, atStop⟩

/-- A control plane that holds a stock of records of a type in the states of some kind: a list reads
the stock to its end within a budget of pages, and a deletion that succeeds takes away the records
that carry one of its identities and no other ones.
-/
structure ControlPlane.Stocks (plane : ControlPlane σ) (resource : ResourceType) (budget : Nat)
    (holds : σ → Prop) (stock : σ → List Json)
    : Prop where
  lists
    : ∀ {state},
        holds state
        → ∃ after,
            plane.Lists resource budget none state (stock state) after
            ∧ holds after
            ∧ stock after = stock state
  deletes
    : ∀ {state after ids response},
        holds state
        → (plane.perform (.delete resource ids)).run state = (.ok response, after)
        → holds after ∧ stock after = withoutIds resource.idField ids (stock state)

/-- A fetch hands out the records of the stock that can be told apart, unless the run is cancelled
while it goes on. -/
theorem ControlPlane.Stocks.fetch {setting : RunSetting σ} {resource : ResourceType}
    {holds : σ → Prop} {stock : σ → List Json}
    (stocks : setting.plane.Stocks resource setting.pageBudget holds stock) {state : σ}
    (atState : holds state)
    : (∃ after,
        outcomeOf (setting.fetch resource) state
          = (.ok (distinctRecords resource [] (stock state)).1, after)
        ∧ holds after
        ∧ stock after = stock state)
      ∨ ∃ stopped,
          outcomeOf (setting.fetch resource) state = (.error .cancelled, stopped)
          ∧ setting.plane.cancelled stopped = true := by
  have fetched
      : (fetchAll setting.plane setting.pageBudget resource).run state
        = (((Listing.read setting.plane resource setting.pageBudget none).run
            state).1.records resource,
          ((Listing.read setting.plane resource setting.pageBudget none).run state).2) := rfl
  rw [RunSetting.outcomeOf_fetch, fetched]
  obtain ⟨after, lists, held, same⟩ := stocks.lists atState
  rcases lists.read with ⟨pages, read, joined⟩ | ⟨pages, stopped, read, cancelled⟩
  · left
    refine ⟨after, ?_, held, same⟩
    rw [read, ← joined]
    rfl
  · right
    refine ⟨stopped, ?_, cancelled⟩
    rw [read]
    rfl

-----------------------------------------------------------------------------------------
-- The stock in memory
-----------------------------------------------------------------------------------------

namespace Memory

/-- Memory whose lists of a type are served from its records: they are not scripted and no rule
makes them fail, pages are not empty, and there are no more of them than a budget allows. -/
structure Stocked (resource : ResourceType) (budget : Nat) (memory : Memory) : Prop where
  unscripted : memory.scripts = []
  granted : memory.failure? resource "list" "list" [] = none
  paged : 0 < memory.pageSize
  enough : (memory.recordsOf resource).length < budget

variable {memory : Memory} {resource : ResourceType} {budget : Nat}

theorem Stocked.note (stocked : memory.Stocked resource budget) (entry : LogEntry)
    : (memory.note entry).Stocked resource budget :=
  ⟨stocked.unscripted, stocked.granted, stocked.paged, stocked.enough⟩

theorem Stocked.listPage (stocked : memory.Stocked resource budget) (cursor : Option String)
    : (Memory.plane.listPage resource cursor).run memory
      = (.ok
          (pageFrom (memory.recordsOf resource) memory.pageSize
            ((cursor.bind String.toNat?).getD 0)),
        memory.note (.list resource.key cursor)) := by
  change (Memory.listPage resource cursor).run memory = _
  have noted := stocked.note (.list resource.key cursor)
  rw [run_listPage, noted.granted]
  simp only [serve, noted.unscripted]
  rfl

/-- Pages are read to the end of the records. Witness: induction on the pages that may be read; each
one takes the reading further. -/
theorem Stocked.lists (stocked : memory.Stocked resource budget) {pages offset : Nat}
    (cursor : Option String) (here : (cursor.bind String.toNat?).getD 0 = offset)
    (enough : (memory.recordsOf resource).length ≤ offset + pages) (some : 0 < pages)
    : ∃ after,
        Memory.plane.Lists resource pages cursor memory ((memory.recordsOf resource).drop offset)
          after
        ∧ after.Stocked resource budget
        ∧ after.recordsOf resource = memory.recordsOf resource := by
  induction pages generalizing memory offset cursor with
  | zero => exact absurd some (Nat.lt_irrefl 0)
  | succ pages ih =>
      have answered := stocked.listPage cursor
      have noted := stocked.note (.list resource.key cursor)
      have next := next?_pageFrom (memory.recordsOf resource) memory.pageSize offset
      have positive := stocked.paged
      rw [here] at answered
      by_cases more : offset + memory.pageSize < (memory.recordsOf resource).length
      · rw [if_pos more] at next
        have there
            : ((Option.some (toString (offset + memory.pageSize))).bind String.toNat?).getD 0
              = offset + memory.pageSize := by
          rw [Option.bind_some, toNat?_toString, Option.getD_some]
        have onward : cursor ≠ Option.some (toString (offset + memory.pageSize)) := by
          rintro rfl
          omega
        have left
            : ((memory.note (.list resource.key cursor)).recordsOf resource).length
              ≤ offset + memory.pageSize + pages := by
          change (memory.recordsOf resource).length ≤ _
          omega
        obtain ⟨after, others, held, same⟩ := ih noted _ there left (by omega)
        refine ⟨after, ?_, held, same⟩
        have all
            : (memory.recordsOf resource).drop offset
              = (pageFrom (memory.recordsOf resource) memory.pageSize offset).items
                ++ (memory.recordsOf resource).drop (offset + memory.pageSize) := by
          rw [← List.drop_drop]
          exact (List.take_append_drop _ _).symm
        rw [all]
        exact .goesOn answered next onward others
      · rw [if_neg more] at next
        refine ⟨_, ?_, noted, rfl⟩
        have all
            : (memory.recordsOf resource).drop offset
              = (pageFrom (memory.recordsOf resource) memory.pageSize offset).items := by
          refine (List.take_of_length_le ?_).symm
          rw [List.length_drop]
          omega
        rw [all]
        exact .last answered next

/-- Deleting takes the records with the given identities out of the memory. -/
theorem recordsOf_delete (memory : Memory) (resource : ResourceType) (ids : List String)
    : (memory.apply (.delete resource ids)).2.recordsOf resource
      = withoutIds resource.idField ids (memory.recordsOf resource) := by
  cases found : Table.get? memory.records resource.key with
  | none => simp [apply, recordsOf, Table.contains, found, withoutIds]
  | some records => simp [apply, recordsOf, Table.contains, found, withoutIds]

/-- The control plane in memory holds a stock: its records. -/
theorem stocks (resource : ResourceType) (budget : Nat)
    : Memory.plane.Stocks resource budget (Stocked resource budget) (recordsOf · resource) where
  lists := by
    intro memory stocked
    have within := stocked.enough
    exact stocked.lists none rfl (by omega) (by omega)
  deletes := by
    intro memory after ids response stocked performed
    have noted := stocked.note (.mutation (.delete resource ids))
    have deleted
        : after
          = ((memory.note (.mutation (.delete resource ids))).apply (.delete resource ids)).2 := by
      change (Memory.perform (.delete resource ids)).run memory = _ at performed
      rw [run_perform] at performed
      split at performed
      · cases performed
      · exact (Prod.mk.inj performed).2.symm
    subst deleted
    refine ⟨⟨noted.unscripted, noted.granted, noted.paged, ?_⟩, recordsOf_delete _ _ _⟩
    rw [recordsOf_delete]
    exact Nat.lt_of_le_of_lt (List.length_filter_le _ _) noted.enough

end Memory

end Remediation
