import Remediation.ControlPlane.Memory
import Remediation.Proofs.ControlPlane.Recorded
import Remediation.Proofs.Resource.Fetch
import Remediation.Proofs.Run.Selection
import Remediation.Proofs.Table

/-! The control plane in memory. Lists are read without changing what they hold, page by page to
their end, and a record that is created comes behind the others under an identity of its own.
-/

namespace Remediation

namespace Memory

-----------------------------------------------------------------------------------------
-- One call
-----------------------------------------------------------------------------------------

/-- A request for a page is written down, and then it fails or a page is served. -/
theorem run_listPage (memory : Memory) (resource : ResourceType) (cursor : Option String)
    : (Memory.listPage resource cursor).run memory
      = match (memory.note (.list resource.key cursor)).failure? resource "list" "list" [] with
        | some error => (.error error, memory.note (.list resource.key cursor))
        | none => (memory.note (.list resource.key cursor)).serve resource cursor :=
  rfl

/-- A change is written down, and then it fails or is made. -/
theorem run_perform (memory : Memory) (mutation : Mutation)
    : (Memory.perform mutation).run memory
      = match (memory.note (.mutation mutation)).failure? mutation.resource mutation.callName
            mutation.operation mutation.ids with
        | some error => (.error error, memory.note (.mutation mutation))
        | none =>
            (.ok ((memory.note (.mutation mutation)).apply mutation).1,
              ((memory.note (.mutation mutation)).apply mutation).2) :=
  rfl

-----------------------------------------------------------------------------------------
-- Lists that are not scripted
-----------------------------------------------------------------------------------------

/-- A control plane in memory that serves its records and is never cancelled. -/
structure Open (memory : Memory) : Prop where
  unscripted : memory.scripts = []
  uncancelled : memory.cancelled = false
  unlimited : memory.cancelAfter = none

/-- A state that differs from another one at most in the calls that were written down. -/
def Like (model memory : Memory) : Prop :=
  ∃ log callCount, memory = { model with log := log, callCount := callCount }

theorem Like.refl (memory : Memory) : memory.Like memory :=
  ⟨memory.log, memory.callCount, rfl⟩

theorem Open.like {model memory : Memory} (isOpen : model.Open) (like : model.Like memory)
    : memory.Open := by
  obtain ⟨log, callCount, rfl⟩ := like
  exact ⟨isOpen.unscripted, isOpen.uncancelled, isOpen.unlimited⟩

theorem Open.note {model memory : Memory} (isOpen : model.Open) (like : model.Like memory)
    (entry : LogEntry)
    : model.Like (memory.note entry) := by
  obtain ⟨log, callCount, rfl⟩ := like
  refine ⟨entry :: log, callCount + 1, ?_⟩
  simp [Memory.note, isOpen.uncancelled, isOpen.unlimited]

/-- The answer to a request for a page of the records. -/
def pageAt (memory : Memory) (resource : ResourceType) (cursor : Option String)
    : Except RemoteError Page :=
  match memory.failure? resource "list" "list" [] with
  | some error => .error error
  | none =>
      .ok
        (pageFrom (memory.recordsOf resource) memory.pageSize
          ((cursor.bind String.toNat?).getD 0))

/-- A request for a page is answered from the records and leaves them as they are. -/
theorem Open.listPage {model memory : Memory} (isOpen : model.Open) (like : model.Like memory)
    (resource : ResourceType) (cursor : Option String)
    : ∃ after,
        model.Like after
        ∧ (Memory.listPage resource cursor).run memory = (model.pageAt resource cursor, after) := by
  have noted := isOpen.note like (.list resource.key cursor)
  refine ⟨memory.note (.list resource.key cursor), noted, ?_⟩
  rw [run_listPage]
  obtain ⟨log, callCount, same⟩ := noted
  rw [same]
  change (match model.failure? resource "list" "list" [] with
    | some error => (Except.error error, _)
    | none => _) = _
  unfold pageAt
  cases model.failure? resource "list" "list" [] with
  | some error => rfl
  | none =>
      simp only [serve, isOpen.unscripted]
      rfl

/-- Lists in memory are steady. -/
theorem Open.steady {model : Memory} (isOpen : model.Open)
    : Memory.plane.recorded.Steady (fun recorded => model.Like recorded.state) model.pageAt where
  running := by
    rintro recorded ⟨log, callCount, same⟩
    change recorded.state.cancelled = false
    rw [same]
    exact isOpen.uncancelled
  answers := by
    intro recorded resource cursor like
    obtain ⟨after, _, step⟩ := isOpen.listPage like resource cursor
    exact congrArg Prod.fst step
  kept := by
    intro recorded resource cursor like
    obtain ⟨after, stillLike, step⟩ := isOpen.listPage like resource cursor
    change model.Like ((Memory.listPage resource cursor).run recorded.state).2
    rw [step]
    exact stillLike

-----------------------------------------------------------------------------------------
-- Fetching
-----------------------------------------------------------------------------------------

/-- The offset that the cursor of a page stands for. -/
theorem toNat?_toString (offset : Nat) : (toString offset).toNat? = some offset :=
  Nat.toNat?_repr offset

/-- A page in the middle of the records names the offset behind it, and the last page names none. -/
theorem next?_pageFrom (records : List Json) (size offset : Nat)
    : (pageFrom records size offset).next?
      = if offset + size < records.length then some (toString (offset + size)) else none := by
  have nonempty : (toString (offset + size)).isEmpty = false := by
    simp
  unfold pageFrom Page.next?
  by_cases more : offset + size < records.length
  · simp only [more, if_true, Option.filter_some, nonempty, Bool.not_false]
  · simp only [more, if_false, Option.filter_none]

/-- Pages that are not empty are read to the end of the records. Witness: induction on the budget;
each page takes the reading further, so that its cursor is never the one that it was asked for with.
-/
theorem read_pages {σ : Type} {plane : ControlPlane σ} {holds : σ → Prop}
    {answer : ResourceType → Option String → Except RemoteError Page}
    (steady : plane.Steady holds answer) {resource : ResourceType} {records : List Json}
    {size : Nat} (positive : 0 < size)
    (pages
      : ∀ cursor,
          answer resource cursor
          = .ok (pageFrom records size ((cursor.bind String.toNat?).getD 0)))
    {budget offset : Nat} (cursor : Option String)
    (here : (cursor.bind String.toNat?).getD 0 = offset)
    (enough : records.length ≤ offset + budget) (some : 0 < budget) {state : σ}
    (atState : holds state)
    : ((Listing.read plane resource budget cursor).run state).1.items = records.drop offset
      ∧ ((Listing.read plane resource budget cursor).run state).1.ending = .complete := by
  induction budget generalizing offset cursor state with
  | zero => exact absurd some (Nat.lt_irrefl 0)
  | succ budget ih =>
      obtain ⟨after, kept, read⟩ := steady.read_succ (pages cursor) budget atState
      rw [read, next?_pageFrom, here]
      by_cases more : offset + size < records.length
      · have onward : cursor ≠ Option.some (toString (offset + size)) := by
          rintro rfl
          rw [Option.bind_some, toNat?_toString, Option.getD_some] at here
          omega
        obtain ⟨items, ending⟩ :=
          ih (Option.some (toString (offset + size)))
            (by rw [Option.bind_some, toNat?_toString, Option.getD_some]) (by omega) (by omega)
            kept
        simp only [more, if_true, onward, if_false]
        refine ⟨?_, ending⟩
        calc
          _ = (records.drop offset).take size
                ++ ((Listing.read plane resource budget
                    (Option.some (toString (offset + size)))).run after).1.items := rfl
          _ = (records.drop offset).take size ++ (records.drop offset).drop size := by
                rw [items, List.drop_drop]
          _ = records.drop offset := List.take_append_drop size _
      · simp only [more, if_false]
        refine ⟨?_, trivial⟩
        calc
          _ = (records.drop offset).take size := List.append_nil _
          _ = records.drop offset := by
                refine List.take_of_length_le ?_
                rw [List.length_drop]
                omega

/-- The records that lists in memory hold: none if pages hold none. -/
def visible (memory : Memory) (resource : ResourceType) : List Json :=
  if memory.pageSize = 0 then [] else memory.recordsOf resource

/-- The records that a fetch from memory hands out: those of its lists that can be told apart. -/
def fetched (memory : Memory) (resource : ResourceType) : List Json :=
  (distinctRecords resource [] (memory.visible resource)).1

theorem fetched_distinguished (memory : Memory) (resource : ResourceType)
    : Distinguished resource.idField (memory.fetched resource) :=
  (distinctRecords_distinguished resource [] (memory.visible resource)).1

theorem Like.fetched {model memory : Memory} (like : model.Like memory) (resource : ResourceType)
    : memory.fetched resource = model.fetched resource := by
  obtain ⟨log, callCount, rfl⟩ := like
  rfl

/-- What a fetch hands out is in memory. -/
theorem fetched_sublist (memory : Memory) (resource : ResourceType)
    : (memory.fetched resource).Sublist (memory.recordsOf resource) := by
  refine (distinctRecords_sublist resource [] _).trans ?_
  unfold visible
  split
  · exact List.nil_sublist _
  · exact List.Sublist.refl _

/-- Pages that are empty end a list with its second page, which names the same cursor as the first.
-/
theorem read_emptyPages {σ : Type} {plane : ControlPlane σ} {holds : σ → Prop}
    {answer : ResourceType → Option String → Except RemoteError Page}
    (steady : plane.Steady holds answer) {resource : ResourceType} {records : List Json}
    (pages
      : ∀ cursor,
          answer resource cursor
          = .ok (pageFrom records 0 ((cursor.bind String.toNat?).getD 0)))
    {budget : Nat} (enough : records.length < budget) {state : σ} (atState : holds state)
    : ((Listing.read plane resource budget none).run state).1.items = []
      ∧ ∀ error,
          ((Listing.read plane resource budget none).run state).1.ending ≠ .failed error := by
  have empty : (pageFrom records 0 0).items = [] := by simp [pageFrom]
  have first : answer resource none = .ok (pageFrom records 0 0) := pages none
  have second : answer resource (some (toString 0)) = .ok (pageFrom records 0 0) := by
    rw [pages, Option.bind_some, toNat?_toString, Option.getD_some]
  obtain ⟨budget, rfl⟩ := Nat.exists_eq_add_one_of_ne_zero (Nat.ne_of_gt (Nat.zero_lt_of_lt enough))
  obtain ⟨after, kept, read⟩ := steady.read_succ first budget atState
  rw [read, next?_pageFrom]
  by_cases more : 0 + 0 < records.length
  · obtain ⟨budget, rfl⟩ := Nat.exists_eq_add_one_of_ne_zero (by omega : budget ≠ 0)
    obtain ⟨_, _, again⟩ := steady.read_succ second budget kept
    rw [next?_pageFrom] at again
    simp only [more, if_true, Nat.add_zero] at again
    simp only [more, if_true, Nat.add_zero, reduceCtorEq, if_false]
    rw [again]
    exact ⟨by simp [Listing.items, Listing.after, empty], by simp [Listing.after]⟩
  · simp only [more, if_false]
    exact ⟨(List.append_nil _).trans empty, by simp⟩

/-- A fetch from memory hands out the records that can be told apart, unless a rule makes lists
fail.
-/
theorem Open.fetchAll {model : Memory} (isOpen : model.Open) (resource : ResourceType)
    {budget : Nat} (enough : (model.recordsOf resource).length < budget) {start : Recorded Memory}
    (like : model.Like start.state)
    : ((Remediation.fetchAll Memory.plane.recorded budget resource).run start).1
      = match model.failure? resource "list" "list" [] with
        | some source => .error (.remote resource.key source)
        | none => .ok (model.fetched resource) := by
  change Listing.records resource
    ((Listing.read Memory.plane.recorded resource budget none).run start).1 = _
  cases failure : model.failure? resource "list" "list" [] with
  | some source =>
      obtain ⟨budget, rfl⟩ :=
        Nat.exists_eq_add_one_of_ne_zero (Nat.ne_of_gt (Nat.zero_lt_of_lt enough))
      refine Listing.records_eq_error ?_
      rw [Listing.run_read_succ, isOpen.steady.running like]
      have answered := isOpen.steady.answers resource none like
      rw [pageAt, failure] at answered
      simp only [Bool.false_eq_true, if_false]
      cases read : (Memory.plane.recorded.listPage resource none).run start with
      | mk page after =>
          rw [read] at answered
          cases answered
          rfl
  | none =>
      have pages (cursor : Option String)
          : model.pageAt resource cursor
            = .ok
              (pageFrom (model.recordsOf resource) model.pageSize
                ((cursor.bind String.toNat?).getD 0)) := by
        rw [pageAt, failure]
      unfold fetched visible
      by_cases noSize : model.pageSize = 0
      · rw [noSize] at pages
        obtain ⟨items, finished⟩ := read_emptyPages isOpen.steady pages enough like
        rw [Listing.records_of_not_failed finished, items, if_pos noSize]
      · have first : ((none : Option String).bind String.toNat?).getD 0 = 0 := rfl
        have within : (model.recordsOf resource).length ≤ 0 + budget := by omega
        obtain ⟨items, ending⟩ :=
          read_pages isOpen.steady (Nat.pos_of_ne_zero noSize) pages none first within (by omega)
            like
        rw [Listing.records_of_not_failed (by simp [ending]), items, if_neg noSize]
        rfl

-----------------------------------------------------------------------------------------
-- Creating
-----------------------------------------------------------------------------------------

/-- The identity of the record that is created as one of some number. -/
def newId (count : Nat) : String :=
  s!"new-{count}"

theorem newId_injective {first second : Nat} (same : newId first = newId second)
    : first = second := by
  simpa [newId] using same

theorem le_length_newId (count : Nat) : 4 ≤ (newId count).length := by
  have long : (newId count).length = "new-".length + (toString count).length :=
    String.length_append _ _
  rw [long]
  exact Nat.le_add_right 4 _

/-- What a body becomes when it is created as one of some number. -/
def stored (idField : String) (count : Nat) (body : Json) : Json :=
  .object (Table.insert idField (.string (newId count)) (body.fields?.getD []))

theorem identity_stored (idField : String) (count : Nat) (body : Json)
    : identity (stored idField count body) idField = some (newId count) := by
  have nonempty : (newId count).isEmpty = false := by
    simp [newId]
  simp [identity, stored, Json.field?, nonempty]

/-- What bodies become when they are created one after the other. -/
def storedAll (idField : String) : Nat → List Json → List Json
  | _, [] => []
  | count, body :: rest => stored idField (count + 1) body :: storedAll idField (count + 1) rest

/-- Records that are created have the identities of their numbers. -/
theorem identities_storedAll (idField : String) (count : Nat) (bodies : List Json)
    : identities (storedAll idField count bodies) idField
      = (List.range' (count + 1) bodies.length).map newId := by
  induction bodies generalizing count with
  | nil => rfl
  | cons body rest ih =>
      simp only [storedAll, identities, List.filterMap_cons, identity_stored] at ih ⊢
      rw [ih (count + 1)]
      rfl

theorem length_storedAll (idField : String) (count : Nat) (bodies : List Json)
    : (storedAll idField count bodies).length = bodies.length := by
  induction bodies generalizing count with
  | nil => rfl
  | cons body rest ih => exact congrArg Nat.succ (ih (count + 1))

/-- Records that are created can be told apart. -/
theorem storedAll_distinguished (idField : String) (count : Nat) (bodies : List Json)
    : Distinguished idField (storedAll idField count bodies) where
  identified := by
    induction bodies generalizing count with
    | nil => simp [storedAll]
    | cons body rest ih =>
        intro record member
        rcases List.mem_cons.mp member with rfl | later
        · exact ⟨_, identity_stored idField (count + 1) body⟩
        · exact ih (count + 1) record later
  distinct := by
    rw [identities_storedAll]
    exact List.Nodup.map (fun _ _ => newId_injective) List.nodup_range'

theorem exists_of_mem_storedAll {idField : String} {count : Nat} {bodies : List Json}
    {record : Json} (member : record ∈ storedAll idField count bodies)
    : ∃ body ∈ bodies, ∃ number, count < number ∧ record = stored idField number body := by
  induction bodies generalizing count with
  | nil => cases member
  | cons body rest ih =>
      rcases List.mem_cons.mp member with first | later
      · exact ⟨body, List.mem_cons_self, count + 1, Nat.lt_succ_self count, first⟩
      · obtain ⟨other, inside, number, above, same⟩ := ih later
        exact ⟨other, List.mem_cons_of_mem _ inside, number, by omega, same⟩

/-- Memory after bodies were created in it. -/
def grown (memory : Memory) (target : ResourceType) (bodies : List Json) : Memory :=
  bodies.foldl (fun memory body => (memory.apply (.create target body)).2) memory

theorem Open.apply_create {memory : Memory} (isOpen : memory.Open) (target : ResourceType)
    (body : Json)
    : (memory.apply (.create target body)).2.Open :=
  ⟨isOpen.unscripted, isOpen.uncancelled, isOpen.unlimited⟩

/-- What was created comes behind the records that were there. -/
theorem recordsOf_grown (memory : Memory) (target : ResourceType) (bodies : List Json)
    : (memory.grown target bodies).recordsOf target
      = memory.recordsOf target ++ storedAll target.idField memory.created bodies := by
  induction bodies generalizing memory with
  | nil => exact (List.append_nil _).symm
  | cons body rest ih =>
      have first
          : (memory.apply (.create target body)).2.recordsOf target
            = memory.recordsOf target ++ [stored target.idField (memory.created + 1) body] := by
        simp only [recordsOf, apply, Table.get?_insert_self, Option.getD_some]
        rfl
      change ((memory.apply (.create target body)).2.grown target rest).recordsOf target = _
      rw [ih, first, List.append_assoc]
      rfl

/-- Records of other types stay what they are. -/
theorem recordsOf_grown_of_ne (memory : Memory) {target other : ResourceType}
    (different : other.key ≠ target.key) (bodies : List Json)
    : (memory.grown target bodies).recordsOf other = memory.recordsOf other := by
  induction bodies generalizing memory with
  | nil => rfl
  | cons body rest ih =>
      change ((memory.apply (.create target body)).2.grown target rest).recordsOf other = _
      rw [ih]
      simp only [recordsOf, apply, Table.get?_insert_of_ne different]

theorem grown_pageSize (memory : Memory) (target : ResourceType) (bodies : List Json)
    : (memory.grown target bodies).pageSize = memory.pageSize := by
  induction bodies generalizing memory with
  | nil => rfl
  | cons body rest ih => exact ih _

/-- A fetch hands out what it did before, and behind it what was created, if this is of the same
type and its identities are fresh. -/
theorem fetched_grown {memory : Memory} {resource target : ResourceType}
    (apart : target = resource ∨ resource.key ≠ target.key)
    (fresh
      : ∀ number,
          memory.created < number
          → newId number ∉ identities (memory.recordsOf resource) resource.idField)
    (bodies : List Json)
    : ∃ added,
        (memory.grown target bodies).fetched resource = memory.fetched resource ++ added
        ∧ ∀ record ∈ added,
            target = resource ∧ record ∈ storedAll resource.idField memory.created bodies := by
  unfold fetched visible
  rw [grown_pageSize]
  split
  · exact ⟨[], (List.append_nil _).symm, by simp⟩
  · rcases apart with rfl | different
    · refine ⟨_, ?_, fun record member => ⟨rfl, member⟩⟩
      rw [recordsOf_grown]
      refine distinctRecords_append [] (storedAll_distinguished _ _ _) (by simp) ?_
      intro id member
      rw [identities_storedAll] at member
      obtain ⟨number, inside, rfl⟩ := List.mem_map.mp member
      rw [List.mem_range'_1] at inside
      exact fresh number (by omega)
    · rw [recordsOf_grown_of_ne memory different]
      exact ⟨[], (List.append_nil _).symm, by simp⟩

theorem Open.grown {memory : Memory} (isOpen : memory.Open) (target : ResourceType)
    (bodies : List Json)
    : (memory.grown target bodies).Open := by
  induction bodies generalizing memory with
  | nil => exact isOpen
  | cons body rest ih => exact ih (isOpen.apply_create target body)

theorem grown_rules (memory : Memory) (target : ResourceType) (bodies : List Json)
    : (memory.grown target bodies).rules = memory.rules := by
  induction bodies generalizing memory with
  | nil => rfl
  | cons body rest ih => exact ih _

/-- Lists that were answered lead to a state with the same records. -/
theorem Open.leads_lists {model before after : Memory} (isOpen : model.Open)
    (like : model.Like before) {lists : List Exchange}
    (leads : Memory.plane.Leads before lists after)
    (onlyLists : ∀ exchange ∈ lists, exchange.isList = true)
    : model.Like after := by
  induction leads with
  | nothing => exact like
  | @call before middle after exchange others first rest ih =>
      refine ih ?_ (fun other member => onlyLists other (List.mem_cons_of_mem _ member))
      have isList := onlyLists exchange List.mem_cons_self
      obtain ⟨call, cancelled⟩ := exchange
      cases call with
      | change mutation answer => cases isList
      | list resource cursor answer =>
          obtain ⟨next, stillLike, step⟩ := isOpen.listPage like resource cursor
          have same := first.2.symm.trans step
          cases same
          exact stillLike

/-- A record that was created successfully leads to a state that has it. -/
theorem Open.perform_create {model before after : Memory} (isOpen : model.Open)
    (like : model.Like before) {target : ResourceType} {body response : Json}
    (created
      : (Memory.perform (.create target body)).run before = (Except.ok response, after))
    : (model.apply (.create target body)).2.Like after := by
  obtain ⟨log, callCount, noted⟩ := isOpen.note like (.mutation (.create target body))
  rw [run_perform] at created
  split at created
  · cases created
  · rw [noted] at created
    cases created
    exact ⟨log, callCount, rfl⟩

/-- Records that were created one after the other, each successfully, lead to a state that has them.
-/
theorem Open.leads_creates {model before after : Memory} (isOpen : model.Open)
    (like : model.Like before) (target : ResourceType) {changes : List Exchange}
    (leads : Memory.plane.Leads before changes after)
    (creates
      : ∀ exchange ∈ changes, ∃ body response,
          exchange.call = .change (.create target body) (.ok response))
    : ∃ bodies,
        mutationsOf changes = bodies.map (.create target)
        ∧ (model.grown target bodies).Like after := by
  induction leads generalizing model with
  | nothing => exact ⟨[], rfl, like⟩
  | @call before middle after exchange others first rest ih =>
      obtain ⟨body, response, created⟩ := creates exchange List.mem_cons_self
      obtain ⟨call, cancelled⟩ := exchange
      subst created
      have next := isOpen.perform_create like first.2
      obtain ⟨bodies, asked, grown⟩ :=
        ih (isOpen.apply_create target body) next
          (fun other member => creates other (List.mem_cons_of_mem _ member))
      refine ⟨body :: bodies, ?_, grown⟩
      rw [List.map_cons, ← asked]
      rfl

-----------------------------------------------------------------------------------------
-- Runs that are never cancelled
-----------------------------------------------------------------------------------------

/-- Nothing cancels a run: it is not cancelled, and no call is meant to cancel it. -/
structure Calm (memory : Memory) : Prop where
  uncancelled : memory.cancelled = false
  unlimited : memory.cancelAfter = none

theorem Open.calm {memory : Memory} (isOpen : memory.Open) : memory.Calm :=
  ⟨isOpen.uncancelled, isOpen.unlimited⟩

theorem Calm.note {memory : Memory} (calm : memory.Calm) (entry : LogEntry)
    : (memory.note entry).Calm where
  uncancelled := by simp [Memory.note, calm.uncancelled, calm.unlimited]
  unlimited := calm.unlimited

theorem Calm.serve {memory : Memory} (calm : memory.Calm) (resource : ResourceType)
    (cursor : Option String)
    : (memory.serve resource cursor).2.Calm := by
  unfold Memory.serve
  split
  · exact calm
  · exact calm
  · split
    · exact ⟨calm.uncancelled, calm.unlimited⟩
    · exact ⟨calm.uncancelled, calm.unlimited⟩

theorem Calm.changeRecords {memory : Memory} (calm : memory.Calm) (resource : ResourceType)
    (ids : List String) (change : Fields → Fields)
    : (memory.changeRecords resource ids change).Calm := by
  unfold Memory.changeRecords
  dsimp only
  split
  · exact ⟨calm.uncancelled, calm.unlimited⟩
  · exact calm

theorem Calm.apply {memory : Memory} (calm : memory.Calm) (mutation : Mutation)
    : (memory.apply mutation).2.Calm := by
  cases mutation with
  | setEnabled resource ids enabled => exact calm.changeRecords resource ids _
  | update resource operation id body => exact calm.changeRecords resource [id] _
  | delete _ _ | create _ _ | publish _ _ _ _ => exact ⟨calm.uncancelled, calm.unlimited⟩

/-- Whatever calls are made, calm stays. -/
theorem Calm.leads {before after : Memory} (calm : before.Calm) {made : List Exchange}
    (leads : Memory.plane.Leads before made after)
    : after.Calm := by
  induction leads with
  | nothing => exact calm
  | @call before middle after exchange others first rest ih =>
      obtain ⟨call, cancelled⟩ := exchange
      refine ih ?_
      cases call with
      | list resource cursor answer =>
          have there : ((Memory.listPage resource cursor).run before).2 = middle :=
            congrArg Prod.snd first.2
          rw [← there, run_listPage]
          split
          · exact calm.note _
          · exact (calm.note _).serve resource cursor
      | change mutation answer =>
          have there : ((Memory.perform mutation).run before).2 = middle :=
            congrArg Prod.snd first.2
          rw [← there, run_perform]
          split
          · exact calm.note _
          · exact (calm.note _).apply mutation

-----------------------------------------------------------------------------------------
-- Runs in which every call succeeds
-----------------------------------------------------------------------------------------

/-- Nothing makes a call fail: there are no rules, and no list is scripted. -/
structure Granting (memory : Memory) : Prop where
  unruled : memory.rules = []
  unscripted : memory.scripts = []

theorem Granting.note {memory : Memory} (granting : memory.Granting) (entry : LogEntry)
    : (memory.note entry).Granting :=
  ⟨granting.unruled, granting.unscripted⟩

theorem Granting.failure? {memory : Memory} (granting : memory.Granting) (resource : ResourceType)
    (call operation : String) (ids : List String)
    : memory.failure? resource call operation ids = none := by
  rw [Memory.failure?, granting.unruled]
  rfl

theorem Granting.changeRecords {memory : Memory} (granting : memory.Granting)
    (resource : ResourceType) (ids : List String) (change : Fields → Fields)
    : (memory.changeRecords resource ids change).Granting := by
  unfold Memory.changeRecords
  dsimp only
  split
  · exact ⟨granting.unruled, granting.unscripted⟩
  · exact granting

theorem Granting.apply {memory : Memory} (granting : memory.Granting) (mutation : Mutation)
    : (memory.apply mutation).2.Granting := by
  cases mutation with
  | setEnabled resource ids enabled => exact granting.changeRecords resource ids _
  | update resource operation id body => exact granting.changeRecords resource [id] _
  | delete _ _ | create _ _ | publish _ _ _ _ => exact ⟨granting.unruled, granting.unscripted⟩

/-- A call is answered with what it asks for, and so is the one after it. -/
theorem Granting.call {before after : Memory} (granting : before.Granting) {exchange : Exchange}
    (leads : exchange.leads Memory.plane before after)
    : exchange.succeeded = true ∧ after.Granting := by
  obtain ⟨call, cancelled⟩ := exchange
  cases call with
  | list resource cursor answer =>
      have answered : (Memory.listPage resource cursor).run before = (answer, after) := leads.2
      rw [run_listPage, (granting.note _).failure?] at answered
      simp only [Memory.serve, (granting.note _).unscripted] at answered
      cases answered
      exact ⟨rfl, granting.note _⟩
  | change mutation answer =>
      have answered : (Memory.perform mutation).run before = (answer, after) := leads.2
      rw [run_perform, (granting.note _).failure?] at answered
      cases answered
      exact ⟨rfl, (granting.note _).apply mutation⟩

/-- Whatever calls are made, all of them succeed. -/
theorem Granting.succeeded {before after : Memory} (granting : before.Granting)
    {made : List Exchange} (leads : Memory.plane.Leads before made after)
    : ∀ exchange ∈ made, exchange.succeeded = true := by
  induction leads with
  | nothing => simp
  | call first rest ih =>
      obtain ⟨succeeded, next⟩ := granting.call first
      intro exchange member
      rcases List.mem_cons.mp member with rfl | later
      · exact succeeded
      · exact ih next exchange later

end Memory

end Remediation
