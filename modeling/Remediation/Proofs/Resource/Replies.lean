import Mathlib.Data.List.Induction
import Remediation.Proofs.Run.Transparency

/-! Fetches as functions of the replies to their requests. The requests of a reading follow from the
replies before them, a reply that leads no further is the last one, and what a fetch hands out
follows from the records of all replies together: where one page ends and the next one starts makes
no difference.
-/

namespace Remediation

variable {σ : Type}

-----------------------------------------------------------------------------------------
-- The first record of each identity
-----------------------------------------------------------------------------------------

/-- Whether a record has an identity that is none of those met before. -/
def isNew (idField : String) (seen : List String) (record : Json) : Bool :=
  (identity record idField).any (fun id => !seen.contains id)

/-- Whether the record at a place has an identity that no record before it has. -/
def isFirst (idField : String) (records : List Json) (place : Nat) : Bool :=
  records[place]?.any (isNew idField (identities (records.take place) idField))

/-- The records that have an identity which no record before them has, in their order. -/
def firsts (idField : String) (records : List Json) : List Json :=
  ((List.range records.length).filter (isFirst idField records)).filterMap (records[·]?)

/-- Only which identities were met before matters, and not how often or in which order. -/
theorem isNew_congr {idField : String} {seen other : List String}
    (same : ∀ id, id ∈ seen ↔ id ∈ other)
    : isNew idField seen = isNew idField other := by
  funext record
  unfold isNew
  congr 1
  funext id
  have met : seen.contains id = other.contains id := by
    rw [Bool.eq_iff_iff, List.contains_iff_mem, List.contains_iff_mem]
    exact same id
  rw [met]

/-- One more record is kept if it has an identity that none of the others has. -/
theorem firsts_concat (idField : String) (records : List Json) (record : Json)
    : firsts idField (records ++ [record])
      = firsts idField records ++ [record].filter (isNew idField (identities records idField)) := by
  have inside {place : Nat} (member : place ∈ List.range records.length)
      : isFirst idField (records ++ [record]) place = isFirst idField records place := by
    have less : place < records.length := List.mem_range.mp member
    unfold isFirst
    rw [List.getElem?_append_left less, List.take_append_of_le_length (Nat.le_of_lt less)]
  have last
      : isFirst idField (records ++ [record]) records.length
        = isNew idField (identities records idField) record := by
    unfold isFirst
    rw [List.getElem?_concat_length, List.take_left, Option.any_some]
  have found
      : ((List.range records.length).filter (isFirst idField (records ++ [record]))).filterMap
          ((records ++ [record])[·]?)
        = firsts idField records := by
    rw [List.filter_congr (fun place member => inside member)]
    refine List.filterMap_congr (fun place member => ?_)
    exact List.getElem?_append_left (List.mem_range.mp (List.mem_filter.mp member).1)
  rw [firsts, List.length_append, List.length_singleton, List.range_succ, List.filter_append,
    List.filterMap_append, found, List.filter_singleton, List.filter_singleton, last]
  cases isNew idField (identities records idField) record with
  | true => simp
  | false => simp

/-- The last one of some records is kept if its identity is none of those met before. -/
theorem distinctRecords_concat (resource : ResourceType) (seen : List String)
    (records : List Json) (record : Json)
    : (distinctRecords resource seen (records ++ [record])).1
      = (distinctRecords resource seen records).1
        ++ [record].filter
            (isNew resource.idField (seen ++ identities records resource.idField)) := by
  induction records generalizing seen with
  | nil =>
      cases found : identity record resource.idField with
      | none => simp [distinctRecords, found, isNew]
      | some id =>
          by_cases met : id ∈ seen
          · simp [distinctRecords, found, met, identities, isNew]
          · simp [distinctRecords, found, met, identities, isNew]
  | cons first rest ih =>
      cases named : identity first resource.idField with
      | none =>
          have same : identities (first :: rest) resource.idField
              = identities rest resource.idField := by
            simp only [identities, List.filterMap_cons, named]
          simp only [List.cons_append, distinctRecords, named, ih, same]
      | some id =>
          have same : identities (first :: rest) resource.idField
              = id :: identities rest resource.idField := by
            simp only [identities, List.filterMap_cons, named]
          rw [same]
          by_cases met : id ∈ seen
          · have known : seen.contains id = true := List.contains_iff_mem.mpr met
            have alike
                : isNew resource.idField (seen ++ id :: identities rest resource.idField)
                  = isNew resource.idField (seen ++ identities rest resource.idField) := by
              refine isNew_congr (fun other => ?_)
              simp only [List.mem_append, List.mem_cons]
              constructor
              · rintro (before | rfl | later)
                · exact .inl before
                · exact .inl met
                · exact .inr later
              · rintro (before | later)
                · exact .inl before
                · exact .inr (.inr later)
            simp only [List.cons_append, distinctRecords, named, known, if_true, ih, alike]
          · have unknown : seen.contains id = false := by simpa using met
            have alike
                : isNew resource.idField (seen ++ id :: identities rest resource.idField)
                  = isNew resource.idField (id :: seen ++ identities rest resource.idField) := by
              refine isNew_congr (fun other => ?_)
              simp only [List.cons_append, List.mem_append, List.mem_cons]
              exact or_left_comm
            simp only [List.cons_append, distinctRecords, named, unknown, Bool.false_eq_true,
              if_false, ih, alike]

/-- A fetch keeps the first record of each identity. Witness: induction on the records from the last
one on.
-/
theorem distinctRecords_eq_firsts (resource : ResourceType) (records : List Json)
    : (distinctRecords resource [] records).1 = firsts resource.idField records := by
  induction records using List.reverseRecOn with
  | nil => rfl
  | append_singleton records record ih =>
      rw [distinctRecords_concat, firsts_concat, ih, List.nil_append]

-----------------------------------------------------------------------------------------
-- Replies in turn
-----------------------------------------------------------------------------------------

/-- Replies to requests for pages, one after the other. -/
abbrev PageReplies := Nat → Except RemoteError Page

namespace PageReplies

/-- The cursor that a request carries: none for the first request, and for each later one the cursor
of the page that came before. -/
def cursor (replies : PageReplies) : Nat → Option String
  | 0 => none
  | number + 1 => (replies number).toOption.bind Page.cursor

/-- A reply leads no further if it is a failure, or a page whose cursor is absent or empty or the
one that the page was requested with. -/
def EndsAt (replies : PageReplies) (number : Nat) : Prop :=
  match replies number with
  | .error _ => True
  | .ok page =>
      page.cursor = none ∨ page.cursor = some "" ∨ page.cursor = replies.cursor number

/-- The first reply that leads no further. -/
structure Last (replies : PageReplies) (last : Nat) : Prop where
  ends : replies.EndsAt last
  onward : ∀ number < last, ¬replies.EndsAt number

/-- The first reply that leads no further is a page, so that all of them are pages. -/
structure CompleteAt (replies : PageReplies) (last : Nat) : Prop extends Last replies last where
  page : ∃ page, replies last = .ok page

/-- The records of a reply. -/
def itemsAt (replies : PageReplies) (number : Nat) : List Json :=
  match replies number with
  | .error _ => []
  | .ok page => page.items

/-- The records of the replies up to one of them, one page behind the other. -/
def itemsUpTo (replies : PageReplies) (last : Nat) : List Json :=
  (List.range (last + 1)).flatMap replies.itemsAt

/-- The request that a reply answers. -/
def request (replies : PageReplies) (resource : ResourceType) (number : Nat) : RemoteCall :=
  .list resource (replies.cursor number) (replies number)

/-- What a fetch hands out whose last reply is known. -/
def outcome (replies : PageReplies) (resource : ResourceType) (last : Nat)
    : Except FetchError (List Json) :=
  match replies last with
  | .error source => .error (.remote resource.key source)
  | .ok _ => .ok (firsts resource.idField (replies.itemsUpTo last))

variable {replies : PageReplies} {number : Nat} {page : Page}

/-- What a fetch hands out whose replies are all pages follows from their records, one page behind
the other. -/
theorem CompleteAt.outcome_eq {last : Nat} (complete : replies.CompleteAt last)
    (resource : ResourceType)
    : replies.outcome resource last = .ok (firsts resource.idField (replies.itemsUpTo last)) := by
  obtain ⟨page, replied⟩ := complete.page
  rw [outcome, replied]

/-- A page leads no further if the cursor that a reading would go on with is missing or is the one
that it has just used. -/
theorem endsAt_iff (replied : replies number = .ok page)
    : replies.EndsAt number ↔ page.next? = none ∨ page.next? = replies.cursor number := by
  unfold EndsAt
  rw [replied]
  dsimp only
  cases named : page.cursor with
  | none => simp [Page.next?, named]
  | some next =>
      by_cases empty : next = ""
      · simp [Page.next?, named, empty]
      · have kept : page.next? = some next := by simp [Page.next?, named, empty]
        simp [kept, empty]

/-- A page that leads on names the cursor of the next request. -/
theorem exists_next (replied : replies number = .ok page) (onward : ¬replies.EndsAt number)
    : ∃ next,
        page.next? = some next
        ∧ replies.cursor number ≠ some next
        ∧ replies.cursor (number + 1) = some next := by
  rw [endsAt_iff replied, not_or] at onward
  obtain ⟨next, named⟩ := Option.ne_none_iff_exists'.mp onward.1
  refine ⟨next, named, fun same => onward.2 (named.trans same.symm), ?_⟩
  change (replies number).toOption.bind Page.cursor = some next
  rw [replied]
  exact (Option.filter_eq_some_iff.mp named).1

/-- A reply that leads on is a page. -/
theorem exists_page (onward : ¬replies.EndsAt number) : ∃ page, replies number = .ok page := by
  cases replied : replies number with
  | ok page => exact ⟨page, rfl⟩
  | error source =>
      unfold EndsAt at onward
      rw [replied] at onward
      exact absurd trivial onward

end PageReplies

/-- A control plane gives replies to the requests for pages of a type, whatever its states are, and
the run is not cancelled before any of them. A state may be reached with some number of replies. -/
structure ControlPlane.Gives (plane : ControlPlane σ) (resource : ResourceType)
    (replies : PageReplies) (reached : σ → Nat → Prop)
    : Prop where
  running : ∀ {state number}, reached state number → plane.cancelled state = false
  replies
    : ∀ {state number},
        reached state number
        → ∃ after,
            (plane.listPage resource (replies.cursor number)).run state
              = (replies number, after)
            ∧ reached after (number + 1)

namespace ControlPlane.Gives

variable {plane : ControlPlane σ} {resource : ResourceType} {replies : PageReplies}
  {reached : σ → Nat → Prop} {before : Recorded σ} {number : Nat}

/-- A request is written down with the reply to it. -/
theorem run_listPage (gives : plane.Gives resource replies reached)
    (here : reached before.state number)
    : ∃ after : Recorded σ,
        reached after.state (number + 1)
        ∧ (plane.recorded.listPage resource (replies.cursor number)).run before
          = (replies number, after)
        ∧ after.exchanges.map Exchange.call
          = before.exchanges.map Exchange.call ++ [replies.request resource number] := by
  obtain ⟨after, listed, next⟩ := gives.replies here
  refine ⟨_, ?_, ControlPlane.run_recorded_listPage listed, ?_⟩
  · exact next
  · simp [Recorded.note, PageReplies.request]

/-- Behind a reply that leads on, a reading goes on with the next one. -/
theorem run_read_onward (gives : plane.Gives resource replies reached)
    (here : reached before.state number) (onward : ¬replies.EndsAt number)
    : ∃ (page : Page) (after : Recorded σ),
        replies number = .ok page
        ∧ reached after.state (number + 1)
        ∧ after.exchanges.map Exchange.call
          = before.exchanges.map Exchange.call ++ [replies.request resource number]
        ∧ ∀ budget,
            (Listing.read plane.recorded resource (budget + 1) (replies.cursor number)).run before
              = (((Listing.read plane.recorded resource budget
                    (replies.cursor (number + 1))).run after).1.after page,
                ((Listing.read plane.recorded resource budget
                    (replies.cursor (number + 1))).run after).2) := by
  obtain ⟨after, next, listed, made⟩ := gives.run_listPage here
  obtain ⟨page, replied⟩ := PageReplies.exists_page onward
  obtain ⟨name, named, other, cursor⟩ := PageReplies.exists_next replied onward
  have running : plane.recorded.cancelled before = false := gives.running here
  refine ⟨page, after, replied, next, made, fun budget => ?_⟩
  rw [Listing.run_read_succ, running, listed, replied, cursor]
  simp only [Bool.false_eq_true, if_false, named, other]

/-- A reading ends with the first reply that leads no further, with an error if it is one and with
the records of all replies otherwise. Witness: induction on how many replies are in front of it. -/
theorem read (gives : plane.Gives resource replies reached) {last : Nat}
    (ends : replies.Last last) {more : Nat} (left : number + more = last)
    (here : reached before.state number) {budget : Nat} (enough : more < budget)
    : ∃ listing final,
        (Listing.read plane.recorded resource budget (replies.cursor number)).run before
          = (listing, final)
        ∧ final.exchanges.map Exchange.call
          = before.exchanges.map Exchange.call
            ++ (List.range' number (more + 1)).map (replies.request resource)
        ∧ listing.items = (List.range' number (more + 1)).flatMap replies.itemsAt
        ∧ match replies last with
          | .error source => listing.ending = .failed (.remote resource.key source)
          | .ok _ => ∀ error, listing.ending ≠ .failed error := by
  induction more generalizing number before budget with
  | zero =>
      obtain rfl : number = last := left
      obtain ⟨budget, rfl⟩ := Nat.exists_eq_add_of_le' (Nat.succ_le_of_lt enough)
      obtain ⟨after, _, listed, made⟩ := gives.run_listPage here
      have running : plane.recorded.cancelled before = false := gives.running here
      rw [Listing.run_read_succ, running, listed]
      cases replied : replies number with
      | error source =>
          refine ⟨_, after, rfl, made, ?_, rfl⟩
          simp [Listing.items, PageReplies.itemsAt, replied]
      | ok page =>
          have alone : [page].flatMap Page.items = [number].flatMap replies.itemsAt := by
            simp [PageReplies.itemsAt, replied]
          simp only [Bool.false_eq_true, if_false]
          rcases (PageReplies.endsAt_iff replied).mp ends.ends with none | same
          · rw [none]
            exact ⟨_, after, rfl, made, alone, nofun⟩
          · cases named : page.next? with
            | none => exact ⟨_, after, rfl, made, alone, nofun⟩
            | some next =>
                rw [named] at same
                simp only [same.symm, if_true]
                exact ⟨_, after, rfl, made, alone, nofun⟩
  | succ more ih =>
      have onward : ¬replies.EndsAt number := ends.onward number (by omega)
      obtain ⟨page, after, replied, next, made, ran⟩ := gives.run_read_onward here onward
      obtain ⟨budget, rfl⟩ := Nat.exists_eq_add_of_le' (by omega : 1 ≤ budget)
      have enoughLater : more < budget := by omega
      obtain ⟨listing, final, others, calls, items, ending⟩ := ih (by omega) next enoughLater
      rw [ran, others]
      refine ⟨_, final, rfl, ?_, ?_, ending⟩
      · rw [calls, made, List.append_assoc]
        rfl
      · have first : replies.itemsAt number = page.items := by
          rw [PageReplies.itemsAt, replied]
        calc
          (listing.after page).items = page.items ++ listing.items := rfl
          _ = (List.range' number (more + 1 + 1)).flatMap replies.itemsAt := by
            rw [items, ← first]
            rfl

/-- A reading whose replies all lead on uses up its budget. Witness: induction on the budget. -/
theorem read_endless (gives : plane.Gives resource replies reached)
    (endless : ∀ number, ¬replies.EndsAt number) (budget : Nat)
    (here : reached before.state number)
    : ∃ listing final,
        (Listing.read plane.recorded resource budget (replies.cursor number)).run before
          = (listing, final)
        ∧ final.exchanges.map Exchange.call
          = before.exchanges.map Exchange.call
            ++ (List.range' number budget).map (replies.request resource)
        ∧ listing.ending = .failed (.endless resource.key) := by
  induction budget generalizing number before with
  | zero => exact ⟨_, before, rfl, (List.append_nil _).symm, rfl⟩
  | succ budget ih =>
      obtain ⟨page, after, _, next, made, ran⟩ := gives.run_read_onward here (endless number)
      obtain ⟨listing, final, others, calls, ending⟩ := ih next
      rw [ran, others]
      refine ⟨_, final, rfl, ?_, ending⟩
      rw [calls, made, List.append_assoc]
      rfl

/-- A fetch hands out what follows from the replies up to the last one. -/
theorem run_fetchAll (gives : plane.Gives resource replies reached) {state : σ}
    (start : reached state 0) {last : Nat} (ends : replies.Last last) {budget : Nat}
    (enough : last < budget)
    : ∃ final,
        (fetchAll plane.recorded budget resource).run (.start state)
          = (replies.outcome resource last, final)
        ∧ final.exchanges.map Exchange.call
          = (List.range (last + 1)).map (replies.request resource) := by
  have here : reached (Recorded.start state).state 0 := start
  obtain ⟨listing, final, ran, calls, items, ending⟩ :=
    gives.read ends (Nat.zero_add last) here enough
  rw [← List.range_eq_range'] at calls items
  refine ⟨final, ?_, calls⟩
  have handed : listing.records resource = replies.outcome resource last := by
    unfold PageReplies.outcome
    cases replied : replies last with
    | error source =>
        rw [replied] at ending
        exact Listing.records_eq_error ending
    | ok page =>
        rw [replied] at ending
        rw [Listing.records_of_not_failed ending, items, distinctRecords_eq_firsts]
        rfl
  have first : replies.cursor 0 = none := rfl
  rw [Remediation.run_fetchAll, ← first, ran, handed]

/-- A fetch whose replies all lead on makes all the requests that it is allowed to make. -/
theorem run_fetchAll_endless (gives : plane.Gives resource replies reached) {state : σ}
    (start : reached state 0) (endless : ∀ number, ¬replies.EndsAt number) (budget : Nat)
    : ∃ final,
        (fetchAll plane.recorded budget resource).run (.start state)
          = (.error (.endless resource.key), final)
        ∧ final.exchanges.map Exchange.call
          = (List.range budget).map (replies.request resource) := by
  have here : reached (Recorded.start state).state 0 := start
  obtain ⟨listing, final, ran, calls, ending⟩ := gives.read_endless endless budget here
  rw [← List.range_eq_range'] at calls
  refine ⟨final, ?_, calls⟩
  have first : replies.cursor 0 = none := rfl
  rw [Remediation.run_fetchAll, ← first, ran, Listing.records_eq_error ending]

end ControlPlane.Gives

/-- A fetch is determined by the replies to its requests, one behind the other. It asks for a page
without a cursor and then for each page with the cursor of the one before, up to the first reply
that is a failure or a page without a cursor, with an empty one or with the one that it was
requested with. If that is a failure, so is the fetch, and otherwise it hands out those records of
all pages that have an identity which no record before them has. If there is no such reply, it goes
on asking. So replies with the same records give the same fetch, wherever a page ends. -/
theorem fetchAll_replies {plane : ControlPlane σ} {resource : ResourceType} {replies : PageReplies}
    {reached : σ → Nat → Prop} (gives : plane.Gives resource replies reached) {state : σ}
    (start : reached state 0)
    : (∀ {last budget},
        replies.Last last
        → last < budget
        → ∃ final,
            (fetchAll plane budget resource).run state
              = (replies.outcome resource last, final.state)
            ∧ (fetchAll plane.recorded budget resource).run (.start state)
              = (replies.outcome resource last, final)
            ∧ final.exchanges.map Exchange.call
              = (List.range (last + 1)).map (replies.request resource))
      ∧ ((∀ number, ¬replies.EndsAt number)
        → ∀ budget,
            ∃ final,
              (fetchAll plane.recorded budget resource).run (.start state)
                = (.error (.endless resource.key), final)
              ∧ final.exchanges.map Exchange.call
                = (List.range budget).map (replies.request resource))
      ∧ ∀ {τ : Type} {other : ControlPlane τ} {otherReplies : PageReplies}
          {otherReached : τ → Nat → Prop} {otherState : τ} {last otherLast : Nat},
          other.Gives resource otherReplies otherReached
          → otherReached otherState 0
          → replies.CompleteAt last
          → otherReplies.CompleteAt otherLast
          → replies.itemsUpTo last = otherReplies.itemsUpTo otherLast
          → ∀ {budget otherBudget},
              last < budget
              → otherLast < otherBudget
              → ((fetchAll plane budget resource).run state).1
                = ((fetchAll other otherBudget resource).run otherState).1 := by
  refine ⟨?_, fun endless budget => gives.run_fetchAll_endless start endless budget, ?_⟩
  · intro last budget ends enough
    obtain ⟨final, ran, calls⟩ := gives.run_fetchAll start ends enough
    have plain := fetchAll_mirrors plane budget resource (.start state)
    rw [ran] at plain
    exact ⟨final, plain, ran, calls⟩
  · intro τ other otherReplies otherReached otherState last otherLast otherGives otherStart complete
      otherComplete same budget otherBudget enough otherEnough
    obtain ⟨final, ran, _⟩ := gives.run_fetchAll start complete.toLast enough
    obtain ⟨otherFinal, otherRan, _⟩ :=
      otherGives.run_fetchAll otherStart otherComplete.toLast otherEnough
    have plain := fetchAll_mirrors plane budget resource (.start state)
    have otherPlain := fetchAll_mirrors other otherBudget resource (.start otherState)
    rw [ran] at plain
    rw [otherRan] at otherPlain
    calc
      ((fetchAll plane budget resource).run state).1 = replies.outcome resource last :=
        congrArg Prod.fst plain
      _ = otherReplies.outcome resource otherLast := by
        rw [complete.outcome_eq, otherComplete.outcome_eq, same]
      _ = ((fetchAll other otherBudget resource).run otherState).1 :=
        (congrArg Prod.fst otherPlain).symm

-----------------------------------------------------------------------------------------
-- The same records on three pages and on two
-----------------------------------------------------------------------------------------

namespace Sample

/-- A control plane that gives replies, and counts them. -/
def replying (replies : PageReplies) : ControlPlane Nat :=
  { ControlPlane.vacant with listPage := fun _ _ number => (replies number, number + 1) }

/-- There is such a control plane for all replies. -/
theorem replying_gives (replies : PageReplies) (resource : ResourceType)
    : (replying replies).Gives resource replies (fun state number => state = number) where
  running := fun _ => rfl
  replies := by
    rintro state _ rfl
    exact ⟨state + 1, rfl, rfl⟩

def alarmNamed (id : String) : Json :=
  .object [("alarm_id", .string id)]

/-- Three pages, of which the second one has a record of the first one and one without an identity,
and the third one names the cursor that it is requested with. -/
def threePages : PageReplies
  | 0 => .ok ⟨[alarmNamed "a"], some "x"⟩
  | 1 => .ok ⟨[alarmNamed "a", .object []], some "y"⟩
  | _ => .ok ⟨[alarmNamed "b", alarmNamed "a"], some "y"⟩

/-- The records of the three pages on two pages, of which the last one names an empty cursor. -/
def joinedPages : PageReplies
  | 0 => .ok ⟨[alarmNamed "a", alarmNamed "a", .object [], alarmNamed "b"], some "z"⟩
  | _ => .ok ⟨[alarmNamed "a"], some ""⟩

theorem threePages_complete : threePages.CompleteAt 2 where
  ends := .inr (.inr rfl)
  onward := by
    intro number before
    match number, before with
    | 0, _ => rintro (none | empty | same) <;> contradiction
    | 1, _ =>
        rintro (none | empty | same)
        · cases none
        · exact absurd (Option.some.inj empty) (by decide)
        · exact absurd (Option.some.inj same) (by decide)
  page := ⟨_, rfl⟩

theorem joinedPages_complete : joinedPages.CompleteAt 1 where
  ends := .inr (.inl rfl)
  onward := by
    intro number before
    match number, before with
    | 0, _ => rintro (none | empty | same) <;> contradiction
  page := ⟨_, rfl⟩

end Sample

/-- Two alarms are read from three pages and, with the same records, from two. -/
theorem fetchAll_replies_threePages
    : Sample.threePages.outcome .alarm 2
        = .ok [Sample.alarmNamed "a", Sample.alarmNamed "b"]
      ∧ (∃ final,
          (fetchAll (Sample.replying Sample.threePages).recorded 3 .alarm).run (.start 0)
            = (Sample.threePages.outcome .alarm 2, final)
          ∧ final.exchanges.map Exchange.call
            = [
                .list .alarm none (Sample.threePages 0),
                .list .alarm (some "x") (Sample.threePages 1),
                .list .alarm (some "y") (Sample.threePages 2)
              ])
      ∧ ((fetchAll (Sample.replying Sample.threePages) 3 .alarm).run 0).1
        = ((fetchAll (Sample.replying Sample.joinedPages) 2 .alarm).run 0).1 := by
  obtain ⟨ended, _, alike⟩ :=
    fetchAll_replies (Sample.replying_gives Sample.threePages .alarm) (rfl : 0 = 0)
  obtain ⟨final, _, ran, calls⟩ :=
    ended Sample.threePages_complete.toLast (by decide : 2 < 3)
  refine ⟨by rfl, ⟨final, ran, calls⟩, ?_⟩
  exact alike (Sample.replying_gives Sample.joinedPages .alarm) rfl Sample.threePages_complete
    Sample.joinedPages_complete rfl (by decide) (by decide)

end Remediation
