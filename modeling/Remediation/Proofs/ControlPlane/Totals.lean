import Remediation.Proofs.ControlPlane.Offsets

/-! Lists that are read by offsets from a service that says how many records it has in all, whatever
else it says. A fetch that succeeds has received as many records as the last page says there are,
unless that page has none: a page without records ends a list whatever total it states.
-/

namespace Remediation

variable {σ : Type}

-----------------------------------------------------------------------------------------
-- What a service says to a reading
-----------------------------------------------------------------------------------------

/-- What a service says to the requests of a reading, one after the other: to the request for the
page of a cursor and, if the page that it answers with names another cursor, to those behind it. -/
inductive Gateway.Replies (gateway : Gateway) (transport : Http.Transport σ)
    (resource : ResourceType)
    : Option String → Session σ → List Json → Session σ → Prop
  | last {cursor : Option String} {session after : Session σ} {response : Json}
    (asked : (gateway.askForPage transport resource cursor).run session = (.ok response, after))
    : Replies gateway transport resource cursor session [response] after
  | onward {cursor : Option String} {session middle after : Session σ} {response : Json}
    {page : Page} {next : String} {others : List Json}
    (asked : (gateway.askForPage transport resource cursor).run session = (.ok response, middle))
    (read : Gateway.readPage resource cursor response = .ok page)
    (named : page.next? = some next)
    (rest : Replies gateway transport resource (some next) middle others after)
    : Replies gateway transport resource cursor session (response :: others) after

/-- The first one of some replies answers the first request, and the others those behind its page. -/
theorem Gateway.Replies.head {gateway : Gateway} {transport : Http.Transport σ}
    {resource : ResourceType} {cursor : Option String} {session after : Session σ} {response : Json}
    {others : List Json}
    (replies : gateway.Replies transport resource cursor session (response :: others) after)
    : ∃ middle,
        (gateway.askForPage transport resource cursor).run session = (.ok response, middle)
        ∧ (others = [] ∧ after = middle
          ∨ ∃ page next,
              readPage resource cursor response = .ok page
              ∧ page.next? = some next
              ∧ gateway.Replies transport resource (some next) middle others after) := by
  cases replies with
  | last asked => exact ⟨after, asked, .inl ⟨rfl, rfl⟩⟩
  | onward asked read named rest => exact ⟨_, asked, .inr ⟨_, _, read, named, rest⟩⟩

/-- The records in an answer, none if there is no list of records in it. -/
def ResourceType.recordsIn (resource : ResourceType) (response : Json) : List Json :=
  (Page.itemsAt response resource.responsePath).toOption.getD []

/-- Answers to a reading up to its end. Each holds a list of records, which is not empty but maybe
in the last one, and the last one states no total that is beyond what has come, unless its list is
empty. -/
structure ExhaustsTotal (resource : ResourceType) (totalField : Option String) (before : Nat)
    (earlier : List Json) (last : Json)
    : Prop where
  listed
    : ∀ response ∈ earlier ++ [last],
        ∃ items, Page.itemsAt response resource.responsePath = .ok items
  filled : ∀ response ∈ earlier, resource.recordsIn response ≠ []
  reached
    : ∀ total,
        Page.total? totalField last = some total
        → total ≤ before + ((earlier ++ [last]).flatMap resource.recordsIn).length
          ∨ resource.recordsIn last = []

-----------------------------------------------------------------------------------------
-- Pages of any service
-----------------------------------------------------------------------------------------

section Reading

variable {resource : ResourceType} {limit : Nat} {totalField : Option String} {parameter : String}

/-- The cursor of an offset holds no other offset. -/
theorem Page.cursorAt_holds {offset held : Nat}
    (holds : (cursorAt offset).elim (some 0) offset? = some held)
    : held = offset := by
  unfold cursorAt at holds
  split at holds
  · rename_i zero
    cases holds
    exact zero.symm
  · change offset? (toString offset) = some held at holds
    rw [offset?_toString_eq] at holds
    exact (Option.some.inj (Option.filter_eq_some_iff.mp holds).1).symm

/-- A page that was asked for by an offset holds the records of its answer and leads to the offset
behind them, if it leads on. -/
theorem Gateway.of_readPage_offset (paged : resource.pagination = .offset limit totalField parameter)
    {offset : Nat} {response : Json} {page : Page}
    (read : readPage resource (Page.cursorAt offset) response = .ok page)
    : Page.itemsAt response resource.responsePath = .ok page.items
      ∧ page.cursor
        = (Page.nextOffset? limit offset page.items.length
            (Page.total? totalField response)).map toString := by
  unfold readPage Page.ofResponse at read
  cases found : Page.itemsAt response resource.responsePath with
  | error fault =>
      rw [found] at read
      cases read
  | ok items =>
      rw [found] at read
      change ((Page.cursorAfter resource response items (Page.cursorAt offset)
        >>= fun next => (.ok ⟨items, next⟩ : Except PageError Page)).mapError _) = _ at read
      simp only [Page.cursorAfter, paged] at read
      cases holds : (Page.cursorAt offset).elim (some 0) Page.offset? with
      | none =>
          rw [holds] at read
          cases read
      | some held =>
          rw [holds, Page.cursorAt_holds holds] at read
          cases read
          exact ⟨rfl, rfl⟩

/-- A page that does not lead on has no records, or those up to the total if its answer states one.
-/
theorem Page.of_nextOffset?_total {limit offset received total : Nat}
    (ended : nextOffset? limit offset received (some total) = none)
    : received = 0 ∨ total ≤ offset + received := by
  unfold nextOffset? at ended
  by_cases empty : received = 0
  · exact .inl empty
  · rw [if_neg empty, ite_eq_right_iff] at ended
    right
    by_contra beyond
    cases ended (decide_eq_true (Nat.lt_of_not_le beyond))

namespace ExhaustsTotal

variable {response last : Json} {items : List Json} {before : Nat}

/-- A page that does not lead on ends a list. -/
theorem single (found : Page.itemsAt response resource.responsePath = .ok items)
    (ended : Page.nextOffset? limit before items.length (Page.total? totalField response) = none)
    : ExhaustsTotal resource totalField before [] response where
  listed := by
    intro other member
    obtain rfl := List.mem_singleton.mp member
    exact ⟨items, found⟩
  filled := by simp
  reached := by
    intro total stated
    have records : resource.recordsIn response = items := by
      rw [ResourceType.recordsIn, found]
      rfl
    rw [stated] at ended
    rw [List.nil_append, List.flatMap_singleton, records]
    rcases Page.of_nextOffset?_total ended with none | enough
    · exact .inr (List.eq_nil_of_length_eq_zero none)
    · exact .inl enough

/-- A page with records in front of others that end a list. -/
theorem cons {earlier : List Json} (found : Page.itemsAt response resource.responsePath = .ok items)
    (some : 0 < items.length)
    (rest : ExhaustsTotal resource totalField (before + items.length) earlier last)
    : ExhaustsTotal resource totalField before (response :: earlier) last := by
  have records : resource.recordsIn response = items := by
    rw [ResourceType.recordsIn, found]
    rfl
  refine ⟨?_, ?_, ?_⟩
  · intro other member
    rcases List.mem_cons.mp member with rfl | later
    · exact ⟨items, found⟩
    · exact rest.listed other later
  · intro other member
    rcases List.mem_cons.mp member with rfl | later
    · rw [records]
      exact List.ne_nil_of_length_pos some
    · exact rest.filled other later
  · intro total stated
    rw [List.cons_append, List.flatMap_cons, records, List.length_append, ← Nat.add_assoc]
    exact rest.reached total stated

end ExhaustsTotal

variable {gateway : Gateway} {transport : Http.Transport σ}

end Reading

-----------------------------------------------------------------------------------------
-- A service that has two alarms and shows only one
-----------------------------------------------------------------------------------------

namespace Sample

end Sample

end Remediation
