import Remediation.Proofs.ControlPlane.Totals

/-! Lists that are read by offsets from a service whose totals are bounded, whatever else it says
and however often it changes its mind. Each page leads to a greater offset below the total that it
states itself, so that a reading comes to its end after no more requests than the bound.
-/

namespace Remediation

variable {σ : Type}

/-- A service that states a total of no more than a bound whenever it answers a request for a page
with success. -/
def Gateway.BoundsTotals (gateway : Gateway) (transport : Http.Transport σ)
    (resource : ResourceType) (totalField : Option String) (bound : Nat)
    : Prop :=
  ∀ {session cursor response after},
    (gateway.askForPage transport resource cursor).run session = (.ok response, after)
    → ∃ total ≤ bound, Page.total? totalField response = some total

/-- A request for the page at an offset. -/
def Exchange.AsksAt (resource : ResourceType) (limit : Nat) (parameter : String)
    (exchange : Exchange) (offset : Nat)
    : Prop :=
  ∃ cursor answer,
    exchange.call = .list resource cursor answer
    ∧ Gateway.pageQuery resource.pagination cursor
      = [("limit", toString limit), (parameter, toString offset)]

/-- Requests at offsets that rise from a first one on and stay below a bound behind it. -/
structure RisingRequests (resource : ResourceType) (limit : Nat) (parameter : String)
    (first bound : Nat) (made : List Exchange) (offsets : List Nat)
    : Prop where
  asked : List.Forall₂ (Exchange.AsksAt resource limit parameter) made offsets
  start : ∀ offset ∈ offsets.head?, offset = first
  rising : offsets.Pairwise (· < ·)
  below : ∀ offset ∈ offsets.tail, offset < bound
  few : first + offsets.length ≤ max 1 bound

/-- A reading from an offset on that came to its end on its own, neither because no more pages were
allowed nor because a page named the cursor that it was requested with. -/
structure SettledReading (resource : ResourceType) (limit : Nat) (parameter : String)
    (first bound : Nat) (before : Recorded σ) (listing : Listing) (final : Recorded σ)
    : Prop where
  notEndless : ∀ key, listing.ending ≠ .failed (.endless key)
  notRepeated : listing.ending ≠ .repeatedCursor
  requests
    : ∃ made offsets,
        final.exchanges = before.exchanges ++ made
        ∧ RisingRequests resource limit parameter first bound made offsets

namespace RisingRequests

variable {resource : ResourceType} {limit : Nat} {parameter : String} {first next bound : Nat}
  {made : List Exchange} {offsets : List Nat} {exchange : Exchange}

theorem nothing (inside : first < max 1 bound)
    : RisingRequests resource limit parameter first bound [] [] where
  asked := .nil
  start := by simp
  rising := .nil
  below := by simp
  few := Nat.le_of_lt inside

theorem single (inside : first < max 1 bound)
    (asks : exchange.AsksAt resource limit parameter first)
    : RisingRequests resource limit parameter first bound [exchange] [first] where
  asked := .cons asks .nil
  start := by simp
  rising := List.pairwise_singleton _ _
  below := by simp
  few := inside

/-- A request in front of others at greater offsets. -/
theorem cons (asks : exchange.AsksAt resource limit parameter first) (forward : first < next)
    (inside : next < bound)
    (rest : RisingRequests resource limit parameter next bound made offsets)
    : RisingRequests resource limit parameter first bound (exchange :: made) (first :: offsets) where
  asked := .cons asks rest.asked
  start := by simp
  rising := by
    refine List.pairwise_cons.mpr ⟨?_, rest.rising⟩
    intro offset member
    cases offsets with
    | nil => cases member
    | cons head others =>
        obtain rfl : head = next := rest.start head rfl
        rcases List.mem_cons.mp member with rfl | later
        · exact forward
        · have further := (List.pairwise_cons.mp rest.rising).1 offset later
          exact Nat.lt_trans forward further
  below := by
    intro offset member
    cases offsets with
    | nil => cases member
    | cons head others =>
        obtain rfl : head = next := rest.start head rfl
        rcases List.mem_cons.mp member with rfl | later
        · exact inside
        · exact rest.below offset later
  few := by
    have enough := rest.few
    rw [List.length_cons]
    omega

end RisingRequests

/-- The list goes on only below the total that the service states. -/
theorem Page.lt_of_nextOffset?_total {limit offset received total next : Nat}
    (onward : nextOffset? limit offset received (some total) = some next)
    : next < total := by
  obtain ⟨rfl, _⟩ := Page.of_nextOffset?_eq_some onward
  unfold nextOffset? at onward
  by_cases empty : received = 0
  · rw [if_pos empty] at onward
    cases onward
  · rw [if_neg empty, Option.ite_none_right_eq_some] at onward
    exact of_decide_eq_true onward.1

section Reading

variable {gateway : Gateway} {transport : Http.Transport σ} {resource : ResourceType}
  {limit bound : Nat} {totalField : Option String} {parameter : String}

/-- A page at an offset names no cursor, or the one of a greater offset below the bound. -/
theorem Gateway.BoundsTotals.next?
    (bounds : gateway.BoundsTotals transport resource totalField bound)
    (paged : resource.pagination = .offset limit totalField parameter) {offset : Nat}
    {session after : Session σ} {page : Page}
    (listed
      : ((gateway.plane transport).listPage resource (Page.cursorAt offset)).run session
        = (.ok page, after))
    : page.next? = none
      ∨ ∃ next, page.next? = Page.cursorAt next ∧ offset < next ∧ next < bound := by
  obtain ⟨response, asked, read⟩ := of_run_listPage listed
  obtain ⟨_, cursor⟩ := of_readPage_offset paged read
  obtain ⟨total, within, stated⟩ := bounds asked
  have named
      : page.next?
        = (Page.nextOffset? limit offset page.items.length (some total)).map toString := by
    rw [← Page.next?_toString page.items, ← stated, ← cursor]
  cases onward : Page.nextOffset? limit offset page.items.length (some total) with
  | none =>
      rw [onward] at named
      exact .inl named
  | some next =>
      rw [onward] at named
      have forward : offset < next := (Page.of_nextOffset?_eq_some onward).2
      have below : next < total := Page.lt_of_nextOffset?_total onward
      refine .inr ⟨next, ?_, forward, Nat.lt_of_lt_of_le below within⟩
      rw [named, Page.cursorAt, if_neg (Nat.ne_of_gt (Nat.zero_lt_of_lt forward))]
      rfl

/-- A reading that stands at an offset ends with one request at the most, or goes on with a greater
offset below the bound. -/
theorem Gateway.BoundsTotals.read_succ
    (bounds : gateway.BoundsTotals transport resource totalField bound)
    (paged : resource.pagination = .offset limit totalField parameter) {offset : Nat}
    (inside : offset < max 1 bound) (before : Recorded (Session σ))
    : (∃ listing final,
        (∀ budget,
          (Listing.read (gateway.plane transport).recorded resource (budget + 1)
              (Page.cursorAt offset)).run before
            = (listing, final))
        ∧ SettledReading resource limit parameter offset bound before listing final)
      ∨ ∃ page after exchange next,
          (∀ budget,
            (Listing.read (gateway.plane transport).recorded resource (budget + 1)
                (Page.cursorAt offset)).run before
              = (((Listing.read (gateway.plane transport).recorded resource budget
                    (Page.cursorAt next)).run after).1.after page,
                ((Listing.read (gateway.plane transport).recorded resource budget
                    (Page.cursorAt next)).run after).2))
          ∧ after.exchanges = before.exchanges ++ [exchange]
          ∧ exchange.AsksAt resource limit parameter offset
          ∧ offset < next
          ∧ next < bound := by
  cases cancelled : (gateway.plane transport).recorded.cancelled before with
  | true =>
      refine .inl ⟨⟨[], .failed .cancelled⟩, before, fun budget => ?_, nofun, nofun, [], [], ?_, ?_⟩
      · rw [Listing.run_read_succ, cancelled]
        rfl
      · exact (List.append_nil _).symm
      · exact .nothing inside
  | false =>
      cases asked
          : ((gateway.plane transport).listPage resource (Page.cursorAt offset)).run
              before.state with
      | mk answer state =>
          have listed := ControlPlane.run_recorded_listPage asked
          let noted := before.note (gateway.plane transport)
            (.list resource (Page.cursorAt offset) answer) state
          have asks (stopped : Bool)
              : Exchange.AsksAt resource limit parameter
                  ⟨.list resource (Page.cursorAt offset) answer, stopped⟩ offset :=
            ⟨_, _, rfl, paged ▸ Gateway.pageQuery_cursorAt limit totalField parameter offset⟩
          cases answer with
          | error source =>
              refine .inl
                ⟨⟨[], .failed (.remote resource.key source)⟩, noted, fun budget => ?_, nofun, nofun,
                  _, _, rfl, .single inside (asks _)⟩
              rw [Listing.run_read_succ, cancelled, listed]
              rfl
          | ok page =>
              rcases bounds.next? paged asked with none | ⟨next, named, forward, below⟩
              · refine .inl
                  ⟨⟨[page], .complete⟩, noted, fun budget => ?_, nofun, nofun, _, _, rfl,
                    .single inside (asks _)⟩
                simp only [Listing.run_read_succ, cancelled, listed, none, Bool.false_eq_true,
                  if_false, noted]
              · have name : Page.cursorAt next = some (toString next) :=
                  if_neg (Nat.ne_of_gt (Nat.zero_lt_of_lt forward))
                have other : Page.cursorAt offset ≠ some (toString next) := Page.cursorAt_ne forward
                refine .inr
                  ⟨page, noted, _, next, fun budget => ?_, rfl, asks _, forward, below⟩
                simp only [Listing.run_read_succ, cancelled, listed, named, name, other,
                  Bool.false_eq_true, if_false, noted]

/-- A reading from an offset on comes to its end, whatever else the service says. Witness: induction
on a number that the offset is short of the bound by at the most; a page that leads on makes it
smaller. -/
theorem Gateway.BoundsTotals.read
    (bounds : gateway.BoundsTotals transport resource totalField bound)
    (paged : resource.pagination = .offset limit totalField parameter) (short : Nat) {offset : Nat}
    (inside : offset < max 1 bound) (enough : max 1 bound ≤ offset + short)
    (before : Recorded (Session σ))
    : ∃ listing final,
        (∀ budget,
          short ≤ budget
          → (Listing.read (gateway.plane transport).recorded resource budget
                (Page.cursorAt offset)).run before
            = (listing, final))
        ∧ SettledReading resource limit parameter offset bound before listing final := by
  induction short generalizing offset before with
  | zero => exact absurd enough (Nat.not_le_of_lt inside)
  | succ short ih =>
      rcases bounds.read_succ paged inside before with
        ⟨listing, final, ran, settled⟩ | ⟨page, after, exchange, next, ran, made, asks, forward, below⟩
      · refine ⟨listing, final, fun budget allowed => ?_, settled⟩
        obtain ⟨budget, rfl⟩ := Nat.exists_eq_add_of_le' (Nat.le_trans (Nat.succ_pos short) allowed)
        exact ran budget
      · have insideLater : next < max 1 bound := Nat.lt_of_lt_of_le below (Nat.le_max_right 1 bound)
        obtain ⟨listing, final, others, settled⟩ := ih insideLater (by omega) after
        obtain ⟨later, offsets, joined, rising⟩ := settled.requests
        refine ⟨listing.after page, final, fun budget allowed => ?_, settled.notEndless,
          settled.notRepeated, exchange :: later, offset :: offsets, ?_,
          .cons asks forward below rising⟩
        · obtain ⟨budget, rfl⟩ := Nat.exists_eq_add_of_le' (Nat.le_trans (Nat.succ_pos short) allowed)
          rw [ran, others budget (Nat.le_of_succ_le_succ allowed)]
        · rw [joined, made, List.append_assoc]
          rfl

end Reading

-----------------------------------------------------------------------------------------
-- A service that always shows the same alarm
-----------------------------------------------------------------------------------------

namespace Sample

end Sample

end Remediation
