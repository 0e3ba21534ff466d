import Mathlib
import Remediation.Proofs.ControlPlane.Recorded
import Remediation.Proofs.Run.Selection

/-! Lists that lead in a circle. A reading stops at a page that names the cursor which it was asked
for with, and at no other page that leads back: so on a service with finitely many cursors a fetch
comes to its end unless the cursors lead back to one that was asked for before the last one.
-/

namespace Remediation

variable {σ : Type}

-----------------------------------------------------------------------------------------
-- The cursors of a reading
-----------------------------------------------------------------------------------------

namespace Listing

/-- The cursor that a reading goes on with behind the page of a cursor. There is none if the page
cannot be had, names no cursor or names the one that it was asked for with. -/
def onward? (answer : Option String → Except RemoteError Page) (cursor : Option String)
    : Option String :=
  ((answer cursor).toOption.bind Page.next?).filter (fun next => cursor ≠ some next)

/-- From one request of a reading to the next one, as long as there are any. -/
def follow (answer : Option String → Except RemoteError Page)
    (request : Option (Option String))
    : Option (Option String) :=
  request.bind (fun cursor => (onward? answer cursor).map some)

/-- The cursor of a request of a reading that starts with a cursor, where requests are counted from
zero on. There is none if the reading makes no such request. -/
def requested (answer : Option String → Except RemoteError Page) (cursor : Option String)
    (number : Nat)
    : Option (Option String) :=
  (follow answer)^[number] (some cursor)

/-- A reading comes back to a cursor that it has asked for, and not only to the last one. -/
def Circles (answer : Option String → Except RemoteError Page) : Prop :=
  ∃ earlier later cursor,
    earlier + 1 < later
    ∧ requested answer none earlier = some cursor
    ∧ requested answer none later = some cursor

variable {answer : Option String → Except RemoteError Page} {cursor : Option String}

/-- A page with a cursor that it was not asked for with leads on. -/
theorem onward?_eq_some_iff {next : String}
    : onward? answer cursor = some next
      ↔ ∃ page, answer cursor = .ok page ∧ page.next? = some next ∧ cursor ≠ some next := by
  unfold onward?
  rw [Option.filter_eq_some_iff]
  cases answer cursor with
  | error source => simp [Except.toOption]
  | ok page => simp [Except.toOption]

theorem onward?_ne (answer : Option String → Except RemoteError Page) (cursor : Option String)
    : (onward? answer cursor).map some ≠ some cursor := by
  intro same
  obtain ⟨next, found, rfl⟩ := Option.map_eq_some_iff.mp same
  obtain ⟨_, _, _, other⟩ := onward?_eq_some_iff.mp found
  exact absurd rfl other

/-- The first request leads to the others. -/
theorem requested_succ (answer : Option String → Except RemoteError Page) (cursor : Option String)
    (number : Nat)
    : requested answer cursor (number + 1)
      = (onward? answer cursor).bind (fun next => requested answer (some next) number) := by
  have first : follow answer (some cursor) = (onward? answer cursor).map some := rfl
  rw [requested, Function.iterate_succ_apply, first]
  cases onward? answer cursor with
  | some next => rfl
  | none => exact Function.iterate_fixed rfl number

/-- The request before leads to the next one. -/
theorem requested_succ_of_eq_some {number : Nat} {asked : Option String}
    (made : requested answer cursor number = some asked)
    : requested answer cursor (number + 1) = (onward? answer asked).map some := by
  rw [requested, Function.iterate_succ_apply']
  change follow answer (requested answer cursor number) = _
  rw [made]
  rfl

theorem requested_add (answer : Option String → Except RemoteError Page) (cursor : Option String)
    (number more : Nat)
    : requested answer cursor (more + number)
      = (follow answer)^[more] (requested answer cursor number) :=
  Function.iterate_add_apply _ more number _

/-- Behind a request that is not made there is none. -/
theorem requested_eq_none_of_le {number later : Nat} (further : number ≤ later)
    (ended : requested answer cursor number = none)
    : requested answer cursor later = none := by
  obtain ⟨more, rfl⟩ := Nat.exists_eq_add_of_le' further
  rw [requested_add, ended]
  exact Function.iterate_fixed rfl more

/-- A reading that does not make every request makes a last one. -/
theorem exists_last_request {bound : Nat} (ended : requested answer cursor bound = none)
    : ∃ number < bound,
        requested answer cursor number ≠ none ∧ requested answer cursor (number + 1) = none := by
  induction bound with
  | zero => cases ended
  | succ bound ih =>
      by_cases before : requested answer cursor bound = none
      · obtain ⟨number, inside, last⟩ := ih before
        exact ⟨number, Nat.lt_succ_of_lt inside, last⟩
      · exact ⟨bound, Nat.lt_succ_self bound, before, ended⟩

/-- A reading that comes back to a cursor makes every request: it goes around as often as it takes.
-/
theorem requested_ne_none_of_repeated {earlier later : Nat} {asked : Option String}
    (before : earlier < later) (made : requested answer cursor earlier = some asked)
    (again : requested answer cursor later = some asked) (number : Nat)
    : requested answer cursor number ≠ none := by
  intro ended
  obtain ⟨distance, rfl⟩ := Nat.exists_eq_add_of_le' (Nat.succ_le_of_lt before)
  have around : Function.IsPeriodicPt (follow answer) (distance + 1) (some asked) := by
    have shifted : distance + (earlier + 1) = distance + 1 + earlier := by omega
    rw [shifted, requested_add, made] at again
    exact again
  have far : requested answer cursor ((distance + 1) * number + earlier) = some asked := by
    rw [requested_add, made]
    exact around.mul_const number
  have further : number ≤ (distance + 1) * number + earlier :=
    Nat.le_add_right_of_le (Nat.le_mul_of_pos_left number (Nat.succ_pos distance))
  rw [requested_eq_none_of_le further ended] at far
  cases far

/-- A reading that makes two requests for one cursor makes others in between. -/
theorem circles_of_repeated {earlier later : Nat} {asked : Option String} (before : earlier < later)
    (made : requested answer none earlier = some asked)
    (again : requested answer none later = some asked)
    : Circles answer := by
  refine ⟨earlier, later, asked, ?_, made, again⟩
  refine Nat.lt_of_le_of_ne (Nat.succ_le_of_lt before) (fun next => ?_)
  rw [← next, requested_succ_of_eq_some made] at again
  exact onward?_ne answer asked again

/-- With no more than some cursors for pages to name, a request of a reading is for one of them. -/
theorem mem_of_requested_succ {cursors : List String} {number : Nat} {asked : Option String}
    (finite
      : ∀ {cursor page next},
          answer cursor = .ok page → page.next? = some next → next ∈ cursors)
    (made : requested answer cursor (number + 1) = some asked)
    : ∃ next ∈ cursors, asked = some next := by
  cases before : requested answer cursor number with
  | none =>
      rw [requested_eq_none_of_le (Nat.le_succ number) before] at made
      cases made
  | some last =>
      rw [requested_succ_of_eq_some before] at made
      obtain ⟨next, found, rfl⟩ := Option.map_eq_some_iff.mp made
      obtain ⟨page, answered, named, _⟩ := onward?_eq_some_iff.mp found
      exact ⟨next, finite answered named, rfl⟩

/-- A reading with more requests than there are cursors circles. Witness: two of the requests are
for the same cursor.
-/
theorem circles_of_requested {cursors : List String}
    (finite
      : ∀ {cursor page next},
          answer cursor = .ok page → page.next? = some next → next ∈ cursors)
    (made : requested answer none (cursors.length + 1) ≠ none)
    : Circles answer := by
  let asked : Finset (Option (Option String)) :=
    (some none :: cursors.map (some ∘ some)).toFinset
  have within
      : ∀ number ∈ Finset.range (cursors.length + 2), requested answer none number ∈ asked := by
    intro number inside
    rw [List.mem_toFinset, List.mem_cons]
    cases number with
    | zero => exact .inl rfl
    | succ number =>
        have further : number + 1 ≤ cursors.length + 1 :=
          Nat.lt_succ_iff.mp (Finset.mem_range.mp inside)
        obtain ⟨cursor, request⟩ :=
          Option.ne_none_iff_exists'.mp
            (fun ended => made (requested_eq_none_of_le further ended))
        obtain ⟨next, member, rfl⟩ := mem_of_requested_succ finite request
        exact .inr (List.mem_map.mpr ⟨next, member, request.symm⟩)
  have few : asked.card < (Finset.range (cursors.length + 2)).card := by
    refine Nat.lt_of_le_of_lt (List.toFinset_card_le _) ?_
    simp
  obtain ⟨first, inside, second, otherInside, different, same⟩ :=
    Finset.exists_ne_map_eq_of_card_lt_of_maps_to few within
  obtain ⟨cursor, request⟩ :=
    Option.ne_none_iff_exists'.mp (fun ended =>
      made (requested_eq_none_of_le (Nat.lt_succ_iff.mp (Finset.mem_range.mp inside)) ended))
  rcases Nat.lt_or_gt_of_ne different with before | behind
  · exact circles_of_repeated before request (same ▸ request)
  · exact circles_of_repeated behind (same ▸ request) request

end Listing

-----------------------------------------------------------------------------------------
-- Readings that end and readings that do not
-----------------------------------------------------------------------------------------

/-- A fetch comes to its end with a number of requests: it makes no more of them, whatever more it
is allowed to make. -/
def ControlPlane.FetchEnds (plane : ControlPlane σ) (resource : ResourceType) (state : σ)
    (requests : Nat)
    : Prop :=
  ∃ outcome final,
    (∀ key, outcome ≠ .error (.endless key))
    ∧ final.exchanges.length = requests
    ∧ ∀ budget,
        requests ≤ budget
        → (fetchAll plane.recorded budget resource).run (.start state) = (outcome, final)

/-- A fetch never comes to its end: it makes all the requests that it is allowed to make. -/
def ControlPlane.FetchGoesOn (plane : ControlPlane σ) (resource : ResourceType) (state : σ)
    : Prop :=
  ∀ budget,
    ∃ final,
      (fetchAll plane.recorded budget resource).run (.start state)
        = (.error (.endless resource.key), final)
      ∧ final.exchanges.length = budget

namespace ControlPlane.Steady

variable {plane : ControlPlane σ} {holds : σ → Prop}
  {answer : ResourceType → Option String → Except RemoteError Page} {resource : ResourceType}

/-- Writing calls down keeps lists steady. -/
theorem recorded (steady : plane.Steady holds answer)
    : plane.recorded.Steady (fun recorded => holds recorded.state) answer where
  running := steady.running
  answers := steady.answers
  kept := steady.kept

/-- A reading makes one request, and then it ends or goes on behind the page. -/
theorem run_read_succ (steady : plane.Steady holds answer) (resource : ResourceType)
    (cursor : Option String) {before : Recorded σ} (held : holds before.state)
    : ∃ after,
        holds after.state
        ∧ after.exchanges.length = before.exchanges.length + 1
        ∧ (Listing.onward? (answer resource) cursor = none
          → ∃ listing,
              (∀ key, listing.ending ≠ .failed (.endless key))
              ∧ ∀ budget,
                  (Listing.read plane.recorded resource (budget + 1) cursor).run before
                    = (listing, after))
        ∧ ∀ next,
            Listing.onward? (answer resource) cursor = some next
            → ∃ page,
                ∀ budget,
                  (Listing.read plane.recorded resource (budget + 1) cursor).run before
                    = (((Listing.read plane.recorded resource budget (some next)).run
                          after).1.after page,
                      ((Listing.read plane.recorded resource budget (some next)).run after).2) := by
  have running := steady.recorded.running held
  have answered := steady.recorded.answers resource cursor held
  have kept := steady.recorded.kept resource cursor held
  have length
      : ((plane.recorded.listPage resource cursor).run before).2.exchanges.length
        = before.exchanges.length + 1 :=
    List.length_append
  cases listed : (plane.recorded.listPage resource cursor).run before with
  | mk outcome after =>
      rw [listed] at answered kept length
      refine ⟨after, kept, length, ?_, ?_⟩
      · intro last
        unfold Listing.onward? at last
        rw [← answered] at last
        simp only [Listing.run_read_succ, running, listed, Bool.false_eq_true, if_false]
        cases outcome with
        | error source =>
            exact ⟨⟨[], .failed (.remote resource.key source)⟩, by simp, fun _ => rfl⟩
        | ok page =>
            dsimp only
            cases named : page.next? with
            | none => exact ⟨⟨[page], .complete⟩, by simp, fun _ => rfl⟩
            | some next =>
                have same : cursor = some next := by
                  simpa [Except.toOption, named] using last
                simp only [same, if_true]
                exact ⟨⟨[page], .repeatedCursor⟩, by simp, fun _ => rfl⟩
      · intro next onward
        obtain ⟨page, found, named, other⟩ := Listing.onward?_eq_some_iff.mp onward
        refine ⟨page, fun budget => ?_⟩
        obtain rfl : outcome = .ok page := answered.trans found
        simp only [Listing.run_read_succ, running, listed, named, other, Bool.false_eq_true,
          if_false]

/-- A reading that has a last request ends with it. Witness: induction on the number of the last
request, which is one less behind the first page.
-/
theorem read_ends (steady : plane.Steady holds answer) {number : Nat} {cursor : Option String}
    {before : Recorded σ} (held : holds before.state)
    (made : Listing.requested (answer resource) cursor number ≠ none)
    (last : Listing.requested (answer resource) cursor (number + 1) = none)
    : ∃ listing final,
        (∀ key, listing.ending ≠ .failed (.endless key))
        ∧ final.exchanges.length = before.exchanges.length + number + 1
        ∧ ∀ budget,
            number < budget
            → (Listing.read plane.recorded resource budget cursor).run before
              = (listing, final) := by
  induction number generalizing cursor before with
  | zero =>
      obtain ⟨after, _, length, ends, _⟩ := steady.run_read_succ resource cursor held
      have ended : Listing.onward? (answer resource) cursor = none := by
        rw [Listing.requested_succ] at last
        exact Option.map_eq_none_iff.mp ((Option.map_eq_bind ..).trans last)
      obtain ⟨listing, finished, ran⟩ := ends ended
      refine ⟨listing, after, finished, length, fun budget enough => ?_⟩
      obtain ⟨more, rfl⟩ := Nat.exists_eq_add_of_le' (Nat.succ_le_of_lt enough)
      exact ran more
  | succ number ih =>
      obtain ⟨after, kept, length, _, goesOn⟩ := steady.run_read_succ resource cursor held
      rw [Listing.requested_succ] at made last
      cases onward : Listing.onward? (answer resource) cursor with
      | none =>
          rw [onward] at made
          exact absurd rfl made
      | some next =>
          rw [onward] at made last
          obtain ⟨page, ran⟩ := goesOn next onward
          obtain ⟨listing, final, finished, others, rest⟩ := ih kept made last
          refine ⟨listing.after page, final, finished, by omega, fun budget enough => ?_⟩
          obtain ⟨more, rfl⟩ := Nat.exists_eq_add_of_le' (Nat.succ_le_of_lt (Nat.zero_lt_of_lt enough))
          rw [ran, rest more (by omega)]

/-- A reading uses up its budget if it has more requests to make. Witness: induction on the budget.
-/
theorem read_endless (steady : plane.Steady holds answer) {budget : Nat} {cursor : Option String}
    {before : Recorded σ} (held : holds before.state)
    (made : Listing.requested (answer resource) cursor budget ≠ none)
    : ∃ listing final,
        (Listing.read plane.recorded resource budget cursor).run before = (listing, final)
        ∧ listing.ending = .failed (.endless resource.key)
        ∧ final.exchanges.length = before.exchanges.length + budget := by
  induction budget generalizing cursor before with
  | zero => exact ⟨_, before, rfl, rfl, rfl⟩
  | succ budget ih =>
      obtain ⟨after, kept, length, _, goesOn⟩ := steady.run_read_succ resource cursor held
      rw [Listing.requested_succ] at made
      cases onward : Listing.onward? (answer resource) cursor with
      | none =>
          rw [onward] at made
          exact absurd rfl made
      | some next =>
          rw [onward] at made
          obtain ⟨page, ran⟩ := goesOn next onward
          obtain ⟨listing, final, rest, endless, others⟩ := ih kept made
          refine ⟨listing.after page, final, ?_, endless, by omega⟩
          rw [ran, rest]

/-- A fetch whose reading circles never comes to its end. -/
theorem fetchGoesOn (steady : plane.Steady holds answer) {state : σ} (start : holds state)
    (circles : Listing.Circles (answer resource))
    : plane.FetchGoesOn resource state := by
  obtain ⟨earlier, later, cursor, apart, made, again⟩ := circles
  intro budget
  have more :=
    Listing.requested_ne_none_of_repeated (Nat.lt_of_succ_lt apart) made again budget
  have atStart : holds (Recorded.start state).state := start
  obtain ⟨listing, final, ran, endless, length⟩ := steady.read_endless atStart more
  refine ⟨final, ?_, length.trans (Nat.zero_add budget)⟩
  rw [run_fetchAll, ran, Listing.records_eq_error endless]

/-- A fetch whose reading does not circle ends, with one request more than there are cursors at the
most. -/
theorem exists_fetchEnds (steady : plane.Steady holds answer) {state : σ} (start : holds state)
    {cursors : List String}
    (finite
      : ∀ {cursor page next},
          answer resource cursor = .ok page → page.next? = some next → next ∈ cursors)
    (straight : ¬Listing.Circles (answer resource))
    : ∃ requests ≤ cursors.length + 1, plane.FetchEnds resource state requests := by
  have ended : Listing.requested (answer resource) none (cursors.length + 1) = none :=
    Classical.byContradiction (fun made => straight (Listing.circles_of_requested finite made))
  obtain ⟨number, inside, made, last⟩ := Listing.exists_last_request ended
  have atStart : holds (Recorded.start state).state := start
  obtain ⟨listing, final, finished, length, ran⟩ := steady.read_ends atStart made last
  have requests : final.exchanges.length = number + 1 := by
    rw [length, Nat.add_assoc]
    exact Nat.zero_add _
  refine ⟨number + 1, inside, listing.records resource, final, ?_, requests, ?_⟩
  · intro key failed
    unfold Listing.records at failed
    split at failed
    · rename_i error ending
      cases failed
      exact finished key ending
    · cases failed
  · intro budget enough
    rw [run_fetchAll, ran budget enough]

end ControlPlane.Steady

/-- A fetch does not both come to its end and go on. -/
theorem ControlPlane.FetchEnds.not_fetchGoesOn {plane : ControlPlane σ} {resource : ResourceType}
    {state : σ} {requests : Nat} (ends : plane.FetchEnds resource state requests)
    : ¬plane.FetchGoesOn resource state := by
  intro goesOn
  obtain ⟨outcome, final, finished, _, ran⟩ := ends
  obtain ⟨other, endless, _⟩ := goesOn requests
  rw [ran requests (Nat.le_refl requests)] at endless
  exact finished resource.key (Prod.mk.inj endless).1

/-- On a service that answers a request for a page by its cursor and whose pages name no more than
some cursors, a fetch comes to its end with one request more than that at the most, unless it comes
back to a cursor that it has asked for, other than with the request before. A fetch that does never
comes to its end. -/
theorem fetchAll_ends_iff {plane : ControlPlane σ} {holds : σ → Prop}
    {answer : ResourceType → Option String → Except RemoteError Page}
    (steady : plane.Steady holds answer) (state : σ) (start : holds state)
    (resource : ResourceType) {cursors : List String}
    (finite
      : ∀ {cursor page next},
          answer resource cursor = .ok page → page.next? = some next → next ∈ cursors)
    : ((∃ requests ≤ cursors.length + 1, plane.FetchEnds resource state requests)
        ↔ ¬Listing.Circles (answer resource))
      ∧ (plane.FetchGoesOn resource state ↔ Listing.Circles (answer resource)) := by
  constructor
  · constructor
    · rintro ⟨requests, _, ends⟩ circles
      exact ends.not_fetchGoesOn (steady.fetchGoesOn start circles)
    · exact steady.exists_fetchEnds start finite
  · constructor
    · intro goesOn
      refine Classical.byContradiction (fun straight => ?_)
      obtain ⟨requests, _, ends⟩ := steady.exists_fetchEnds start finite straight
      exact ends.not_fetchGoesOn goesOn
    · exact steady.fetchGoesOn start

-----------------------------------------------------------------------------------------
-- A page that names itself, and two pages that name each other
-----------------------------------------------------------------------------------------

namespace Sample

/-- A service with a page for every cursor. -/
def serving (page : Option String → Page) : ControlPlane Unit :=
  { ControlPlane.vacant with listPage := fun _ cursor => pure (.ok (page cursor)) }

theorem serving_steady (page : Option String → Page)
    : (serving page).Steady (fun _ => True) (fun _ cursor => .ok (page cursor)) where
  running := fun _ => rfl
  answers := fun _ _ _ => rfl
  kept := fun _ _ _ => trivial

/-- A page with one alarm and the cursor of another page. -/
def leading (id next : String) : Page :=
  ⟨[.object [("alarm_id", .string id)]], some next⟩

/-- Behind the first page there is one that names itself. -/
def atRest : Option String → Page
  | some _ => leading "b" "x"
  | none => leading "a" "x"

/-- Behind the first page there are two that name each other. -/
def inTurn : Option String → Page
  | some "x" => leading "b" "y"
  | some _ => leading "c" "x"
  | none => leading "a" "x"

theorem atRest_straight : ¬Listing.Circles (fun cursor => .ok (atRest cursor)) := by
  rintro ⟨earlier, later, cursor, apart, _, again⟩
  have ended : Listing.requested (fun cursor => .ok (atRest cursor)) none 2 = none := rfl
  have further : 2 ≤ later := Nat.le_trans (Nat.succ_le_succ (Nat.succ_pos earlier)) apart
  rw [Listing.requested_eq_none_of_le further ended] at again
  cases again

theorem inTurn_circles : Listing.Circles (fun cursor => .ok (inTurn cursor)) :=
  ⟨1, 3, some "x", by decide, rfl, rfl⟩

end Sample

/-- A page that names itself ends a fetch with two requests. -/
theorem fetchAll_ends_iff_atRest
    : (∀ cursor next, (Sample.atRest cursor).next? = some next → next ∈ ["x"])
      ∧ ¬Listing.Circles (fun cursor => .ok (Sample.atRest cursor))
      ∧ ∃ requests ≤ 2, (Sample.serving Sample.atRest).FetchEnds .alarm () requests := by
  have finite (cursor : Option String) (next : String)
      (named : (Sample.atRest cursor).next? = some next)
      : next ∈ ["x"] := by
    cases cursor <;> exact List.mem_singleton.mpr (Option.some.inj named).symm
  have within {cursor : Option String} {page : Page} {next : String}
      (answered : (.ok (Sample.atRest cursor) : Except RemoteError Page) = .ok page)
      (named : page.next? = some next)
      : next ∈ ["x"] := by
    cases answered
    exact finite cursor next named
  have ends :=
    fetchAll_ends_iff (Sample.serving_steady Sample.atRest) () trivial .alarm within
  exact ⟨finite, Sample.atRest_straight, ends.1.mpr Sample.atRest_straight⟩

/-- Two pages that name each other never let a fetch come to its end, although no page names any
other cursor. -/
theorem fetchAll_endless_inTurn
    : (Sample.serving Sample.inTurn).Steady (fun _ => True)
        (fun _ cursor => .ok (Sample.inTurn cursor))
      ∧ (∀ cursor next, (Sample.inTurn cursor).next? = some next → next ∈ ["x", "y"])
      ∧ (¬∃ requests, (Sample.serving Sample.inTurn).FetchEnds .alarm () requests)
      ∧ (Sample.serving Sample.inTurn).FetchGoesOn .alarm () := by
  have steady := Sample.serving_steady Sample.inTurn
  have goesOn : (Sample.serving Sample.inTurn).FetchGoesOn .alarm () :=
    steady.fetchGoesOn trivial Sample.inTurn_circles
  refine ⟨steady, ?_, ?_, goesOn⟩
  · intro cursor next named
    unfold Sample.inTurn at named
    split at named <;> cases named <;> decide
  · rintro ⟨requests, ends⟩
    exact ends.not_fetchGoesOn goesOn

end Remediation
