import Remediation.Proofs.ControlPlane.Gateway
import Remediation.Proofs.Resource.Walk
import Remediation.Proofs.Run.Transparency

/-! Lists that are read by offsets. A service that answers every offset with some of the records
from there on is read to the end of its list, whatever number of records it answers with.
-/

namespace Remediation

variable {σ : Type}

-----------------------------------------------------------------------------------------
-- Offsets as text
-----------------------------------------------------------------------------------------

/-- The value of digits in base ten. -/
theorem digitsIn?_of_isDigit {cs : List Char} (some : cs ≠ [])
    (digits : ∀ c ∈ cs, c.isDigit = true)
    : digitsIn? 10 cs = Option.some (Nat.ofDigitChars 10 cs 0) := by
  have value {c : Char} (digit : c.isDigit = true)
      : digitIn? 10 c = Option.some (c.toNat - '0'.toNat) := by
    have range : 48 ≤ c.toNat ∧ c.toNat ≤ 57 := by
      simp only [Char.isDigit, Bool.and_eq_true, decide_eq_true_eq] at digit
      exact ⟨UInt32.le_iff_toNat_le.mp digit.1, UInt32.le_iff_toNat_le.mp digit.2⟩
    have small : c.toNat - 48 < 10 := by omega
    simp only [digitIn?, digit, if_true, small]
    rfl
  have behind (cs : List Char) (start : Nat) (digits : ∀ c ∈ cs, c.isDigit = true)
      : cs.foldlM (fun n c => (digitIn? 10 c).map (n * 10 + ·)) start
        = Option.some (Nat.ofDigitChars 10 cs start) := by
    induction cs generalizing start with
    | nil => rfl
    | cons c rest ih =>
        have first := value (digits c List.mem_cons_self)
        have others := ih (10 * start + (c.toNat - '0'.toNat))
          (fun other member => digits other (List.mem_cons_of_mem _ member))
        rw [List.foldlM_cons, first, Nat.ofDigitChars_cons, ← others, Nat.mul_comm 10]
        rfl
  unfold digitsIn?
  rw [if_neg (by simpa using some)]
  exact behind cs 0 digits

/-- The digits of a number have its value. -/
theorem digitsIn?_toString (number : Nat)
    : digitsIn? 10 (toString number).toList = some number := by
  have shown : (toString number).toList = Nat.toDigits 10 number := Nat.toList_repr
  rw [shown, digitsIn?_of_isDigit Nat.toDigits_ne_nil
      (fun c member => Nat.isDigit_of_mem_toDigits (by decide) (by decide) member),
    Nat.ofDigitChars_toDigits (by decide) (by decide)]

/-- A cursor that is the text of a number holds that number, if it is small enough for an offset. -/
theorem Page.offset?_toString_eq (number : Nat)
    : Page.offset? (toString number) = (some number).filter (· < UInt64.size) := by
  have value := digitsIn?_toString number
  unfold Page.offset?
  cases shown : (toString number).toList with
  | nil =>
      rw [shown] at value
      cases value
  | cons first rest =>
      have noPlus : first ≠ '+' := by
        rintro rfl
        have digit : ('+' : Char).isDigit = true := by
          refine Nat.isDigit_of_mem_toDigits (b := 10) (n := number) (by decide) (by decide) ?_
          rw [← Nat.toList_repr]
          exact shown ▸ List.mem_cons_self
        cases digit
      rw [shown] at value
      split
      · rename_i same
        cases same
        exact absurd rfl noPlus
      · change (digitsIn? 10 (first :: rest)).filter _ = _
        rw [value]

/-- A cursor that is the text of an offset holds that offset. -/
theorem Page.offset?_toString {offset : Nat} (small : offset < UInt64.size)
    : Page.offset? (toString offset) = some offset := by
  rw [Page.offset?_toString_eq, Option.filter_some, if_pos (decide_eq_true small)]

-----------------------------------------------------------------------------------------
-- Pages found by offsets
-----------------------------------------------------------------------------------------

namespace Page

/-- The cursor with which the page at an offset is asked for; the first page needs none. -/
def cursorAt (offset : Nat) : Option String :=
  if offset = 0 then none else some (toString offset)

/-- How many records there are in all, if an answer says so. -/
def total? (totalField : Option String) (response : Json) : Option Nat :=
  (totalField.bind (valueAtPath? response)).bind Json.nat?

/-- The offset behind a page that was asked for by an offset, unless the page is the last one. -/
theorem cursorAfter_offset {resource : ResourceType} {limit : Nat} {totalField : Option String}
    {parameter : String} (paged : resource.pagination = .offset limit totalField parameter)
    (response : Json) (items : List Json) {offset : Nat} (small : offset < UInt64.size)
    : cursorAfter resource response items (cursorAt offset)
      = .ok
        ((nextOffset? limit offset items.length (total? totalField response)).map toString) := by
  have held : (cursorAt offset).elim (some 0) offset? = some offset := by
    unfold cursorAt
    split
    · rename_i zero
      rw [zero]
      rfl
    · exact offset?_toString small
  simp only [cursorAfter, paged, held]
  rfl

end Page

/-- A page that is asked for by an offset is asked for by it in the query. -/
theorem Gateway.pageQuery_cursorAt (limit : Nat) (totalField : Option String) (parameter : String)
    (offset : Nat)
    : pageQuery (.offset limit totalField parameter) (Page.cursorAt offset)
      = [("limit", toString limit), (parameter, toString offset)] := by
  unfold Page.cursorAt
  split
  · rename_i zero
    rw [zero]
    rfl
  · rfl

/-- Different offsets are asked for with different cursors. -/
theorem Page.cursorAt_ne {offset next : Nat} (further : offset < next)
    : cursorAt offset ≠ some (toString next) := by
  unfold cursorAt
  split
  · exact nofun
  · intro same
    have one : digitsIn? 10 (toString offset).toList = digitsIn? 10 (toString next).toList :=
      congrArg (fun text : String => digitsIn? 10 text.toList) (Option.some.inj same)
    rw [digitsIn?_toString, digitsIn?_toString] at one
    exact absurd (Option.some.inj one) (Nat.ne_of_lt further)

/-- The list goes on behind the records of a page that has some. -/
theorem Page.of_nextOffset?_eq_some {limit offset received next : Nat} {total : Option Nat}
    (onward : nextOffset? limit offset received total = some next)
    : next = offset + received ∧ offset < next := by
  unfold nextOffset? at onward
  by_cases empty : received = 0
  · rw [if_pos empty] at onward
    cases onward
  · rw [if_neg empty, Option.ite_none_right_eq_some] at onward
    obtain rfl := Option.some.inj onward.2
    exact ⟨rfl, Nat.lt_add_of_pos_right (Nat.pos_of_ne_zero empty)⟩

/-- The list ends behind the last one of the records, if it is known how many there are in all or
if a page that is not full is the last one. -/
theorem Page.of_nextOffset?_eq_none {limit offset received count : Nat} {total : Option Nat}
    (inside : offset + received ≤ count) (some : offset < count → 0 < received)
    (counted
      : total = Option.some count
        ∨ total = none ∧ (received < limit → offset + received = count))
    (ended : nextOffset? limit offset received total = none)
    : offset + received = count := by
  unfold nextOffset? at ended
  by_cases empty : received = 0
  · omega
  · rw [if_neg empty, ite_eq_right_iff] at ended
    rcases counted with rfl | ⟨rfl, last⟩
    · by_cases more : offset + received < count
      · cases ended (decide_eq_true more)
      · omega
    · by_cases full : limit ≤ received
      · cases ended (decide_eq_true full)
      · exact last (Nat.lt_of_not_le full)

/-- The text of an offset is a cursor. -/
theorem Page.next?_toString (items : List Json) (next : Option Nat)
    : (⟨items, next.map toString⟩ : Page).next? = next.map toString := by
  cases next with
  | none => rfl
  | some offset =>
      have nonempty : (toString offset).isEmpty = false := by simp
      simp only [next?, Option.map_some, Option.filter_some, nonempty, Bool.not_false, if_true]

-----------------------------------------------------------------------------------------
-- Reading by offsets
-----------------------------------------------------------------------------------------

/-- A service that answers every offset with records from there on, with at least one if there are
any. Either it says how many records there are in all, or it fills its pages to the limit. -/
structure ServesOffsets (gateway : Gateway) (transport : Http.Transport σ) (resource : ResourceType)
    (limit : Nat) (totalField : Option String) (records : List Json)
    : Prop where
  answers
    : ∀ session offset,
        offset ≤ records.length
        → ∃ response after size,
            (gateway.askForPage transport resource (Page.cursorAt offset)).run session
              = (.ok response, after)
            ∧ Page.itemsAt response resource.responsePath = .ok ((records.drop offset).take size)
            ∧ (offset < records.length → 0 < size)
            ∧ (Page.total? totalField response = some records.length
              ∨ Page.total? totalField response = none ∧ size = limit)

/-- Requests for pages, each at an offset that is the number of records that have come before. -/
inductive OffsetRequests (resource : ResourceType) (limit : Nat) (parameter : String)
    : List Exchange → List Nat → Nat → Prop
  | nothing : OffsetRequests resource limit parameter [] [] 0
  | page {made : List Exchange} {offsets : List Nat} {received : Nat} {cursor : Option String}
    {page : Page} {cancelled : Bool}
    (before : OffsetRequests resource limit parameter made offsets received)
    (asked
      : Gateway.pageQuery resource.pagination cursor
        = [("limit", toString limit), (parameter, toString received)])
    : OffsetRequests resource limit parameter
        (made ++ [⟨.list resource cursor (.ok page), cancelled⟩]) (offsets ++ [received])
        (received + page.items.length)

/-- Requests that came to their end: the first one was at the start of the list, each one behind was
further on, and all records have come. -/
structure OffsetsComplete (resource : ResourceType) (limit : Nat) (parameter : String)
    (exchanges : List Exchange) (offsets : List Nat) (received : Nat)
    : Prop where
  requests : OffsetRequests resource limit parameter exchanges offsets received
  start : offsets.head? = some 0
  increasing : offsets.Pairwise (· < ·)

/-- Where a reading by offsets stands: behind the records that have come, with the offset that is
their number. -/
structure StandsAtOffset (resource : ResourceType) (limit : Nat) (parameter : String)
    (recorded : Recorded (Session σ)) (cursor : Option String) (place : Nat)
    : Prop where
  running : recorded.state.cancelled = false
  cursor : cursor = Page.cursorAt place
  requests
    : ∃ offsets,
        OffsetRequests resource limit parameter recorded.exchanges offsets place
        ∧ (offsets ++ [place]).head? = some 0
        ∧ (offsets ++ [place]).Pairwise (· < ·)

/-- Offsets that increase up to a place do so up to any place further on. -/
theorem increasing_further {offsets : List Nat} {place next : Nat}
    (increasing : (offsets ++ [place]).Pairwise (· < ·)) (forward : place < next)
    : (offsets ++ [place] ++ [next]).Pairwise (· < ·) := by
  refine List.pairwise_append.mpr ⟨increasing, List.pairwise_singleton _ _, ?_⟩
  intro earlier member later same
  obtain rfl := List.mem_singleton.mp same
  rcases List.mem_append.mp member with before | now
  · have less : earlier < place :=
      (List.pairwise_append.mp increasing).2.2 earlier before place List.mem_cons_self
    exact Nat.lt_trans less forward
  · exact List.mem_singleton.mp now ▸ forward

/-- Pages found by offsets lead through all records. -/
theorem ServesOffsets.leadsThrough {gateway : Gateway} {transport : Http.Transport σ}
    {resource : ResourceType} {limit : Nat} {totalField : Option String} {parameter : String}
    {records : List Json} (paged : resource.pagination = .offset limit totalField parameter)
    (counted : records.length < UInt64.size)
    (serves : ServesOffsets gateway transport resource limit totalField records)
    : LeadsThrough (gateway.plane transport).recorded resource records
        (StandsAtOffset resource limit parameter)
        (fun recorded place =>
          place = records.length
          ∧ ∃ offsets,
              OffsetsComplete resource limit parameter recorded.exchanges offsets place) where
  running := StandsAtOffset.running
  page := by
    intro recorded cursor offset here inside
    obtain ⟨running, rfl, offsets, requests, start, increasing⟩ := here
    obtain ⟨response, after, size, asked, found, some, total⟩ :=
      serves.answers recorded.state offset inside
    have received := length_page records offset size
    have onward :=
      Page.cursorAfter_offset paged response ((records.drop offset).take size)
        (Nat.lt_of_le_of_lt inside counted)
    have page := Gateway.run_listPage asked found onward
    rw [received] at page
    -- The request is written down behind the others.
    have made (page : Page) (held : page.items.length = min size (records.length - offset))
        (cancelled : Bool)
        : OffsetRequests resource limit parameter
            (recorded.exchanges ++ [⟨.list resource (Page.cursorAt offset) (.ok page), cancelled⟩])
            (offsets ++ [offset]) (offset + min size (records.length - offset)) :=
      held ▸ requests.page (paged ▸ Gateway.pageQuery_cursorAt limit totalField parameter offset)
    have joined
        : records.take offset ++ (records.drop offset).take size
          = records.take (offset + min size (records.length - offset)) := by
      have same
          : (records.drop offset).take size
            = (records.drop offset).take (min size (records.length - offset)) := by
        rw [List.take_eq_take_iff, List.length_drop]
        omega
      rw [List.take_add, same]
    refine ⟨_, _, _, ControlPlane.run_recorded_listPage page, by omega, joined, ?_, ?_⟩
    · intro ended
      rw [Page.next?_toString, Option.map_eq_none_iff] at ended
      refine ⟨Page.of_nextOffset?_eq_none (by omega) (by omega) ?_ ended, _, made _ received _,
        start, increasing⟩
      exact total.imp_right (fun ⟨unsaid, full⟩ => ⟨unsaid, by omega⟩)
    · intro name named
      rw [Page.next?_toString] at named
      obtain ⟨next, found, rfl⟩ := Option.map_eq_some_iff.mp named
      obtain ⟨rfl, forward⟩ := Page.of_nextOffset?_eq_some found
      have kept : after.cancelled = false := (Gateway.cancelled_askForPage asked).trans running
      refine ⟨Page.cursorAt_ne forward, forward, kept, ?_, _, made _ received _, ?_,
        increasing_further increasing forward⟩
      · exact (if_neg (Nat.ne_of_gt (Nat.zero_lt_of_lt forward))).symm
      · rw [List.head?_append, start]
        rfl

/-- Offset pagination is complete. If a service answers every offset with some records from there
on, and either tells how many there are in all, whatever number it answers with, or fills its
pages to a limit, then a fetch hands out all records in their order. It asks for pages at offsets
from the start of the list on, each one further on than the one before and equal to the number of
records that have come. -/
theorem Gateway.fetchAll_offsets {gateway : Gateway} {transport : Http.Transport σ}
    {resource : ResourceType} {limit : Nat} {totalField : Option String} {parameter : String}
    {records : List Json} (paged : resource.pagination = .offset limit totalField parameter)
    (told : Distinguished resource.idField records) (counted : records.length < UInt64.size)
    (serves : ServesOffsets gateway transport resource limit totalField records) {budget : Nat}
    (enough : records.length < budget) {session : Session σ} (running : session.cancelled = false)
    : ∃ final offsets,
        (fetchAll (gateway.plane transport) budget resource).run session
          = (.ok records, final.state)
        ∧ (fetchAll (gateway.plane transport).recorded budget resource).run (.start session)
          = (.ok records, final)
        ∧ OffsetsComplete resource limit parameter final.exchanges offsets records.length := by
  have start
      : StandsAtOffset resource limit parameter (.start session : Recorded (Session σ)) none 0 :=
    ⟨running, rfl, [], .nothing, rfl, List.pairwise_singleton _ _⟩
  obtain ⟨count, final, ran, _, rfl, offsets, complete⟩ :=
    (serves.leadsThrough paged counted).run_fetchAll told enough start
  rw [List.take_length] at ran
  have plain := fetchAll_mirrors (gateway.plane transport) budget resource (.start session)
  rw [ran] at plain
  exact ⟨final, offsets, plain, ran, complete⟩

-----------------------------------------------------------------------------------------
-- A service that shows one of two alarms at a time
-----------------------------------------------------------------------------------------

namespace Sample

def twoAlarms : List Json :=
  [.object [("alarm_id", .string "a")], .object [("alarm_id", .string "b")]]

/-- What a service says that has two alarms and never shows more than one of them. -/
def oneByOne : Option String → String
  | some "limit=100&offset=0" => "\x7b\"alarms\":[\x7b\"alarm_id\":\"a\"\x7d],\"count\":2\x7d"
  | some "limit=100&offset=1" => "\x7b\"alarms\":[\x7b\"alarm_id\":\"b\"\x7d],\"count\":2\x7d"
  | _ => "\x7b\"alarms\":[],\"count\":2\x7d"

theorem twoAlarms_distinguished : Distinguished "alarm_id" twoAlarms where
  identified := by
    rintro record member
    rcases List.mem_pair.mp member with rfl | rfl
    · exact ⟨"a", rfl⟩
    · exact ⟨"b", rfl⟩
  distinct := by decide

/-- What the service says, read as a value. -/
def countedAlarms (items : List Json) : Json :=
  .object [("alarms", .array items), ("count", .ofNat 2)]

theorem oneByOne_serves
    : ServesOffsets gateway (answering oneByOne) .alarm 100 (some "count") twoAlarms where
  answers := by
    intro session offset inside
    refine ⟨countedAlarms ((twoAlarms.drop offset).take 1), session, 1, ?_, rfl,
      fun _ => Nat.one_pos, .inl rfl⟩
    match offset, inside with
    | 0, _ =>
        exact run_askForPage "limit=100&offset=0" (by rfl) (by rfl) (by rfl) (by rfl) (by rfl)
          (by rfl) session
    | 1, _ =>
        exact run_askForPage "limit=100&offset=1" (by rfl) (by rfl) (by rfl) (by rfl) (by rfl)
          (by rfl) session
    | 2, _ =>
        exact run_askForPage "limit=100&offset=2" (by rfl) (by rfl) (by rfl) (by rfl) (by rfl)
          (by rfl) session

end Sample

/-- Both alarms are read from a service that shows one of them at a time. -/
theorem Gateway.fetchAll_offsets_alarms
    : ∃ (final : Recorded (Session Unit)) (offsets : List Nat),
        (fetchAll (Sample.gateway.plane (Sample.answering Sample.oneByOne)) 3 .alarm).run
            ⟨(), [], false⟩
          = (.ok Sample.twoAlarms, final.state)
        ∧ (fetchAll (Sample.gateway.plane (Sample.answering Sample.oneByOne)).recorded 3 .alarm).run
            (.start ⟨(), [], false⟩)
          = (.ok Sample.twoAlarms, final)
        ∧ OffsetsComplete .alarm 100 "offset" final.exchanges offsets 2 :=
  Gateway.fetchAll_offsets rfl Sample.twoAlarms_distinguished (by decide) Sample.oneByOne_serves
    (by decide : 2 < 3) (rfl : (⟨(), [], false⟩ : Session Unit).cancelled = false)

end Remediation
