import Remediation.Proofs.ControlPlane.Gateway
import Remediation.Proofs.Resource.Walk

/-! Lists that are read by markers, where each page is asked for with the identity of the record
before it. The marker is read from the last record of a full page as a text, so a number ends the
reading there although it is an identity.
-/

namespace Remediation

variable {σ : Type}

-----------------------------------------------------------------------------------------
-- Identities as markers
-----------------------------------------------------------------------------------------

/-- The marker that is found in a record with an identity is its identity, unless that is a number,
which is no marker. -/
theorem Page.next?_of_identity {record : Json} {idField id : String}
    (found : identity record idField = some id) (items : List Json)
    : ((⟨items, (record.field? idField).bind Json.string?⟩ : Page).next? = some id
        ∧ ∀ number, record.field? idField ≠ some (.number number))
      ∨ ((⟨items, (record.field? idField).bind Json.string?⟩ : Page).next? = none
        ∧ ∃ number, record.field? idField = some (.number number)) := by
  unfold identity at found
  split at found
  · rename_i text field
    split at found
    · cases found
    · rename_i nonempty
      cases found
      left
      rw [field]
      exact ⟨Option.filter_some_pos (by simp [nonempty]), nofun⟩
  · rename_i number field
    right
    rw [field]
    exact ⟨rfl, number, rfl⟩
  · cases found

/-- Records at different places of a list that can be told apart have different identities. -/
theorem Distinguished.place_unique {idField : String} {records : List Json}
    (told : Distinguished idField records) {place other : Nat} {record same : Json} {id : String}
    (here : records[place]? = some record) (there : records[other]? = some same)
    (found : identity record idField = some id) (again : identity same idField = some id)
    : place = other := by
  have inside : place < (records.map (identity · idField)).length := by
    rw [List.length_map]
    exact (List.getElem?_eq_some_iff.mp here).1
  refine (List.getElem?_inj inside told.nodup_map).mp ?_
  rw [List.getElem?_map, List.getElem?_map, here, there, Option.map_some, Option.map_some, found,
    again]

-----------------------------------------------------------------------------------------
-- Reading by markers
-----------------------------------------------------------------------------------------

/-- The place behind full pages in front of which a reading by markers stops before the list has
come to its end: the last record of the last page has a number for an identity. -/
structure StopsAfter (limit : Nat) (idField : String) (records : List Json) (count : Nat)
    : Prop where
  whole : limit ∣ count
  inside : count < records.length
  number
    : ∃ before record number,
        count = before + 1
        ∧ records[before]? = some record
        ∧ record.field? idField = some (.number number)

/-- A service that answers every marker with the records behind the one with that identity, up to a
limit, and no marker with the first records. -/
structure ServesMarkers (gateway : Gateway) (transport : Http.Transport σ) (resource : ResourceType)
    (limit : Nat) (records : List Json)
    : Prop where
  first
    : ∀ session,
        ∃ response after,
          (gateway.askForPage transport resource none).run session = (.ok response, after)
          ∧ Page.itemsAt response resource.responsePath = .ok (records.take limit)
  behind
    : ∀ session place record id,
        records[place]? = some record
        → identity record resource.idField = some id
        → ∃ response after,
            (gateway.askForPage transport resource (some id)).run session = (.ok response, after)
            ∧ Page.itemsAt response resource.responsePath
              = .ok ((records.drop (place + 1)).take limit)

/-- Where a reading by markers stands: at the start of the list without a marker, or behind full
pages with the identity of the record before. -/
structure StandsAtMarker (resource : ResourceType) (limit : Nat) (records : List Json)
    (session : Session σ) (cursor : Option String) (place : Nat)
    : Prop where
  running : session.cancelled = false
  whole : limit ∣ place
  unstopped : ∀ count ≤ place, ¬StopsAfter limit resource.idField records count
  marker
    : place = 0 ∧ cursor = none
      ∨ ∃ before record id,
          place = before + 1
          ∧ records[before]? = some record
          ∧ identity record resource.idField = some id
          ∧ cursor = some id

section Walks

variable {gateway : Gateway} {transport : Http.Transport σ} {resource : ResourceType} {limit : Nat}
  {parameter : String} {records : List Json}

/-- Where a reading stands, the service answers with the records from there on. -/
theorem ServesMarkers.answers (serves : ServesMarkers gateway transport resource limit records)
    {session : Session σ} {cursor : Option String} {place : Nat}
    (here : StandsAtMarker resource limit records session cursor place)
    : ∃ response after,
        (gateway.askForPage transport resource cursor).run session = (.ok response, after)
        ∧ Page.itemsAt response resource.responsePath = .ok ((records.drop place).take limit) := by
  rcases here.marker with ⟨rfl, rfl⟩ | ⟨before, record, id, rfl, found, identified, rfl⟩
  · exact serves.first session
  · exact serves.behind session before record id found identified

/-- The marker that a full page names, if its last record names one. -/
theorem Page.cursorAfter_marker (paged : resource.pagination = .marker limit none parameter)
    (response : Json) (items : List Json) (cursor : Option String)
    : cursorAfter resource response items cursor
      = .ok
        (if items.length < limit then none
        else (items.getLast?.bind (·.field? resource.idField)).bind Json.string?) := by
  simp only [cursorAfter, paged]
  rfl

/-- The last record of a full page is the one before the place behind it. -/
theorem getLast?_page {place before : Nat} (full : place + limit = before + 1) (some : 0 < limit)
    (inside : place + limit ≤ records.length)
    : ((records.drop place).take limit).getLast? = records[before]? := by
  have length : ((records.drop place).take limit).length = limit := by
    rw [length_page]
    omega
  have last : place + (limit - 1) = before := by omega
  rw [List.getLast?_eq_getElem?, length, List.getElem?_take_of_lt (by omega), List.getElem?_drop,
    last]

/-- Pages found by markers lead up to the first full page that ends with a number, or through all
records. -/
theorem ServesMarkers.leadsThrough (paged : resource.pagination = .marker limit none parameter)
    (some : 0 < limit) (told : Distinguished resource.idField records)
    (serves : ServesMarkers gateway transport resource limit records)
    : LeadsThrough (gateway.plane transport) resource records
        (StandsAtMarker resource limit records)
        (fun _ count =>
          (∀ earlier < count, ¬StopsAfter limit resource.idField records earlier)
          ∧ (count < records.length → StopsAfter limit resource.idField records count)) where
  running := StandsAtMarker.running
  page := by
    intro session cursor place here inside
    obtain ⟨response, after, asked, found⟩ := serves.answers here
    have page := Gateway.run_listPage asked found (Page.cursorAfter_marker paged response _ cursor)
    have received := length_page records place limit
    have joined
        : records.take place ++ (records.drop place).take limit
          = records.take (place + limit) := by
      rw [List.take_add]
    -- Between two places that full pages lead to there is no other one.
    have unstopped
        : ∀ earlier < place + limit, ¬StopsAfter limit resource.idField records earlier := by
      intro earlier within stops
      rcases Nat.lt_or_ge place earlier with further | before
      · exact absurd (Nat.le_of_dvd (by omega) (Nat.dvd_sub stops.whole here.whole)) (by omega)
      · exact here.unstopped earlier before stops
    rcases Nat.lt_or_ge records.length (place + limit) with short | full
    · -- The page is not full, and so it is the last one.
      rw [received, if_pos (by omega)] at page
      refine ⟨_, records.length, after, page, Nat.le_refl _, ?_, ?_, nofun⟩
      · exact joined.trans
          ((List.take_of_length_le (Nat.le_of_lt short)).trans List.take_length.symm)
      · intro _
        exact ⟨fun earlier within => unstopped earlier (by omega),
          fun less => absurd less (Nat.lt_irrefl _)⟩
    · obtain ⟨before, behind⟩ : ∃ before, place + limit = before + 1 :=
        ⟨place + limit - 1, by omega⟩
      have last : before < records.length := by omega
      have there : records[before]? = Option.some records[before] := List.getElem?_eq_getElem last
      obtain ⟨id, identified⟩ := told.identified records[before] (List.getElem_mem last)
      rw [received, if_neg (by omega), getLast?_page behind some full, there,
        Option.bind_some] at page
      have whole : limit ∣ place + limit := Nat.dvd_add here.whole (Nat.dvd_refl limit)
      refine ⟨_, place + limit, after, page, full, joined, ?_⟩
      rcases Page.next?_of_identity identified ((records.drop place).take limit)
        with ⟨marked, text⟩ | ⟨unmarked, number, shown⟩
      · rw [marked]
        refine ⟨nofun, ?_⟩
        rintro name ⟨⟩
        have kept : after.cancelled = false :=
          (Gateway.cancelled_askForPage asked).trans here.running
        refine ⟨?_, by omega, kept, whole, ?_, .inr ⟨before, _, id, behind, there, identified, rfl⟩⟩
        · rintro rfl
          rcases here.marker with ⟨_, none⟩ | ⟨other, record, same, rfl, found, again, cursor⟩
          · cases none
          · cases cursor
            have one := told.place_unique there found identified again
            omega
        · intro count within stops
          rcases Nat.lt_or_eq_of_le within with earlier | rfl
          · exact unstopped count earlier stops
          · obtain ⟨other, record, number, place, found, shown⟩ := stops.number
            obtain rfl : before = other := by omega
            rw [there] at found
            cases found
            exact text number shown
      · rw [unmarked]
        refine ⟨fun _ => ⟨unstopped, fun less => ?_⟩, nofun⟩
        exact ⟨whole, less, before, _, number, behind, there, shown⟩

/-- Marker pagination reads a list up to the first full page that ends with a number for an identity
and has records behind it, and all of the list if there is no such page. -/
theorem Gateway.fetchAll_markers (paged : resource.pagination = .marker limit none parameter)
    (some : 0 < limit) (told : Distinguished resource.idField records)
    (serves : ServesMarkers gateway transport resource limit records) {budget : Nat}
    (enough : records.length < budget) {session : Session σ} (running : session.cancelled = false)
    : ∃ count after,
        (fetchAll (gateway.plane transport) budget resource).run session
          = (.ok (records.take count), after)
        ∧ count ≤ records.length
        ∧ (∀ earlier < count, ¬StopsAfter limit resource.idField records earlier)
        ∧ (count < records.length ↔ StopsAfter limit resource.idField records count) := by
  have start : StandsAtMarker resource limit records session none 0 := by
    refine ⟨running, Nat.dvd_zero limit, ?_, .inl ⟨rfl, rfl⟩⟩
    rintro count none ⟨_, _, before, _, _, behind, _⟩
    omega
  obtain ⟨count, after, ran, inside, unstopped, stops⟩ :=
    (serves.leadsThrough paged some told).run_fetchAll told enough start
  exact ⟨count, after, ran, inside, unstopped, stops, StopsAfter.inside⟩

end Walks

-----------------------------------------------------------------------------------------
-- A service with two alarms that have numbers
-----------------------------------------------------------------------------------------

namespace Sample

/-- Alarms that are read by markers, one with each request. -/
def markedAlarms : ResourceType :=
  { ResourceType.alarm with pagination := .marker 1 none "marker" }

/-- Two alarms with numbers. -/
def numberedAlarms : List Json :=
  [.object [("alarm_id", .ofNat 1)], .object [("alarm_id", .ofNat 2)]]

/-- What a service says that has two alarms with numbers. -/
def oneBehind : Option String → String
  | some "limit=1" => "\x7b\"alarms\":[\x7b\"alarm_id\":1\x7d]\x7d"
  | some "limit=1&marker=1" => "\x7b\"alarms\":[\x7b\"alarm_id\":2\x7d]\x7d"
  | _ => "\x7b\"alarms\":[]\x7d"

theorem numberedAlarms_distinguished : Distinguished "alarm_id" numberedAlarms where
  identified := by
    rintro record member
    rcases List.mem_pair.mp member with rfl | rfl
    · exact ⟨"1", rfl⟩
    · exact ⟨"2", rfl⟩
  distinct := by decide

/-- What the service says, read as a value. -/
def listedAlarms (items : List Json) : Json :=
  .object [("alarms", .array items)]

theorem oneBehind_serves
    : ServesMarkers gateway (answering oneBehind) markedAlarms 1 numberedAlarms where
  first := by
    intro session
    refine ⟨listedAlarms (numberedAlarms.take 1), session, ?_, rfl⟩
    exact run_askForPage "limit=1" (by rfl) (by rfl) (by rfl) (by rfl) (by rfl) (by rfl) session
  behind := by
    intro session place record id found identified
    refine ⟨listedAlarms ((numberedAlarms.drop (place + 1)).take 1), session, ?_, rfl⟩
    match place, found with
    | 0, rfl =>
        obtain rfl : "1" = id := Option.some.inj identified
        exact run_askForPage "limit=1&marker=1" (by rfl) (by rfl) (by rfl) (by rfl) (by rfl)
          (by rfl) session
    | 1, rfl =>
        obtain rfl : "2" = id := Option.some.inj identified
        exact run_askForPage "limit=1&marker=2" (by rfl) (by rfl) (by rfl) (by rfl) (by rfl)
          (by rfl) session

end Sample

/-- Only the first one of two alarms with numbers is read if there is one on each page. -/
theorem Gateway.fetchAll_markers_numbers
    : ∃ after,
        (fetchAll (Sample.gateway.plane (Sample.answering Sample.oneBehind)) 3
            Sample.markedAlarms).run
            ⟨(), [], false⟩
          = (.ok (Sample.numberedAlarms.take 1), after) := by
  obtain ⟨count, after, ran, inside, unstopped, stops⟩ :=
    Gateway.fetchAll_markers rfl Nat.one_pos Sample.numberedAlarms_distinguished
      Sample.oneBehind_serves (by decide : 2 < 3)
      (rfl : (⟨(), [], false⟩ : Session Unit).cancelled = false)
  have first : StopsAfter 1 "alarm_id" Sample.numberedAlarms 1 :=
    ⟨Nat.dvd_refl 1, by decide, 0, _, _, rfl, rfl, rfl⟩
  obtain rfl : count = 1 := by
    rcases Nat.lt_trichotomy count 1 with none | one | more
    · obtain ⟨_, _, before, _, _, behind, _⟩ := stops.mp (Nat.lt_trans none (by decide))
      omega
    · exact one
    · exact absurd first (unstopped 1 more)
  exact ⟨after, ran⟩

end Remediation
