import Remediation.Proofs.ControlPlane.Gateway
import Remediation.Proofs.Url.Dots

/-! Routes of calls on one record. Wherever the path of an operation has the identity alone between
two slashes, every identity but two takes that one place in the route, and is read back from it. The
identities `.` and `..` are not escaped: a URL takes them for steps in its path, and the call is
sent elsewhere.
-/

namespace Remediation

open Url

/-- What stands for an identity in the path of an operation. -/
def placeholder : List Char :=
  "\x7bid\x7d".toList

/-- An operation has the identity in one place of its path, alone between `front` and `back`. -/
structure Operation.PlacesId (operation : Operation) (front back : List Char) : Prop where
  path : operation.path = String.ofList (front ++ (placeholder ++ back))
  opens : front = [] ∨ EndsInSlash front
  closes : back = [] ∨ back.head? = some '/'
  notInFront : ¬placeholder <:+: front
  notBehind : ¬placeholder <:+: back

namespace Gateway

variable {gateway : Gateway} {resource : ResourceType} {operation : Operation}
  {front back : List Char}

-----------------------------------------------------------------------------------------
-- Filling in
-----------------------------------------------------------------------------------------

/-- A path without a place is kept. -/
theorem fillId_of_no_place {id cs : List Char} (none : ¬placeholder <:+: cs)
    : fillId id cs = cs := by
  fun_induction fillId id cs with
  | case1 rest _ => exact absurd ⟨[], rest, rfl⟩ none
  | case2 c rest _ ih => rw [ih fun place => none (place.trans (List.suffix_cons c rest).isInfix)]
  | case3 => rfl

/-- The place of an identity is filled in, and what is in front of it is kept. Witness: induction on
the front; no place starts there, since the one behind would start inside of it. -/
theorem fillId_place {id : List Char} (none : ¬placeholder <:+: front) (back : List Char)
    : fillId id (front ++ (placeholder ++ back)) = front ++ (id ++ fillId id back) := by
  induction front with
  | nil => rfl
  | cons c rest ih =>
      have further := ih fun place => none (place.trans (List.suffix_cons c rest).isInfix)
      rw [List.cons_append, fillId, further, List.cons_append]
      rintro others rfl same
      have three : rest.take 3 = ['i', 'd', '\x7d'] := by
        match rest, same with
        | [], same => cases same
        | [_], same => cases same
        | [_, _], same => cases same
        | x :: y :: z :: rest, same =>
            obtain ⟨first, same⟩ := List.cons.inj same
            obtain ⟨second, same⟩ := List.cons.inj same
            rw [first, second, (List.cons.inj same).1]
            rfl
      have place : placeholder ++ rest.drop 3 = '\x7b' :: rest := by
        conv => rhs; rw [← rest.take_append_drop 3, three]
        rfl
      exact none ⟨[], rest.drop 3, place⟩

-----------------------------------------------------------------------------------------
-- The text of a route
-----------------------------------------------------------------------------------------

/-- A URL is the one of its resource type with the path behind it. -/
theorem toList_resourceUrl (gateway : Gateway) (resource : ResourceType) (path : String)
    : (gateway.resourceUrl resource path).toList
      = (gateway.resourceUrl resource "").toList ++ path.toList.dropWhile (· == '/') := by
  simp [resourceUrl, toString]

theorem endsInSlash_resourceUrl (gateway : Gateway) (resource : ResourceType)
    : EndsInSlash (gateway.resourceUrl resource "").toList := by
  have nothing : (String.ofList ("".toList.dropWhile (· == '/'))).toList = [] := rfl
  simp only [EndsInSlash, resourceUrl, toString, String.toList_append, nothing, List.append_nil]
  exact List.suffix_append _ _

theorem count_resourceUrl (gateway : Gateway) (resource : ResourceType)
    : 3 ≤ (gateway.resourceUrl resource "").toList.count '/' := by
  have slash : "/".toList.count '/' = 1 := rfl
  simp only [resourceUrl, toString, String.toList_append, List.count_append, slash]
  omega

/-- The URL in front of a place in a path ends in a slash. -/
theorem endsInSlash_front (opens : front = [] ∨ EndsInSlash front)
    : EndsInSlash (gateway.resourceUrl resource (String.ofList front)).toList := by
  rw [toList_resourceUrl, String.toList_ofList]
  by_cases slashes : front.dropWhile (· == '/') = []
  · rw [slashes, List.append_nil]
    exact endsInSlash_resourceUrl gateway resource
  · rcases opens with rfl | ends
    · exact absurd rfl slashes
    · exact (ends.of_suffix (List.dropWhile_suffix _) slashes).trans (List.suffix_append _ _)

theorem count_front
    : 3 ≤ (gateway.resourceUrl resource (String.ofList front)).toList.count '/' := by
  rw [toList_resourceUrl, List.count_append]
  exact Nat.le_add_right_of_le (count_resourceUrl gateway resource)

/-- The slashes at the front of a path are dropped in front of a segment only. -/
theorem resourceUrl_segment {segment : List Char} (single : IsSegment segment)
    : gateway.resourceUrl resource (String.ofList (front ++ (segment ++ back)))
      = String.ofList
          ((gateway.resourceUrl resource (String.ofList front)).toList ++ (segment ++ back)) := by
  have kept : (segment ++ back).dropWhile (· == '/') = segment ++ back := by
    obtain ⟨c, rest, rfl⟩ := List.exists_cons_of_ne_nil single.filled
    have noSlash : c ≠ '/' := (single.plain c List.mem_cons_self).2.1
    rw [List.cons_append, List.dropWhile_cons_of_neg (by simpa using noSlash)]
  rw [← String.toList_inj, toList_resourceUrl, toList_resourceUrl gateway resource (.ofList front)]
  simp only [String.toList_ofList, List.dropWhile_append, kept, List.append_assoc]
  split
  · rename_i slashes
    rw [List.isEmpty_iff.mp slashes, List.nil_append]
  · rfl

theorem isSegment_placeholder : IsSegment placeholder := by
  have characters : placeholder = ['\x7b', 'i', 'd', '\x7d'] := rfl
  constructor
  · exact List.cons_ne_nil _ _
  · simp [characters]

-----------------------------------------------------------------------------------------
-- Routes
-----------------------------------------------------------------------------------------

theorem operationUrl_none (places : operation.PlacesId front back)
    : gateway.operationUrl resource operation none
      = String.ofList
          ((gateway.resourceUrl resource (String.ofList front)).toList
            ++ (placeholder ++ back)) := by
  rw [operationUrl, operationPath, places.path, resourceUrl_segment isSegment_placeholder]

theorem operationUrl_some (places : operation.PlacesId front back) {id : String} (filled : id ≠ "")
    : gateway.operationUrl resource operation (some id)
      = String.ofList
          ((gateway.resourceUrl resource (String.ofList front)).toList
            ++ (escaped id.toList ++ back)) := by
  have single : IsSegment (escaped id.toList) :=
    isSegment_escaped fun empty => filled (String.toList_eq_nil_iff.mp empty)
  have path : operationPath operation (some id)
      = String.ofList (front ++ (escaped id.toList ++ back)) := by
    rw [operationPath, places.path, String.toList_ofList, fillId_place places.notInFront,
      fillId_of_no_place places.notBehind]
    rfl
  rw [operationUrl, path, resourceUrl_segment single]

/-- Where the route of a call on one record goes, for a service that is found at a plain URL. Either
the identity takes the one segment of the template that stands for it, and is read back from there,
or the operation itself takes that segment back and sends all calls to one place; only the
identities `.` and `..` are steps in the path, which take no segment and take one back, and no
segment of their routes is read as them. -/
theorem operationUrl_segment {base : Url} {before : List String}
    (places : operation.PlacesId front back)
    (reads : Url.parse (gateway.resourceUrl resource (String.ofList front)) = .ok base)
    (path : base.path = .segments (before ++ [""])) (query : base.query = none)
    (fragment : base.fragment = none)
    : let isFile := base.scheme == "file"
      let behind := partsBehind (isSpecial base.scheme) back
      let ending := if behind = [] then [""] else []
      let url (id : Option String) := Url.parse (gateway.operationUrl resource operation id)
      ∃ template,
        url none = .ok template
        ∧ ((∃ after,
            template.path = .segments (before ++ "%7Bid%7D" :: after)
            ∧ ∀ id,
                id ≠ "" ∧ id ≠ "." ∧ id ≠ ".." →
                  ∃ segment,
                    Text.ofUtf8? (percentDecode segment.toList) = some id.toList
                    ∧ url (some id)
                      = .ok { template with path := .segments (before ++ segment :: after) })
          ∨ (∃ part ∈ behind, isDoubleDot part = true)
            ∧ ∀ id, id ≠ "" ∧ id ≠ "." ∧ id ≠ ".." → url (some id) = .ok template)
        ∧ url (some ".")
          = .ok { template with path := .segments (resolve isFile (before ++ ending) behind) }
        ∧ url (some "..")
          = .ok
              {
                template with
                path := .segments (resolve isFile (parent isFile before ++ ending) behind)
              }
        ∧ ∀ id ∈ [".", ".."],
            ∀ sent segments,
              url (some id) = .ok sent ∧ sent.path = .segments segments →
                ∀ segment ∈ segments,
                  Text.ofUtf8? (percentDecode segment.toList) ≠ some id.toList := by
  intro isFile behind ending url
  have front' : parse (String.ofList (gateway.resourceUrl resource (String.ofList front)).toList)
      = .ok base := by
    rw [String.ofList_toList]
    exact reads
  obtain ⟨queryBehind, fragmentBehind, goesOn⟩ :=
    parse_segment (endsInSlash_front places.opens) count_front places.closes front' path query
      fragment
  let routed (segments : List String) : Url :=
    {
      base with
      path := .segments segments,
      query := queryBehind,
      fragment := fragmentBehind
    }
  have template
      : url none = .ok (routed (resolve isFile (before ++ ["%7Bid%7D"]) behind)) := by
    simp only [url, operationUrl_none places, goesOn placeholder isSegment_placeholder]
    rfl
  have filled {id : String} (some : id ≠ "")
      : url (.some id) = .ok (routed (resolve isFile before (escaped id.toList :: behind))) := by
    have single : IsSegment (escaped id.toList) :=
      isSegment_escaped fun empty => some (String.toList_eq_nil_iff.mp empty)
    simp only [url, operationUrl_some places some, goesOn _ single]
    rfl
  have kept {id : String} (ordinary : id ≠ "" ∧ id ≠ "." ∧ id ≠ "..")
      : url (.some id)
        = .ok
            (routed
              (resolve isFile (before ++ [String.ofList (escaped id.toList)]) behind)) := by
    rw [filled ordinary.1, resolve_escaped]
    · exact fun dot => ordinary.2.1 (String.toList_inj.mp dot)
    · exact fun dots => ordinary.2.2 (String.toList_inj.mp dots)
  refine ⟨_, template, ?_, ?_, ?_, ?_⟩
  · rcases resolve_place isFile before [] behind with
      ⟨after, stays⟩ | ⟨double, taken, same⟩
    · refine .inl ⟨after, congrArg Path.segments (stays "%7Bid%7D" (by decide)), ?_⟩
      intro id ordinary
      refine ⟨String.ofList (escaped id.toList), ?_, ?_⟩
      · rw [String.toList_ofList, escaped, percentDecode_percentEncode rfl, Text.ofUtf8?_bytes]
      · rw [kept ordinary, stays _ (by rw [String.toList_ofList, isDrive_escaped])]
    · refine .inr ⟨double, fun id ordinary => ?_⟩
      rw [kept ordinary, same _ (by rw [String.toList_ofList, isDrive_escaped]),
        same "%7Bid%7D" (by decide)]
  · have dot : escaped ".".toList = ['.'] := rfl
    rw [filled (by decide), dot, resolve_single]
  · have dots : escaped "..".toList = ['.', '.'] := rfl
    rw [filled (by decide), dots, resolve_double]
  · rintro id dots sent segments ⟨goes, path⟩ segment member read
    exact not_isStep_of_parse goes path segment member (isStep_of_reads dots read)

end Gateway

-----------------------------------------------------------------------------------------
-- The notifications of an alarm
-----------------------------------------------------------------------------------------

namespace Sample

/-- The route to the notifications of one alarm. -/
def updateNotifications : Operation :=
  ⟨"PUT", "alarms/\x7bid\x7d/notifications", none, none⟩

/-- A URL behind the gateway, with a path and no more. -/
def plainUrl (segments : List String) : Url :=
  { alarmsUrl "" with path := .segments segments, query := none }

theorem updateNotifications_placesId
    : updateNotifications.PlacesId "alarms/".toList "/notifications".toList := by
  refine ⟨?_, .inr ⟨"alarms".toList, ?_⟩, .inr ?_, ?_, ?_⟩
  · decide +kernel
  · decide +kernel
  · decide +kernel
  · decide +kernel
  · decide +kernel

end Sample

/-- The notifications of the alarms `.` and `..` are sent to other routes than the ones of all other
alarms. -/
theorem Gateway.operationUrl_segment_alarm
    : let url (id : Option String) :=
        Url.parse (Sample.gateway.operationUrl .alarm Sample.updateNotifications id)
      ResourceType.alarm.operation? "update-notifications" = some Sample.updateNotifications
      ∧ url none = .ok (Sample.plainUrl ["v2", "home", "alarms", "%7Bid%7D", "notifications"])
      ∧ (∀ id,
          id ≠ "" ∧ id ≠ "." ∧ id ≠ ".." →
            ∃ segment,
              Text.ofUtf8? (percentDecode segment.toList) = some id.toList
              ∧ url (some id)
                = .ok (Sample.plainUrl ["v2", "home", "alarms", segment, "notifications"]))
      ∧ url (some ".") = .ok (Sample.plainUrl ["v2", "home", "alarms", "notifications"])
      ∧ url (some "..") = .ok (Sample.plainUrl ["v2", "home", "notifications"])
      ∧ ∀ id ∈ [".", ".."],
          ∀ sent segments,
            url (some id) = .ok sent ∧ sent.path = .segments segments →
              ∀ segment ∈ segments,
                Text.ofUtf8? (percentDecode segment.toList) ≠ some id.toList := by
  have reads
      : Url.parse (Sample.gateway.resourceUrl .alarm (String.ofList "alarms/".toList))
        = .ok (Sample.plainUrl ["v2", "home", "alarms", ""]) := by
    decide +kernel
  have path
      : (Sample.plainUrl ["v2", "home", "alarms", ""]).path
        = .segments (["v2", "home", "alarms"] ++ [""]) :=
    rfl
  have written
      : Url.parse (Sample.gateway.operationUrl .alarm Sample.updateNotifications none)
        = .ok (Sample.plainUrl ["v2", "home", "alarms", "%7Bid%7D", "notifications"]) := by
    decide +kernel
  have single : ∀ part ∈ partsBehind true "/notifications".toList, isDoubleDot part = false := by
    decide +kernel
  obtain ⟨template, none, place, dot, dots⟩ :=
    Gateway.operationUrl_segment Sample.updateNotifications_placesId reads path rfl rfl
  cases none.symm.trans written
  refine ⟨by decide +kernel, written, ?_, dot, dots⟩
  rcases place with ⟨after, path, ordinary⟩ | ⟨⟨part, member, double⟩, _⟩
  · have tail : after = ["notifications"] := by
      have whole := Path.segments.inj path
      simpa using whole.symm
    rw [tail] at ordinary
    exact ordinary
  · exact absurd double (by rw [single part member]; exact Bool.false_ne_true)

end Remediation
