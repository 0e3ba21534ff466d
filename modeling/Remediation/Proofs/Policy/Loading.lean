import Remediation.Policy.Document
import Remediation.Proofs.Document.Records
import Remediation.Proofs.Filter.Parts

/-! What reading makes of filters. A filter on the elements of a list is refused if the search for
policies finds one in its conditions. The search does not look below a list, but whatever stands
there was read before, so that it has plain lists already or was refused.
-/

namespace Remediation

-----------------------------------------------------------------------------------------
-- Filters
-----------------------------------------------------------------------------------------

namespace Filter

/-- A filter on elements that is read has no condition in which the search finds a policy. -/
theorem exists_of_readListItem {read : Json → Read Filter} {fields : Fields} {filter : Filter}
    (accepted : readListItem read fields = .ok filter)
    : ∃ key attributes count,
        filter = .listItem key attributes count
        ∧ (attributes = [] ∨ ∃ given, readList read given = .ok attributes)
        ∧ ∀ condition ∈ attributes, condition.missingPolicies = [] := by
  unfold readListItem at accepted
  extract_lets behindKey at accepted
  obtain ⟨key, accepted⟩ : ∃ key, behindKey key = .ok filter := by
    split at accepted
    · exact ⟨_, accepted⟩
    · cases accepted
  unfold behindKey at accepted
  extract_lets behindAttributes at accepted
  obtain ⟨attributes, given, accepted⟩
      : ∃ attributes,
          (attributes = [] ∨ ∃ given, readList read given = .ok attributes)
          ∧ behindAttributes attributes = .ok filter := by
    split at accepted
    · obtain ⟨attributes, given, accepted⟩ := exceptBind_eq_ok_iff.mp accepted
      exact ⟨attributes, .inr ⟨_, given⟩, accepted⟩
    · exact ⟨[], .inl rfl, accepted⟩
  unfold behindAttributes at accepted
  split at accepted
  · cases accepted
  · rename_i unseen
    extract_lets behindCount at accepted
    obtain ⟨count, accepted⟩ : ∃ count, behindCount count = .ok filter := by
      split at accepted
      · split at accepted
        · cases accepted
        · split at accepted
          · split at accepted
            · exact ⟨_, accepted⟩
            · cases accepted
          · exact ⟨_, accepted⟩
      · exact ⟨_, accepted⟩
    cases accepted
    exact ⟨key, attributes, count, rfl, given, by simpa using unseen⟩

/-- A reader whose filters have plain lists. -/
def ReadsPlain (read : Json → Read Filter) : Prop :=
  ∀ {json filter}, read json = .ok filter → filter.HasPlainLists

end Filter

/-- The filters of a policy have plain lists. -/
def Policy.HasPlainLists (policy : Policy) : Prop :=
  ∀ filter ∈ policy.filters, filter.HasPlainLists

namespace Filter.ReadsPlain

variable {read : Json → Read Filter} {filter : Filter}

theorem readList (plain : ReadsPlain read) {json : Json} {filters : List Filter}
    (accepted : Filter.readList read json = .ok filters)
    : ∀ filter ∈ filters, filter.HasPlainLists := by
  intro filter member
  cases json with
  | array items =>
      obtain ⟨_, _, found⟩ := exists_of_mem_exceptMapM accepted member
      exact plain found
  | null | bool _ | number _ | string _ | object _ => cases accepted

theorem readListItem (plain : ReadsPlain read) {fields : Fields}
    (accepted : Filter.readListItem read fields = .ok filter)
    : filter.HasPlainLists := by
  obtain ⟨key, attributes, count, rfl, given, unseen⟩ := exists_of_readListItem accepted
  refine .list ?_ unseen
  rcases given with rfl | ⟨_, given⟩
  · nofun
  · exact plain.readList given

/-- Joined filters have plain lists if those that are joined do. -/
theorem readSingle (plain : ReadsPlain read) {key : String} {inner : Json}
    (accepted : Filter.readSingle read key inner = .ok (.joined filter))
    : filter.HasPlainLists := by
  unfold Filter.readSingle at accepted
  split at accepted
  · obtain ⟨filters, found, same⟩ := exceptMap_eq_ok_iff.mp accepted
    cases same
    exact .all (plain.readList found)
  · obtain ⟨filters, found, same⟩ := exceptMap_eq_ok_iff.mp accepted
    cases same
    exact .any (plain.readList found)
  · split at accepted
    · obtain ⟨filters, found, same⟩ := exceptMap_eq_ok_iff.mp accepted
      have each := plain.readList found
      split at same
      · cases same
        exact .negation (each _ List.mem_cons_self)
      · cases same
        exact .negation (.all each)
    · obtain ⟨negated, found, same⟩ := exceptMap_eq_ok_iff.mp accepted
      cases same
      exact .negation (plain found)
  · cases accepted
  · split at accepted
    · cases accepted
    · cases accepted
      exact .value _

/-- A part of a document that is read by way of JSON is read from some JSON. -/
theorem viaJson (plain : ReadsPlain read) {format : Document.Format} {node : Document.Node}
    (accepted : Policy.viaJson format read node = .ok filter)
    : filter.HasPlainLists := by
  obtain ⟨json, _, accepted⟩ := exceptBind_eq_ok_iff.mp accepted
  split at accepted
  · rename_i found
    cases accepted
    exact plain found
  · cases accepted

/-- Every field of a policy leaves it with plain lists. -/
theorem keeps (plain : ReadsPlain read) (format : Document.Format)
    : Document.Keeps Policy.HasPlainLists (Policy.take format read) := by
  intro policy field node taken before accepted
  unfold Policy.take at accepted
  split at accepted
  case h_4 =>
    obtain ⟨filters, found, same⟩ := exceptBind_eq_ok_iff.mp accepted
    cases same
    obtain ⟨_, _, found⟩ := exceptBind_eq_ok_iff.mp found
    intro filter member
    obtain ⟨_, _, viaJson⟩ := exists_of_mem_exceptMapM found member
    exact plain.viaJson viaJson
  -- No other field touches the filters.
  all_goals
    obtain ⟨_, _, same⟩ := exceptBind_eq_ok_iff.mp accepted
    cases same
    exact before

theorem policy (plain : ReadsPlain read) {format : Document.Format} {node : Document.Node}
    {policy : Policy} (accepted : Policy.ofNodeWith format read node = .ok policy)
    : policy.HasPlainLists := by
  refine Document.Keeps.record (plain.keeps format) ?_ accepted
  intro filter member
  cases member

theorem readByType (plain : ReadsPlain read) {fields : Fields}
    (accepted : Filter.readByType read fields = .ok filter)
    : filter.HasPlainLists := by
  unfold Filter.readByType at accepted
  split at accepted
  · obtain ⟨value, _, rfl⟩ := exceptMap_eq_ok_iff.mp accepted
    exact .value value
  · exact plain.readListItem accepted
  · split at accepted
    · cases accepted
    · split at accepted
      · rename_i found
        cases accepted
        exact .missing (plain.policy found)
      · cases accepted
  · obtain ⟨namespaces, _, accepted⟩ := exceptBind_eq_ok_iff.mp accepted
    obtain ⟨metricNames, _, accepted⟩ := exceptBind_eq_ok_iff.mp accepted
    cases accepted
    exact .namespaceMetric namespaces metricNames
  · cases accepted
  · split at accepted
    · obtain ⟨value, _, rfl⟩ := exceptMap_eq_ok_iff.mp accepted
      exact .value value
    · cases accepted

end Filter.ReadsPlain

/-- Whatever is read has plain lists. Witness: induction on how deep the value may be nested; what
stands in a filter is read with less. -/
theorem Filter.readsPlain_readTo (fuel : Nat) : ReadsPlain (readTo fuel) := by
  induction fuel with
  | zero => nofun
  | succ fuel ih =>
      intro json filter accepted
      cases json with
      | object fields =>
          unfold readTo at accepted
          split at accepted
          · obtain ⟨single, found, accepted⟩ := exceptBind_eq_ok_iff.mp accepted
            cases single with
            | joined joined =>
                cases accepted
                exact ih.readSingle found
            | mapping => exact ih.readByType accepted
          · exact ih.readByType accepted
      | null | bool _ | number _ | string _ | array _ => cases accepted

theorem Filter.readsPlain_ofJson : ReadsPlain ofJson :=
  readsPlain_readTo _

-----------------------------------------------------------------------------------------
-- Documents
-----------------------------------------------------------------------------------------

namespace Policy.HasPlainLists

variable {policy inner : Policy}

/-- A policy right inside of one with plain lists has plain lists too. -/
theorem nested (plain : policy.HasPlainLists) (nested : inner ∈ policy.nested)
    : inner.HasPlainLists := by
  obtain ⟨filter, member, inside⟩ := Filter.exists_hasPart_of_mem_missingPoliciesOfAll _ nested
  exact fun below memberBelow =>
    (plain filter member).part (inside.trans (.inPolicy memberBelow (.self below)))

/-- Plain lists reach down to the policies at every level. -/
theorem contains (plain : policy.HasPlainLists) (contains : policy.Contains inner)
    : inner.HasPlainLists := by
  induction contains with
  | self => exact plain
  | inside nested _ ih => exact ih (plain.nested nested)

end Policy.HasPlainLists

namespace PolicyDocument

variable {document : PolicyDocument}

theorem hasPlainLists_of_readPolicies {format : Document.Format} {node : Document.Node}
    {policies : List Policy} (read : readPolicies format node = .ok policies)
    : ∀ policy ∈ policies, policy.HasPlainLists := by
  have keeps
      : Document.Keeps (fun policies => ∀ policy ∈ policies, policy.HasPlainLists)
          (fun _ _ node => Document.list format (Policy.ofNode format) node) := by
    intro before field node taken _ accepted
    obtain ⟨nodes, _, accepted⟩ := exceptBind_eq_ok_iff.mp accepted
    intro policy member
    obtain ⟨_, _, found⟩ := exists_of_mem_exceptMapM accepted member
    exact Filter.readsPlain_ofJson.policy found
  exact Document.Keeps.record @keeps (List.forall_mem_nil _) read

theorem hasPlainLists_of_ofNode {format : Document.Format} {isValue startsText : Bool}
    {node : Document.Node} (read : ofNode format isValue startsText node = .ok document)
    : ∀ policy ∈ document.policies, policy.HasPlainLists := by
  unfold ofNode at read
  split at read
  · cases read
  · rename_i policies readPolicies
    obtain ⟨_, _, rfl⟩ := exceptMap_eq_ok_iff.mp read
    exact hasPlainLists_of_readPolicies readPolicies

/-- The policies of a document have plain lists in whatever language it is written. -/
theorem hasPlainLists_of_parse {format : DocumentFormat} {source : String}
    (read : parse format source = .ok document)
    : ∀ policy ∈ document.policies, policy.HasPlainLists := by
  cases format with
  | json =>
      simp only [parse, parseJson] at read
      split at read
      · exact hasPlainLists_of_ofNode read
      · cases read
  | yaml =>
      simp only [parse, parseYaml] at read
      split at read
      · split at read
        · cases read
        · exact hasPlainLists_of_ofNode read
      · cases read

end PolicyDocument

end Remediation
