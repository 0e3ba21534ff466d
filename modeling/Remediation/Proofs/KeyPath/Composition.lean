import Remediation.KeyPath.Resolve

/-! Key paths one behind the other. A path that is cut in two reaches what its back part reaches from
the values its front part has reached: from one value, or from every value in an array of arrays,
one level of arrays for each step of the front part that projects.
-/

namespace Remediation

theorem Json.isNull_iff {value : Json} : value.isNull = true ↔ value = .null := by
  cases value <;> simp [Json.isNull]

namespace Step

/-- Whether the rest of a path is followed from many values behind a step. -/
def projects : Step → Bool
  | .field _ | .index _ => false
  | .project | .flatten | .select .. => true

/-- How many steps of a path project. -/
def projections (steps : List Step) : Nat :=
  steps.countP projects

/-- Follows a function from the values that stand `depth` arrays deep. Every array on the way keeps
what is reached, without nulls.
-/
def mapAt : Nat → (Json → Option Json) → Json → Option Json
  | 0, follow, value => follow value
  | depth + 1, follow, value => do
      let items ← value.items?
      some (projected (mapAt depth follow) items)

-----------------------------------------------------------------------------------------
-- One step
-----------------------------------------------------------------------------------------

/-- The values from which the rest of a path is followed behind a step that projects. -/
def elements? : Step → Json → Option (List Json)
  | .field _, _ | .index _, _ => none
  | .project, value => value.items?
  | .flatten, value => value.items?.map flattened
  | .select path test, value => value.items?.map (·.filter (keeps path test))

/-- Behind a step that does not project, the rest of the path is followed from one value. -/
theorem resolve_cons_of_plain {step : Step} (plain : step.projects = false) (rest : List Step)
    (value : Json)
    : resolve (step :: rest) value = (resolve [step] value).bind (resolve rest) := by
  cases step with
  | field name => simp [resolve, Option.bind_assoc]
  | index position => simp [resolve, Option.bind_assoc]
  | project | flatten | select path test => cases plain

theorem resolve_cons_of_projects {step : Step} (projecting : step.projects = true)
    (rest : List Step) (value : Json)
    : resolve (step :: rest) value = (step.elements? value).map (projected (resolve rest)) := by
  cases step with
  | field name | index position => cases projecting
  | project =>
      simp only [resolve, elements?]
      cases value.items? <;> rfl
  | flatten =>
      simp only [resolve, elements?]
      cases value.items? <;> rfl
  | select path test =>
      simp only [resolve, elements?]
      cases value.items? <;> rfl

/-- Behind steps that do not project, another path is followed from the value they reach. -/
theorem resolve_append_of_plain {front : List Step}
    (plain : ∀ step ∈ front, step.projects = false) (back : List Step) (value : Json)
    : resolve (front ++ back) value = (resolve front value).bind (resolve back) := by
  induction front generalizing value with
  | nil => simp [resolve]
  | cons step rest ih =>
      obtain ⟨first, others⟩ := List.forall_mem_cons.mp plain
      rw [List.cons_append, resolve_cons_of_plain first, resolve_cons_of_plain first rest,
        Option.bind_assoc, funext (ih others)]

-----------------------------------------------------------------------------------------
-- Null is as good as nothing
-----------------------------------------------------------------------------------------

/-- Following no further steps leaves the elements as they are, but for nulls. -/
theorem projected_here {items : List Json} (noNull : ∀ item ∈ items, item ≠ .null)
    : projected (resolve []) items = .array items := by
  have here : resolve [] = some := by
    funext value
    simp [resolve]
  have all : ∀ item ∈ items, (!item.isNull) = true := by
    intro item member
    rw [Bool.not_eq_true', ← Bool.not_eq_true, Json.isNull_iff]
    exact noNull item member
  rw [projected, here, List.filterMap_some, List.filter_eq_self.mpr all]

/-- From null a function reaches nothing that a projection would keep. -/
def StopsAtNull (follow : Json → Option Json) : Prop :=
  ∀ found, follow .null = some found → found = .null

/-- No path leads on from null: only the empty one reaches anything, null itself. -/
theorem resolve_stopsAtNull (steps : List Step) : StopsAtNull (resolve steps) := by
  intro found reached
  cases steps with
  | nil => simpa [resolve, eq_comm] using reached
  | cons step rest => cases step <;> simp [resolve, Json.fields?, Json.items?] at reached

theorem StopsAtNull.mapAt {follow : Json → Option Json} (stops : StopsAtNull follow) (depth : Nat)
    : StopsAtNull (mapAt depth follow) := by
  cases depth with
  | zero => exact stops
  | succ depth =>
      intro found reached
      simp [Step.mapAt, Json.items?] at reached

/-- Following two functions one after the other from every element is following the second one from
what the first has left, for the nulls that it leaves out lead nowhere. Witness: induction on the
elements.
-/
theorem projected_bind {first next : Json → Option Json} (stops : StopsAtNull next)
    (items : List Json)
    : projected (fun item => (first item).bind next) items
      = projected next ((items.filterMap first).filter (!·.isNull)) := by
  simp only [projected, Json.array.injEq]
  induction items with
  | nil => rfl
  | cons item rest ih =>
      cases reached : first item with
      | none => simpa [List.filterMap_cons, reached] using ih
      | some value =>
          cases null : value.isNull with
          | false =>
              cases further : next value with
              | none => simpa [List.filterMap_cons, reached, null, further] using ih
              | some found => simp [List.filter_cons, reached, null, further, ih]
          | true =>
              obtain rfl := Json.isNull_iff.mp null
              cases further : next .null with
              | none => simpa [List.filterMap_cons, reached, null, further] using ih
              | some found =>
                  obtain rfl := stops found further
                  simpa [List.filterMap_cons, reached, null, further] using ih

/-- A projection along two functions is one along the first, mapped one level deeper. -/
theorem projected_mapAt {first next : Json → Option Json} {depth : Nat} (stops : StopsAtNull next)
    (items : List Json)
    : some (projected (fun item => (first item).bind (mapAt depth next)) items)
      = mapAt (depth + 1) next (projected first items) := by
  rw [projected_bind (stops.mapAt depth)]
  rfl

-----------------------------------------------------------------------------------------
-- Two paths
-----------------------------------------------------------------------------------------

/-- Paths compose: what two paths one behind the other reach is what the second one reaches from
what the first has reached, at the depth of arrays that its projections have made. Witness:
induction on the first path.
-/
theorem resolve_append (front back : List Step) (value : Json)
    : resolve (front ++ back) value
      = (resolve front value).bind (mapAt (projections front) (resolve back)) := by
  induction front generalizing value with
  | nil => simp [resolve, projections, mapAt]
  | cons step rest ih =>
      have onward := funext ih
      cases projecting : step.projects with
      | false =>
          have same : projections (step :: rest) = projections rest := by
            simp [projections, projecting]
          rw [List.cons_append, resolve_cons_of_plain projecting,
            resolve_cons_of_plain projecting rest, Option.bind_assoc, same, onward]
      | true =>
          have deeper : projections (step :: rest) = projections rest + 1 := by
            simp [projections, projecting]
          have stops := resolve_stopsAtNull back
          rw [List.cons_append, resolve_cons_of_projects projecting,
            resolve_cons_of_projects projecting rest, deeper, onward]
          cases step.elements? value with
          | none => rfl
          | some items => exact projected_mapAt stops items

end Step

end Remediation
