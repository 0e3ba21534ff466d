import Remediation.Proofs.Resource.Fetch

/-! Walks through a list. A reading stands at a place among the records of a list, each page takes
it further, and the page that names no cursor ends it: so a fetch hands out the records up to where
its walk ends.
-/

namespace Remediation

variable {σ : Type}

/-- How many records a page from a place on has. -/
theorem length_page (records : List Json) (place size : Nat)
    : ((records.drop place).take size).length = min size (records.length - place) := by
  rw [List.length_take, List.length_drop]

/-- Pages that lead through records. A reading with a cursor stands at a place among the records,
and the page that it asks for holds the records from there on up to another place. A page that
names no cursor ends the reading; any other page takes it further, and the reading stands behind
the page with the cursor that the page names. -/
structure LeadsThrough (plane : ControlPlane σ) (resource : ResourceType) (records : List Json)
    (stands : σ → Option String → Nat → Prop) (ended : σ → Nat → Prop)
    : Prop where
  running : ∀ {state cursor place}, stands state cursor place → plane.cancelled state = false
  page
    : ∀ {state cursor place},
        stands state cursor place
        → place ≤ records.length
        → ∃ page next after,
            (plane.listPage resource cursor).run state = (.ok page, after)
            ∧ next ≤ records.length
            ∧ records.take place ++ page.items = records.take next
            ∧ (page.next? = none → ended after next)
            ∧ ∀ name,
                page.next? = some name
                → cursor ≠ some name ∧ place < next ∧ stands after (some name) next

namespace LeadsThrough

variable {plane : ControlPlane σ} {resource : ResourceType} {records : List Json}
  {stands : σ → Option String → Nat → Prop} {ended : σ → Nat → Prop}

/-- A reading goes on to where its walk ends. Witness: induction on the budget, of which the records
that are left never need more than there is. -/
theorem read (leads : LeadsThrough plane resource records stands ended) (budget : Nat) {state : σ}
    {cursor : Option String} {place : Nat} (here : stands state cursor place)
    (inside : place ≤ records.length) (enough : records.length < place + budget)
    : ∃ listing count after,
        (Listing.read plane resource budget cursor).run state = (listing, after)
        ∧ listing.ending = .complete
        ∧ records.take place ++ listing.items = records.take count
        ∧ count ≤ records.length
        ∧ ended after count := by
  induction budget generalizing state cursor place with
  | zero => exact absurd enough (Nat.not_lt_of_le inside)
  | succ budget ih =>
      obtain ⟨page, next, after, asked, nextInside, joined, last, onward⟩ := leads.page here inside
      rw [Listing.run_read_succ, leads.running here, asked]
      simp only [Bool.false_eq_true, if_false]
      cases named : page.next? with
      | none =>
          exact ⟨_, next, after, rfl, rfl, by simpa [Listing.items] using joined, nextInside,
            last named⟩
      | some name =>
          obtain ⟨other, further, there⟩ := onward name named
          obtain ⟨listing, count, final, ran, complete, rest, countInside, finished⟩ :=
            ih there nextInside (by omega)
          simp only [other, if_false, ran]
          refine ⟨_, count, final, rfl, complete, ?_, countInside, finished⟩
          calc
            records.take place ++ (listing.after page).items
                = records.take place ++ (page.items ++ listing.items) := rfl
            _ = records.take next ++ listing.items := by rw [← List.append_assoc, joined]
            _ = records.take count := rest

/-- A fetch hands out the records up to where the walk of its reading ends, if they can be told
apart. -/
theorem run_fetchAll (leads : LeadsThrough plane resource records stands ended)
    (told : Distinguished resource.idField records) {budget : Nat}
    (enough : records.length < budget) {state : σ} (start : stands state none 0)
    : ∃ count after,
        (fetchAll plane budget resource).run state = (.ok (records.take count), after)
        ∧ count ≤ records.length
        ∧ ended after count := by
  obtain ⟨listing, count, after, ran, complete, items, inside, finished⟩ :=
    leads.read budget start (Nat.zero_le _) (by omega)
  rw [List.take_zero, List.nil_append] at items
  have kept : listing.records resource = .ok (records.take count) := by
    rw [Listing.records_of_not_failed (by simp [complete]), items,
      distinctRecords_of_distinguished [] (told.sublist (List.take_sublist count records))
        (by simp)]
  refine ⟨count, after, ?_, inside, finished⟩
  change (((Listing.read plane resource budget none).run state).1.records resource,
    ((Listing.read plane resource budget none).run state).2) = _
  rw [ran, kept]

end LeadsThrough

end Remediation
