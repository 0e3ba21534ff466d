/-! Results that are failures or not. What succeeds only if its parts do is taken apart into what
they gave.
-/

namespace Remediation

variable {ε α β : Type}

/-- Two parts are read together exactly if the first one is read and the second one is after it. -/
theorem exceptBind_eq_ok_iff {part : Except ε α} {next : α → Except ε β} {answer : β}
    : part >>= next = .ok answer ↔ ∃ first, part = .ok first ∧ next first = .ok answer := by
  cases part with
  | error error =>
      constructor
      · nofun
      · rintro ⟨_, impossible, _⟩
        cases impossible
  | ok first =>
      constructor
      · exact fun read => ⟨first, rfl, read⟩
      · rintro ⟨_, same, read⟩
        cases same
        exact read

/-- Two parts that are read together fail as the first one does, or as the second one does after it.
-/
theorem exceptBind_eq_error_iff {part : Except ε α} {next : α → Except ε β} {error : ε}
    : part >>= next = .error error
      ↔ part = .error error ∨ ∃ first, part = .ok first ∧ next first = .error error := by
  cases part with
  | error other =>
      constructor
      · intro failed
        cases failed
        exact .inl rfl
      · rintro (failed | ⟨_, impossible, _⟩)
        · cases failed
          rfl
        · cases impossible
  | ok first =>
      constructor
      · exact fun failed => .inr ⟨first, rfl, failed⟩
      · rintro (impossible | ⟨_, same, failed⟩)
        · cases impossible
        · cases same
          exact failed

/-- What is made of a part is there exactly if the part is. -/
theorem exceptMap_eq_ok_iff {part : Except ε α} {f : α → β} {answer : β}
    : part.map f = .ok answer ↔ ∃ given, part = .ok given ∧ f given = answer := by
  cases part with
  | error error => simp [Except.map]
  | ok given => simp [Except.map]

/-- What is made of a part fails as the part does. -/
theorem exceptMap_eq_error_iff {part : Except ε α} {f : α → β} {error : ε}
    : part.map f = .error error ↔ part = .error error := by
  cases part with
  | error other => simp [Except.map]
  | ok given => simp [Except.map]

/-- Whatever is read from a list is read from one of its parts. -/
theorem exists_of_mem_exceptMapM {read : α → Except ε β} {parts : List α} {answers : List β}
    (ok : parts.mapM read = .ok answers) {answer : β} (member : answer ∈ answers)
    : ∃ part ∈ parts, read part = .ok answer := by
  induction parts generalizing answers with
  | nil =>
      cases ok
      cases member
  | cons part rest ih =>
      rw [List.mapM_cons] at ok
      obtain ⟨first, readFirst, ok⟩ := exceptBind_eq_ok_iff.mp ok
      obtain ⟨others, readRest, ok⟩ := exceptBind_eq_ok_iff.mp ok
      cases ok
      rcases List.mem_cons.mp member with rfl | later
      · exact ⟨part, List.mem_cons_self, readFirst⟩
      · obtain ⟨other, inside, readOther⟩ := ih readRest later
        exact ⟨other, List.mem_cons_of_mem part inside, readOther⟩

/-- Where each part is read exactly if it has an answer, a list is read exactly if all its parts
have one. -/
theorem exceptMapM_eq_ok_iff {read : α → Except ε β} {answer? : α → Option β}
    (reads : ∀ part answer, read part = .ok answer ↔ answer? part = some answer) {parts : List α}
    {answers : List β}
    : parts.mapM read = .ok answers
      ↔ parts.all (fun part => (answer? part).isSome) = true
        ∧ answers = parts.filterMap answer? := by
  induction parts generalizing answers with
  | nil =>
      constructor
      · intro ok
        cases ok
        exact ⟨rfl, rfl⟩
      · rintro ⟨_, rfl⟩
        rfl
  | cons part rest ih =>
      rw [List.mapM_cons, List.all_cons, Bool.and_eq_true, Option.isSome_iff_exists,
        exceptBind_eq_ok_iff]
      constructor
      · rintro ⟨first, readFirst, ok⟩
        obtain ⟨others, readRest, same⟩ := exceptBind_eq_ok_iff.mp ok
        obtain ⟨all, rfl⟩ := ih.mp readRest
        cases same
        have answered := (reads part first).mp readFirst
        exact ⟨⟨⟨first, answered⟩, all⟩, by rw [List.filterMap_cons, answered]⟩
      · rintro ⟨⟨⟨first, answered⟩, all⟩, rfl⟩
        refine ⟨first, (reads part first).mpr answered, ?_⟩
        rw [ih.mpr ⟨all, rfl⟩, List.filterMap_cons, answered]
        rfl

/-- A list that cannot be read fails as one of its parts does. -/
theorem exists_of_exceptMapM_eq_error {read : α → Except ε β} {parts : List α} {error : ε}
    (failed : parts.mapM read = .error error)
    : ∃ part ∈ parts, read part = .error error := by
  induction parts with
  | nil => cases failed
  | cons part rest ih =>
      rw [List.mapM_cons] at failed
      rcases exceptBind_eq_error_iff.mp failed with first | ⟨_, _, failed⟩
      · exact ⟨part, List.mem_cons_self, first⟩
      · rcases exceptBind_eq_error_iff.mp failed with others | ⟨_, _, impossible⟩
        · obtain ⟨other, inside, failedThere⟩ := ih others
          exact ⟨other, List.mem_cons_of_mem part inside, failedThere⟩
        · cases impossible

/-- A list with a part that cannot be read cannot be read. -/
theorem exceptMapM_eq_error_of_mem {read : α → Except ε β} {parts : List α} {part : α} {error : ε}
    (member : part ∈ parts) (failed : read part = .error error)
    : ∃ other, parts.mapM read = .error other := by
  induction parts with
  | nil => cases member
  | cons first rest ih =>
      rw [List.mapM_cons]
      cases readFirst : read first with
      | error other => exact ⟨other, rfl⟩
      | ok answer =>
          rcases List.mem_cons.mp member with rfl | later
          · cases readFirst.symm.trans failed
          · obtain ⟨other, failedThere⟩ := ih later
            rw [failedThere]
            exact ⟨other, rfl⟩

end Remediation
