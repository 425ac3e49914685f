/-!
Contract: outcomes that are a value or a fault.

An outcome made of others is a value exactly if those are.

Owns: when `map`, `mapError` and `bind` give a value, and the values of `mapM`.
-/

namespace Parley.Outcome

variable {ε ε' α β : Type}

theorem map_eq_ok_iff {outcome : Except ε α} {transform : α → β}
    {result : β} :
    outcome.map transform = .ok result ↔
      ∃ value, outcome = .ok value ∧ transform value = result := by
  cases outcome with
  | error fault =>
      constructor
      · intro same
        cases same
      · rintro ⟨value, same, _⟩
        cases same
  | ok value =>
      constructor
      · intro same
        exact ⟨value, rfl, Except.ok.inj same⟩
      · rintro ⟨_, same, rfl⟩
        cases same
        rfl

theorem mapError_eq_ok_iff {outcome : Except ε α} {explain : ε → ε'}
    {value : α} :
    outcome.mapError explain = .ok value ↔ outcome = .ok value := by
  cases outcome <;> constructor <;> intro same <;> cases same <;> rfl

theorem bind_eq_ok_iff {outcome : Except ε α} {next : α → Except ε β}
    {result : β} :
    (outcome >>= next) = .ok result ↔
      ∃ value, outcome = .ok value ∧ next value = .ok result := by
  cases outcome with
  | error fault =>
      constructor
      · intro same
        cases same
      · rintro ⟨value, same, _⟩
        cases same
  | ok value =>
      constructor
      · intro same
        exact ⟨value, rfl, same⟩
      · rintro ⟨_, same, later⟩
        cases same
        exact later

/-- The values that a list is mapped to hold that of each of its items. -/
theorem mem_of_mapM_eq_some {function : α → Option β} {items : List α}
    {values : List β} (mapped : items.mapM function = some values) {item : α}
    (member : item ∈ items) : ∃ value ∈ values, function item = some value := by
  induction items generalizing values with
  | nil => cases member
  | cons first rest inductionHypothesis =>
      rw [List.mapM_cons] at mapped
      obtain ⟨value, isValue, mapped⟩ := Option.bind_eq_some_iff.mp mapped
      obtain ⟨others, areOthers, mapped⟩ := Option.bind_eq_some_iff.mp mapped
      cases mapped
      rcases List.mem_cons.mp member with rfl | later
      · exact ⟨value, List.mem_cons_self, isValue⟩
      · obtain ⟨other, isOther, same⟩ := inductionHypothesis areOthers later
        exact ⟨other, List.mem_cons_of_mem _ isOther, same⟩

end Parley.Outcome
