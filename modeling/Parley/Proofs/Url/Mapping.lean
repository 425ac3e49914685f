import Parley.Proofs.Text.Composition
import Parley.Url.Domain.Mapping

/-!
Contract: spaces and control characters stand for themselves in domain names.

Owns: what the tables of the mapping say of them, which is nothing.
-/

namespace Parley.Url.Domain.Mapping

open Parley.Text (IsControlOrSpace forall_mem_table)

private theorem refused_visible : refused.IsVisible := by
  refine forall_mem_table ?_
  unfold refusedRanges
  repeat' first
    | exact List.forall_mem_nil _
    | refine List.forall_mem_cons.mpr ⟨?_, ?_⟩
  all_goals
    rw [String.toList_ofList]
    decide +kernel

private theorem dropped_visible : dropped.IsVisible := by
  refine forall_mem_table ?_
  unfold droppedRanges
  repeat' first
    | exact List.forall_mem_nil _
    | refine List.forall_mem_cons.mpr ⟨?_, ?_⟩
  all_goals
    rw [String.toList_ofList]
    decide +kernel

private theorem replacements_visible :
    ∀ entry ∈ replacements, decide (0x20 < entry.first) = true := by
  refine forall_mem_table ?_
  unfold replacementText
  repeat' first
    | exact List.forall_mem_nil _
    | refine List.forall_mem_cons.mpr ⟨?_, ?_⟩
  all_goals
    rw [String.toList_ofList]
    decide +kernel

theorem map?_low {low : Char} (isLow : IsControlOrSpace low) :
    map? low = some [low] := by
  have none : replacement? low = .none :=
    List.findSome?_eq_none_iff.mpr fun entry member => by
      have beyond : 0x20 < entry.first :=
        of_decide_eq_true (replacements_visible entry member)
      have isSmall : low.toNat ≤ 0x20 := isLow
      unfold Replacement.find?
      dsimp only
      rw [if_neg fun inside => by omega]
  rw [map?, refused_visible.contains isLow, dropped_visible.contains isLow, none]
  rfl

end Parley.Url.Domain.Mapping
