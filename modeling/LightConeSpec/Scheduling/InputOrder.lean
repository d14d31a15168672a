import LightConeSpec.Scheduling.Affinity

/-!
# The order of the input

The key of the dispatch order ends with the identity of the item, and the items of a request have
different identities. So two requests that differ in the order of what they list have one plan.
-/

namespace Scheduling

open Python

variable {Seconds : Type} {d : Digests Seconds} {release : Release} {scheduler : GpuPoolScheduler}
  {request request' : WorkRequest Seconds}

/-- The requests list the same, in any order. -/
structure Reorders (request request' : WorkRequest Seconds) : Prop where
  workItems : request.workItems.Perm request'.workItems
  completedCellIds : request.completedCellIds.Perm request'.completedCellIds
  budgets : request.budgetSha256ByCell.entries.Perm request'.budgetSha256ByCell.entries
  receiptsSha256 : request.receiptsSha256 = request'.receiptsSha256
  reducerAuthorized : request.reducerAuthorizedCellIds.Perm request'.reducerAuthorizedCellIds

/-- The checks of a request do not depend on the order. -/
theorem checkWorkItems_reorders (h : Reorders request request') :
    checkWorkItems d release scheduler request = .ok () ↔
      checkWorkItems d release scheduler request' = .ok () := by
  have hids := h.workItems.map d.itemId
  have hcells := h.budgets.map Prod.fst
  have hempty : request.budgetSha256ByCell.entries = [] ↔
      request'.budgetSha256ByCell.entries = [] := by
    rw [← List.length_eq_zero_iff, h.budgets.length_eq, List.length_eq_zero_iff]
  unfold checkWorkItems checkBudgets
  simp only [bind_eq_ok, require_eq_ok, forEach_eq_ok, SameValues, List.contains_eq_mem, ne_eq,
    h.receiptsSha256, hempty, hids.nodup_iff, hids.mem_iff, hcells.mem_iff, h.workItems.mem_iff,
    h.budgets.mem_iff, h.completedCellIds.nodup_iff, h.completedCellIds.mem_iff,
    h.reducerAuthorized.mem_iff]

/-- Items that are checked have different identities, and so have completed cells. -/
theorem nodup_of_checkWorkItems (hok : checkWorkItems d release scheduler request = .ok ()) :
    (request.workItems.map d.itemId).Nodup ∧ request.completedCellIds.Nodup := by
  unfold checkWorkItems at hok
  simp only [bind_eq_ok, require_eq_ok] at hok
  rcases hok with ⟨_, -, _, hids, _, -, _, -, _, -, _, -, _, -, _, hcompleted, -⟩
  exact ⟨hids, hcompleted⟩

/-- The items are placed in one order. -/
theorem ordered_reorders (h : Reorders request request')
    (hok : checkWorkItems d release scheduler request = .ok ()) :
    ordered d scheduler request.workItems = ordered d scheduler request'.workItems := by
  refine sortedBy_congr (List.Nodup.of_map
    (fun key : ℕ ×ₗ ℕ ×ₗ String ×ₗ String ×ₗ String => (ofLex (ofLex (ofLex (ofLex key).2).2).2).2)
    ?_) h.workItems
  rw [List.map_map]
  exact (nodup_of_checkWorkItems hok).1

/-- A scheduler has the same plan for the same work in any order, or raises for both. -/
theorem scheduleWorkItems_reorders [LinearOrder Seconds] [Add Seconds] [Zero Seconds]
    (d : Digests Seconds) (release : Release) (scheduler : GpuPoolScheduler)
    {request request' : WorkRequest Seconds} (h : Reorders request request')
    (plan : GpuDispatchPlan Seconds) :
    scheduleWorkItems d release scheduler request = .ok plan ↔
      scheduleWorkItems d release scheduler request' = .ok plan := by
  have hchecks : checkWorkItems d release scheduler request = .ok () ↔ _ :=
    checkWorkItems_reorders h
  unfold scheduleWorkItems
  by_cases hok : checkWorkItems d release scheduler request = .ok ()
  · have hcompleted : sortedBy id request.completedCellIds = sortedBy id request'.completedCellIds :=
      sortedBy_congr ((List.map_id _).symm ▸ (nodup_of_checkWorkItems hok).2) h.completedCellIds
    have hbudgets : sortedBudgets request.budgetSha256ByCell.entries
        = sortedBudgets request'.budgetSha256ByCell.entries := by
      refine sortedBy_congr (List.Nodup.of_map (fun budget => (ofLex budget).1) ?_) h.budgets
      rw [List.map_map]
      exact request.budgetSha256ByCell.nodup
    rw [hok, hchecks.mp hok, ordered_reorders h hok, hcompleted, hbudgets, h.receiptsSha256]
  · constructor
    · intro hplan
      rcases bind_eq_ok.mp hplan with ⟨_, hu, -⟩
      exact absurd hu hok
    · intro hplan
      rcases bind_eq_ok.mp hplan with ⟨_, hu, -⟩
      exact absurd (hchecks.mpr hu) hok

/-- The pair of items in both orders. -/
theorem scheduleWorkItems_pair_swapped : ∃ plan,
    scheduleWorkItems pairDigests pairRelease wideScheduler (pairRequest [freeItem, laterItem])
        = .ok plan ∧
      scheduleWorkItems pairDigests pairRelease wideScheduler (pairRequest [laterItem, freeItem])
        = .ok plan := by
  have hswap : Reorders (pairRequest [freeItem, laterItem]) (pairRequest [laterItem, freeItem]) :=
    ⟨.swap _ _ _, .refl _, .refl _, rfl, .refl _⟩
  have hreturns : (scheduleWorkItems pairDigests pairRelease wideScheduler
      (pairRequest [freeItem, laterItem])).toOption.isSome = true := by decide +kernel
  cases h : scheduleWorkItems pairDigests pairRelease wideScheduler
      (pairRequest [freeItem, laterItem]) with
  | error e =>
      rw [h] at hreturns
      cases hreturns
  | ok plan =>
      exact ⟨plan, rfl, (scheduleWorkItems_reorders pairDigests pairRelease wideScheduler hswap
        plan).mp h⟩

end Scheduling
