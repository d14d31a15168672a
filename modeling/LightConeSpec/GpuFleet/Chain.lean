import LightConeSpec.GpuFleet.WaveReceipts

/-!
# Chains of fleet receipts

A chain is what a coordinator builds who aggregates again and again, each time
with the receipt it got last. `Monotone` says what a receipt adds to the receipts
before it; `Built` is the invariant of the chain.
-/

namespace GpuFleet

open Python Pool List

variable {D : Type} [LinearOrder D] {sha : ReceiptSha D} {plan : GpuFleetDispatchPlan D}

/-- The arguments of one `aggregate` call, the plan and the previous receipt
apart. -/
structure AggregateCall (D : Type) where
  fleetWaveIndex : ℕ
  hostReceipts : List (HostWaveReceipt D)

/-- One more call: the receipts returned so far, oldest first. -/
def chainStep (sha : ReceiptSha D) (plan : GpuFleetDispatchPlan D)
    (receipts : List (FleetWaveReceipt D)) (call : AggregateCall D) : List (FleetWaveReceipt D) :=
  match aggregate sha plan call.fleetWaveIndex call.hostReceipts receipts.getLast? with
  | .error _ => receipts
  | .ok receipt => receipts ++ [receipt]

def chainOf (sha : ReceiptSha D) (plan : GpuFleetDispatchPlan D) (calls : List (AggregateCall D)) :
    List (FleetWaveReceipt D) :=
  calls.foldl (chainStep sha plan) []

def plannedAssignments (plan : GpuFleetDispatchPlan D) (receipt : FleetWaveReceipt D)
    (host : String) : List D :=
  ((plan.waves[receipt.fleetWaveIndex]?.map (·.assignments)).getD []).filterMap fun row =>
    if row.hostId = host then some row.assignmentSha256 else none

structure SameHosts (plan : GpuFleetDispatchPlan D) (receipt earlier : FleetWaveReceipt D) :
    Prop where
  hosts : receipt.hostIds = earlier.hostIds
  assignments : ∀ host, plannedAssignments plan receipt host = plannedAssignments plan earlier host
  rows : ∀ new ∈ receipt.hostReceipts, ∀ old ∈ earlier.hostReceipts, new.hostId = old.hostId →
    new.hostDispatchPlanSha256 = old.hostDispatchPlanSha256 ∧
      new.localWaveIndex = old.localWaveIndex ∧ new.localWaveSha256 = old.localWaveSha256

/-- What a receipt adds to the receipts before it. -/
structure Monotone (sha : ReceiptSha D) (plan : GpuFleetDispatchPlan D)
    (past : List (FleetWaveReceipt D)) (receipt : FleetWaveReceipt D) : Prop where
  /-- A success is carried unchanged. -/
  carried : ∀ earlier ∈ past, ∀ row ∈ earlier.hostReceipts, row.status = .succeeded →
    row ∈ receipt.hostReceipts ∧
      ∀ other ∈ receipt.hostReceipts, other.hostId = row.hostId → other = row
  /-- Any other row is carried or replaced by the next attempt, which binds it. -/
  replaced : ∀ latest, past.getLast? = some latest → ∀ old ∈ latest.hostReceipts,
    ∀ new ∈ receipt.hostReceipts, new.hostId = old.hostId → new = old ∨
      old.status = .failed ∧ new.attempt = old.attempt + 1 ∧
        new.priorHostReceiptSha256 = some (sha.hostReceipt old)
  attempt : receipt.attempt = past.length + 1
  link : receipt.priorFleetReceiptSha256 = past.getLast?.map sha.fleetReceipt
  hosts : ∀ earlier ∈ past, SameHosts plan receipt earlier
  /-- A dispatch covers the planned assignments of its host. -/
  coverage : ∀ row ∈ receipt.hostReceipts, ∀ dispatch ∈ row.dispatchReceipt,
    sortedSet (dispatch.assignmentReceipts.map (·.assignmentSha256))
      = sortedSet (plannedAssignments plan receipt row.hostId)
  /-- Nothing follows a receipt in which every host succeeded. -/
  unfinished : ∀ earlier ∈ past, earlier.succeeded = false

/-- The invariant of a chain: about its last receipt, against all of them. -/
structure Built (sha : ReceiptSha D) (plan : GpuFleetDispatchPlan D)
    (receipts : List (FleetWaveReceipt D)) : Prop where
  valid : ∀ receipt ∈ receipts, ∃ wave, ValidFor plan wave receipt
  attempt : ∀ latest, receipts.getLast? = some latest → latest.attempt = receipts.length
  index : ∀ latest, receipts.getLast? = some latest → ∀ earlier ∈ receipts,
    latest.fleetWaveIndex = earlier.fleetWaveIndex
  successes : ∀ latest, receipts.getLast? = some latest → ∀ earlier ∈ receipts,
    ∀ row ∈ earlier.hostReceipts, row.status = .succeeded → row ∈ latest.hostReceipts
  unfinished : ∀ older latest, receipts = older ++ [latest] →
    ∀ earlier ∈ older, earlier.succeeded = false
  monotone : Log.EachAfter (Monotone sha plan) receipts

section

variable {receipt earlier : FleetWaveReceipt D} {wave : GpuFleetDispatchWave D}

theorem plannedAssignments_eq (h : ValidFor plan wave receipt) (host : String) :
    plannedAssignments plan receipt host
      = (wave.assignments.filter fun row => row.hostId = host).map (·.assignmentSha256) := by
  unfold plannedAssignments
  rw [h.found]
  simp only [Option.map_some, Option.getD_some]
  induction wave.assignments with
  | nil => rfl
  | cons row rows ih =>
    by_cases hrow : row.hostId = host
    · rw [filterMap_cons_some (by rw [if_pos hrow]),
        filter_cons_of_pos (by simpa using hrow), map_cons, ih]
    · rw [filterMap_cons_none (by rw [if_neg hrow]),
        filter_cons_of_neg (by simpa using hrow), ih]

/-- The row of a host has the identities that the plan gives it. -/
theorem ValidFor.row (h : ValidFor plan wave receipt) {row : HostWaveReceipt D}
    (hrow : row ∈ receipt.hostReceipts) : ∃ first rest hostPlan,
      (wave.assignments.filter fun a => a.hostId = row.hostId) = first :: rest ∧
      (plan.hostPlans.find? fun p => p.hostId = row.hostId) = some hostPlan ∧
      row.hostDispatchPlanSha256 = hostPlan.dispatchPlanSha256 ∧
      row.localWaveIndex = first.localWaveIndex ∧ row.localWaveSha256 = first.localWaveSha256 ∧
      ∀ dispatch ∈ row.dispatchReceipt,
        sortedSet (dispatch.assignmentReceipts.map (·.assignmentSha256))
          = sortedSet (plannedAssignments plan receipt row.hostId) := by
  have hvalid := h.rows row hrow
  unfold FleetWaveReceipt.validateHost at hvalid
  dsimp only at hvalid
  split at hvalid
  · rename_i first rest hostPlan hassignments hplan
    simp only [bind_eq_ok, require_eq_ok, exists_const] at hvalid
    obtain ⟨⟨hid, hindex, hsha⟩, hcover⟩ := hvalid
    refine ⟨first, rest, hostPlan, hassignments, hplan, hid, hindex, hsha, ?_⟩
    rw [plannedAssignments_eq h]
    exact hcover
  · cases hvalid

/-- Two receipts of one wave have the same hosts. -/
theorem sameHosts {wave' : GpuFleetDispatchWave D} (h : ValidFor plan wave receipt)
    (h' : ValidFor plan wave' earlier)
    (hindex : receipt.fleetWaveIndex = earlier.fleetWaveIndex) : SameHosts plan receipt earlier := by
  have hwave : wave = wave' := by
    have heq := h.found
    rw [hindex, h'.found] at heq
    exact (Option.some.inj heq).symm
  subst hwave
  refine ⟨h.hosts.trans h'.hosts.symm, ?_, ?_⟩
  · intro host
    rw [plannedAssignments_eq h, plannedAssignments_eq h']
  · intro new hnew old hold hhost
    obtain ⟨first, rest, hostPlan, hassignments, hplan, hid, hi, hs, -⟩ := h.row hnew
    obtain ⟨first', rest', hostPlan', hassignments', hplan', hid', hi', hs', -⟩ := h'.row hold
    rw [hhost] at hassignments hplan
    obtain ⟨rfl, -⟩ := List.cons.inj (hassignments.symm.trans hassignments')
    obtain rfl := Option.some.inj (hplan.symm.trans hplan')
    exact ⟨hid.trans hid'.symm, hi.trans hi'.symm, hs.trans hs'.symm⟩

end

omit [LinearOrder D] in
/-- A success stays in the next receipt. -/
theorem Follows.keeps_success {prior receipt : FleetWaveReceipt D}
    (h : Follows sha plan prior receipt) (hhosts : receipt.hostIds = prior.hostIds)
    {row : HostWaveReceipt D} (hrow : row ∈ prior.hostReceipts) (hs : row.status = .succeeded) :
    row ∈ receipt.hostReceipts := by
  have hhost : row.hostId ∈ receipt.hostIds := by
    rw [hhosts]
    exact mem_map.mpr ⟨row, hrow, rfl⟩
  obtain ⟨new, hnew, heq⟩ := mem_map.mp hhost
  cases h.steps row hrow new hnew heq with
  | carried => exact hnew
  | retried hfailed =>
    rw [hs] at hfailed
    cases hfailed

theorem built_nil : Built sha plan [] :=
  ⟨nofun, nofun, nofun, nofun, fun older latest h => by simp at h, Log.eachAfter_nil⟩

/-- The next receipt of a chain. -/
theorem Built.snoc {receipts : List (FleetWaveReceipt D)} (h : Built sha plan receipts)
    {receipt : FleetWaveReceipt D} {wave : GpuFleetDispatchWave D}
    (hvalid : ValidFor plan wave receipt) (hinitial : receipts.getLast? = none →
      receipt.attempt = 1 ∧ receipt.priorFleetReceiptSha256 = none)
    (hfollows : ∀ latest, receipts.getLast? = some latest → Follows sha plan latest receipt) :
    Built sha plan (receipts ++ [receipt]) := by
  have hlatest : ∀ earlier ∈ receipts, ∃ latest, receipts.getLast? = some latest :=
    fun _ hearlier => ⟨_, getLast?_eq_some_getLast (ne_nil_of_mem hearlier)⟩
  have hindex : ∀ earlier ∈ receipts, receipt.fleetWaveIndex = earlier.fleetWaveIndex := by
    intro earlier hearlier
    obtain ⟨latest, hlast⟩ := hlatest earlier hearlier
    exact (hfollows latest hlast).index.trans (h.index latest hlast earlier hearlier)
  have hsame : ∀ earlier ∈ receipts, SameHosts plan receipt earlier := by
    intro earlier hearlier
    obtain ⟨wave', hvalid'⟩ := h.valid earlier hearlier
    exact sameHosts hvalid hvalid' (hindex earlier hearlier)
  have hcarried : ∀ earlier ∈ receipts, ∀ row ∈ earlier.hostReceipts, row.status = .succeeded →
      row ∈ receipt.hostReceipts := by
    intro earlier hearlier row hrow hs
    obtain ⟨latest, hlast⟩ := hlatest earlier hearlier
    have hlatest := mem_of_getLast? hlast
    exact (hfollows latest hlast).keeps_success (hsame latest hlatest).hosts
      (h.successes latest hlast earlier hearlier row hrow hs) hs
  have hunfinished : ∀ earlier ∈ receipts, earlier.succeeded = false := by
    intro earlier hearlier
    obtain ⟨latest, hlast⟩ := hlatest earlier hearlier
    obtain ⟨older, hreceipts⟩ := getLast?_eq_some_iff.mp hlast
    rw [hreceipts] at hearlier
    rcases mem_append.mp hearlier with hold | hnew
    · exact h.unfinished older latest hreceipts earlier hold
    · obtain rfl := mem_singleton.mp hnew
      exact (hfollows earlier hlast).unfinished
  have hattempt : receipt.attempt = receipts.length + 1 := by
    cases hlast : receipts.getLast? with
    | none =>
      rw [getLast?_eq_none_iff.mp hlast]
      exact (hinitial hlast).1
    | some latest => rw [(hfollows latest hlast).attempt, h.attempt latest hlast]
  have hnewest : ∀ {latest}, (receipts ++ [receipt]).getLast? = some latest → latest = receipt := by
    intro latest hlast
    rw [getLast?_concat] at hlast
    exact (Option.some.inj hlast).symm
  -- the latest receipt is now the new one
  refine ⟨?_, ?_, ?_, ?_, ?_, Log.eachAfter_snoc.mpr ⟨h.monotone, ?_⟩⟩
  · intro r hr
    rcases mem_append.mp hr with hold | hnew
    · exact h.valid r hold
    · obtain rfl := mem_singleton.mp hnew
      exact ⟨wave, hvalid⟩
  · intro latest hlast
    obtain rfl := hnewest hlast
    simpa using hattempt
  · intro latest hlast earlier hearlier
    obtain rfl := hnewest hlast
    rcases mem_append.mp hearlier with hold | hnew
    · exact hindex earlier hold
    · rw [mem_singleton.mp hnew]
  · intro latest hlast earlier hearlier row hrow hs
    obtain rfl := hnewest hlast
    rcases mem_append.mp hearlier with hold | hnew
    · exact hcarried earlier hold row hrow hs
    · rw [← mem_singleton.mp hnew]
      exact hrow
  · intro older latest hreceipts earlier hearlier
    obtain ⟨rfl, -⟩ := append_inj' hreceipts rfl
    exact hunfinished earlier hearlier
  · refine ⟨?_, ?_, hattempt, ?_, hsame, ?_, hunfinished⟩
    · intro earlier hearlier row hrow hs
      have hmem := hcarried earlier hearlier row hrow hs
      exact ⟨hmem, fun other hother hhost => hvalid.unique hother hmem hhost⟩
    · intro latest hlast old hold new hnew hhost
      cases (hfollows latest hlast).steps old hold new hnew hhost with
      | carried => exact .inl rfl
      | retried hfailed hattempt hbinds => exact .inr ⟨hfailed, hattempt, hbinds⟩
    · cases hlast : receipts.getLast? with
      | none => exact (hinitial hlast).2
      | some latest => exact (hfollows latest hlast).link
    · intro row hrow
      obtain ⟨_, _, _, -, -, -, -, -, hcover⟩ := hvalid.row hrow
      exact hcover

theorem Built.step {receipts : List (FleetWaveReceipt D)} (h : Built sha plan receipts)
    (call : AggregateCall D) : Built sha plan (chainStep sha plan receipts call) := by
  unfold chainStep
  cases hcall : aggregate sha plan call.fleetWaveIndex call.hostReceipts receipts.getLast? with
  | error e => exact h
  | ok receipt =>
    cases hlast : receipts.getLast? with
    | none =>
      rw [hlast] at hcall
      obtain ⟨⟨wave, hvalid⟩, hattempt, hlink, -⟩ := aggregate_initial hcall
      refine h.snoc hvalid (fun _ => ⟨hattempt, hlink⟩) ?_
      rw [hlast]
      nofun
    | some latest =>
      rw [hlast] at hcall
      obtain ⟨⟨wave, hvalid⟩, hfollows⟩ := aggregate_retry hcall
      refine h.snoc hvalid ?_ ?_
      · rw [hlast]
        nofun
      · rw [hlast]
        rintro _ ⟨⟩
        exact hfollows

/-- Every receipt of every chain of `aggregate` calls carries the successes before
it, replaces a failed row by its next attempt, counts the receipts so far, covers
the same hosts and assignments, and follows no receipt in which every host
succeeded. -/
theorem chain_monotone (calls : List (AggregateCall D)) :
    Log.EachAfter (Monotone sha plan) (chainOf sha plan calls) := by
  have hbuilt : Built sha plan (chainOf sha plan calls) := by
    unfold chainOf
    have hstart : Built sha plan [] := built_nil
    generalize ([] : List (FleetWaveReceipt D)) = receipts at hstart
    induction calls generalizing receipts with
    | nil => exact hstart
    | cons call calls ih => exact ih _ (hstart.step call)
  exact hbuilt.monotone

end GpuFleet
