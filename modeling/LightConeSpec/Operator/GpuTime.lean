import LightConeSpec.Operator.Adoption
import LightConeSpec.Operator.Lease

/-!
# Charging once

Over a run, the time in the ledger is the sum of the charges of distinct leases.
A lease that was charged has ended, and no operation charges it again; what an
adoption moves between the tables stays in the total of its stage.
-/

namespace Operator

open Python Machine List

variable {s s' t : Store} {op : StoreOp} {groupId : String}

variable {row : AuxGroupRow} {f : AuxGroupRow → AuxGroupRow}

variable {attempt : Nat} {kind : ChangeKind}

namespace Store

theorem charges_endsAux (hop : op.updatesAux = true) : s.charges op =
    (op.endsAux.map fun e => (PhysicalLease.auxiliary e.1.1 e.1.2, e.2)).toList := by
  cases op with
  | startControllerAuxiliaryGroup | attachStartedAuxiliaryGroup | failControllerAuxiliarySpawn
  | attachControllerAuxiliaryGroupProcess | recordControllerAuxiliaryObservation
  | requestControllerAuxiliaryTermination | recordControllerAuxiliaryTerminationSignal
  | finishControllerAuxiliaryGroup => rfl
  | _ => cases hop

/-- An update of a group charges it when it ends. -/
theorem apply_auxCharges (haux : AuxCharges s) (hop : op.updatesAux = true)
    (h : s.apply op = .ok s') : ∃ row f, AuxUpdate s s' op row f ∧
      ((f row).status.isActive = true ∧ (f row).gpuSeconds = row.gpuSeconds ∧ s.charges op = [] ∨
        (f row).status.isActive = false ∧
          s.charges op = [(.auxiliary row.groupId row.attempt, (f row).gpuSeconds)]) := by
  obtain ⟨row, f, hupdate, ⟨hactive, hkept, hends⟩ | ⟨hended, time, hends, htime⟩⟩ :=
    apply_auxUpdate hop h
  · exact ⟨row, f, hupdate, .inl ⟨hactive, hkept, by rw [charges_endsAux hop, hends]; rfl⟩⟩
  · have hcharged : (f row).gpuSeconds = time := by
      rcases htime with htime | ⟨hkept, rfl⟩
      · exact htime
      · -- what never ran is charged nothing
        exact hkept.trans (haux.uncharged row hupdate.found hupdate.active).1
    exact ⟨row, f, hupdate, .inr ⟨hended, by rw [charges_endsAux hop, hends, hcharged]; rfl⟩⟩

/-! ## The total -/

/-- A call moves the ledger by what it charges. -/
structure Charged (s s' : Store) (op : StoreOp) : Prop where
  rows : AttemptCharges s'
  aux : AuxCharges s'
  total : s'.ledgerGpuSeconds = s.ledgerGpuSeconds + chargeSum (s.charges op)

theorem charged_of_rows (haux : AuxCharges s) (hgroups : s'.auxGroups = s.auxGroups)
    (hjobs : s'.auxJobs = s.auxJobs) (h : RowsCharged s s' op) : Charged s s' op := by
  refine ⟨h.rows, haux.of_eq hgroups hjobs, ?_⟩
  have hpending : s'.pendingTotal (fun _ => true) = s.pendingTotal fun _ => true := by
    unfold pendingTotal
    rw [hgroups]
  rw [ledgerGpuSeconds_eq, ledgerGpuSeconds_eq, h.total, hpending, add_right_comm]

theorem charged_of_aux (hs : AttemptCharges s) (hledger : SameLedger s s')
    (h : AuxCharges s' ∧ s'.pendingTotal (fun _ => true) =
      s.pendingTotal (fun _ => true) + chargeSum (s.charges op)) : Charged s s' op := by
  refine ⟨hs.of_ledger hledger, h.1, ?_⟩
  have hrows : s'.rowsTotal (fun _ _ => true) = s.rowsTotal fun _ _ => true := by
    unfold rowsTotal
    rw [hledger.attempts]
  rw [ledgerGpuSeconds_eq, ledgerGpuSeconds_eq, h.2, hrows, add_assoc]

theorem auxUpdate_charged (hs : AttemptCharges s) (haux : AuxCharges s) (hop : op.updatesAux = true)
    (h : s.apply op = .ok s') : Charged s s' op := by
  obtain ⟨row, f, hupdate, ⟨hactive, hkept, hcharges⟩ | ⟨hended, hcharges⟩⟩ :=
    apply_auxCharges haux hop h
  · have hzero : (f row).gpuSeconds = 0 :=
      hkept.trans (haux.uncharged row hupdate.found hupdate.active).1
    refine charged_of_aux hs hupdate.ledger ?_
    have hupdated := haux.update hupdate fun _ => hzero
    rw [hzero] at hupdated
    rw [hcharges]
    exact hupdated
  · refine charged_of_aux hs hupdate.ledger ?_
    rw [hcharges]
    simpa [chargeSum] using haux.update hupdate fun hactive => by
      rw [hended] at hactive
      cases hactive

/-- The calls that charge nothing and leave the auxiliary tables. -/
theorem free_charged (hs : AttemptCharges s) (haux : AuxCharges s)
    (hkinds : ∀ kind ∈ op.kinds, kind.isFree = true) (hgroups : Table.auxGroups ∉ op.writes)
    (hjobs : Table.auxJobs ∉ op.writes) (hcharges : s.charges op = []) (h : s.apply op = .ok s') :
    Charged s s' op := by
  have hkeys := hs.wellFormed.attempts
  obtain ⟨hs', htotal⟩ := (apply_changes hkeys h).free hkinds hs
  have htables := apply_tables hkeys h
  refine charged_of_rows haux (htables.auxGroups hgroups) (htables.auxJobs hjobs) ⟨hs', ?_⟩
  rw [htotal, hcharges]
  exact (add_zero _).symm

/-- A leased charge is added once, and no other operation adds one. -/
theorem apply_charged (hs : AttemptCharges s) (haux : AuxCharges s) (hop : s.ChargesLeases op)
    (h : s.apply op = .ok s') : Charged s s' op := by
  have hkeys := hs.wellFormed.attempts
  have htables := apply_tables hkeys h
  have hrows (hwrites : op.writes = []) : _ → Charged s s' op := charged_of_rows haux
    (htables.auxGroups (by simp [hwrites])) (htables.auxJobs (by simp [hwrites]))
  cases op with
  | finishAttempt key args =>
    exact hrows rfl (finishAttempt_charges hs hop h)
  | finishPhysicalAttemptGroup => exact hrows rfl (finishPhysicalAttemptGroup_charges hs h)
  | failPhysicalAttemptGroupSpawn =>
    exact hrows rfl (failPhysicalAttemptGroupSpawn_charges hs h)
  | failPhysicalAttemptGroupInfrastructure =>
    exact hrows rfl (failPhysicalAttemptGroupInfrastructure_charges hs h)
  | importLegacyStaleAttempts items now =>
    refine hrows rfl ?_
    simp only [apply, importLegacyStaleAttempts, bind_eq_ok, check_eq_ok] at h
    obtain ⟨_, _, _, _, h⟩ := h
    exact importLegacyLoop_charges hs h
  | materializePhysicalAttemptGroup groupId members leader kind now =>
    refine hrows rfl ?_
    have hwf := (apply_changes hkeys h).wellFormed hs.wellFormed
    rcases materializePhysicalAttemptGroup_eq_ok h with rfl | ⟨group, hinsert⟩
    · exact ⟨hs, (add_zero _).symm⟩
    · obtain ⟨hs', htotal⟩ := hs.insertGroup hinsert hwf
      exact ⟨hs', (htotal _).trans (add_zero _).symm⟩
  | adoptControllerAuxiliaryJobs node groupId attempt adoptions adopted =>
    obtain ⟨hs', haux', hmoves⟩ := adoptControllerAuxiliaryJobs_charges hs haux h
    refine ⟨hs', haux', ?_⟩
    show s'.ledgerGpuSeconds = s.ledgerGpuSeconds + 0
    rw [add_zero]
    -- an adoption moves time from the groups to the rows
    rcases hmoves with rfl | ⟨plan, time, _, hrows, hpending⟩
    · rfl
    · rw [ledgerGpuSeconds_eq, ledgerGpuSeconds_eq, hrows, hpending, if_pos rfl, add_right_comm,
        add_assoc]
  | registerControllerAuxiliaryGroup spec registered =>
    refine charged_of_aux hs ?_ (by simpa [charges, chargeSum] using haux.register h)
    rcases (registerControllerAuxiliaryGroup_eq_ok h).2 with rfl | ⟨_, _, rfl⟩ <;>
      exact ⟨rfl, rfl, rfl, rfl⟩
  | startControllerAuxiliaryGroup | attachStartedAuxiliaryGroup | failControllerAuxiliarySpawn
  | attachControllerAuxiliaryGroupProcess | recordControllerAuxiliaryObservation
  | requestControllerAuxiliaryTermination | recordControllerAuxiliaryTerminationSignal
  | finishControllerAuxiliaryGroup => exact auxUpdate_charged hs haux rfl h
  | _ =>
    exact free_charged hs haux (by simp [StoreOp.kinds, ChangeKind.isFree])
      (by simp [StoreOp.writes]) (by simp [StoreOp.writes]) rfl h

/-! ## Ended leases -/

def Ended (s : Store) : PhysicalLease → Prop
  | .attempt key => ∃ r ∈ s.attempts, r.key = key ∧ r.status.isActive = false
  | .group groupId => ∃ g ∈ s.groups, g.groupId = groupId ∧ g.status.isActive = false
  | .auxiliary groupId attempt => ∃ g ∈ s.auxGroups, g.groupId = groupId ∧ g.attempt = attempt ∧
      g.status.isActive = false

/-- An attempt that has ended keeps its charge. -/
def KeepsCharges (s s' : Store) : Prop :=
  ∀ r ∈ s.attempts, r.status.isActive = false → ∃ r' ∈ s'.attempts, r'.key = r.key ∧
    r'.status.isActive = false ∧ r'.gpuSeconds = r.gpuSeconds

theorem KeepsCharges.refl (s : Store) : KeepsCharges s s :=
  fun r hr hended => ⟨r, hr, rfl, hended, rfl⟩

theorem KeepsCharges.trans {u : Store} (h : KeepsCharges s t) (h' : KeepsCharges t u) :
    KeepsCharges s u := by
  intro r hr hended
  obtain ⟨r', hr', hkey, hended', htime⟩ := h r hr hended
  obtain ⟨r'', hr'', hkey', hended'', htime'⟩ := h' r' hr' hended'
  exact ⟨r'', hr'', hkey'.trans hkey, hended'', htime'.trans htime⟩

theorem RowChange.keepsCharge {r r' : AttemptRow} (h : RowChange r r' kind)
    (hended : r.status.isActive = false) :
    r'.status.isActive = false ∧ r'.gpuSeconds = r.gpuSeconds := by
  cases kind with
  | observe =>
    obtain ⟨hstatus, _, _, _, hgpu⟩ := h
    exact ⟨by rw [hstatus]; exact hended, hgpu⟩
  | stale =>
    obtain ⟨_, hstatus, _, hgpu⟩ := h
    exact ⟨by rw [hstatus]; rfl, hgpu⟩
  | start | adopt =>
    rw [h.1] at hended
    cases hended
  | finish => rcases h.1 with hstatus | hstatus <;> rw [hstatus] at hended <;> cases hended
  | materialize | legacy | enqueue | group | settings | auxStart | dispatch | envelope =>
    exact h.elim

theorem Change.keepsCharges (h : Change kind s t) : KeepsCharges s t := by
  cases h with
  | rows keys f hspec hrow =>
    intro r hr hended
    refine ⟨_, mem_map.mpr ⟨r, hr, rfl⟩, ?_⟩
    by_cases hkey : r.key ∈ keys
    · rw [if_pos hkey]
      exact ⟨AttemptRow.key_eq_of_spec (hspec r).spec, (hrow r hr hkey).keepsCharge hended⟩
    · rw [if_neg hkey]
      exact ⟨rfl, hended, rfl⟩
  | materialize | legacy =>
    exact fun r hr hended => ⟨r, mem_append_left _ hr, rfl, hended, rfl⟩
  | enqueue | insertGroup | insertMember | groupStart | groupFinish => exact .refl s
  | settings hledger | auxStart hledger | dispatch hledger | envelope hledger =>
    intro r hr hended
    rw [hledger.attempts]
    exact ⟨r, hr, rfl, hended, rfl⟩

theorem Changes.keepsCharges {kinds : List ChangeKind} (h : Changes kinds s t) : KeepsCharges s t :=
  h.relation .refl (fun _ _ _ => .trans) fun _ _ _ _ hstep => hstep.keepsCharges

theorem Change.endedGroup (h : Change kind s t) (hs : s.WellFormed)
    (hended : s.Ended (.group groupId)) : t.Ended (.group groupId) := by
  obtain ⟨g, hg, hid, hstatus⟩ := hended
  cases h with
  | rows | materialize | legacy | enqueue | insertMember => exact ⟨g, hg, hid, hstatus⟩
  | insertGroup => exact ⟨g, mem_append_left _ hg, hid, hstatus⟩
  | groupStart updated f hf hpending =>
    refine ⟨_, mem_map.mpr ⟨g, hg, rfl⟩, ?_⟩
    by_cases hupdated : g.groupId = updated
    · -- the group that starts is pending
      rw [hpending g (by rw [← hupdated]; exact hs.findGroup hg)] at hstatus
      cases hstatus
    · rw [if_neg hupdated]
      exact ⟨hid, hstatus⟩
  | groupFinish updated f hf hterminal =>
    refine ⟨_, mem_map.mpr ⟨g, hg, rfl⟩, ?_⟩
    by_cases hupdated : g.groupId = updated
    · rw [if_pos hupdated]
      refine ⟨(hf g).1.trans hid, ?_⟩
      obtain ⟨hpending, hrunning⟩ := hterminal g
      cases hnew : (f g).status <;> simp_all [GroupStatus.isActive]
    · rw [if_neg hupdated]
      exact ⟨hid, hstatus⟩
  | settings hledger | auxStart hledger | dispatch hledger | envelope hledger =>
    show ∃ g ∈ t.groups, _
    rw [hledger.groups]
    exact ⟨g, hg, hid, hstatus⟩

theorem Changes.endedGroup {kinds : List ChangeKind} (h : Changes kinds s t) (hs : s.WellFormed)
    (hended : s.Ended (.group groupId)) : t.Ended (.group groupId) := by
  refine (h.invariant (P := fun t => t.WellFormed ∧ t.Ended (.group groupId)) ?_ ⟨hs, hended⟩).2
  rintro _ _ t u hstep ⟨hwf, hended⟩
  exact ⟨hstep.wellFormed hwf, hstep.endedGroup hwf hended⟩

/-- A group that has not ended is updated, so one that has is not touched. -/
theorem AuxUpdate.ended (haux : AuxCharges s) (h : AuxUpdate s t op row f)
    (hended : s.Ended (.auxiliary groupId attempt)) : t.Ended (.auxiliary groupId attempt) := by
  obtain ⟨g, hg, hid, hattempt, hstatus⟩ := hended
  refine ⟨g, ?_, hid, hattempt, hstatus⟩
  rw [h.groups]
  refine mem_map.mpr ⟨g, hg, if_neg fun hkey => ?_⟩
  rw [haux.eq_of_key h.found hg hkey, h.active] at hstatus
  cases hstatus

/-- No operation starts an ended auxiliary group again. -/
theorem apply_endedAux (hkeys : s.KeysNodup) (haux : AuxCharges s) (h : s.apply op = .ok s')
    (hended : s.Ended (.auxiliary groupId attempt)) : s'.Ended (.auxiliary groupId attempt) := by
  have htables := apply_tables hkeys h
  cases op with
  | registerControllerAuxiliaryGroup =>
    obtain ⟨g, hg, hrow⟩ := hended
    rcases (registerControllerAuxiliaryGroup_eq_ok h).2 with rfl | ⟨_, _, rfl⟩
    · exact ⟨g, hg, hrow⟩
    · exact ⟨g, mem_append_left _ hg, hrow⟩
  | adoptControllerAuxiliaryJobs =>
    obtain ⟨_, group, _, ⟨_, rfl⟩ | ⟨_, plan, mid, _, hmid, rfl⟩⟩ :=
      adoptControllerAuxiliaryJobs_eq_ok h
    · exact hended
    · obtain ⟨g, hg, hid, hattempt, hstatus⟩ := hended
      have hgroups : mid.auxGroups = s.auxGroups := (adoptJobs_tables hmid).auxGroups (by simp)
      rw [← hgroups] at hg
      refine ⟨_, mem_map.mpr ⟨g, hg, rfl⟩, ?_⟩
      split <;> exact ⟨hid, hattempt, hstatus⟩
  | startControllerAuxiliaryGroup | attachStartedAuxiliaryGroup | failControllerAuxiliarySpawn
  | attachControllerAuxiliaryGroupProcess | recordControllerAuxiliaryObservation
  | requestControllerAuxiliaryTermination | recordControllerAuxiliaryTerminationSignal
  | finishControllerAuxiliaryGroup =>
    obtain ⟨row, f, hupdate, -⟩ := apply_auxUpdate rfl h
    exact hupdate.ended haux hended
  | _ =>
    show ∃ g ∈ s'.auxGroups, _
    rw [htables.auxGroups (by simp [StoreOp.writes])]
    exact hended

/-- A lease that has ended stays ended. -/
theorem apply_ended (hs : AttemptCharges s) (haux : AuxCharges s) (h : s.apply op = .ok s')
    {lease : PhysicalLease} (hended : s.Ended lease) : s'.Ended lease := by
  have hkeys := hs.wellFormed.attempts
  cases lease with
  | attempt key =>
    obtain ⟨r, hr, hkey, hstatus⟩ := hended
    obtain ⟨r', hr', hkey', hstatus', _⟩ := (apply_changes hkeys h).keepsCharges r hr hstatus
    exact ⟨r', hr', hkey'.trans hkey, hstatus'⟩
  | group groupId => exact (apply_changes hkeys h).endedGroup hs.wellFormed hended
  | auxiliary groupId attempt => exact apply_endedAux hkeys haux h hended

/-- The call ends the leases that it charges. -/
structure Ends (s s' : Store) (leases : List PhysicalLease) : Prop where
  nodup : leases.Nodup
  fresh : ∀ lease ∈ leases, ¬ s.Ended lease
  ended : ∀ lease ∈ leases, s'.Ended lease

theorem Ends.nil (s s' : Store) : Ends s s' [] :=
  ⟨nodup_nil, by simp, by simp⟩

theorem Ends.single {lease : PhysicalLease} (hfresh : ¬ s.Ended lease) (hended : s'.Ended lease) :
    Ends s s' [lease] := by
  refine ⟨nodup_singleton _, ?_, ?_⟩ <;> intro other hother <;>
    rw [mem_singleton.mp hother]
  · exact hfresh
  · exact hended

/-- A running group ends. -/
theorem Ends.group (hs : s.WellFormed) {group : GroupRow} (hfind : s.findGroup groupId = some group)
    (hrunning : group.status = .running) (hgroups : t.groups = s.groups) {f : GroupRow → GroupRow}
    (hid : ∀ g, (f g).groupId = g.groupId) (hended : ∀ g, (f g).status.isActive = false) :
    Ends s (t.updateGroup groupId f) [.group groupId] := by
  obtain ⟨hmem, rfl⟩ := findGroup_eq_some hfind
  refine .single ?_ ?_
  · rintro ⟨g, hg, hsame, hstatus⟩
    rw [inj_on_of_nodup_map hs.groups hg hmem hsame, hrunning] at hstatus
    cases hstatus
  · refine ⟨f group, mem_map.mpr ⟨group, hgroups ▸ hmem, if_pos rfl⟩, hid group, hended group⟩

theorem finishAttempt_ends (hs : s.KeysNodup) {key : AttemptKey} {args : FinishArgs}
    (h : s.finishAttempt key args = .ok s') : Ends s s' [.attempt key] := by
  simp only [finishAttempt, bind_eq_ok, check_eq_ok, pure_eq_ok] at h
  obtain ⟨_, hchecks, _, _, row, hrow, hactive, _, _, _, rfl⟩ := h
  obtain ⟨hmem, hkey⟩ := findAttempt_eq_some (requireAttempt_eq_ok hrow)
  refine .single ?_ ⟨_, mem_map.mpr ⟨row, hmem, rfl⟩, ?_⟩
  · rintro ⟨r, hr, hsame, hstatus⟩
    rw [hs.eq_of_key hr hmem (hsame.trans hkey.symm)] at hstatus
    rcases hactive with hrunning | hrunning <;> rw [hrunning] at hstatus <;> cases hstatus
  · rw [if_pos (by simp [hkey])]
    obtain ⟨hpending, hrunning⟩ := status_of_checks hchecks
    refine ⟨hkey, ?_⟩
    show args.status.isActive = false
    cases hstatus : args.status <;> simp_all [AttemptStatus.isActive]

theorem finishPhysicalAttemptGroup_ends (hs : s.WellFormed)
    {terminals : List (String × TerminalEvidence)} {automatic : Bool} {finished : Int}
    (h : s.finishPhysicalAttemptGroup groupId terminals automatic finished = .ok s') :
    Ends s s' [.group groupId] := by
  obtain ⟨group, kind, hfind, hrunning, _, _, status, shared, hnotPending, hnotRunning, rfl⟩ :=
    finishPhysicalAttemptGroup_eq_ok h
  have hstatus : status.isActive = false := by
    cases status <;> first | rfl | contradiction
  exact Ends.group hs hfind hrunning (by rfl) (by intro g; rfl) (by intro g; exact hstatus)

theorem failGroup_ends (hs : s.WellFormed) {statusError rowsError : String} {automatic : Bool}
    {charge : GroupRow → List (LogicalKind × AttemptRow) → Except Error GpuSeconds}
    {update : String → GpuSeconds → AttemptRow → AttemptRow}
    (h : s.failGroup groupId statusError rowsError automatic charge update = .ok s') :
    Ends s s' [.group groupId] := by
  obtain ⟨group, kind, time, hfind, hrunning, _, _, _, rfl⟩ := failGroup_eq_ok h
  exact Ends.group hs hfind hrunning (by rfl) (by intro g; rfl) (by intro g; rfl)

theorem importLegacyLoop_ends {now : Int} {items : List LegacyStaleAttempt}
    (h : s.importLegacyLoop now items = .ok s') :
    Ends s s' (items.map fun item => .attempt item.spec.key) := by
  induction items generalizing s with
  | nil => exact .nil s s'
  | cons item rest ih =>
    obtain ⟨-, hfresh, h⟩ := importLegacyLoop_cons h
    have hrest := ih h
    have hmid : (s.appendAttempt (AttemptRow.ofLegacy item now)).Ended (.attempt item.spec.key) :=
      ⟨_, mem_append_right _ (mem_singleton_self _), rfl, rfl⟩
    have hold : KeepsCharges s (s.appendAttempt (AttemptRow.ofLegacy item now)) :=
      (Change.legacy item now hfresh).keepsCharges
    refine ⟨nodup_cons.mpr ⟨fun hmem => hrest.fresh _ hmem hmid, hrest.nodup⟩, ?_, ?_⟩
    · intro lease hlease
      rcases mem_cons.mp hlease with rfl | hlease
      · rintro ⟨r, hr, hkey, _⟩
        exact hfresh r hr hkey
      · -- the row of a later item would be there for the rest of the loop
        obtain ⟨other, hother, rfl⟩ := mem_map.mp hlease
        rintro ⟨r, hr, hkey, hstatus⟩
        obtain ⟨r', hr', hkey', hstatus', _⟩ := hold r hr hstatus
        exact hrest.fresh _ hlease ⟨r', hr', hkey'.trans hkey, hstatus'⟩
    · intro lease hlease
      rcases mem_cons.mp hlease with rfl | hlease
      · obtain ⟨r, hr, hkey, hstatus⟩ := hmid
        obtain ⟨r', hr', hkey', hstatus', _⟩ :=
          (importLegacyLoop_changes h).keepsCharges r hr hstatus
        exact ⟨r', hr', hkey'.trans hkey, hstatus'⟩
      · exact hrest.ended lease hlease

theorem AuxUpdate.ends (haux : AuxCharges s) (h : AuxUpdate s t op row f)
    (hended : (f row).status.isActive = false) : Ends s t [.auxiliary row.groupId row.attempt] := by
  refine .single ?_ ⟨f row, ?_, (h.keeps row).1, (h.keeps row).2.1, hended⟩
  · rintro ⟨g, hg, hid, hattempt, hstatus⟩
    rw [haux.eq_of_key h.found hg ⟨hid, hattempt⟩, h.active] at hstatus
    cases hstatus
  · rw [h.groups]
    exact mem_map.mpr ⟨row, h.found, if_pos ⟨rfl, rfl⟩⟩

/-- A call that succeeds ends the leases that it charges. -/
theorem apply_ends (hs : AttemptCharges s) (haux : AuxCharges s) (h : s.apply op = .ok s') :
    Ends s s' ((s.charges op).map (·.1)) := by
  cases op with
  | finishAttempt key args =>
    by_cases hmember : (s.memberOf key).isSome = true
    · rw [show s.charges (.finishAttempt key args) = [] from if_pos hmember]
      exact .nil s s'
    · rw [show s.charges (.finishAttempt key args) = [(.attempt key, args.gpuSeconds)] from
        if_neg hmember]
      exact finishAttempt_ends hs.wellFormed.attempts h
  | importLegacyStaleAttempts items now =>
    simp only [apply, importLegacyStaleAttempts, bind_eq_ok, check_eq_ok] at h
    obtain ⟨_, _, _, _, h⟩ := h
    simpa [charges, Function.comp_def] using importLegacyLoop_ends h
  | finishPhysicalAttemptGroup => exact finishPhysicalAttemptGroup_ends hs.wellFormed h
  | failPhysicalAttemptGroupSpawn =>
    simp only [apply, failPhysicalAttemptGroupSpawn, bind_eq_ok] at h
    obtain ⟨_, _, _, _, _, _, h⟩ := h
    exact failGroup_ends hs.wellFormed h
  | failPhysicalAttemptGroupInfrastructure groupId code reason evidence automatic finished =>
    simp only [apply, failPhysicalAttemptGroupInfrastructure, bind_eq_ok, check_eq_ok] at h
    obtain ⟨_, _, _, _, _, _, _, _, _, _, _, h⟩ := h
    obtain ⟨group, _, time, hfind, _, _, _, htime, _⟩ := failGroup_eq_ok h
    simpa [charges, hfind, htime] using failGroup_ends hs.wellFormed h
  | startControllerAuxiliaryGroup | attachStartedAuxiliaryGroup | failControllerAuxiliarySpawn
  | attachControllerAuxiliaryGroupProcess | recordControllerAuxiliaryObservation
  | requestControllerAuxiliaryTermination | recordControllerAuxiliaryTerminationSignal
  | finishControllerAuxiliaryGroup =>
    obtain ⟨row, f, hupdate, ⟨_, _, hcharges⟩ | ⟨hended, hcharges⟩⟩ :=
      apply_auxCharges haux rfl h
    · rw [hcharges]
      exact .nil s s'
    · rw [hcharges]
      exact hupdate.ends haux hended
  | _ => exact .nil s s'

/-! ## Runs -/

/-- What every run keeps that meets the condition. -/
structure ChargeInvariant (s : Store) : Prop where
  rows : AttemptCharges s
  aux : AuxCharges s
  plan : PlanInvariant s

theorem ChargeInvariant.empty : ChargeInvariant Store.empty :=
  ⟨.empty, .empty, .empty⟩

theorem step_chargeInvariant (hs : ChargeInvariant s)
    (hop : (s.step op).1 = .ok () → s.ChargesLeases op) : ChargeInvariant (s.step op).2 := by
  cases happly : s.apply op with
  | error e =>
    unfold step
    rw [happly]
    exact hs
  | ok s' =>
    rw [step_of_ok happly] at hop ⊢
    have hcharged := apply_charged hs.rows hs.aux (hop rfl) happly
    exact ⟨hcharged.rows, hcharged.aux,
      apply_planInvariant hs.plan hs.rows.wellFormed.attempts happly⟩

/-- The charges of the past: of distinct leases, which have all ended, and their
sum is the ledger. -/
structure Accounted (past : List (Event Store StoreOp (Except Error Unit))) (s : Store) : Prop where
  invariant : ChargeInvariant s
  nodup : ((past.flatMap chargesOf).map (·.1)).Nodup
  ended : ∀ lease ∈ (past.flatMap chargesOf).map (·.1), s.Ended lease
  total : s.ledgerGpuSeconds = chargeSum (past.flatMap chargesOf)

theorem Accounted.empty : Accounted [] Store.empty :=
  ⟨.empty, nodup_nil, by simp, by simp [ledgerGpuSeconds, Store.empty, chargeSum]⟩

/-- Step lemma: an ended lease is never charged again. -/
theorem Accounted.step {past : List (Event Store StoreOp (Except Error Unit))}
    (hs : Accounted past s) (hop : (s.step op).1 = .ok () → s.ChargesLeases op) :
    Accounted (past ++ [event Store.step s op]) (s.step op).2 := by
  have hinvariant := step_chargeInvariant hs.invariant hop
  obtain ⟨hrows, haux, _⟩ := hs.invariant
  rw [show (s.step op).2 = (event Store.step s op).post from rfl] at hinvariant ⊢
  cases happly : s.apply op with
  | error e =>
    have hevent : event Store.step s op = ⟨s, op, .error e, s⟩ := by
      simp [event, Store.step, happly]
    have hflat : (past ++ [event Store.step s op]).flatMap chargesOf = past.flatMap chargesOf := by
      rw [hevent]
      simp [chargesOf]
    refine ⟨hinvariant, ?_, ?_, ?_⟩
    · rw [hflat]
      exact hs.nodup
    · rw [hflat, hevent]
      exact hs.ended
    · rw [hflat, hevent]
      exact hs.total
  | ok s' =>
    have hevent : event Store.step s op = ⟨s, op, .ok (), s'⟩ := by
      simp [event, Store.step, happly]
    have hflat : (past ++ [event Store.step s op]).flatMap chargesOf =
        past.flatMap chargesOf ++ s.charges op := by
      rw [hevent]
      simp [chargesOf]
    have hends := apply_ends hrows haux happly
    refine ⟨hinvariant, ?_, ?_, ?_⟩
    · rw [hflat, map_append, nodup_append]
      refine ⟨hs.nodup, hends.nodup, ?_⟩
      rintro lease hlease _ hnew rfl
      exact hends.fresh lease hnew (hs.ended lease hlease)
    · rw [hflat, map_append, hevent]
      intro lease hlease
      rcases mem_append.mp hlease with hlease | hlease
      · exact apply_ended hrows haux happly (hs.ended lease hlease)
      · exact hends.ended lease hlease
    · rw [hflat, hevent]
      simp only [chargeSum, map_append, sum_append]
      rw [(apply_charged hrows haux (hop (by rw [step_of_ok happly])) happly).total, hs.total]
      rfl

/-- Of the members of a group only the leader has GPU time. -/
def LeaderCharged (s : Store) : Prop :=
  ∀ g ∈ s.groups, ∀ row ∈ s.groupAttempts g.groupId, row.2.key ≠ g.leader → row.2.gpuSeconds = 0

theorem AttemptCharges.leaderCharged (hs : AttemptCharges s) : LeaderCharged s := by
  intro g hg row hrow hne
  obtain ⟨m, hm, hgroup, _, hfind⟩ := mem_groupAttempts.mp hrow
  obtain ⟨hmem, hkey⟩ := findAttempt_eq_some hfind
  exact hs.leaderOnly g hg m hm hgroup (by rw [← hkey]; exact hne) row.2 hmem hkey

/-- An adoption leaves the totals of all stages, and once it has succeeded, the
same adoption succeeds at any later time and changes nothing. -/
def AdoptionNeutral (ev : Event Store StoreOp (Except Error Unit)) : Prop :=
  ∀ node groupId groupAttempt adoptions adopted,
    ev.input = .adoptControllerAuxiliaryJobs node groupId groupAttempt adoptions adopted →
    ev.post.stageSummaryRows.map (·.gpuSeconds) = ev.pre.stageSummaryRows.map (·.gpuSeconds) ∧
    (ev.output = .ok () → ∀ again : Int, 0 < again →
      ev.post.step (.adoptControllerAuxiliaryJobs node groupId groupAttempt adoptions again) =
        (.ok (), ev.post))

theorem adoption_stageTotals (hs : ChargeInvariant s) {node : String} {groupAttempt : Nat}
    {adoptions : List AuxiliaryCellAdoption} {adopted : Int}
    (h : s.adoptControllerAuxiliaryJobs node groupId groupAttempt adoptions adopted = .ok s') :
    s'.stageSummaryRows.map (·.gpuSeconds) = s.stageSummaryRows.map (·.gpuSeconds) := by
  have hplan : s'.stagePlan = s.stagePlan :=
    (adoptControllerAuxiliaryJobs_tables h).stagePlan (by simp)
  unfold stageSummaryRows
  rw [hplan, map_map, map_map]
  apply map_congr_left
  intro plan hmem
  rw [mem_sortedBy] at hmem
  obtain ⟨_, _, rfl | ⟨owner, time, howner, hrows, hpending⟩⟩ :=
    adoptControllerAuxiliaryJobs_charges hs.rows hs.aux h
  · rfl
  · -- the stage of the node takes over what its auxiliary groups lose
    obtain ⟨hownerMem, hnode⟩ := planOfNode_eq_some howner
    simp only [Function.comp_apply, stageSummary_gpuSeconds, hrows, hpending]
    have hsame : (owner.stage = plan.stage ∧ owner.phase = plan.phase) ↔ node = plan.node := by
      rw [← hnode]
      constructor
      · rintro ⟨hstage, hphase⟩
        rw [inj_on_of_nodup_map hs.plan.stages hownerMem hmem (Prod.ext hstage hphase)]
      · intro heq
        rw [inj_on_of_nodup_map hs.plan.nodes hownerMem hmem heq]
        exact ⟨rfl, rfl⟩
    by_cases howned : node = plan.node
    · rw [if_pos (decide_eq_true (hsame.mpr howned)), if_pos (decide_eq_true howned),
        add_right_comm, add_assoc]
    · rw [if_neg (by simpa using fun hstage hphase => howned (hsame.mp ⟨hstage, hphase⟩)),
        if_neg (by simpa using howned), add_zero, add_zero]

theorem event_adoptionNeutral (hs : ChargeInvariant s) (op : StoreOp) :
    AdoptionNeutral (event Store.step s op) := by
  intro node groupId groupAttempt adoptions adopted hop
  obtain rfl : op = _ := hop
  cases happly : s.apply (.adoptControllerAuxiliaryJobs node groupId groupAttempt adoptions
      adopted) with
  | error e =>
    simp only [event, Store.step, happly]
    exact ⟨trivial, fun h => by cases h⟩
  | ok s' =>
    simp only [event, Store.step, happly]
    refine ⟨adoption_stageTotals hs happly, fun _ again hnow => ?_⟩
    have hagain : s'.apply (.adoptControllerAuxiliaryJobs node groupId groupAttempt adoptions
        again) = .ok s' := adoptControllerAuxiliaryJobs_again hs.aux hnow happly
    rw [hagain]

/-- While no member of a physical group is charged on its own by a call that returns, the ledger is the
sum of the charges of distinct leases. -/
theorem gpu_time_charged_once (ops : List StoreOp)
    (hcharges : ∀ ev ∈ trace Store.step Store.empty ops,
      ev.output = .ok () → ev.pre.ChargesLeases ev.input) :
    (((trace Store.step Store.empty ops).flatMap chargesOf).map (·.1)).Nodup ∧
      (final Store.step Store.empty ops).ledgerGpuSeconds =
        chargeSum ((trace Store.step Store.empty ops).flatMap chargesOf) ∧
      ∀ ev ∈ trace Store.step Store.empty ops,
        LeaderCharged ev.post ∧ KeepsCharges ev.pre ev.post ∧ AdoptionNeutral ev := by
  have hguard := forall_output hcharges
  have haccounted : Accounted (trace Store.step Store.empty ops)
      (final Store.step Store.empty ops) :=
    trace_induction (P := Accounted) (fun past s op hs hop => hs.step hop) Accounted.empty hguard
  have hstep : ∀ (s : Store) (op : StoreOp), ChargeInvariant s →
      ((s.step op).1 = .ok () → s.ChargesLeases op) → ChargeInvariant (s.step op).2 :=
    fun s op hs hop => step_chargeInvariant hs hop
  have hinvariant := (trace_invariant hstep ChargeInvariant.empty hguard).1
  refine ⟨haccounted.nodup, haccounted.total, fun ev hev => ?_⟩
  obtain ⟨hpre, hpost⟩ := hinvariant ev hev
  have hevent := eq_event_of_mem_trace hev
  refine ⟨hpost.rows.leaderCharged, ?_, ?_⟩
  · rw [hevent]
    exact (step_changes hpre.rows.wellFormed.attempts ev.input).keepsCharges
  · rw [hevent]
    exact event_adoptionNeutral hpre ev.input

/-- A campaign of one job for the only node of the plan. -/
def Sample.campaign : AuxiliaryGroupSpec := { Scheduler.Sample.auxiliary with node := "node" }

/-- Its end, after five GPU-seconds. -/
def Sample.campaignEnd : AuxiliaryGroupTerminal where
  publication := Scheduler.Sample.artifact "/aux/p"
  terminals := [("j", ⟨{
    status := .complete
    exitCode := some 0
    atomicPublicationSha256 := .hex "b0"
    terminalSha256 := some (.hex "b1")
    junitSha256 := some (.hex "b2")
    rawLogSha256 := some (.hex "b3")
    evidenceFiles := []
    failureClass := none
    failureCode := none
    exclusionReason := none
    includedInAnalysis := true
    startedNs := some 5
    finishedNs := some 6 }, by decide⟩)]
  gpuSeconds := ⟨5, 5, 0⟩
  terminals_ne := by decide
  keys_nodup := by decide
  one_publication := by decide
  gpu_valid := by decide
  reserved_covers := by decide

/-- The campaign runs, is published and adopted, and a session of two cells
fails after one second on its GPU. -/
def Sample.campaignAndSession : List StoreOp :=
  Sample.session ++
  [.registerControllerAuxiliaryGroup Sample.campaign 3,
   .startControllerAuxiliaryGroup Sample.campaign 4,
   .attachStartedAuxiliaryGroup Sample.campaign (Scheduler.Sample.process 8 (by decide)) 4,
   .finishControllerAuxiliaryGroup (fun _ => .ok ()) Sample.campaign Sample.campaignEnd 7,
   .recordControllerMaterialization (fun _ => .ok ()) "node" (Scheduler.Sample.artifact "/m0")
     (Scheduler.Sample.artifact "/m1") ["a", "b", "cell"]
     [("campaign", Scheduler.Sample.artifact "/aux/p")] 8,
   .adoptControllerAuxiliaryJobs "node" "x" 1
     [⟨"j", 1, "adopt", ⟨sampleAttempt 1 "/aux/j", by decide⟩⟩] 9,
   .startPhysicalAttemptGroup "group" ["g0"] 10,
   .attachPhysicalAttemptGroupProcess "group" 7 7 none 11,
   .failPhysicalAttemptGroupInfrastructure "group" "INFRASTRUCTURE:EXIT" "exit" [] false
     1000000010]

/-- The campaign and the session are charged once each. -/
theorem gpu_time_charged_once_campaign :
    ((trace Store.step Store.empty Sample.campaignAndSession).flatMap chargesOf).map
        (fun charge => (charge.1, charge.2.compute)) =
        [(.auxiliary "x" 1, 5), (.group "group", 1)] ∧
      (((trace Store.step Store.empty Sample.campaignAndSession).flatMap chargesOf).map
        (·.1)).Nodup ∧
      (final Store.step Store.empty Sample.campaignAndSession).ledgerGpuSeconds =
        chargeSum ((trace Store.step Store.empty Sample.campaignAndSession).flatMap chargesOf) ∧
      ∀ ev ∈ trace Store.step Store.empty Sample.campaignAndSession,
        LeaderCharged ev.post ∧ KeepsCharges ev.pre ev.post ∧ AdoptionNeutral ev :=
  ⟨by decide +kernel, gpu_time_charged_once _ (by decide +kernel)⟩

/-- Both members of a running session are finished on their own, each with the
five GPU-seconds of the session. -/
theorem gpu_time_charged_twice :
    ¬ ∀ ops, (final Store.step Store.empty ops).ledgerGpuSeconds =
      chargeSum ((trace Store.step Store.empty ops).flatMap chargesOf) := by
  intro h
  have hbad := h (Sample.session ++
    [.startPhysicalAttemptGroup "group" ["g0"] 3,
     .finishAttempt ⟨"a", 1⟩ { Scheduler.Sample.complete with gpuSeconds := ⟨5, 5, 0⟩ },
     .finishAttempt ⟨"b", 1⟩ { Scheduler.Sample.complete with gpuSeconds := ⟨5, 5, 0⟩ }])
  revert hbad
  decide +kernel

end Store

end Operator
