import LightConeSpec.Operator.Operations

/-!
# Updates of auxiliary groups

Eight operations update one auxiliary group that has not ended. `AuxUpdate` says
what such an update may do, and `apply_auxUpdate` is the only place that unfolds
these operations: what they do to the ledger, to the controller's tables and to
the charges follows from it.
-/

namespace Operator

open Python List

/-- The tables outside the ledger of attempts. -/
inductive Table
  | stagePlan
  | nodes
  | auxGroups
  | auxJobs
deriving DecidableEq

/-- The tables that an operation can write. -/
def StoreOp.writes : StoreOp → List Table
  | .initializeStagePlan .. | .recordControllerMaterialization .. => [.stagePlan, .nodes]
  | .updateStageExpectation .. => [.stagePlan]
  | .recordControllerExecutionPlan .. | .recordControllerReduction .. | .markControllerBlocked ..
  | .resumeControllerNode .. => [.nodes]
  | .registerControllerAuxiliaryGroup .. | .startControllerAuxiliaryGroup ..
  | .failControllerAuxiliarySpawn .. | .finishControllerAuxiliaryGroup ..
  | .adoptControllerAuxiliaryJobs .. => [.auxGroups, .auxJobs]
  | .attachStartedAuxiliaryGroup .. | .attachControllerAuxiliaryGroupProcess ..
  | .recordControllerAuxiliaryObservation .. | .requestControllerAuxiliaryTermination ..
  | .recordControllerAuxiliaryTerminationSignal .. => [.auxGroups]
  | _ => []

/-- The calls that update one auxiliary group. -/
def StoreOp.updatesAux : StoreOp → Bool
  | .startControllerAuxiliaryGroup .. | .attachStartedAuxiliaryGroup ..
  | .failControllerAuxiliarySpawn .. | .attachControllerAuxiliaryGroupProcess ..
  | .recordControllerAuxiliaryObservation .. | .requestControllerAuxiliaryTermination ..
  | .recordControllerAuxiliaryTerminationSignal .. | .finishControllerAuxiliaryGroup .. => true
  | _ => false

/-- The group that a call ends, with the time that it reports. -/
def StoreOp.endsAux : StoreOp → Option ((String × Nat) × GpuSeconds)
  | .failControllerAuxiliarySpawn spec .. => some ((spec.groupId, spec.attempt), 0)
  | .finishControllerAuxiliaryGroup _ spec terminal _ =>
    some ((spec.groupId, spec.attempt), terminal.gpuSeconds)
  | _ => none

def GroupStatus.isActive : GroupStatus → Bool
  | .pending | .running => true
  | .complete | .failed => false

variable {s t s' : Store} {op : StoreOp} {groupId : String} {attempt : Nat} {row : AuxGroupRow}
  {f : AuxGroupRow → AuxGroupRow}

namespace Store

/-- The columns that name a job and its group. -/
def jobIds (job : AuxJobRow) : (String × Nat) × String × Nat :=
  ((job.groupId, job.groupAttempt), job.jobId, job.jobAttempt)

theorem map_jobIds_updateAuxJobs (s : Store) (groupId : String) (attempt : Nat)
    {f : AuxJobRow → AuxJobRow} (hf : ∀ job, jobIds (f job) = jobIds job) :
    (s.updateAuxJobs groupId attempt f).auxJobs.map jobIds = s.auxJobs.map jobIds := by
  rw [updateAuxJobs, map_map]
  apply map_congr_left
  intro job _
  simp only [Function.comp_apply]
  split
  · exact hf job
  · rfl

theorem requireAuxGroup_eq_ok (h : s.requireAuxGroup groupId attempt = .ok row) :
    row ∈ s.auxGroups ∧ row.groupId = groupId ∧ row.attempt = attempt := by
  simp only [requireAuxGroup, bind_eq_ok] at h
  obtain ⟨_, _, h⟩ := h
  cases hfind : s.auxGroups.find? fun row => row.groupId = groupId ∧ row.attempt = attempt with
  | none =>
    rw [hfind] at h
    cases h
  | some found =>
    simp only [hfind, pure_eq_ok] at h
    subst h
    exact ⟨mem_of_find?_eq_some hfind, by simpa using find?_some hfind⟩

theorem auxGroupOfSpec_eq_ok {spec : AuxiliaryGroupSpec} (h : s.auxGroupOfSpec spec = .ok row) :
    s.requireAuxGroup spec.groupId spec.attempt = .ok row := by
  simp only [auxGroupOfSpec, bind_eq_ok, pure_eq_ok] at h
  obtain ⟨_, hrow, _, _, rfl⟩ := h
  exact hrow

/-- An operation on one auxiliary group that has not ended. Only a start makes it
`RUNNING`. -/
structure AuxUpdate (s t : Store) (op : StoreOp) (row : AuxGroupRow)
    (f : AuxGroupRow → AuxGroupRow) : Prop where
  result : t = { s with
    auxGroups := (s.updateAuxGroup row.groupId row.attempt f).auxGroups, auxJobs := t.auxJobs }
  jobs : t.auxJobs.map jobIds = s.auxJobs.map jobIds
  sameJobs : Table.auxJobs ∉ op.writes → t.auxJobs = s.auxJobs
  found : row ∈ s.auxGroups
  active : row.status.isActive = true
  keeps : ∀ g, (f g).groupId = g.groupId ∧ (f g).attempt = g.attempt ∧ (f g).node = g.node ∧
    (f g).adoptedAtNs = g.adoptedAtNs ∧ (f g).assignedGpuUuids = g.assignedGpuUuids
  running : (∃ spec started, op = .startControllerAuxiliaryGroup spec started) ∨
    ∀ g, (f g).status = .running → g.status = .running

theorem AuxUpdate.of_require (hrow : s.requireAuxGroup groupId attempt = .ok row)
    (hactive : row.status.isActive = true)
    (hresult : t = { s with
      auxGroups := (s.updateAuxGroup groupId attempt f).auxGroups, auxJobs := t.auxJobs })
    (hjobs : t.auxJobs.map jobIds = s.auxJobs.map jobIds ∧
      (Table.auxJobs ∉ op.writes → t.auxJobs = s.auxJobs))
    (hrunning : (∃ spec started, op = .startControllerAuxiliaryGroup spec started) ∨
      ∀ g, (f g).status = .running → g.status = .running)
    (hkeeps : ∀ g, (f g).groupId = g.groupId ∧ (f g).attempt = g.attempt ∧ (f g).node = g.node ∧
      (f g).adoptedAtNs = g.adoptedAtNs ∧ (f g).assignedGpuUuids = g.assignedGpuUuids := by
        intro g; exact ⟨rfl, rfl, rfl, rfl, rfl⟩) :
    AuxUpdate s t op row f := by
  obtain ⟨hmem, rfl, rfl⟩ := requireAuxGroup_eq_ok hrow
  exact ⟨hresult, hjobs.1, hjobs.2, hmem, hactive, hkeeps, hrunning⟩

theorem AuxUpdate.groups (h : AuxUpdate s t op row f) :
    t.auxGroups = (s.updateAuxGroup row.groupId row.attempt f).auxGroups := by
  rw [h.result]

theorem endsAux_of_spec {spec : AuxiliaryGroupSpec} (hrow : s.auxGroupOfSpec spec = .ok row)
    (time : GpuSeconds) :
    some ((spec.groupId, spec.attempt), time) = some ((row.groupId, row.attempt), time) := by
  obtain ⟨_, hid, hattempt⟩ := requireAuxGroup_eq_ok (auxGroupOfSpec_eq_ok hrow)
  rw [hid, hattempt]

/-- Such a call updates a group that has not ended; when it ends the group, the
time of the group is the one that it reports, or none for a failed spawn. -/
theorem apply_auxUpdate (hop : op.updatesAux = true) (h : s.apply op = .ok s') :
    ∃ row f, AuxUpdate s s' op row f ∧
      ((f row).status.isActive = true ∧ (f row).gpuSeconds = row.gpuSeconds ∧ op.endsAux = none ∨
        (f row).status.isActive = false ∧ ∃ time,
          op.endsAux = some ((row.groupId, row.attempt), time) ∧
          ((f row).gpuSeconds = time ∨ (f row).gpuSeconds = row.gpuSeconds ∧ time = 0)) := by
  cases op with
  | startControllerAuxiliaryGroup spec started =>
    simp only [apply, startControllerAuxiliaryGroup, bind_eq_ok, check_eq_ok, pure_eq_ok] at h
    obtain ⟨_, _, row, hrow, hstatus, rfl⟩ := h
    exact ⟨row, _, .of_require (auxGroupOfSpec_eq_ok hrow) (by rw [hstatus]; rfl) rfl
      ⟨map_jobIds_updateAuxJobs _ _ _ fun _ => rfl, absurd (by simp [StoreOp.writes])⟩
      (.inl ⟨_, _, rfl⟩), .inl ⟨rfl, rfl, rfl⟩⟩
  | failControllerAuxiliarySpawn spec exceptionType finished =>
    simp only [apply, failControllerAuxiliarySpawn, bind_eq_ok, check_eq_ok, pure_eq_ok] at h
    obtain ⟨_, _, _, _, row, hrow, hstatus, rfl⟩ := h
    refine ⟨row, _, .of_require (auxGroupOfSpec_eq_ok hrow) (by rw [hstatus]; rfl) rfl
      ⟨map_jobIds_updateAuxJobs _ _ _ fun _ => rfl, absurd (by simp [StoreOp.writes])⟩
      (.inr fun _ hrunning => ?_), .inr ⟨rfl, 0, endsAux_of_spec hrow 0, .inr ⟨rfl, rfl⟩⟩⟩
    -- the group becomes `FAILED`
    simp at hrunning
  | finishControllerAuxiliaryGroup reopen spec terminal finished =>
    simp only [apply, finishControllerAuxiliaryGroup, bind_eq_ok, check_eq_ok, pure_eq_ok] at h
    obtain ⟨_, _, _, _, _, _, _, row, hrow, hstatus, _, rfl⟩ := h
    refine ⟨row, _, .of_require (auxGroupOfSpec_eq_ok hrow) (by rw [hstatus]; rfl) rfl
      ⟨map_jobIds_updateAuxJobs _ _ _ fun job => ?_, absurd (by simp [StoreOp.writes])⟩
      (.inr fun _ => ?_), .inr ⟨?_, _, endsAux_of_spec hrow _, .inl rfl⟩⟩
    · split <;> rfl
    · dsimp only
      split <;> simp
    · dsimp only
      split <;> rfl
  | attachStartedAuxiliaryGroup spec process attached =>
    simp only [apply, attachStartedAuxiliaryGroup, bind_eq_ok, check_eq_ok, pure_eq_ok] at h
    obtain ⟨_, _, _, row, hrow, hstatus, rfl⟩ := h
    exact ⟨row, _, .of_require hrow (by rw [hstatus.1]; rfl) rfl ⟨rfl, fun _ => rfl⟩
      (.inr fun _ => id), .inl ⟨by rw [hstatus.1]; rfl, rfl, rfl⟩⟩
  | attachControllerAuxiliaryGroupProcess spec pid pgid receipt attached =>
    simp only [apply, attachControllerAuxiliaryGroupProcess, bind_eq_ok, check_eq_ok,
      pure_eq_ok] at h
    obtain ⟨_, _, _, _, _, row, hrow, hstatus, _, _, rfl⟩ := h
    exact ⟨row, _, .of_require (auxGroupOfSpec_eq_ok hrow) (by rw [hstatus]; rfl) rfl
      ⟨rfl, fun _ => rfl⟩ (.inr fun _ => id), .inl ⟨by rw [hstatus]; rfl, rfl, rfl⟩⟩
  | recordControllerAuxiliaryObservation spec logSize heartbeat observed =>
    simp only [apply, recordControllerAuxiliaryObservation, bind_eq_ok, check_eq_ok,
      pure_eq_ok] at h
    obtain ⟨_, _, _, row, hrow, hstatus, _, _, _, rfl⟩ := h
    exact ⟨row, _, .of_require (auxGroupOfSpec_eq_ok hrow) (by rw [hstatus]; rfl) rfl
      ⟨rfl, fun _ => rfl⟩ (.inr fun _ => id), .inl ⟨by rw [hstatus]; rfl, rfl, rfl⟩⟩
  | requestControllerAuxiliaryTermination spec reason requested =>
    simp only [apply, requestControllerAuxiliaryTermination, bind_eq_ok, check_eq_ok,
      pure_eq_ok] at h
    obtain ⟨_, _, _, _, row, hrow, hstatus, _, rfl⟩ := h
    exact ⟨row, _, .of_require (auxGroupOfSpec_eq_ok hrow) (by rw [hstatus]; rfl) rfl
      ⟨rfl, fun _ => rfl⟩ (.inr fun _ => id), .inl ⟨by rw [hstatus]; rfl, rfl, rfl⟩⟩
  | recordControllerAuxiliaryTerminationSignal spec signal sent =>
    simp only [apply, recordControllerAuxiliaryTerminationSignal, bind_eq_ok, check_eq_ok,
      pure_eq_ok] at h
    obtain ⟨_, _, row, hrow, hstatus, _, rfl⟩ := h
    have hactive : row.status.isActive = true := by rw [hstatus.1]; rfl
    refine ⟨row, _, .of_require (auxGroupOfSpec_eq_ok hrow) hactive (by rfl) ⟨rfl, fun _ => rfl⟩
      (.inr fun g => ?_) fun g => ?_, .inl ⟨?_, ?_, rfl⟩⟩
    · cases signal <;> exact id
    · cases signal <;> exact ⟨rfl, rfl, rfl, rfl, rfl⟩
    · cases signal <;> exact hactive
    · cases signal <;> rfl
  | _ => cases hop

end Store

end Operator
