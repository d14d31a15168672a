import LightConeSpec.Operator.Ledger

/-!
# The controller's tables

The stage plan, the DAG nodes and the two tables of auxiliary campaigns are
outside the ledger of attempts, and `Change` says little about them. Here is
which of them an operation writes (`apply_tables`), and the exact transition of
every operation on a node.
-/

namespace Operator

open Python List

variable {s s' : Store} {groupId node : String} {adoptions : List AuxiliaryCellAdoption}
  {recorded : Int} {groupAttempt : Nat} {group : AuxGroupRow}
  {reopen : ArtifactBinding → Except Error Unit}

variable {t : Store} {plan : PlanRow} {adopted : Int} {controller : NodeRow}

namespace Store

structure SameTables (tables : List Table) (s s' : Store) : Prop where
  stagePlan : Table.stagePlan ∉ tables → s'.stagePlan = s.stagePlan
  nodes : Table.nodes ∉ tables → s'.nodes = s.nodes
  auxGroups : Table.auxGroups ∉ tables → s'.auxGroups = s.auxGroups
  auxJobs : Table.auxJobs ∉ tables → s'.auxJobs = s.auxJobs

theorem SameTables.refl (tables : List Table) (s : Store) : SameTables tables s s :=
  ⟨fun _ => rfl, fun _ => rfl, fun _ => rfl, fun _ => rfl⟩

theorem SameTables.trans {tables : List Table} {u : Store} (h : SameTables tables s t)
    (h' : SameTables tables t u) : SameTables tables s u :=
  ⟨fun hn => (h'.stagePlan hn).trans (h.stagePlan hn), fun hn => (h'.nodes hn).trans (h.nodes hn),
    fun hn => (h'.auxGroups hn).trans (h.auxGroups hn),
    fun hn => (h'.auxJobs hn).trans (h.auxJobs hn)⟩

theorem SameTables.mono {tables tables' : List Table} (hsub : tables ⊆ tables')
    (h : SameTables tables s t) : SameTables tables' s t :=
  ⟨fun hn => h.stagePlan fun hm => hn (hsub hm), fun hn => h.nodes fun hm => hn (hsub hm),
    fun hn => h.auxGroups fun hm => hn (hsub hm), fun hn => h.auxJobs fun hm => hn (hsub hm)⟩

/-- The kinds of changes that stay within the ledger of attempts. -/
def ChangeKind.isLedger : ChangeKind → Bool
  | .settings | .auxStart | .dispatch | .envelope => false
  | _ => true

theorem Change.sameTables {kind : ChangeKind} (hkind : kind.isLedger = true) (h : Change kind s t) :
    SameTables [] s t := by
  cases h with
  | settings | auxStart | dispatch | envelope => cases hkind
  | rows | materialize | legacy | enqueue | insertGroup | insertMember | groupStart
  | groupFinish => exact ⟨fun _ => rfl, fun _ => rfl, fun _ => rfl, fun _ => rfl⟩

theorem Changes.sameTables {kinds : List ChangeKind} (hkinds : ∀ kind ∈ kinds, kind.isLedger = true)
    (h : Changes kinds s t) : SameTables [] s t :=
  h.relation (.refl []) (fun _ _ _ => .trans) fun kind hkind _ _ hstep =>
    hstep.sameTables (hkinds kind hkind)

/-! ## Nodes -/

theorem requireControllerNode_eq_ok {row : NodeRow} (h : s.requireControllerNode node = .ok row) :
    row ∈ s.nodes ∧ row.node = node := by
  simp only [requireControllerNode, bind_eq_ok] at h
  obtain ⟨_, _, h⟩ := h
  cases hfind : s.nodes.find? fun row => row.node = node with
  | none => simp [hfind] at h
  | some found =>
    simp only [hfind, pure_eq_ok] at h
    subst h
    exact ⟨mem_of_find?_eq_some hfind, by simpa using find?_some hfind⟩

theorem hasIncompletePrior_eq_false {ordinal : Nat} (h : s.hasIncompletePrior ordinal = false) :
    ∀ row ∈ s.nodes, row.ordinal < ordinal → row.state = .reduced := by
  intro row hrow hlt
  by_contra hne
  have : s.hasIncompletePrior ordinal = true :=
    any_eq_true.mpr ⟨row, hrow, by simpa using ⟨hlt, hne⟩⟩
  rw [h] at this
  cases this

/-- The plan after a materialisation. -/
def bindExpectedCells (s : Store) (node : String) (count : Nat) : Store :=
  { s with stagePlan := s.stagePlan.map fun plan =>
      if plan.node = node then { plan with knownExpectedCells := some count } else plan }

/-- A successful `record_controller_materialization`. -/
theorem recordControllerMaterialization_eq_ok {m nm : ArtifactBinding} {cells : List String}
    {sources : List (String × ArtifactBinding)}
    (h : s.recordControllerMaterialization reopen node m nm cells sources recorded = .ok s') :
    cells = sortedSet cells ∧
      (∃ row ∈ s.nodes, row.node = node ∧ (row.state = .unmaterialized ∨ row.state = .blocked) ∧
        row.materialization = none ∧
        ∀ prior ∈ s.nodes, prior.ordinal < row.ordinal → prior.state = .reduced) ∧
      ((s.planOfNode node).bind (·.knownExpectedCells)).all (· = cells.length) = true ∧
      s' = (s.bindExpectedCells node cells.length).updateNode node fun row =>
        { row with
          state := .materialized
          materialization := some m
          nodeMaterialization := some nm
          expectedCellIds := some cells
          auxiliarySources := sources
          blockerReason := none } := by
  simp only [recordControllerMaterialization, bind_eq_ok, check_eq_ok, pure_eq_ok] at h
  obtain ⟨_, _, _, _, _, _, _, ⟨_, hsorted⟩, _, _, _, _, row, hrow, ⟨hstate, hnone⟩, hprior, hknown,
    rfl⟩ := h
  obtain ⟨hmem, hnode⟩ := requireControllerNode_eq_ok hrow
  exact ⟨hsorted, ⟨row, hmem, hnode, hstate, hnone, hasIncompletePrior_eq_false hprior⟩, hknown,
    rfl⟩

/-- A successful `record_controller_execution_plan`. -/
theorem recordControllerExecutionPlan_eq_ok {source : ArtifactBinding}
    {launch : Option ArtifactBinding}
    (h : s.recordControllerExecutionPlan reopen node source launch recorded = .ok s') :
    (∃ row ∈ s.nodes, row.node = node ∧ row.state = .materialized) ∧
      s' = s.updateNode node fun row =>
        { row with
          state := .planned
          executionSource := some source
          preparedLaunch := launch
          blockerReason := none } := by
  simp only [recordControllerExecutionPlan, bind_eq_ok, check_eq_ok, pure_eq_ok] at h
  obtain ⟨_, _, _, _, _, _, _, _, row, hrow, hstate, rfl⟩ := h
  obtain ⟨hmem, hnode⟩ := requireControllerNode_eq_ok hrow
  exact ⟨⟨row, hmem, hnode, hstate⟩, rfl⟩

def reductionCoverage (s : Store) (node : String) : List AttemptRow :=
  match s.planOfNode node with
  | some plan => s.latestStageAttempts plan.stage plan.phase
  | none => []

/-- A successful `record_controller_reduction`. -/
theorem recordControllerReduction_eq_ok {decision completion : ArtifactBinding}
    (h : s.recordControllerReduction reopen node decision completion recorded = .ok s') :
    (∃ row ∈ s.nodes, row.node = node ∧ row.state = .planned ∧
      ∃ cells, row.expectedCellIds = some cells ∧
        cells.length = (s.reductionCoverage node).length) ∧
      (∀ attempt ∈ s.reductionCoverage node, attempt.status = .complete) ∧
      s' = s.updateNode node fun row =>
        { row with
          state := .reduced
          decision := some decision
          completion := some completion
          blockerReason := none } := by
  simp only [recordControllerReduction, bind_eq_ok, check_eq_ok, pure_eq_ok] at h
  obtain ⟨_, _, _, _, _, _, _, _, _, row, hrow, hstate, ⟨hcount, hcomplete⟩, rfl⟩ := h
  obtain ⟨hmem, hnode⟩ := requireControllerNode_eq_ok hrow
  cases hcells : row.expectedCellIds with
  | none => simp [hcells] at hcount
  | some cells =>
    refine ⟨⟨row, hmem, hnode, hstate, cells, hcells, ?_⟩, hcomplete, rfl⟩
    rw [hcells] at hcount
    exact of_decide_eq_true hcount

/-- A successful `mark_controller_blocked`. -/
theorem markControllerBlocked_eq_ok {reason : String}
    (h : s.markControllerBlocked node reason recorded = .ok s') :
    (∃ row ∈ s.nodes, row.node = node ∧ row.state ≠ .reduced) ∧
      s' = s.updateNode node fun row =>
        { row with state := .blocked, blockerReason := some reason } := by
  simp only [markControllerBlocked, bind_eq_ok, check_eq_ok, pure_eq_ok] at h
  obtain ⟨_, _, _, _, _, _, row, hrow, hstate, rfl⟩ := h
  obtain ⟨hmem, hnode⟩ := requireControllerNode_eq_ok hrow
  exact ⟨⟨row, hmem, hnode, hstate⟩, rfl⟩

/-- A successful `resume_controller_node`. -/
theorem resumeControllerNode_eq_ok {reason : String}
    (h : s.resumeControllerNode node reason recorded = .ok s') :
    (∃ row ∈ s.nodes, row.node = node ∧ row.state = .blocked) ∧
      s' = s.updateNode node fun row =>
        { row with
          state :=
            if row.executionSource.isSome then .planned
            else if row.materialization.isSome then .materialized
            else .unmaterialized
          blockerReason := none } := by
  simp only [resumeControllerNode, bind_eq_ok, check_eq_ok, pure_eq_ok] at h
  obtain ⟨_, _, _, _, _, _, row, hrow, hstate, rfl⟩ := h
  obtain ⟨hmem, hnode⟩ := requireControllerNode_eq_ok hrow
  exact ⟨⟨row, hmem, hnode, hstate⟩, rfl⟩

/-- A successful `initialize_stage_plan`. -/
theorem initializeStagePlan_eq_ok {entries : List StagePlanEntry} {now : Int}
    (h : s.initializeStagePlan entries now = .ok s') : (entries.map (·.node)).Nodup ∧
      (entries.map fun entry => (entry.stage, entry.phase)).Nodup ∧
      sortedBy id (entries.map (·.ordinal)) = List.range entries.length ∧
      ((s.stagePlan ≠ [] ∧ sortedBy (·.ordinal) s.stagePlan = sortedBy (·.ordinal) entries ∧
          s' = { s with nodes := s.nodes ++ (entries.map fun entry =>
            ({ node := entry.node, ordinal := entry.ordinal } : NodeRow)).filter (fun row =>
              s.nodes.all fun node => node.node ≠ row.node ∧ node.ordinal ≠ row.ordinal) }) ∨
        (s.stagePlan = [] ∧ s.nodes = [] ∧
          s' = { s with
            stagePlan := entries
            nodes := entries.map fun entry =>
              ({ node := entry.node, ordinal := entry.ordinal } : NodeRow) })) := by
  simp only [initializeStagePlan, bind_eq_ok, check_eq_ok] at h
  obtain ⟨_, hnodes, hstages, hordinals, _, _, h⟩ := h
  refine ⟨hnodes, hstages, hordinals, ?_⟩
  split at h
  · rename_i hplan
    simp only [bind_eq_ok, check_eq_ok, pure_eq_ok] at h
    exact .inl ⟨hplan, h.1, h.2.symm⟩
  · rename_i hplan
    simp only [bind_eq_ok, check_eq_ok, pure_eq_ok] at h
    exact .inr ⟨not_not.mp hplan, h.1, h.2.symm⟩

/-- A successful `update_stage_expectation`. -/
theorem updateStageExpectation_eq_ok {formula : String} {known : Nat}
    (h : s.updateStageExpectation node formula known = .ok s') :
    ∃ plan, s.planOfNode node = some plan ∧
      s.materializedCells plan.stage plan.phase ≤ known ∧
      s' = { s with stagePlan := s.stagePlan.map fun row =>
        if row.node = node then
          { row with expectedFormula := formula, knownExpectedCells := some known }
        else row } := by
  simp only [updateStageExpectation, bind_eq_ok] at h
  obtain ⟨_, _, _, _, h⟩ := h
  cases hplan : s.planOfNode node with
  | none => simp [hplan] at h
  | some plan =>
    simp only [hplan, bind_eq_ok, check_eq_ok, pure_eq_ok] at h
    exact ⟨plan, rfl, h.1, h.2.symm⟩

/-! ## Auxiliary campaigns -/

theorem adoptJobs_tables {owner : Option String} {jobs : List AuxJobRow}
    (h : s.adoptJobs group plan owner adoptions adopted jobs = .ok s') :
    SameTables [.auxJobs] s s' := by
  induction jobs generalizing s with
  | nil =>
    simp only [adoptJobs, pure_eq_ok] at h
    subst h
    exact .refl _ s
  | cons job rest ih =>
    obtain ⟨_, mid, _, _, hmid, h⟩ := adoptJobs_cons h
    obtain ⟨_, rfl⟩ := materializeAttemptLocked_change hmid
    refine SameTables.trans ?_ (ih h)
    exact ⟨fun _ => rfl, fun _ => rfl, fun _ => rfl, fun hn => absurd (by simp) hn⟩

/-- Adopting once more what is adopted. -/
theorem AdoptedAs.again (hs : AdoptedAs s groupId groupAttempt adoptions group)
    (h : Adoptable s node groupId groupAttempt adoptions controller group) (hnow : 0 < adopted) :
    s.adoptControllerAuxiliaryJobs node groupId groupAttempt adoptions adopted = .ok s := by
  simp only [adoptControllerAuxiliaryJobs, bind_eq_ok, check_eq_ok]
  refine ⟨(), h.nodeText, (), h.groupText, h.nonempty, h.sorted, h.cells, (), ?_, controller,
    h.foundNode, h.materialized, group, h.foundGroup, h.complete, h.published, h.jobs, ?_⟩
  · simp [validatedTime, hnow]
  · rw [if_pos hs.adopted]
    simp only [bind_eq_ok, check_eq_ok, pure_eq_ok]
    exact ⟨hs.mapping, (), forEach_eq_ok.mpr hs.durable, trivial⟩

theorem Adoptable.nonempty_jobs
    (h : Adoptable s node groupId groupAttempt adoptions controller group) :
    s.adoptionJobs groupId groupAttempt ≠ [] := by
  intro hnil
  have hjobs := h.jobs
  rw [hnil] at hjobs
  exact h.nonempty (map_eq_nil_iff.mp hjobs.symm)

/-- The adoptions name distinct jobs. -/
theorem Adoptable.nodup (h : Adoptable s node groupId groupAttempt adoptions controller group) :
    (adoptions.map fun a => (a.jobId, a.jobAttempt)).Nodup := by
  have hpair := pairwise_map.mp h.sorted
  refine pairwise_map.mpr (hpair.imp ?_)
  rintro a b (hlt | ⟨_, hlt⟩) heq
  · exact absurd (congrArg Prod.fst heq) hlt.ne
  · exact absurd (congrArg Prod.snd heq) hlt.ne

theorem adoptControllerAuxiliaryJobs_tables
    (h : s.adoptControllerAuxiliaryJobs node groupId groupAttempt adoptions adopted = .ok s') :
    SameTables [.auxGroups, .auxJobs] s s' := by
  obtain ⟨_, _, _, ⟨_, rfl⟩ | ⟨_, _, mid, _, hmid, rfl⟩⟩ := adoptControllerAuxiliaryJobs_eq_ok h
  · exact .refl _ _
  · refine SameTables.trans ((adoptJobs_tables hmid).mono (by simp)) ?_
    exact ⟨fun _ => rfl, fun _ => rfl, fun hn => absurd (by simp) hn, fun hn => absurd (by simp) hn⟩

theorem registerControllerAuxiliaryGroup_eq_ok {spec : AuxiliaryGroupSpec} {registered : Int}
    (h : s.registerControllerAuxiliaryGroup spec registered = .ok s') :
    (∃ row ∈ s.nodes, row.node = spec.node ∧ row.state = .unmaterialized ∧
      ∀ prior ∈ s.nodes, prior.ordinal < row.ordinal → prior.state = .reduced) ∧
      (s' = s ∨
        ((∀ row ∈ s.auxGroups, ¬ (row.groupId = spec.groupId ∧ row.attempt = spec.attempt)) ∧
          (∀ row ∈ s.auxJobs, ∀ job ∈ spec.jobs,
            ¬ (row.jobId = job.jobId ∧ row.jobAttempt = job.attempt)) ∧
          s' = { s with auxGroups := s.auxGroups ++ [auxGroupRow spec],
                        auxJobs := s.auxJobs ++ auxJobRows spec })) := by
  simp only [registerControllerAuxiliaryGroup, bind_eq_ok, check_eq_ok] at h
  obtain ⟨_, _, controller, hrow, hstate, hprior, h⟩ := h
  obtain ⟨hmem, hnode⟩ := requireControllerNode_eq_ok hrow
  refine ⟨⟨controller, hmem, hnode, hstate, hasIncompletePrior_eq_false hprior⟩, ?_⟩
  split at h
  · simp only [bind_eq_ok, pure_eq_ok] at h
    obtain ⟨_, _, rfl⟩ := h
    exact .inl rfl
  · rename_i hfind
    simp only [bind_eq_ok, check_eq_ok, pure_eq_ok] at h
    obtain ⟨_, _, ⟨_, hjobs⟩, rfl⟩ := h
    refine .inr ⟨fun row hrow hkey => ?_, fun row hrow job hjob => (hjobs row hrow job hjob).1, rfl⟩
    have hnone := find?_eq_none.mp hfind row hrow
    simp [hkey] at hnone

/-! ## Every operation -/

/-- The operations of the controller write the stage plan and its nodes. -/
theorem controller_tables {op : StoreOp} (hop : Table.stagePlan ∈ op.writes ∨ Table.nodes ∈ op.writes)
    (h : s.apply op = .ok s') : SameTables op.writes s s' := by
  cases op with
  | initializeStagePlan entries now =>
    obtain ⟨_, _, _, ⟨_, _, rfl⟩ | ⟨_, _, rfl⟩⟩ := initializeStagePlan_eq_ok h
    · exact ⟨fun _ => rfl, absurd (by simp [StoreOp.writes]), fun _ => rfl, fun _ => rfl⟩
    · exact ⟨absurd (by simp [StoreOp.writes]),
        absurd (by simp [StoreOp.writes]), fun _ => rfl, fun _ => rfl⟩
  | updateStageExpectation node formula known =>
    obtain ⟨_, _, _, rfl⟩ := updateStageExpectation_eq_ok h
    exact ⟨absurd (by simp [StoreOp.writes]), fun _ => rfl, fun _ => rfl, fun _ => rfl⟩
  | recordControllerMaterialization =>
    obtain ⟨_, _, _, rfl⟩ := recordControllerMaterialization_eq_ok h
    exact ⟨absurd (by simp [StoreOp.writes]),
      absurd (by simp [StoreOp.writes]), fun _ => rfl, fun _ => rfl⟩
  | recordControllerExecutionPlan =>
    obtain ⟨_, rfl⟩ := recordControllerExecutionPlan_eq_ok h
    exact ⟨fun _ => rfl, absurd (by simp [StoreOp.writes]), fun _ => rfl, fun _ => rfl⟩
  | recordControllerReduction =>
    obtain ⟨_, _, rfl⟩ := recordControllerReduction_eq_ok h
    exact ⟨fun _ => rfl, absurd (by simp [StoreOp.writes]), fun _ => rfl, fun _ => rfl⟩
  | markControllerBlocked =>
    obtain ⟨_, rfl⟩ := markControllerBlocked_eq_ok h
    exact ⟨fun _ => rfl, absurd (by simp [StoreOp.writes]), fun _ => rfl, fun _ => rfl⟩
  | resumeControllerNode =>
    obtain ⟨_, rfl⟩ := resumeControllerNode_eq_ok h
    exact ⟨fun _ => rfl, absurd (by simp [StoreOp.writes]), fun _ => rfl, fun _ => rfl⟩
  | _ => simp [StoreOp.writes] at hop

/-- The operations on auxiliary groups write their groups and jobs. -/
theorem auxiliary_tables {op : StoreOp} (hop : Table.auxGroups ∈ op.writes)
    (h : s.apply op = .ok s') : SameTables op.writes s s' := by
  cases op with
  | registerControllerAuxiliaryGroup =>
    rcases (registerControllerAuxiliaryGroup_eq_ok h).2 with rfl | ⟨_, _, rfl⟩
    · exact .refl _ _
    · exact ⟨fun _ => rfl, fun _ => rfl, absurd (by simp [StoreOp.writes]),
        absurd (by simp [StoreOp.writes])⟩
  | adoptControllerAuxiliaryJobs => exact adoptControllerAuxiliaryJobs_tables h
  | startControllerAuxiliaryGroup | failControllerAuxiliarySpawn
  | finishControllerAuxiliaryGroup | attachStartedAuxiliaryGroup
  | attachControllerAuxiliaryGroupProcess | recordControllerAuxiliaryObservation
  | requestControllerAuxiliaryTermination | recordControllerAuxiliaryTerminationSignal =>
    obtain ⟨row, f, hupdate, -⟩ := apply_auxUpdate rfl h
    refine ⟨fun _ => ?_, fun _ => ?_, absurd (by simp [StoreOp.writes]), hupdate.sameJobs⟩
    · rw [hupdate.result]
    · rw [hupdate.result]
  | _ => simp [StoreOp.writes] at hop

/-- An operation writes no table outside its list. -/
theorem apply_tables (hs : s.KeysNodup) {op : StoreOp} (h : s.apply op = .ok s') :
    SameTables op.writes s s' := by
  have hledger (hkinds : ∀ kind ∈ op.kinds, kind.isLedger = true) : SameTables op.writes s s' :=
    ((apply_changes hs h).sameTables hkinds).mono (by simp)
  cases op with
  | initializeStagePlan | updateStageExpectation | recordControllerMaterialization
  | recordControllerExecutionPlan | recordControllerReduction | markControllerBlocked
  | resumeControllerNode => exact controller_tables (by simp [StoreOp.writes]) h
  | registerControllerAuxiliaryGroup | startControllerAuxiliaryGroup
  | failControllerAuxiliarySpawn | finishControllerAuxiliaryGroup | adoptControllerAuxiliaryJobs
  | attachStartedAuxiliaryGroup | attachControllerAuxiliaryGroupProcess
  | recordControllerAuxiliaryObservation | requestControllerAuxiliaryTermination
  | recordControllerAuxiliaryTerminationSignal =>
    exact auxiliary_tables (by simp [StoreOp.writes]) h
  -- the settings, with the dispatch state among them, are in none of the four tables
  | configureInterferenceEnvelope =>
    simp only [apply, configureInterferenceEnvelope, bind_eq_ok] at h
    obtain ⟨_, _, h⟩ := h
    split at h
    · simp only [pure_eq_ok] at h
      subst h
      exact .refl _ s
    · simp only [bind_eq_ok, check_eq_ok, pure_eq_ok] at h
      obtain ⟨_, rfl⟩ := h
      exact ⟨fun _ => rfl, fun _ => rfl, fun _ => rfl, fun _ => rfl⟩
  | setDispatchStop =>
    simp only [apply, setDispatchStop, bind_eq_ok] at h
    obtain ⟨_, _, _, _, h⟩ := h
    split at h
    · simp only [pure_eq_ok] at h
      subst h
      exact ⟨fun _ => rfl, fun _ => rfl, fun _ => rfl, fun _ => rfl⟩
    · simp only [pure_eq_ok] at h
      subst h
      exact ⟨fun _ => rfl, fun _ => rfl, fun _ => rfl, fun _ => rfl⟩
  | clearDispatchStop =>
    simp only [apply, clearDispatchStop, bind_eq_ok] at h
    obtain ⟨_, _, _, _, h⟩ := h
    split at h
    · simp only [bind_eq_ok, check_eq_ok, pure_eq_ok] at h
      obtain ⟨_, _, _, _, _, rfl⟩ := h
      exact ⟨fun _ => rfl, fun _ => rfl, fun _ => rfl, fun _ => rfl⟩
    · cases h
  | recordLaunchCompatibilityKey =>
    simp only [apply, recordLaunchCompatibilityKey, bind_eq_ok, pure_eq_ok] at h
    obtain ⟨_, _, rfl⟩ := h
    exact ⟨fun _ => rfl, fun _ => rfl, fun _ => rfl, fun _ => rfl⟩
  | recordWatchdogEvent =>
    rw [recordWatchdogEvent_eq_ok h]
    exact .refl _ s
  -- the others stay within the ledger of attempts
  | _ => exact hledger (by simp [StoreOp.kinds, ChangeKind.isLedger])

/-! ## The stage plan -/

/-- A plan names every node and every stage once. -/
structure PlanInvariant (s : Store) : Prop where
  nodes : (s.stagePlan.map (·.node)).Nodup
  stages : (s.stagePlan.map fun plan => (plan.stage, plan.phase)).Nodup

theorem PlanInvariant.empty : PlanInvariant Store.empty := ⟨nodup_nil, nodup_nil⟩

theorem PlanInvariant.of_eq (hs : PlanInvariant s) (h : t.stagePlan = s.stagePlan) :
    PlanInvariant t :=
  ⟨h ▸ hs.nodes, h ▸ hs.stages⟩

theorem PlanInvariant.planFor (hs : PlanInvariant s) (hplan : plan ∈ s.stagePlan) :
    s.planFor plan.stage plan.phase = some plan :=
  Rows.find?_of_nodup hs.stages hplan (by simp)

theorem PlanInvariant.planOfNode (hs : PlanInvariant s) (hplan : plan ∈ s.stagePlan) :
    s.planOfNode plan.node = some plan :=
  Rows.find?_of_nodup hs.nodes hplan (by simp)

theorem planOfNode_eq_some (h : s.planOfNode node = some plan) :
    plan ∈ s.stagePlan ∧ plan.node = node :=
  ⟨mem_of_find?_eq_some h, by simpa using find?_some h⟩

/-- An update of one plan row writes neither its node nor its stage. -/
theorem PlanInvariant.update (hs : PlanInvariant s) {f : PlanRow → PlanRow}
    (hf : ∀ plan, (f plan).node = plan.node ∧ (f plan).stage = plan.stage ∧
      (f plan).phase = plan.phase)
    (hplan : t.stagePlan = s.stagePlan.map fun plan => if plan.node = node then f plan else plan) :
    PlanInvariant t := by
  have hsame {β : Type} (g : PlanRow → β) (hg : ∀ plan, g (f plan) = g plan) :
      t.stagePlan.map g = s.stagePlan.map g := by
    rw [hplan, map_map]
    apply map_congr_left
    intro plan _
    by_cases hnode : plan.node = node
    · simp [hnode, hg]
    · simp [hnode]
  constructor
  · rw [hsame _ fun plan => (hf plan).1]
    exact hs.nodes
  · rw [hsame _ fun plan => by rw [(hf plan).2.1, (hf plan).2.2]]
    exact hs.stages

theorem apply_planInvariant (hs : PlanInvariant s) (hkeys : s.KeysNodup) {op : StoreOp}
    (h : s.apply op = .ok s') : PlanInvariant s' := by
  cases op with
  | initializeStagePlan =>
    obtain ⟨hnodes, hstages, _, ⟨_, _, rfl⟩ | ⟨_, _, rfl⟩⟩ := initializeStagePlan_eq_ok h
    · exact hs.of_eq rfl
    · exact ⟨hnodes, hstages⟩
  | updateStageExpectation node formula known =>
    obtain ⟨_, _, _, rfl⟩ := updateStageExpectation_eq_ok h
    exact hs.update
      (f := fun row => { row with expectedFormula := formula, knownExpectedCells := some known })
      (fun _ => ⟨rfl, rfl, rfl⟩) rfl
  | recordControllerMaterialization reopen node m nm cells =>
    obtain ⟨_, _, _, rfl⟩ := recordControllerMaterialization_eq_ok h
    exact hs.update (f := fun plan => { plan with knownExpectedCells := some cells.length })
      (fun _ => ⟨rfl, rfl, rfl⟩) rfl
  | _ => exact hs.of_eq ((apply_tables hkeys h).stagePlan (by simp [StoreOp.writes]))

end Store

end Operator
