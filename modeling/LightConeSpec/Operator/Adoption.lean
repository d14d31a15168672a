import LightConeSpec.Operator.Charges

/-!
# Adopting twice

An adoption binds the jobs of a group to new rows, each the latest of its cell,
so the same adoption once more finds all of it and changes nothing.
-/

namespace Operator

open Python List

variable {adoptions : List AuxiliaryCellAdoption} {a : AuxiliaryCellAdoption}

variable {s : Store} {row : AttemptRow} {adopted : Int}

namespace Store

theorem latestAttempt_append_of_ne (s : Store) {cellId : String} (h : row.cellId ≠ cellId) :
    (s.appendAttempt row).latestAttempt cellId = s.latestAttempt cellId := by
  unfold latestAttempt
  rw [appendAttempt_attempts, filter_append]
  simp [h]

/-- The row of the next attempt is the latest of its cell. -/
theorem latestAttempt_append (s : Store)
    (h : ∀ r ∈ s.attempts, r.cellId = row.cellId → r.attempt < row.attempt) :
    (s.appendAttempt row).latestAttempt row.cellId = some row := by
  unfold latestAttempt
  rw [appendAttempt_attempts, filter_append]
  simp only [filter_cons, decide_true, if_true, filter_nil, argmax_concat]
  cases hlatest : (s.attempts.filter fun r => r.cellId = row.cellId).argmax (·.attempt) with
  | none => rfl
  | some latest =>
    obtain ⟨hmem, hcell, _⟩ := latestAttempt_eq_some (s := s) hlatest
    simp [h latest hmem hcell]

theorem Materializes.latest {rows : List AttemptRow} (h : Materializes rows row) :
    ∀ r ∈ rows, r.cellId = row.cellId → r.attempt < row.attempt := by
  intro r hr hcell
  rcases h.next with ⟨_, hfirst⟩ | ⟨latest, _, _, hmax, hattempt, _⟩
  · exact absurd hcell (hfirst r hr)
  · have := hmax r hr hcell
    omega

def bindJob (adoptions : List AuxiliaryCellAdoption) (jobs : List AuxJobRow) (row : AuxJobRow) :
    AuxJobRow :=
  if (row.jobId, row.jobAttempt) ∈ jobs.map fun job => (job.jobId, job.jobAttempt) then
    match adoptions.find? fun a => a.jobId = row.jobId ∧ a.jobAttempt = row.jobAttempt with
    | some a => { row with adoptedCell := some a.attempt.key }
    | none => row
  else row

/-- What the adoption loop leaves of the latest attempts and of the jobs. -/
structure AdoptsJobs (s s' : Store) (adoptions : List AuxiliaryCellAdoption)
    (jobs : List AuxJobRow) : Prop where
  others : ∀ cellId, (∀ a ∈ adoptions, (a.jobId, a.jobAttempt) ∈
      jobs.map (fun job => (job.jobId, job.jobAttempt)) → a.attempt.val.cellId ≠ cellId) →
    s'.latestAttempt cellId = s.latestAttempt cellId
  adopted : ∀ job ∈ jobs, ∀ a ∈ adoptions, a.jobId = job.jobId ∧ a.jobAttempt = job.jobAttempt →
    a.adoptionKey = job.adoptionKey ∧ s'.requireAdoptedMatches a = .ok ()
  jobs : s'.auxJobs = s.auxJobs.map (bindJob adoptions jobs)

/-- The row that an adoption inserts is that of its cell. -/
theorem requireAdoptedMatches_of_latest {now : Int} {group : AuxGroupRow} {owner : Option String}
    {job : AuxJobRow} (h : s.latestAttempt a.attempt.val.cellId =
      some (adoptRow (AttemptRow.ofSpec a.attempt.val now) group owner job adopted)) :
    s.requireAdoptedMatches a = .ok () := by
  unfold requireAdoptedMatches
  simp only [h, require_eq_ok]
  exact ⟨rfl, rfl, rfl, rfl, rfl, rfl, rfl, rfl, rfl, rfl, rfl⟩

theorem bindJob_cons {job : AuxJobRow} {rest : List AuxJobRow}
    (hfind : (adoptions.find? fun a => a.jobId = job.jobId ∧ a.jobAttempt = job.jobAttempt) = some a)
    (hfresh : (job.jobId, job.jobAttempt) ∉ rest.map fun job => (job.jobId, job.jobAttempt))
    (row : AuxJobRow) :
    bindJob adoptions rest (if row.jobId = job.jobId ∧ row.jobAttempt = job.jobAttempt then
      { row with adoptedCell := some a.attempt.key } else row) =
      bindJob adoptions (job :: rest) row := by
  by_cases hkey : row.jobId = job.jobId ∧ row.jobAttempt = job.jobAttempt
  · obtain ⟨hid, hattempt⟩ := hkey
    rw [if_pos ⟨hid, hattempt⟩]
    unfold bindJob
    dsimp only
    rw [hid, hattempt, if_neg hfresh, if_pos (by simp), hfind]
  · have hne : (row.jobId, row.jobAttempt) ≠ (job.jobId, job.jobAttempt) :=
      fun heq => hkey ⟨congrArg Prod.fst heq, congrArg Prod.snd heq⟩
    rw [if_neg hkey]
    unfold bindJob
    simp only [map_cons, mem_cons, hne, false_or]

theorem adoptJobs_eq_ok {s' : Store} {group : AuxGroupRow} {plan : PlanRow} {owner : Option String}
    {jobs : List AuxJobRow} (hkeys : (adoptions.map fun a => (a.jobId, a.jobAttempt)).Nodup)
    (hcells : (adoptions.map (·.attempt.val.cellId)).Nodup)
    (hjobs : (jobs.map fun job => (job.jobId, job.jobAttempt)).Nodup)
    (h : s.adoptJobs group plan owner adoptions adopted jobs = .ok s') :
    AdoptsJobs s s' adoptions jobs := by
  induction jobs generalizing s with
  | nil =>
    simp only [adoptJobs, pure_eq_ok] at h
    subst h
    exact ⟨fun _ _ => rfl, by simp, (map_id'' (fun _ => rfl) _).symm⟩
  | cons job rest ih =>
    obtain ⟨found, mid, hfind, ⟨hkey, _⟩, hmid, h⟩ := adoptJobs_cons h
    have hrow := (materializeAttemptLocked_change hmid).1
    obtain ⟨_, hwrite⟩ := adopt_append hmid group owner job
    rw [hwrite] at h
    rw [map_cons, nodup_cons] at hjobs
    have hfound : found ∈ adoptions ∧ found.jobId = job.jobId ∧
        found.jobAttempt = job.jobAttempt :=
      ⟨mem_of_find?_eq_some hfind, by simpa using find?_some hfind⟩
    have hrest := ih hjobs.2 h
    refine ⟨fun cellId hother => ?_, fun other hmem a ha hsame => ?_, ?_⟩
    · have hcell : found.attempt.val.cellId ≠ cellId := by
        refine hother found hfound.1 ?_
        rw [hfound.2.1, hfound.2.2]
        exact mem_cons_self
      rw [hrest.others cellId fun a ha hmem => hother a ha (mem_cons_of_mem _ hmem)]
      exact latestAttempt_append_of_ne s hcell
    · rcases mem_cons.mp hmem with rfl | hmem
      · have heq : a = found := inj_on_of_nodup_map hkeys ha hfound.1
          (Prod.ext (hsame.1.trans hfound.2.1.symm) (hsame.2.trans hfound.2.2.symm))
        subst heq
        -- the later jobs are adopted by other cells
        have hothers : ∀ b ∈ adoptions, (b.jobId, b.jobAttempt) ∈
            rest.map (fun job => (job.jobId, job.jobAttempt)) →
              b.attempt.val.cellId ≠ a.attempt.val.cellId := by
          intro b hb hmem hcell
          have hsameCell : b = a := inj_on_of_nodup_map hcells hb ha hcell
          rw [hsameCell, hsame.1, hsame.2] at hmem
          exact hjobs.1 hmem
        have happended : (s.appendAttempt (adoptRow (AttemptRow.ofSpec a.attempt.val adopted)
            group owner other adopted)).latestAttempt a.attempt.val.cellId = some
              (adoptRow (AttemptRow.ofSpec a.attempt.val adopted) group owner other adopted) :=
          latestAttempt_append s hrow.latest
        have hlatest := (hrest.others _ hothers).trans happended
        exact ⟨hkey, requireAdoptedMatches_of_latest hlatest⟩
      · exact hrest.adopted other hmem a ha hsame
    · rw [hrest.jobs]
      simp only [bindAdoptedCell, appendAttempt, map_map]
      apply map_congr_left
      intro row _
      exact bindJob_cons hfind hjobs.1 row

theorem bindJob_of_mem {jobs : List AuxJobRow} {row : AuxJobRow}
    (hmem : (row.jobId, row.jobAttempt) ∈ jobs.map fun job => (job.jobId, job.jobAttempt))
    (hfind : (adoptions.find? fun a => a.jobId = row.jobId ∧ a.jobAttempt = row.jobAttempt) =
      some a) : bindJob adoptions jobs row = { row with adoptedCell := some a.attempt.key } := by
  unfold bindJob
  rw [if_pos hmem, hfind]

/-- The columns that `bindJob` keeps. -/
structure KeepsJob (f : AuxJobRow → AuxJobRow) : Prop where
  job : ∀ row, (f row).jobId = row.jobId ∧ (f row).jobAttempt = row.jobAttempt
  group : ∀ row, (f row).groupId = row.groupId ∧ (f row).groupAttempt = row.groupAttempt
  adoptionKey : ∀ row, (f row).adoptionKey = row.adoptionKey

theorem keepsJob_bindJob (adoptions : List AuxiliaryCellAdoption) (jobs : List AuxJobRow) :
    KeepsJob (bindJob adoptions jobs) := by
  refine ⟨fun row => ?_, fun row => ?_, fun row => ?_⟩ <;> unfold bindJob <;> split
  · split <;> exact ⟨rfl, rfl⟩
  · exact ⟨rfl, rfl⟩
  · split <;> exact ⟨rfl, rfl⟩
  · exact ⟨rfl, rfl⟩
  · split <;> rfl
  · rfl

theorem adoptionJobs_map {t : Store} {f : AuxJobRow → AuxJobRow} (hf : KeepsJob f)
    (h : t.auxJobs = s.auxJobs.map f) (groupId : String) (groupAttempt : Nat) :
    t.adoptionJobs groupId groupAttempt = (s.adoptionJobs groupId groupAttempt).map f := by
  unfold adoptionJobs
  rw [h, filter_map, sortedBy_map fun row => by rw [(hf.job row).1, (hf.job row).2]]
  congr 2
  apply filter_congr
  intro row _
  simp only [Function.comp_apply, (hf.group row).1, (hf.group row).2]

theorem requireAuxGroup_update {t : Store} (haux : AuxCharges s) {groupId : String} {attempt : Nat}
    {row : AuxGroupRow} (hrow : s.requireAuxGroup groupId attempt = .ok row)
    {f : AuxGroupRow → AuxGroupRow}
    (hf : ∀ g, (f g).groupId = g.groupId ∧ (f g).attempt = g.attempt)
    (hgroups : t.auxGroups = (s.updateAuxGroup groupId attempt f).auxGroups) :
    t.requireAuxGroup groupId attempt = .ok (f row) := by
  obtain ⟨hmem, rfl, rfl⟩ := requireAuxGroup_eq_ok hrow
  simp only [requireAuxGroup, bind_eq_ok] at hrow ⊢
  obtain ⟨_, htext, _⟩ := hrow
  refine ⟨(), htext, ?_⟩
  have hkeys : (t.auxGroups.map fun g => (g.groupId, g.attempt)).Nodup := by
    rw [hgroups, updateAuxGroup_keys s row.groupId row.attempt hf]
    exact haux.keys
  have hfind : t.auxGroups.find? (fun g => g.groupId = row.groupId ∧ g.attempt = row.attempt) =
      some (f row) := by
    have hnew : f row ∈ t.auxGroups := by
      rw [hgroups]
      exact mem_map.mpr ⟨row, hmem, if_pos ⟨rfl, rfl⟩⟩
    refine Rows.find?_of_nodup hkeys hnew fun g => ?_
    simp [hf row, Prod.ext_iff]
  rw [hfind]
  rfl

/-- The same adoption once more succeeds and changes nothing. -/
theorem adoptControllerAuxiliaryJobs_again {s' : Store} (haux : AuxCharges s)
    {node groupId : String} {groupAttempt : Nat} {again : Int} (hnow : 0 < again)
    (h : s.adoptControllerAuxiliaryJobs node groupId groupAttempt adoptions adopted = .ok s') :
    s'.adoptControllerAuxiliaryJobs node groupId groupAttempt adoptions again = .ok s' := by
  obtain ⟨controller, group, hadopt, ⟨hadopted, rfl⟩ | ⟨_, plan, mid, _, hmid, rfl⟩⟩ :=
    adoptControllerAuxiliaryJobs_eq_ok h
  · exact hadopted.again hadopt hnow
  · have hjobsNodup : ((s.adoptionJobs groupId groupAttempt).map
        fun job => (job.jobId, job.jobAttempt)).Nodup := hadopt.jobs ▸ hadopt.nodup
    have hloop := adoptJobs_eq_ok hadopt.nodup hadopt.cells hjobsNodup hmid
    have htables := adoptJobs_tables hmid
    have hkeeps := keepsJob_bindJob adoptions (s.adoptionJobs groupId groupAttempt)
    generalize ht : mid.updateAuxGroup groupId groupAttempt
      (fun row => { row with adoptedAtNs := some adopted }) = t
    have hjobs := adoptionJobs_map hkeeps (t := t) (by rw [← ht]; exact hloop.jobs) groupId
      groupAttempt
    have hfound := requireAuxGroup_update haux hadopt.foundGroup (t := t)
      (f := fun row => { row with adoptedAtNs := some adopted }) (fun _ => ⟨rfl, rfl⟩)
      (by rw [← ht, updateAuxGroup, htables.auxGroups (by simp)]; rfl)
    have hnode : t.requireControllerNode node = .ok controller := by
      rw [← hadopt.foundNode, ← ht]
      unfold requireControllerNode
      rw [show (mid.updateAuxGroup groupId groupAttempt _).nodes = s.nodes from
        htables.nodes (by simp)]
    -- the checks of the second call see the same rows
    have hadoptable : Adoptable t node groupId groupAttempt adoptions controller
        { group with adoptedAtNs := some adopted } :=
      { hadopt with
        foundNode := hnode
        foundGroup := hfound
        jobs := by
          rw [hjobs, map_map, ← hadopt.jobs]
          apply map_congr_left
          intro job _
          simp only [Function.comp_apply, (hkeeps.job job).1, (hkeeps.job job).2] }
    refine AdoptedAs.again ⟨rfl, ?_, ?_⟩ hadoptable hnow
    · rw [hjobs, map_map]
      refine Rows.map_eq_map_of_key hadopt.jobs fun job hjob a ha hkey => ?_
      have hid : job.jobId = a.jobId := congrArg Prod.fst hkey
      have hattempt : job.jobAttempt = a.jobAttempt := congrArg Prod.snd hkey
      have hfind : (adoptions.find? fun a => a.jobId = job.jobId ∧ a.jobAttempt = job.jobAttempt) =
          some a := by
        refine Rows.find?_of_nodup hadopt.nodup ha fun b => ?_
        simp [hid, hattempt]
      have hmem : (job.jobId, job.jobAttempt) ∈ (s.adoptionJobs groupId groupAttempt).map
          fun job => (job.jobId, job.jobAttempt) := mem_map.mpr ⟨job, hjob, rfl⟩
      have hbound := (hloop.adopted job hjob a ha ⟨hid.symm, hattempt.symm⟩).1
      rw [Function.comp_apply, bindJob_of_mem hmem hfind, hbound]
    · intro a ha
      have hmem : (a.jobId, a.jobAttempt) ∈ (s.adoptionJobs groupId groupAttempt).map
          fun job => (job.jobId, job.jobAttempt) := by
        rw [hadopt.jobs]
        exact mem_map.mpr ⟨a, ha, rfl⟩
      obtain ⟨job, hjob, hkey⟩ := mem_map.mp hmem
      obtain ⟨hid, hattempt⟩ := Prod.ext_iff.mp hkey
      rw [← ht]
      exact (hloop.adopted job hjob a ha ⟨hid.symm, hattempt.symm⟩).2

end Store

end Operator
