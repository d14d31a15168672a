import LightConeSpec.Publication.Admission

/-!
# At most one COMMIT for each update

`_consumed_updates` is what makes an update identity retry-stable: `prepare`
reports a consumed update as `duplicate_update_identity`, so no second COMMIT
is prepared for it. A successful `finalize` and a PROCESS_GROUP_FAILURE
decision consume the update; `mark_collective_failed` drops a pending COMMIT
decision without consuming it. A run commits no update twice as long as no
pending COMMIT is dropped that way.
-/

namespace Publication

open Python Machine

def committedUpdate (e : Event Coordinator Call (Except Error Answer)) : Option Digest :=
  match e.output with
  | .ok (.decided d) => if d.outcome = .commit then some d.updateSha256 else none
  | _ => none

/-- The update digests that `decide` gave a COMMIT decision, oldest first. -/
def committedUpdates (events : List (Event Coordinator Call (Except Error Answer))) :
    List Digest :=
  events.filterMap committedUpdate

/-- The call drops a COMMIT decision that still awaits its finalization: it
marks the collective failed, directly or because `validate_decision_receipts`
rejects the receipts of the decision. -/
def DropsCommit (s : Coordinator) : Call → Prop
  | .markCollectiveFailed => ∃ d, s.pendingDecision = some d ∧ d.outcome = .commit
  | .finalize d receipts =>
    s.pendingDecision = some d ∧ d.outcome = .commit ∧
      validateDecisionReceipts d receipts s.topology ≠ .ok ()
  | _ => False

/-- Where an update of the past is recorded in the present. -/
def Recorded (s : Coordinator) (u : Digest) : Prop :=
  u ∈ s.consumedUpdates ∨
    ∃ d, s.pendingDecision = some d ∧ d.outcome = .commit ∧ d.updateSha256 = u

/-- The invariant of the runs that drop no COMMIT. -/
structure CommitsRecorded (past : List (Event Coordinator Call (Except Error Answer)))
    (s : Coordinator) : Prop where
  admission : AdmissionInvariant s
  nodup : (committedUpdates past).Nodup
  recorded : ∀ u ∈ committedUpdates past, Recorded s u
  fresh : ∀ p, s.pending = some p → p.disposition = .commitReady →
    p.updateSha256 ∉ s.consumedUpdates

variable {s : Coordinator} {past : List (Event Coordinator Call (Except Error Answer))}

variable {p : PreparedPublication}

/-- Only a preparation of an update that was not consumed is ready to commit. -/
theorem Coordinator.prepared_fresh {candidate : PublicationCandidate} {votes : List RankPrepare}
    (hp : s.prepared candidate votes = .ok p) (hready : p.disposition = .commitReady) :
    p.updateSha256 ∉ s.consumedUpdates := by
  obtain ⟨q, hq, hupdate, _, _, _, hdisp⟩ := s.prepared_spec candidate votes
  rw [hp, Except.ok.injEq] at hq
  subst hq
  rw [hupdate]
  intro hconsumed
  -- the duplicate reason alone already rules out `commitReady`
  have hinvalid : s.invalidReasons candidate votes ≠ [] := by
    simp [Coordinator.invalidReasons, hconsumed]
  rw [hready] at hdisp
  unfold dispositionOf at hdisp
  split_ifs at hdisp
  · cases hdisp
  · cases hdisp

/-- A call that answers with no COMMIT extends the past by nothing to record. -/
theorem CommitsRecorded.concat_none {s' : Coordinator}
    {e : Event Coordinator Call (Except Error Answer)} (h : CommitsRecorded past s)
    (he : committedUpdate e = none) (hadmission : AdmissionInvariant s')
    (hrecorded : ∀ u ∈ committedUpdates past, Recorded s u → Recorded s' u)
    (hfresh : ∀ p, s'.pending = some p → p.disposition = .commitReady →
      p.updateSha256 ∉ s'.consumedUpdates) : CommitsRecorded (past ++ [e]) s' := by
  have hlist : committedUpdates (past ++ [e]) = committedUpdates past := by
    unfold committedUpdates
    simp [he]
  refine ⟨hadmission, ?_, ?_, hfresh⟩
  · rw [hlist]
    exact h.nodup
  · rw [hlist]
    intro u hu
    exact hrecorded u hu (h.recorded u hu)

/-- Before a decision, every committed update is consumed: no COMMIT waits
while a preparation does. -/
theorem CommitsRecorded.consumed_of_pending (h : CommitsRecorded past s) (hp : s.pending = some p) :
    ∀ u ∈ committedUpdates past, u ∈ s.consumedUpdates := by
  have hnone : s.pendingDecision = none := by
    rcases h.admission.one_pending with hn | hn
    · rw [hp] at hn
      cases hn
    · exact hn
  intro u hu
  rcases h.recorded u hu with hc | ⟨d, hd, _⟩
  · exact hc
  · rw [hnone] at hd
    cases hd

/-- A COMMIT decision is the first one for its update, and waits recorded. -/
theorem CommitsRecorded.concat_commit (h : CommitsRecorded past s) (hp : s.pending = some p)
    (hcommit : p.decision.outcome = .commit) (hadmission : AdmissionInvariant (s.decided p)) :
    CommitsRecorded (past ++ [⟨s, .decide p, .ok (.decided p.decision), s.decided p⟩])
      (s.decided p) := by
  have hready : p.disposition = .commitReady := by
    cases hd : p.disposition <;> simp [PreparedPublication.decision, hd, outcomeOf] at hcommit ⊢
  have hlist : committedUpdates (past ++ [⟨s, .decide p, .ok (.decided p.decision),
      s.decided p⟩]) = committedUpdates past ++ [p.updateSha256] := by
    unfold committedUpdates
    rw [List.filterMap_append]
    simp only [List.filterMap_cons, List.filterMap_nil, committedUpdate, if_pos hcommit]
    rfl
  have hconsumed := h.consumed_of_pending hp
  refine ⟨hadmission, ?_, ?_, ?_⟩
  · rw [hlist, List.nodup_append]
    refine ⟨h.nodup, by simp, ?_⟩
    intro u hu v hv huv
    rw [List.mem_singleton] at hv
    subst hv huv
    exact h.fresh p hp hready (hconsumed _ hu)
  · intro u hu
    rw [hlist, List.mem_append, List.mem_singleton] at hu
    rcases hu with hu | rfl
    · left
      simpa [Coordinator.decided, hcommit] using hconsumed u hu
    · right
      exact ⟨p.decision, by simp [Coordinator.decided, hcommit], hcommit, rfl⟩
  · intro q hq
    cases hq

/-- Each transition that drops no COMMIT keeps the invariant. -/
theorem Transition.commitsRecorded {s' : Coordinator} {c : Call} {out : Except Error Answer}
    (ht : Transition s c out s') (h : CommitsRecorded past s) (hkeep : ¬ DropsCommit s c) :
    CommitsRecorded (past ++ [⟨s, c, out, s'⟩]) s' := by
  have hadmission := ht.admissionInvariant h.admission
  cases ht with
  | raised e => exact h.concat_none rfl hadmission (fun _ _ hu => hu) h.fresh
  | prepared candidate votes p admits nodup eq =>
    refine h.concat_none rfl hadmission (fun _ _ hu => hu) ?_
    intro q hq hready
    rw [Option.some.injEq] at hq
    subst hq
    exact Coordinator.prepared_fresh eq hready
  | decided p pending =>
    by_cases hcommit : p.decision.outcome = .commit
    · exact h.concat_commit pending hcommit hadmission
    · refine h.concat_none (by simp [committedUpdate, hcommit]) hadmission ?_ ?_
      · intro u hu _
        have hu := h.consumed_of_pending pending u hu
        left
        by_cases hfail : p.decision.outcome = .processGroupFailure
        · simpa [Coordinator.decided, hfail] using .inr hu
        · simpa [Coordinator.decided, hfail] using hu
      · intro q hq
        cases hq
  | finalized d receipts pending accepted =>
    refine h.concat_none rfl hadmission ?_ ?_
    · -- an update that was still waiting is the one of `d`
      rintro u _ (hc | ⟨d', hd', _, rfl⟩)
      · exact .inl (Finset.mem_insert_of_mem hc)
      · rw [pending, Option.some.injEq] at hd'
        subst hd'
        exact .inl (Finset.mem_insert_self _ _)
    · intro q hq
      have hnone := h.admission.one_pending
      rw [pending, show s.pending = some q from hq] at hnone
      rcases hnone with hn | hn <;> cases hn
  | rejected d receipts e pending rejected =>
    refine h.concat_none rfl hadmission ?_ (by intro q hq; cases hq)
    rintro u _ (hc | ⟨d', hd', hcommit, rfl⟩)
    · exact .inl hc
    · rw [pending, Option.some.injEq] at hd'
      subst hd'
      have hrejected : validateDecisionReceipts d receipts s.topology ≠ .ok () := by
        intro hv
        exact rejected (validateDecisionReceipts_ok_iff.mp hv)
      exact absurd ⟨pending, hcommit, hrejected⟩ hkeep
  | restarted topology required same =>
    obtain ⟨hpending, hdecision⟩ := h.admission.restart_clears required
    refine h.concat_none rfl hadmission ?_ ?_
    · rintro u _ (hc | ⟨d', hd', _⟩)
      · exact .inl hc
      · rw [hdecision] at hd'
        cases hd'
    · intro q hq
      rw [show s.pending = some q from hq] at hpending
      cases hpending
  | markedFailed =>
    refine h.concat_none rfl hadmission ?_ (by intro q hq; cases hq)
    rintro u _ (hc | ⟨d', hd', hcommit, _⟩)
    · exact .inl hc
    · exact absurd ⟨d', hd', hcommit⟩ hkeep

/-- A run that drops no pending COMMIT gives no update two COMMIT decisions. -/
theorem commit_at_most_once (topology : TopologyReceiptSet) (calls : List Call)
    (hkeep : ∀ e ∈ history topology calls, ¬ DropsCommit e.pre e.input) :
    (committedUpdates (history topology calls)).Nodup := by
  have hinit : CommitsRecorded [] (Coordinator.init topology) :=
    ⟨admissionInvariant_init topology, by simp [committedUpdates], by simp [committedUpdates],
      by simp [Coordinator.init]⟩
  have hstep : ∀ past s c, CommitsRecorded past s → ¬ DropsCommit s c →
      CommitsRecorded (past ++ [event step s c]) (step s c).2 := by
    intro past s c h hc
    exact (step_transition s c).commitsRecorded h hc
  have hrun := @trace_induction _ _ _ step CommitsRecorded (fun s c => ¬ DropsCommit s c) hstep _ _ hinit
    calls hkeep
  exact hrun.nodup

/-- A run with one finalized COMMIT and a second attempt at the same update. -/
def finalizedRun : List Call :=
  [.prepare firstCandidate pairVotes, .decide pairPrepared,
    .finalize pairPrepared.decision (pairReceipts true), .prepare firstCandidate pairVotes,
    .decide pairPrepared]

theorem commit_at_most_once_finalized :
    (committedUpdates (history pairTopology finalizedRun)).Nodup := by
  refine commit_at_most_once pairTopology finalizedRun ?_
  intro e he
  simp only [finalizedRun, history, trace_cons, trace_nil, List.mem_cons, List.not_mem_nil,
    or_false] at he
  rcases he with rfl | rfl | rfl | rfl | rfl
  · exact id
  · exact id
  · rintro ⟨_, _, hrejected⟩
    exact hrejected (by decide)
  · exact id
  · exact id

/-- The run whose first COMMIT is dropped when the receipt of rank 1 reports a
copy that was not applied; after the restart the same update is committed again. -/
def droppedRun : List Call :=
  [.prepare firstCandidate pairVotes, .decide pairPrepared,
    .finalize pairPrepared.decision (pairReceipts false),
    .markProcessGroupRestarted pairTopology, .prepare firstCandidate pairVotes,
    .decide pairPrepared]

theorem committed_twice_after_rejected_finalize :
    ¬ ∀ (topology : TopologyReceiptSet) (calls : List Call),
      (committedUpdates (history topology calls)).Nodup := by
  intro h
  have htwice : committedUpdates (history pairTopology droppedRun) =
      [firstCandidate.update.sha256, firstCandidate.update.sha256] := by decide
  have hnodup := h pairTopology droppedRun
  rw [htwice] at hnodup
  simp at hnodup

end Publication
