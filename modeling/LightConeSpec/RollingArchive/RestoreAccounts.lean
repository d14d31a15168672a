import LightConeSpec.RollingArchive.RestoreFinal

/-!
# Runs of a restoration

Calls for members in any order, and finalizations, each of which may be killed between
any two system calls. `restore_resumes`: if no call is killed while its temporary is in
the candidate tree, every later call for a member succeeds, nothing that was there is
changed, and after all members the manifest verifies the tree.

The restriction is needed: `second_link_refused` kills a call between the link of its
target and the removal of the temporary, and the same call cannot be repeated.
-/

namespace RollingArchive

open FileSystem Program Python Machine List Files

variable {Sha : Type} [DecidableEq Sha]

inductive RestoreOp
  | restore (call : RestoreCall)
  | finalize (completedAt : Except Raised ℤ)

/-- What a call returns. -/
abbrev RestoreValue (Sha : Type) := RemoteStreamRestoreProgress Sha ⊕ ArchiveRestoreReceipt Sha

def RestoreOp.code (hash : Hashing Sha) (paths : RestorePaths) : RestoreOp → Code Sha (RestoreValue Sha)
  | .restore call => (restoreRemoteMemberFromStream hash paths call).bind fun p => .ret (.inl p)
  | .finalize completedAt =>
    (finalizeRemoteStreamRestore hash paths completedAt).bind fun r => .ret (.inr r)

/-- The disk and the running call. -/
abbrev RestoreProcesses (Sha : Type) :=
  Processes Unit RestoreOp (Effect Sha) Reply Raised (RestoreValue Sha) (Disk Sha)

abbrev RestoreEvent (Sha : Type) :=
  Event (RestoreProcesses Sha) (Move Unit RestoreOp Choice)
    (Report Unit RestoreOp (Effect Sha) Raised (RestoreValue Sha))

/-- Calls of the restoration, one at a time. -/
def restoreRun (hash : Hashing Sha) (paths : RestorePaths) (initial : Tree Sha)
    (moves : List (Move Unit RestoreOp Choice)) : List (RestoreEvent Sha) :=
  trace (schedule handle (RestoreOp.code hash paths)) ⟨⟨initial, [], [], false⟩, fun _ => none⟩ moves

section

variable (hash : Hashing Sha) (paths : RestorePaths) (authorities : RestoreAuthorities Sha)
  (manifest : FormalArchiveSha256Manifest Sha) (initial : Tree Sha)

/-- The calls of a run ask for members and are fed their bytes, and the system answers with
new inodes and identifiers. -/
structure FeedsMembers (run : List (RestoreEvent Sha)) : Prop where
  calls : ∀ ev ∈ run, ∀ call, ev.input = .start () (.restore call) → ev.pre.running () = none →
    ∃ index binding, Asks hash paths authorities ev.pre.state.files call index binding
  answers : ∀ ev ∈ run, ∀ choice op e k, ev.input = .resume () choice →
    ev.pre.running () = some (op, .vis e k) →
    RestoreAllowed paths authorities initial ev.pre.state choice e

/-- The member of a call is in place and recorded. -/
structure InArchive (fs : Tree Sha) (call : RestoreCall)
    (progress : RemoteStreamRestoreProgress Sha) : Prop where
  member : ∃ index binding, authorities.plan.files[index]? = some binding ∧
    binding.archiveRelativePath = call.archiveRelativePath ∧
    progress.isOf hash ⟨authorities, index, binding⟩ ∧
    fs.read? (paths.progress index) = some (.document (.restoreProgress progress)) ∧
    Restored hash fs binding

/-- What holds along a run. -/
structure RestoreResumes (run : List (RestoreEvent Sha)) : Prop where
  /-- What is there stays as it is, but for the temporaries of the calls. -/
  unchanged : ∀ ev ∈ run, ∀ path node, ev.pre.state.files.node? path = some node →
    path ∉ ev.pre.state.created ∨ Kept paths authorities initial path →
    ev.post.state.files.node? path = some node ∧
      ev.post.state.files.read? path = ev.pre.state.files.read? path
  /-- A call for a member succeeds, whatever happened before. -/
  succeeds : ∀ ev ∈ run, ∀ call, ev.input = .start () (.restore call) →
    ev.pre.running () = none → call.afterTargetLink = .ok () →
    ∀ answer : Disk Sha → Effect Sha → Choice,
      (∀ s e, RestoreAllowed paths authorities initial s (answer s e) e) →
      ∃ progress,
        ((restoreRemoteMemberFromStream hash paths call).exec handle answer ev.pre.state).1 =
          .ok progress ∧
        InArchive hash paths authorities
          ((restoreRemoteMemberFromStream hash paths call).exec handle answer ev.pre.state).2.files
          call progress
  /-- It raises only what its `after_target_link` raises. -/
  raised : ∀ ev ∈ run, ∀ call e, ev.output = .raised () (.restore call) e →
    call.afterTargetLink = .error e
  /-- A member that was restored stays. -/
  returned : ∀ past ev later, run = past ++ ev :: later → ∀ call progress,
    ev.output = .returned () (.restore call) (.inl progress) →
    InArchive hash paths authorities ev.post.state.files call progress ∧
      ∀ ev' ∈ later, InArchive hash paths authorities ev'.post.state.files call progress
  /-- After all members, finalization succeeds. -/
  finalizes : ∀ past ev later, run = past ++ ev :: later → ∀ completedAt now,
    ev.input = .start () (.finalize completedAt) → ev.pre.running () = none →
    completedAt = .ok now → 0 < now →
    (∀ binding ∈ authorities.plan.files, ∃ ev' ∈ past, ∃ call progress,
      ev'.output = .returned () (.restore call) (.inl progress) ∧
      call.archiveRelativePath = binding.archiveRelativePath) →
    ∀ answer : Disk Sha → Effect Sha → Choice,
      (∀ s e, RestoreAllowed paths authorities initial s (answer s e) e) →
      ∃ receipt,
        ((finalizeRemoteStreamRestore hash paths completedAt).exec handle answer ev.pre.state).1 =
          .ok receipt ∧
        loadFormalArchiveSha256Manifest hash
          ((finalizeRemoteStreamRestore hash paths completedAt).exec handle answer
            ev.pre.state).2.files authorities.plan.archiveCandidateRoot = .ok manifest
  /-- The manifest verifies the tree that a finalization leaves. -/
  sealed : ∀ ev ∈ run, ∀ completedAt receipt,
    ev.output = .returned () (.finalize completedAt) (.inr receipt) →
    loadFormalArchiveSha256Manifest hash ev.post.state.files authorities.plan.archiveCandidateRoot =
      .ok manifest

/-! ## The contract of a call -/

/-- A call that can start. -/
inductive Admits (s : Disk Sha) : RestoreOp → Prop
  | restore {call : RestoreCall} {index : ℕ} {binding : EvictionFileBinding Sha}
      (asks : Asks hash paths authorities s.files call index binding) : Admits s (.restore call)
  | finalize (completedAt : Except Raised ℤ) : Admits s (.finalize completedAt)

/-- What a call that returns leaves. -/
inductive Leaves (t : Disk Sha) : RestoreOp → RestoreValue Sha → Prop
  | restore {call : RestoreCall} {progress : RemoteStreamRestoreProgress Sha}
      (clean : Clean authorities initial t.files)
      (inArchive : InArchive hash paths authorities t.files call progress) :
      Leaves t (.restore call) (.inl progress)
  | finalize {completedAt : Except Raised ℤ} {receipt : ArchiveRestoreReceipt Sha}
      (finalized : Finalized hash paths authorities initial receipt t) :
      Leaves t (.finalize completedAt) (.inr receipt)

/-- What a call that raises leaves. -/
inductive Aborts (t : Disk Sha) : RestoreOp → Raised → Prop
  | restore {call : RestoreCall} {e : Raised} (clean : Clean authorities initial t.files)
      (after : call.afterTargetLink = .error e) : Aborts t (.restore call) e
  | finalize {completedAt : Except Raised ℤ} {e : Raised}
      (clean : Clean authorities initial t.files) : Aborts t (.finalize completedAt) e

end

variable {hash : Hashing Sha} {paths : RestorePaths} {authorities : RestoreAuthorities Sha}
  {manifest : FormalArchiveSha256Manifest Sha} {before initial fs fs' : Tree Sha} {s t : Disk Sha}
  {path : Path} {call : RestoreCall} {progress : RemoteStreamRestoreProgress Sha}

theorem Returns.inArchive {index : ℕ} {binding : EvictionFileBinding Sha}
    (h : Returns hash paths authorities initial index binding progress t)
    (hasks : Asks hash paths authorities fs call index binding) :
    InArchive hash paths authorities t.files call progress :=
  ⟨index, binding, hasks.file, hasks.member.symm, h.isOf, h.recorded, h.restored⟩

/-- The calls of a restoration keep it. -/
theorem cooperates_restore (h : EvictedCandidate hash paths authorities manifest before initial) :
    Cooperates handle (RestoreOp.code hash paths)
      (fun (_ : Unit) (_ : RestoreOp) => restoreContract hash paths authorities initial)
      (fun s => Restoring hash paths authorities initial s.files)
      (fun _ s => Clean authorities initial s.files)
      (fun _ op s => Admits hash paths authorities s op)
      (fun _ op value t => Leaves hash paths authorities initial t op value)
      (fun _ op e t => Aborts authorities initial t op e) where
  keeps _ _ _ _ _ hs hsafe := restoring_handle h hs hsafe
  relied p _ q _ _ _ _ hne _ _ := absurd (Subsingleton.elim q p) hne
  stays_ready p _ q _ _ _ hne _ _ _ := absurd (Subsingleton.elim q p) hne
  verified := by
    intro p op s hs hclean hadmits
    cases hadmits with
    | restore asks =>
      refine wp_bind (wp_mono (wp_restore h hs hclean asks) ?_ ?_)
      · exact fun progress t ht => wp_alone_ret (.restore ht.clean (ht.inArchive asks))
      · exact fun e t ht => .restore ht.2 ht.1
    | finalize completedAt =>
      refine wp_bind (wp_mono (wp_finalize h hs hclean completedAt) ?_ ?_)
      · exact fun receipt t ht => wp_alone_ret (.finalize ht)
      · exact fun e t ht => .finalize ht.1
  returned := by
    intro p op value s _ hleaves
    cases hleaves with
    | restore clean inArchive => exact clean
    | finalize finalized => exact finalized.clean
  raised := by
    intro p op e s _ haborts
    cases haborts with
    | restore clean after => exact clean
    | finalize clean => exact clean

/-- The state of a run, with what is promised of the call that is running. -/
abbrev Resumable (hash : Hashing Sha) (paths : RestorePaths) (authorities : RestoreAuthorities Sha)
    (initial : Tree Sha) : RestoreProcesses Sha → Prop :=
  Coherent handle (fun (_ : Unit) (_ : RestoreOp) => restoreContract hash paths authorities initial)
    (fun s => Restoring hash paths authorities initial s.files)
    (fun _ s => Clean authorities initial s.files)
    (fun _ op value t => Leaves hash paths authorities initial t op value)
    (fun _ op e t => Aborts authorities initial t op e)

/-- The condition on the moves of a run. -/
abbrev Proceeds (hash : Hashing Sha) (paths : RestorePaths) (authorities : RestoreAuthorities Sha)
    (initial : Tree Sha) : RestoreProcesses Sha → Move Unit RestoreOp Choice → Prop :=
  Admissible (fun (_ : Unit) (_ : RestoreOp) => restoreContract hash paths authorities initial)
    (fun _ s => Clean authorities initial s.files)
    (fun _ op s => Admits hash paths authorities s op)

/-! ## What stays -/

omit [DecidableEq Sha] in
/-- A safe effect does not change what is there. -/
theorem unchanged_handle {choice : Choice} {e : Effect Sha} {node : Node}
    (hsafe : RestoreSafe hash paths authorities initial s choice e)
    (hnode : s.files.node? path = some node)
    (hpath : path ∉ s.created ∨ Kept paths authorities initial path) :
    (handle s choice e).2.files.node? path = some node ∧
      (handle s choice e).2.files.read? path = s.files.read? path := by
  have hne_of_vacant : ∀ p, s.files.node? p = none → path ≠ p := by
    rintro p hp rfl
    rw [hp] at hnode
    cases hnode
  have hne_of_temporary : ∀ p, ¬ Kept paths authorities initial p → p ∈ s.created → path ≠ p := by
    rintro p hkept hcreated rfl
    exact hpath.elim (fun hnot => hnot hcreated) hkept
  let P : Tree Sha → Prop := fun fs => fs.node? path = some node ∧ fs.read? path = s.files.read? path
  have hs : P s.files := ⟨hnode, rfl⟩
  cases e with
  | acquire => exact hs
  | observe => exact hs
  | uuid4 => exact hs
  | fsync p => exact hs
  | schedulerStop reason => exact hs
  | mkdir p =>
    refine files_attempt (P := P) hs (fun _ => rfl) fun fs hfs => ?_
    have hne := hne_of_vacant p (mkdir_eq_ok.mp hfs).1
    exact ⟨by rw [node?_mkdir hfs, if_neg hne, hnode], read?_mkdir hfs path⟩
  | create p =>
    refine files_attempt (P := P) hs (fun _ => rfl) fun fs hfs => ?_
    have hne := hne_of_vacant p (create_eq_ok.mp hfs).1
    exact ⟨by rw [node?_create hfs, if_neg hne, hnode],
      by rw [read?_create hfs, if_neg hne]⟩
  | write p body =>
    rcases hsafe with ⟨hkept, hcreated, inode, howns⟩
    refine files_attempt (P := P) hs (fun _ => rfl) fun fs hfs => ?_
    have hne := hne_of_temporary p hkept hcreated
    exact ⟨by rw [node?_write hfs, hnode], by rw [read?_write howns hfs, if_neg hne]⟩
  | unlink p =>
    refine files_attempt (P := P) hs (fun _ => rfl) fun fs hfs => ?_
    have hne := hne_of_temporary p hsafe.1 hsafe.2
    exact ⟨by rw [node?_unlink hfs, if_neg hne, hnode],
      by rw [read?_unlink hfs, if_neg hne]⟩
  | link source p =>
    refine files_attempt (P := P) hs (fun _ => rfl) fun fs hfs => ?_
    rcases link_eq_ok.mp hfs with ⟨_, _, hvacant, _, _⟩
    have hne := hne_of_vacant p hvacant
    exact ⟨by rw [node?_link hfs, if_neg hne, hnode],
      by rw [read?_link hfs, if_neg hne]⟩

omit [DecidableEq Sha] in
/-- A member that is in the archive stays there. -/
theorem InArchive.handle {choice : Choice} {e : Effect Sha}
    (h : InArchive hash paths authorities s.files call progress)
    (hsafe : RestoreSafe hash paths authorities initial s choice e) :
    InArchive hash paths authorities (handle s choice e).2.files call progress := by
  rcases h.member with ⟨index, binding, hindex, hmember, hof, hread, hrestored⟩
  refine ⟨index, binding, hindex, hmember, hof, ?_, ?_⟩
  · rcases lexists_iff.mp (lexists_of_read? hread) with ⟨node, hnode⟩
    rw [(unchanged_handle hsafe hnode (.inr (.inr (.inr (.inl
      ⟨index, (List.getElem?_eq_some_iff.mp hindex).1, rfl⟩))))).2]
    exact hread
  · rcases lexists_iff.mp hrestored.lexists with ⟨node, hnode⟩
    have hsame := unchanged_handle hsafe hnode (.inr (.inr (.inl
      (mem_map.mpr ⟨binding, mem_of_getElem? hindex, rfl⟩))))
    exact (describe_congr (hsame.1.trans hnode.symm) hsame.2).trans hrestored

/-! ## Runs -/

omit [DecidableEq Sha] in
/-- Before the first call nothing has changed. -/
theorem EvictedCandidate.clean [DecidableEq Sha]
    (h : EvictedCandidate hash paths authorities manifest before initial) :
    Clean authorities initial initial := by
  refine ⟨fun p node _ hnode => .inl (lexists_iff.mpr ⟨node, hnode⟩), ?_⟩
  intro binding hbinding inode hnode
  rw [h.evicted binding hbinding] at hnode
  cases hnode

theorem EvictedCandidate.restoring
    (h : EvictedCandidate hash paths authorities manifest before initial) :
    Restoring hash paths authorities initial initial where
  rooted := h.rooted
  base := .refl initial
  targets binding hbinding := .inl (h.evicted binding hbinding)
  progress index _ _ := .inl (h.noProgress index)
  receipt := .inl h.noReceipt
  directories := h.directories

variable {w : RestoreProcesses Sha} {moves : List (Move Unit RestoreOp Choice)}
  {ev : RestoreEvent Sha}

section

variable (h : EvictedCandidate hash paths authorities manifest before initial)

include h

/-- A member in the archive is there in every later state of a run. -/
theorem inArchive_later (hw : Resumable hash paths authorities initial w)
    (hmember : InArchive hash paths authorities w.state.files call progress)
    (hmoves : ∀ ev ∈ trace (schedule handle (RestoreOp.code hash paths)) w moves,
      Proceeds hash paths authorities initial ev.pre ev.input) :
    ∀ ev ∈ trace (schedule handle (RestoreOp.code hash paths)) w moves,
      InArchive hash paths authorities ev.pre.state.files call progress ∧
        InArchive hash paths authorities ev.post.state.files call progress := by
  have hcooperates := cooperates_restore h
  have hstep : ∀ w move, (Resumable hash paths authorities initial w ∧
      InArchive hash paths authorities w.state.files call progress) →
      Proceeds hash paths authorities initial w move →
      Resumable hash paths authorities initial (schedule handle (RestoreOp.code hash paths) w move).2 ∧
        InArchive hash paths authorities
          (schedule handle (RestoreOp.code hash paths) w move).2.state.files call progress := by
    rintro w move ⟨hw, hmember⟩ hmove
    have hnext := coherent_schedule hcooperates hw move hmove
    refine ⟨hnext.1, ?_⟩
    rcases state_schedule w move with ⟨hstate, -⟩ | ⟨p, op, e, ω, rfl, hout, hstate⟩
    · rw [hstate]
      exact hmember
    · have hpromised := hnext.2
      rw [hout] at hpromised
      rw [hstate]
      exact hmember.handle hpromised
  intro ev hev
  have hinv := (trace_invariant hstep ⟨hw, hmember⟩ hmoves).1 ev hev
  exact ⟨hinv.1.2, hinv.2.2⟩

/-- No move changes what is there. -/
theorem unchanged_schedule {move : Move Unit RestoreOp Choice} {node : Node}
    (hw : Resumable hash paths authorities initial w)
    (hmove : Proceeds hash paths authorities initial w move)
    (hnode : w.state.files.node? path = some node)
    (hpath : path ∉ w.state.created ∨ Kept paths authorities initial path) :
    (schedule handle (RestoreOp.code hash paths) w move).2.state.files.node? path = some node ∧
      (schedule handle (RestoreOp.code hash paths) w move).2.state.files.read? path =
        w.state.files.read? path := by
  have hpromised := (coherent_schedule (cooperates_restore h) hw move hmove).2
  rcases state_schedule w move with ⟨hstate, -⟩ | ⟨p, op, e, ω, rfl, hout, hstate⟩
  · rw [hstate]
    exact ⟨hnode, rfl⟩
  · rw [hout] at hpromised
    rw [hstate]
    exact unchanged_handle hpromised hnode hpath

/-- The record of every member that has been returned is there. -/
theorem allRecorded_of_returned
    (hall : ∀ binding ∈ authorities.plan.files, ∃ call progress,
      call.archiveRelativePath = binding.archiveRelativePath ∧
      InArchive hash paths authorities fs call progress) : AllRecorded paths authorities fs := by
  intro index binding hindex
  rcases hall binding (mem_of_getElem? hindex) with ⟨call, progress, hpath, ⟨hmember⟩⟩
  rcases hmember with ⟨index', binding', hindex', hsame, -, hread, -⟩
  have hfound := findMember_eq_ok h.planPaths.relatives hindex
  have hfound' := findMember_eq_ok h.planPaths.relatives hindex'
  rw [hsame, hpath, hfound] at hfound'
  cases hfound'
  exact lexists_of_read? hread

end

/-- In every run in which no call is killed while the candidate tree holds its temporary,
or its target with a second link, the restoration can be resumed. -/
theorem restore_resumes (hash : Hashing Sha) (paths : RestorePaths)
    (authorities : RestoreAuthorities Sha) (manifest : FormalArchiveSha256Manifest Sha)
    (before initial : Tree Sha) (moves : List (Move Unit RestoreOp Choice))
    (h : EvictedCandidate hash paths authorities manifest before initial)
    (hfeeds : FeedsMembers hash paths authorities initial (restoreRun hash paths initial moves))
    (hkills : ∀ ev ∈ restoreRun hash paths initial moves, ev.input = .kill () →
      Clean authorities initial ev.pre.state.files) :
    RestoreResumes hash paths authorities manifest initial (restoreRun hash paths initial moves) := by
  have hcooperates := cooperates_restore h
  have hw : Resumable hash paths authorities initial ⟨⟨initial, [], [], false⟩, fun _ => none⟩ :=
    ⟨h.restoring, fun _ _ => h.clean, fun _ _ _ hrunning => nomatch hrunning⟩
  have hmoves : ∀ ev ∈ restoreRun hash paths initial moves,
      Proceeds hash paths authorities initial ev.pre ev.input := by
    intro ev hev
    cases hinput : ev.input with
    | start p op =>
        intro hidle
        cases op with
        | restore call =>
            rcases hfeeds.calls ev hev call hinput hidle with ⟨index, binding, hasks⟩
            exact .restore hasks
        | finalize completedAt => exact .finalize completedAt
    | resume p choice => exact fun op e k hrunning => hfeeds.answers ev hev choice op e k hinput hrunning
    | kill p => exact hkills ev hev hinput
  have hrun := run_cooperates hcooperates hw hmoves
  -- a member that was returned is in the archive then and later
  have hreturned : ∀ past ev later, restoreRun hash paths initial moves = past ++ ev :: later →
      ∀ call progress, ev.output = .returned () (.restore call) (.inl progress) →
      InArchive hash paths authorities ev.post.state.files call progress ∧ ∀ ev' ∈ later,
        InArchive hash paths authorities ev'.pre.state.files call progress ∧
          InArchive hash paths authorities ev'.post.state.files call progress := by
    intro past ev later hsplit call progress hout
    have hev : ev ∈ restoreRun hash paths initial moves := by
      rw [hsplit]
      exact List.mem_append_right _ List.mem_cons_self
    have hpromised := (hrun ev hev).2.2
    rw [hout] at hpromised
    cases hpromised.returned with
    | restore clean inArchive =>
        have hpost : InArchive hash paths authorities ev.post.state.files call progress := by
          rw [eq_event_of_mem_trace hev] at hout ⊢
          change InArchive hash paths authorities (schedule handle _ ev.pre ev.input).2.state.files _ _
          rw [state_schedule_of_returned hout]
          exact inArchive
        refine ⟨hpost, ?_⟩
        rcases trace_rest hsplit with ⟨rest, rfl⟩
        refine inArchive_later h (hrun ev hev).2.1 hpost fun ev' hev' => hmoves ev' ?_
        rw [hsplit]
        exact List.mem_append_right _ (List.mem_cons_of_mem _ hev')
  refine ⟨?_, ?_, ?_, ?_, ?_, ?_⟩
  · intro ev hev path node hnode hpath
    rw [eq_event_of_mem_trace hev]
    exact unchanged_schedule h (hrun ev hev).1 (hmoves ev hev) hnode hpath
  · intro ev hev call hinput hidle hafter answer hanswer
    rcases hfeeds.calls ev hev call hinput hidle with ⟨index, binding, hasks⟩
    have hpre := (hrun ev hev).1
    rcases exec_of_wp hanswer (wp_restore h hpre.invariant (hpre.idle () hidle) hasks) with
      ⟨progress, hok, hreturns⟩ | ⟨e, -, hraised, -⟩
    · exact ⟨progress, hok, hreturns.inArchive hasks⟩
    · rw [hafter] at hraised
      cases hraised
  · intro ev hev call e hout
    have hpromised := (hrun ev hev).2.2
    rw [hout] at hpromised
    cases hpromised.raised with
    | restore clean after => exact after
  · intro past ev later hsplit call progress hout
    rcases hreturned past ev later hsplit call progress hout with ⟨hpost, hlater⟩
    exact ⟨hpost, fun ev' hev' => (hlater ev' hev').2⟩
  · intro past ev later hsplit completedAt now hinput hidle hclock hpos hall answer hanswer
    have hev : ev ∈ restoreRun hash paths initial moves := by
      rw [hsplit]
      exact List.mem_append_right _ List.mem_cons_self
    have hpre := (hrun ev hev).1
    have hrecorded : AllRecorded paths authorities ev.pre.state.files := by
      refine allRecorded_of_returned h fun binding hbinding => ?_
      rcases hall binding hbinding with ⟨ev', hev', call, progress, hout, hpath⟩
      rcases List.append_of_mem hev' with ⟨first, last, rfl⟩
      have hsplit' : restoreRun hash paths initial moves = first ++ ev' :: (last ++ ev :: later) := by
        rw [hsplit, List.append_assoc, List.cons_append]
      refine ⟨call, progress, hpath, ?_⟩
      exact ((hreturned first ev' _ hsplit' call progress hout).2 ev
        (List.mem_append_right _ List.mem_cons_self)).1
    have hkeeps : ∀ (s : Disk Sha) choice e, Restoring hash paths authorities initial s.files →
        RestoreSafe hash paths authorities initial s choice e →
        Restoring hash paths authorities initial (handle s choice e).2.files :=
      fun s choice e hs hsafe => restoring_handle h hs hsafe
    have hfinalize := wp_alone_invariant hkeeps hpre.invariant (wp_finalize h hpre.invariant (hpre.idle () hidle) completedAt)
    rcases exec_of_wp hanswer hfinalize with ⟨receipt, hok, hfinal, hs⟩ | ⟨e, -, ⟨-, hfails⟩, -⟩
    · exact ⟨receipt, hok, loads_manifest h hs hfinal.clean hfinal.restored⟩
    · exact absurd ⟨hrecorded, now, hclock, hpos⟩ hfails
  · intro ev hev completedAt receipt hout
    have hpromised := (hrun ev hev).2.2
    rw [hout] at hpromised
    cases hpromised.returned with
    | finalize finalized =>
        rw [eq_event_of_mem_trace hev] at hout ⊢
        change loadFormalArchiveSha256Manifest hash (schedule handle _ ev.pre ev.input).2.state.files _ = _
        rw [state_schedule_of_returned hout]
        exact loads_manifest h (hrun ev hev).1.invariant finalized.clean finalized.restored

/-! ## Two members -/

section

/-- Digests that tell the documents of the runs below apart. -/
def memberHash : Hashing ℕ where
  bytes data := data.length
  semantic
    | .plan _ => 11
    | .evictionReceipt _ => 12
    | .archiveResult _ => 13
    | .manifest _ => 14
    | _ => 15
  envelope _ := 20
  size _ := 1

def memberPaths : RestorePaths where
  plan := ["plan"]
  evictionReceipt := ["eviction"]
  remoteArchiveResult := ["result"]
  progressRoot := ["progress"]
  receipt := ["receipt"]
  lock := ["lock"]
  finalizeLock := ["finish"]

def memberManifest : FormalArchiveSha256Manifest ℕ := ⟨[⟨["a"], 2, 2⟩, ⟨["b"], 2, 2⟩]⟩

def memberAuthorities : RestoreAuthorities ℕ where
  plan := {
    runId := "r1"
    runRoot := ["run"]
    archiveId := "a1"
    archiveCandidateRoot := ["run", "data"]
    archiveCandidateRootInode := ⟨1, 3⟩
    archiveManifestPath := ["run", "data", archiveManifestName]
    archiveManifestSha256 := 14
    remoteArchiveResultSha256 := 13
    archiveAuthorizationSha256 := 33
    retainedDependencyManifestPath := ["retained"]
    files := [⟨["run", "data", "a"], ["a"], ⟨1, 5⟩, 2, 2⟩, ⟨["run", "data", "b"], ["b"], ⟨1, 9⟩, 2, 2⟩]
    plannedBytes := 4
    createdAtNs := 1 }
  eviction := {
    planSha256 := 11
    archiveId := "a1"
    archiveAuthorizationSha256 := 33
    status := .complete
    deletedFiles := [⟨["run", "data", "a"], ["a"], 2, 2, 10⟩, ⟨["run", "data", "b"], ["b"], 2, 2, 10⟩]
    deletedBytes := 4
    failureCode := none
    failurePath := none
    missingUnrecordedFiles := []
    schedulerStopRequested := false
    schedulerStopSucceeded := false
    finishedAtNs := 20 }
  result := ⟨"a1", ["run", "data"], 14, 2, 4⟩

/-- The candidate tree with its manifest, and the documents of its eviction. -/
def sealedTree : Tree ℕ where
  names := (Dict.empty.set [] (.directory ⟨1, 1⟩)).set ["run"] (.directory ⟨1, 2⟩)
    |>.set ["run", "data"] (.directory ⟨1, 3⟩)
    |>.set ["run", "data", archiveManifestName] (.file ⟨1, 4⟩)
    |>.set ["run", "data", "a"] (.file ⟨1, 5⟩)
    |>.set ["run", "data", "b"] (.file ⟨1, 9⟩)
    |>.set ["plan"] (.file ⟨1, 6⟩)
    |>.set ["eviction"] (.file ⟨1, 7⟩)
    |>.set ["result"] (.file ⟨1, 8⟩)
  bodies inode :=
    match inode.number with
    | 4 => .document (.manifest memberManifest)
    | 6 => .document (.plan memberAuthorities.plan)
    | 7 => .document (.evictionReceipt memberAuthorities.eviction)
    | 8 => .document (.archiveResult memberAuthorities.result)
    | _ => .bytes [1, 2]

def evictedTree : Tree ℕ :=
  ⟨(sealedTree.names.erase ["run", "data", "a"]).erase ["run", "data", "b"], sealedTree.bodies⟩

/-- A call that is fed the bytes of the first or the second member. -/
def memberCall (index : ℕ) : RestoreCall where
  archiveRelativePath := if index = 0 then ["a"] else ["b"]
  progressOutput := memberPaths.progress index
  stream := [.ok (some [1, 2])]
  minimumFreeBytes := 0
  freeBytes _ := .ok 100
  afterTargetLink := .ok ()
  restoredAt := .ok 30

/-- A call that performs this many effects, with new inodes from this one. -/
def opMoves (op : RestoreOp) (inode effects : ℕ) : List (Move Unit RestoreOp Choice) :=
  .start () op :: (List.range effects).map fun k => .resume () ⟨⟨1, inode + k⟩, "u"⟩

/-- The first member is restored. The call for the second one is killed after this many
effects and repeated, and the restoration is finalized. -/
def killedRestore (effects : ℕ) : List (Move Unit RestoreOp Choice) :=
  opMoves (.restore (memberCall 0)) 50 35 ++ opMoves (.restore (memberCall 1)) 100 effects ++
    .kill () :: (opMoves (.restore (memberCall 1)) 200 25 ++ opMoves (.finalize (.ok 40)) 300 25)

/-- The name of a path is not that of a temporary. -/
def isPlain (path : Path) : Bool :=
  (fileName path).toList.getLast? ≠ some 'l' ∧ (fileName path).toList.getLast? ≠ some 'e'

omit [DecidableEq Sha] in
theorem isPlain_of_isTemporary {uuid : String} (h : IsTemporary uuid path) : isPlain path = false := by
  rcases h with ⟨destination, rfl | rfl⟩
  · unfold isPlain partialPath withName fileName
    rw [getLast?_concat, Option.getD_some, String.toList_append,
      getLast?_append_of_ne_nil _ (by decide)]
    decide
  · unfold isPlain rehydratePath withName fileName
    rw [getLast?_concat, Option.getD_some, String.toList_append,
      getLast?_append_of_ne_nil _ (by decide)]
    decide

/-- The outputs of the restoration have plain names. -/
theorem isPlain_of_kept (h : Kept memberPaths memberAuthorities evictedTree path ∨
    OnTheWay memberPaths path) : isPlain path = true := by
  rcases h with ((rfl | rfl | rfl | ⟨-, hexists⟩) | hplanned | ⟨index, -, rfl⟩ | rfl) | hway | hway
  · decide
  · decide
  · decide
  · rcases lexists_iff.mp hexists with ⟨node, hnode⟩
    have hall : ∀ entry ∈ evictedTree.names.entries, isPlain entry.1 = true := by decide +kernel
    exact hall (path, node) (Dict.mem_entries_iff.mpr hnode)
  · have hall : ∀ p ∈ memberAuthorities.plan.files.map (·.absolutePath), isPlain p = true := by
      decide
    exact hall path hplanned
  · unfold isPlain RestorePaths.progress fileName progressName
    rw [getLast?_concat, Option.getD_some, String.toList_append,
      getLast?_append_of_ne_nil _ (by decide)]
    decide
  · decide
  · have hall : ∀ p ∈ memberPaths.progressRoot.inits, isPlain p = true := by decide
    exact hall path ((mem_inits _ _).mpr hway)
  · have hall : ∀ p ∈ memberPaths.receipt.dropLast.inits, isPlain p = true := by decide
    exact hall path ((mem_inits _ _).mpr hway)

/-- A call starts with enough space, and every answer is a new inode or identifier. -/
def feedsPass (ev : RestoreEvent ℕ) : Bool :=
  match ev.input, ev.pre.running () with
  | .start _ (.restore call), none =>
    match streamRestoreHighWaters memberHash ev.pre.state.files memberAuthorities.plan with
    | .ok rows => (checkCapacity call 0 rows).isOk
    | .error _ => true
  | .resume _ choice, some (_, .vis (.mkdir _) _) => ev.pre.state.files.unused choice.inode
  | .resume _ choice, some (_, .vis (.create _) _) => ev.pre.state.files.unused choice.inode
  | .resume _ _, some (_, .vis .uuid4 _) =>
    ev.pre.state.files.names.entries.all fun entry => isPlain entry.1
  | _, _ => true

/-- A run that passes the check feeds every call the bytes of its member. -/
theorem feedsMembers_of_pass {effects : ℕ}
    (h : (restoreRun memberHash memberPaths evictedTree (killedRestore effects)).all feedsPass = true) :
    FeedsMembers memberHash memberPaths memberAuthorities evictedTree
      (restoreRun memberHash memberPaths evictedTree (killedRestore effects)) := by
  have hpass := all_eq_true.mp h
  constructor
  · intro ev hev call hinput hidle
    -- the run starts calls of the two members only
    have hcall : ∃ index < 2, call = memberCall index := by
      have hmem := input_mem_of_mem_trace hev
      rw [hinput] at hmem
      simp only [killedRestore, opMoves, mem_append, mem_cons, mem_map, Move.start.injEq,
        RestoreOp.restore.injEq, reduceCtorEq, and_false, exists_false, or_false, false_or,
        true_and] at hmem
      rcases hmem with (rfl | rfl) | rfl
      · exact ⟨0, Nat.two_pos, rfl⟩
      · exact ⟨1, Nat.one_lt_two, rfl⟩
      · exact ⟨1, Nat.one_lt_two, rfl⟩
    rcases hcall with ⟨index, hindex, rfl⟩
    have hcapacity : ∀ rows, streamRestoreHighWaters memberHash ev.pre.state.files
        memberAuthorities.plan = .ok rows → checkCapacity (memberCall index) 0 rows = .ok () := by
      intro rows hrows
      have hok := hpass ev hev
      unfold feedsPass at hok
      rw [hinput, hidle] at hok
      dsimp only at hok
      rw [hrows] at hok
      dsimp only at hok
      cases hcheck : checkCapacity (memberCall index) 0 rows with
      | ok _ => rfl
      | error e =>
        rw [hcheck] at hok
        cases hok
    obtain rfl | rfl : index = 0 ∨ index = 1 := by omega
    · exact ⟨0, _, rfl, rfl, rfl, ⟨[[1, 2]], rfl, by decide, rfl, rfl⟩, le_refl _, hcapacity,
        30, rfl, by decide⟩
    · exact ⟨1, _, rfl, rfl, rfl, ⟨[[1, 2]], rfl, by decide, rfl, rfl⟩, le_refl _, hcapacity,
        30, rfl, by decide⟩
  · intro ev hev choice op e k hinput hrunning
    have hok := hpass ev hev
    unfold feedsPass at hok
    rw [hinput, hrunning] at hok
    cases e with
    | mkdir p => exact hok
    | create p => exact hok
    | uuid4 =>
      -- no name of the run looks like a temporary
      intro path htemporary
      have hplain := isPlain_of_isTemporary htemporary
      have hnot : ¬ (Kept memberPaths memberAuthorities evictedTree path ∨
          OnTheWay memberPaths path) := by
        intro hor
        rw [isPlain_of_kept hor] at hplain
        cases hplain
      refine ⟨?_, not_or.mp hnot⟩
      rw [lexists_eq_false]
      cases hnode : ev.pre.state.files.node? path with
      | none => rfl
      | some node =>
        have hentry := all_eq_true.mp hok (path, node) (Dict.mem_entries_iff.mpr hnode)
        rw [hplain] at hentry
        cases hentry
    | _ => trivial

/-- The tree after the eviction of its member. -/
theorem evictedCandidate_member :
    EvictedCandidate memberHash memberPaths memberAuthorities memberManifest sealedTree evictedTree where
  rootedBefore := rooted_of_entries (by decide +kernel)
  rooted := rooted_of_entries (by decide +kernel)
  sealed := by decide +kernel
  planned := ⟨⟨fun _ => false, fun _ => .ok (), fun _ => .ok (some false)⟩, by decide +kernel⟩
  kept := by
    intro path _ hpath
    have hnode : evictedTree.node? path = sealedTree.node? path := by
      unfold evictedTree Files.node?
      rw [Dict.get?_erase, if_neg ?_, Dict.get?_erase, if_neg ?_]
      · rintro rfl
        exact hpath (by decide)
      · rintro rfl
        exact hpath (by decide)
    exact ⟨hnode, read?_congr hnode fun _ _ => rfl⟩
  evicted := by decide +kernel
  identity := by decide +kernel
  opens := by decide +kernel
  lock := by decide +kernel
  noProgress := by
    intro index
    cases hnode : evictedTree.node? (memberPaths.progress index) with
    | none => rfl
    | some node =>
      have hrooted : evictedTree.Rooted := rooted_of_entries (by decide +kernel)
      have hparent := hrooted _ _ hnode (by unfold RestorePaths.progress; simp)
      rw [RestorePaths.progress, dropLast_concat] at hparent
      exact absurd hparent (by decide +kernel)
  noReceipt := by decide +kernel
  directories := by
    rintro path (hway | hway)
    · have hall : ∀ p ∈ memberPaths.progressRoot.inits,
          evictedTree.node? p = none ∨ evictedTree.isDirectory p = true := by decide +kernel
      exact hall path ((mem_inits _ _).mpr hway)
    · have hall : ∀ p ∈ memberPaths.receipt.dropLast.inits,
          evictedTree.node? p = none ∨ evictedTree.isDirectory p = true := by decide +kernel
      exact hall path ((mem_inits _ _).mpr hway)
  apart := by
    refine ⟨by decide, fun index hprefix => ?_⟩
    have hlength := hprefix.length_le
    rw [RestorePaths.progress, length_append, length_singleton] at hlength
    exact absurd hlength (by decide)

/-- The candidate tree of a state holds nothing but what it held and the members. -/
def isClean (fs : Tree ℕ) : Bool :=
  (fs.names.entries.all fun entry => !(isRelativeTo entry.1 ["run", "data"]) ||
      evictedTree.lexists entry.1 ||
      memberAuthorities.plan.files.any fun binding => binding.absolutePath = entry.1) &&
    memberAuthorities.plan.files.all fun binding =>
      (fs.inode? binding.absolutePath).all fun inode => fs.links inode = 1

theorem clean_of_isClean {fs : Tree ℕ} (h : isClean fs = true) :
    Clean memberAuthorities evictedTree fs := by
  unfold isClean at h
  rw [Bool.and_eq_true, all_eq_true] at h
  rcases h with ⟨hnames, hlinks⟩
  constructor
  · intro path node hbelow hnode
    have hentry := hnames (path, node) (Dict.mem_entries_iff.mpr hnode)
    have hrelative : isRelativeTo path ["run", "data"] = true := decide_eq_true hbelow
    rw [hrelative] at hentry
    simp only [Bool.not_true, Bool.false_or, Bool.or_eq_true, any_eq_true, decide_eq_true_eq] at hentry
    exact hentry.imp_right mem_map.mpr
  · intro binding hbinding inode hnode
    have hone := all_eq_true.mp hlinks binding hbinding
    rw [Files.inode?, hnode] at hone
    exact (links_eq_one hnode).mp (of_decide_eq_true hone)

/-- The first member is restored; the call for the second is killed when it is in place but
not recorded. -/
theorem restore_resumes_unrecorded :
    RestoreResumes memberHash memberPaths memberAuthorities memberManifest evictedTree
      (restoreRun memberHash memberPaths evictedTree (killedRestore 12)) := by
  have hpass : (restoreRun memberHash memberPaths evictedTree (killedRestore 12)).all feedsPass =
      true := by decide +kernel
  have hclean : (restoreRun memberHash memberPaths evictedTree (killedRestore 12)).all (fun ev =>
      match ev.input with
      | .kill _ => isClean ev.pre.state.files
      | _ => true) = true := by decide +kernel
  refine restore_resumes memberHash memberPaths memberAuthorities memberManifest sealedTree evictedTree
    (killedRestore 12) evictedCandidate_member (feedsMembers_of_pass hpass) ?_
  intro ev hev hinput
  have hok := List.all_eq_true.mp hclean ev hev
  rw [hinput] at hok
  exact clean_of_isClean hok

/-- The call is killed between the link of the target and the removal of the temporary: the
target has two links, and the repeated call refuses it. -/
theorem second_link_refused :
    EvictedCandidate memberHash memberPaths memberAuthorities memberManifest sealedTree evictedTree ∧
      FeedsMembers memberHash memberPaths memberAuthorities evictedTree
        (restoreRun memberHash memberPaths evictedTree (killedRestore 8)) ∧
      ¬ RestoreResumes memberHash memberPaths memberAuthorities memberManifest evictedTree
        (restoreRun memberHash memberPaths evictedTree (killedRestore 8)) := by
  have hpass : (restoreRun memberHash memberPaths evictedTree (killedRestore 8)).all feedsPass =
      true := by decide +kernel
  refine ⟨evictedCandidate_member, feedsMembers_of_pass hpass, fun h => ?_⟩
  have hrun : ((restoreRun memberHash memberPaths evictedTree (killedRestore 8))[50]?).map (fun ev =>
      match ev.output with
      | .raised _ (.restore call) _ => call.afterTargetLink.isOk
      | _ => false) = some true := by decide +kernel
  rcases Option.map_eq_some_iff.mp hrun with ⟨ev, hev, hraised⟩
  cases hout : ev.output with
  | raised p op e =>
      rw [hout] at hraised
      cases op with
      | finalize completedAt => cases hraised
      | restore call =>
          dsimp only at hraised
          rw [h.raised ev (List.mem_of_getElem? hev) call e hout] at hraised
          cases hraised
  | _ =>
      rw [hout] at hraised
      cases hraised

end

end RollingArchive
