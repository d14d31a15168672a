import LightConeSpec.Telemetry.Preparation

/-!
# The files that a writer touches

A writer changes files of its own attempt, and otherwise only adds the receipts of its
run and rank and the locks of its publications. `Contained` says this of a method and is
closed under the statements that methods are built from, so that each operation is
contained because its statements are (`step_contained`).
-/

namespace Telemetry

open Python Method

namespace Session

/-! ## Contained methods -/

def Published (w : EvidenceWriter) (name : String) : Prop :=
  name = preparedName w.runId w.rank ∨ name = completeName w.runId w.rank ∨
    name = w.path .nativeTerminal

/-- A writer changed files of its attempt, and added what it publishes and the locks. -/
structure Writes (s t : Session) : Prop where
  settings : t.writer.settings = s.writer.settings
  stem : t.writer.stem = s.writer.stem
  files : ∀ name, t.files.get? name = s.files.get? name ∨ (∃ suffix, name = s.writer.path suffix) ∨
    (s.files.get? name = none ∧ (Published s.writer name ∨
      ∃ other, Published s.writer other ∧ name = lockName other))

/-- The method touches nothing else, however it ends. -/
def Contained {α : Type} (m : Method Session α) : Prop := ∀ s, LeavesAt m s (Writes s)

variable {α β : Type} {s t u : Session}

theorem Writes.refl (s : Session) : Writes s s := ⟨rfl, rfl, fun _ => .inl rfl⟩

theorem Writes.path (h : Writes s t) (suffix : Suffix) :
    t.writer.path suffix = s.writer.path suffix := by
  unfold EvidenceWriter.path
  rw [h.stem]

theorem Writes.published (h : Writes s t) (name : String) :
    Published t.writer name ↔ Published s.writer name := by
  unfold Published EvidenceWriter.runId EvidenceWriter.rank
  rw [h.settings, h.path]

theorem Writes.trans (h : Writes s t) (h' : Writes t u) : Writes s u where
  settings := h'.settings.trans h.settings
  stem := h'.stem.trans h.stem
  files := by
    intro name
    rcases h.files name with hsame | hpath | hnew
    · rcases h'.files name with hsame' | ⟨suffix, hpath⟩ | ⟨hnone, hname⟩
      · exact .inl (hsame'.trans hsame)
      · exact .inr (.inl ⟨suffix, hpath.trans (h.path suffix)⟩)
      · rw [hsame] at hnone
        simp only [h.published] at hname
        exact .inr (.inr ⟨hnone, hname⟩)
    · exact .inr (.inl hpath)
    · exact .inr (.inr hnew)

theorem contained_pure (a : α) : Contained (pure a) := fun s => Writes.refl s

theorem contained_raise (e : Error) : Contained (Method.raise e : Method Session α) :=
  fun s => Writes.refl s

theorem contained_check (x : Except Error α) : Contained (Method.check x) := fun s => Writes.refl s

theorem contained_read (f : Session → α) : Contained (Method.read f) := fun s => Writes.refl s

variable {m : Method Session α} {f : α → Method Session β}

/-- A statement that touches nothing else in this state, and contained ones after it. -/
theorem writes_bind (hm : LeavesAt m s (Writes s)) (hf : ∀ a, Contained (f a)) :
    LeavesAt (m >>= f) s (Writes s) :=
  leavesAt_bind hm (fun _ h => h) fun a t h => (hf a t).mono fun _ h' => h.trans h'

theorem contained_bind (hm : Contained m) (hf : ∀ a, Contained (f a)) :
    Contained (m >>= f) := fun s => writes_bind (hm s) hf

theorem contained_map (hm : Contained m) (f : α → β) : Contained (f <$> m) :=
  contained_bind hm fun _ => contained_pure _

theorem contained_onlyIf {condition : Session → Bool} {m : Method Session Unit}
    (hm : Contained m) : Contained (Method.onlyIf condition m) := fun s =>
  meetsAt_onlyIf (Q := fun _ => Writes s) (fun _ => hm s) fun _ => Writes.refl s

theorem contained_collect (hf : ∀ a, Contained (f a)) (values : List α) :
    Contained (Method.collect f values) := by
  induction values with
  | nil => exact contained_pure []
  | cons value values ih =>
    exact contained_bind (hf value) fun _ => contained_bind ih fun _ => contained_pure _

theorem contained_update {f : EvidenceWriter → EvidenceWriter}
    (hsettings : ∀ w, (f w).settings = w.settings) (hstem : ∀ w, (f w).stem = w.stem) :
    Contained (update f) :=
  fun s => ⟨hsettings s.writer, hstem s.writer, fun _ => .inl rfl⟩

/-- A file of the attempt. -/
theorem writes_path {s : Session} {w : EvidenceWriter} {ticks : ℕ} {suffix : Suffix} {file : File}
    (hsettings : w.settings = s.writer.settings) (hstem : w.stem = s.writer.stem) :
    Writes s ⟨w, s.files.set (s.writer.path suffix) file, ticks⟩ where
  settings := hsettings
  stem := hstem
  files := by
    intro name
    by_cases hname : name = s.writer.path suffix
    · exact .inr (.inl ⟨suffix, hname⟩)
    · refine .inl ?_
      change (s.files.set (s.writer.path suffix) file).get? name = _
      rw [Dict.get?_set, if_neg hname]

theorem contained_writeCheckpoint (clock : Clock) : Contained (writeCheckpoint clock) :=
  fun _ => writes_path rfl rfl

theorem contained_requireOpen (message : String) : Contained (requireOpen message) :=
  contained_bind (contained_read _) fun _ => contained_check _

theorem contained_requireUnprepared (message : String) : Contained (requireUnprepared message) :=
  contained_bind (contained_read _) fun _ => contained_check _

theorem contained_useIndex : Contained useIndex :=
  contained_bind (contained_read _) fun _ => contained_check _

/-- Publishing adds a file, or only its lock. -/
theorem get?_publishExclusive_eq (files : Directory) (name : String) (file : File) (runId : String)
    (name' : String) : (publishExclusive files name file runId).2.get? name' = files.get? name' ∨
      (files.get? name' = none ∧ (name' = name ∨ name' = lockName name)) := by
  by_cases hlock : name' = lockName name
  · by_cases hnone : files.get? name' = none
    · exact .inr ⟨hnone, .inr hlock⟩
    · -- a lock that is there stays as it is
      refine .inl ?_
      have hsome : (files.get? (lockName name)).isSome = true := by
        rw [← hlock]
        exact Option.isSome_iff_ne_none.mpr hnone
      have hne : name' ≠ name := by
        intro h
        have hlength := congrArg (fun name => name.toList.length) (hlock.symm.trans h)
        simp [lockName] at hlength
        omega
      unfold publishExclusive withLock
      rw [if_pos hsome]
      split
      · rfl
      · rw [Dict.get?_set, if_neg hne]
  · by_cases hname : name' = name
    · by_cases hnone : files.get? name' = none
      · exact .inr ⟨hnone, .inl hname⟩
      · refine .inl ?_
        have hsome : (files.get? name).isSome = true := by
          rw [← hname]
          exact Option.isSome_iff_ne_none.mpr hnone
        unfold publishExclusive
        rw [if_pos hsome]
        exact get?_withLock files name hlock
    · exact .inl (get?_publishExclusive files name file runId hname hlock)

theorem writes_publish {name : String} {file : File} {runId : String}
    (hname : Published s.writer name) : Writes s (publish name file runId s).2 where
  settings := rfl
  stem := rfl
  files := by
    intro name'
    rcases get?_publishExclusive_eq s.files name file runId name' with hsame | ⟨hnone, rfl | rfl⟩
    · exact .inl hsame
    · exact .inr (.inr ⟨hnone, .inl hname⟩)
    · exact .inr (.inr ⟨hnone, .inr ⟨name, hname, rfl⟩⟩)

/-- What a publication over a prepared receipt adds. -/
theorem get?_publishPrepared_eq (hash : Hashing) (runId : String) (rank : ℕ)
    (expectedReceiptSha256 : Option String) (validate : Resolved → Except Error Unit)
    (validatePostBinding : Except Error Unit) (files : Directory) (name : String) :
    (publishPreparedCompletion hash runId rank expectedReceiptSha256 validate validatePostBinding
        files).2.get? name = files.get? name ∨
      (files.get? name = none ∧ (name = completeName runId rank ∨
        name = lockName (completeName runId rank))) := by
  unfold publishPreparedCompletion
  split
  · exact .inl rfl
  · rename_i terminal resolved budget _
    have hget := get?_publishExclusive_eq files (completeName runId rank) (.receipt terminal true)
      runId name
    split
    · rename_i hpublish
      rw [hpublish] at hget
      exact hget
    · rename_i hpublish
      rw [hpublish] at hget
      exact hget

theorem contained_publishPrepared (hash : Hashing) (receipt : Receipt)
    (validatePostBinding : Except Error Unit) :
    Contained (publishPrepared hash receipt validatePostBinding) := by
  intro s
  refine ⟨rfl, rfl, fun name => ?_⟩
  rcases get?_publishPrepared_eq hash s.writer.runId s.writer.rank
    (some (hash.file (.receipt receipt true))) (validatePrepared s.writer.preparedFiles)
    validatePostBinding s.files name with hsame | ⟨hnone, rfl | rfl⟩
  · exact .inl hsame
  · exact .inr (.inr ⟨hnone, .inl (.inr (.inl rfl))⟩)
  · exact .inr (.inr ⟨hnone, .inr ⟨_, .inr (.inl rfl), rfl⟩⟩)

/-! ## Operations -/

variable (hash : Hashing) (clock : Clock)

theorem contained_flush : Contained (flush clock) := by
  refine contained_bind (contained_requireOpen _) fun _ => ?_
  refine contained_bind (contained_collect (fun table => ?_) _) fun counts => ?_
  · refine contained_bind (contained_read _) fun rows => ?_
    split
    · exact contained_pure _
    · refine contained_bind ?_ fun _ => contained_bind (contained_update (fun _ => rfl) fun _ => rfl)
        fun _ => contained_pure _
      refine contained_bind (contained_read _) fun _ => contained_bind (contained_read _) fun _ => ?_
      exact contained_bind (contained_check _) fun _ =>
        contained_bind (contained_check _) fun _ => fun _ => writes_path rfl rfl
  · refine contained_bind (contained_update ?_ ?_) fun _ => ?_
    · intro w
      unfold EvidenceWriter.countFlush
      split <;> rfl
    · intro w
      unfold EvidenceWriter.countFlush
      split <;> rfl
    · exact contained_bind contained_useIndex fun _ =>
        contained_bind (contained_writeCheckpoint clock) fun _ => contained_pure _

theorem contained_flushAll : Contained (flushAll clock) :=
  contained_bind (contained_flush clock) fun _ => contained_pure _

theorem contained_accept (record : EvidenceRecord) : Contained (accept clock record) := by
  refine contained_bind ?_ fun _ => ?_
  · refine contained_bind contained_useIndex fun _ => contained_bind (contained_read _) fun _ => ?_
    exact contained_bind (contained_check _) fun _ => contained_update (fun _ => rfl) fun _ => rfl
  · refine contained_bind (contained_update ?_ ?_) fun _ => ?_
    · intro w
      cases record <;> rfl
    · intro w
      cases record <;> rfl
    · exact contained_bind (contained_onlyIf (contained_flushAll clock)) fun _ => contained_pure _

theorem contained_write (argument : Argument) : Contained (write clock argument) := by
  refine contained_bind (contained_requireOpen _) fun _ => ?_
  cases argument with
  | unsupported type => exact contained_raise _
  | record record =>
    refine contained_bind (contained_read _) fun _ => contained_bind (contained_check _) fun _ => ?_
    refine contained_bind (contained_check _) fun _ => ?_
    refine contained_bind (fun _ => ⟨rfl, rfl, fun _ => .inl rfl⟩) fun _ => ?_
    refine contained_bind (contained_onlyIf (contained_flushAll clock)) fun _ => ?_
    refine contained_bind (contained_read _) fun full => contained_bind (contained_read _) ?_
    intro policy
    split
    · cases policy with
      | drop =>
        exact contained_bind (contained_update (fun _ => rfl) fun _ => rfl) fun _ =>
          contained_bind (contained_writeCheckpoint clock) fun _ => contained_pure _
      | backpressure =>
        exact contained_bind (contained_update (fun _ => rfl) fun _ => rfl) fun _ =>
          contained_bind (contained_flushAll clock) fun _ => contained_accept clock record
    · exact contained_accept clock record

theorem contained_register (count : Option ℤ) :
    Contained (registerExternalBackpressureEvents clock count) := by
  refine contained_bind (contained_requireOpen _) fun _ => contained_bind (contained_check _) ?_
  exact fun _ => contained_bind (contained_update (fun _ => rfl) fun _ => rfl) fun _ =>
    contained_writeCheckpoint clock

theorem contained_persist (artifact : NativeArtifact) :
    Contained (persistNativeTerminalArtifact hash clock artifact) := by
  refine contained_bind (contained_requireUnprepared _) fun _ s => leavesAt_read ?_
  refine leavesAt_check (Writes.refl s) fun _ _ => ?_
  refine leavesAt_check (Writes.refl s) fun _ _ => ?_
  refine leavesAt_check (Writes.refl s) fun _ _ => ?_
  refine leavesAt_check (Writes.refl s) fun _ _ => ?_
  refine writes_bind (writes_publish (.inr (.inr rfl))) fun _ => ?_
  refine contained_bind (contained_read _) fun _ => contained_bind (contained_check _) fun _ => ?_
  exact contained_bind (contained_update (fun _ => rfl) fun _ => rfl) fun _ =>
    contained_bind (contained_writeCheckpoint clock) fun _ => contained_pure _

theorem contained_buildFinalTable (table : Table) : Contained (buildFinalTable table) := by
  intro s
  refine leavesAt_read (leavesAt_check (Writes.refl s) fun shard _ => ?_)
  exact leavesAt_assign (leavesAt_pure (writes_path rfl rfl))

theorem contained_publishReceipt (shards : List (Table × String × Shard)) (checkpoint : File) :
    Contained (publishReceipt hash shards checkpoint) := by
  intro s
  refine leavesAt_read (leavesAt_check (Writes.refl s) fun _ _ => ?_)
  refine writes_bind (writes_publish (.inl rfl)) fun _ => contained_bind contained_useIndex ?_
  exact fun _ => contained_bind (contained_update (fun _ => rfl) fun _ => rfl) fun _ =>
    contained_pure _

theorem contained_prepareClose : Contained (prepareClose hash clock) := by
  refine contained_bind (contained_requireUnprepared _) fun _ => ?_
  refine contained_bind (contained_flushAll clock) fun _ => contained_bind (contained_read _) ?_
  intro s
  refine contained_bind (contained_check _) fun tables => contained_bind (contained_check _) ?_
  refine fun _ => contained_bind (contained_check _) fun _ => ?_
  refine contained_bind (contained_update (fun _ => rfl) fun _ => rfl) fun _ => ?_
  refine contained_bind (contained_read _) fun checkpoint => ?_
  refine contained_bind (contained_writeCheckpoint clock) fun _ => ?_
  exact contained_bind (contained_collect contained_buildFinalTable _) fun shards =>
    contained_publishReceipt hash shards checkpoint

theorem contained_publishClose (validatePostBinding : Except Error Unit) :
    Contained (publishClose hash validatePostBinding) := by
  refine contained_bind (contained_requireOpen _) fun _ => contained_bind (contained_read _) ?_
  intro prepared
  cases prepared with
  | none => exact contained_raise _
  | some receipt =>
    refine contained_bind (contained_publishPrepared hash receipt validatePostBinding) fun _ => ?_
    exact contained_bind (contained_update (fun _ => rfl) fun _ => rfl) fun _ => contained_pure _

theorem contained_abort (reason : Option String) : Contained (abort clock reason) := by
  refine contained_bind (contained_requireUnprepared _) fun _ => ?_
  refine contained_bind (contained_flushAll clock) fun _ => ?_
  refine contained_bind (contained_update (fun _ => rfl) fun _ => rfl) fun _ => ?_
  refine contained_bind (contained_read _) fun aborted => contained_bind contained_useIndex ?_
  refine fun _ => contained_bind (contained_update (fun _ => rfl) fun _ => rfl) fun _ => ?_
  exact contained_bind (fun _ => writes_path rfl rfl) fun _ =>
    contained_update (fun _ => rfl) fun _ => rfl

/-- A call touches the files of its attempt, and adds what its writer publishes. -/
theorem step_contained (s : Session) (call : Call) : Writes s (step hash clock s call).2 := by
  cases call with
  | write argument => exact contained_map (contained_write clock argument) _ s
  | flush => exact contained_map (contained_flush clock) _ s
  | registerExternalBackpressureEvents count =>
    exact contained_map (contained_register clock count) _ s
  | persistNativeTerminalArtifact artifact =>
    exact contained_map (contained_persist hash clock artifact) _ s
  | prepareClose => exact contained_map (contained_prepareClose hash clock) _ s
  | publishClose validatePostBinding =>
    exact contained_map (contained_publishClose hash validatePostBinding) _ s
  | abort reason => exact contained_map (contained_abort clock reason) _ s

end Session

end Telemetry
