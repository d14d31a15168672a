import LightConeSpec.Telemetry.Accounting

/-!
# Prepared evidence

Between `prepareClose` and `publishClose` the writer is neither open nor closed. Its
index is closed and its queues are empty, so `write` and `flush` raise before they change
anything, and `persistNativeTerminalArtifact`, `prepareClose` and `abort` test for a
prepared receipt. `registerExternalBackpressureEvents` tests only for a closed writer and
rewrites the checkpoint that the prepared receipt binds.

`prepared_immutable_iff` says that these calls are the only ones that disturb prepared
evidence.
-/

namespace Telemetry

open Python Method List

namespace Session

/-! ## Immutability -/

/-- The call raised, or left every file that the receipt binds and the counters as they
were. -/
def Kept (receipt : Receipt) (e : Event) : Prop :=
  (∃ error, e.output = .error error) ∨
    ((∀ name ∈ boundNames receipt, e.post.files.get? name = e.pre.files.get? name) ∧
      e.post.writer.counters = e.pre.writer.counters)

/-- Each call keeps what the receipt binds, and `publishClose` does after the calls what it
would have done before them. -/
def Immutable (hash : Hashing) (clock : Clock) (receipt : Receipt) (t : Session)
    (calls : List Call) : Prop :=
  (∀ e ∈ Machine.trace (step hash clock) t calls, Kept receipt e) ∧
    ∀ validatePostBinding,
      (publishClose hash validatePostBinding (Machine.final (step hash clock) t calls)).1
          = (publishClose hash validatePostBinding t).1 ∧
        (publishClose hash validatePostBinding (Machine.final (step hash clock) t calls)).2.files
          = (publishClose hash validatePostBinding t).2.files

/-- The call registers backpressure events. -/
def Call.registers : Call → Bool
  | .registerExternalBackpressureEvents count => count.any fun count => decide (1 ≤ count)
  | _ => false

def Call.publishes : Call → Bool
  | .publishClose _ => true
  | _ => false

/-! ## A prepared writer at rest -/

/-- What a prepared writer has, of the things that its operations test. -/
structure AtRest (t : Session) : Prop where
  opened : t.writer.closed = false
  index : t.writer.indexOpen = false
  prepared : t.writer.preparedReceipt ≠ none
  empty : ∀ table, t.writer.queues table = []
  queued : t.writer.queuedRows = 0
  positive : 0 < t.writer.settings.maxQueuedRows

/-- The writer and its files are the same; only the clock was read. -/
structure Still (t u : Session) : Prop where
  writer : u.writer = t.writer
  files : u.files = t.files

/-- A call raises and changes nothing. -/
def Refuses {α : Type} (m : Method Session α) (t : Session) : Prop :=
  MeetsAt m t fun result u => (∃ error, result = .error error) ∧ Still t u

variable {hash : Hashing} {clock : Clock} {t u : Session}

theorem Still.refl (t : Session) : Still t t := ⟨rfl, rfl⟩

theorem Still.trans {v : Session} (h : Still t u) (h' : Still u v) : Still t v :=
  ⟨h'.writer.trans h.writer, h'.files.trans h.files⟩

theorem AtRest.still (ht : AtRest t) (h : Still t u) : AtRest u := by
  constructor <;> rw [h.writer]
  · exact ht.opened
  · exact ht.index
  · exact ht.prepared
  · exact ht.empty
  · exact ht.queued
  · exact ht.positive

theorem refused (e : Error) (t : Session) : (∃ error, (.error e : Except Error α) = .error error) ∧
    Still t t :=
  ⟨⟨e, rfl⟩, Still.refl t⟩

theorem AtRest.flushTables (ht : AtRest t) (tables : List Table) :
    Method.collect (flushTable clock) tables t = (.ok (tables.map fun _ => 0), t) := by
  have hone : ∀ table, flushTable clock table t = (.ok 0, t) := by
    intro table
    unfold flushTable
    rw [read_bind, if_pos (ht.empty table)]
    rfl
  induction tables with
  | nil => rfl
  | cons table tables ih =>
    unfold Method.collect
    rw [bind_apply_ok (hone table), bind_apply_ok ih]
    rfl

theorem AtRest.flush_refuses (ht : AtRest t) : Refuses (flush clock) t := by
  refine meetsAt_requireOpen (fun _ => refused _ t) fun _ => ?_
  refine meetsAt_bind (P := fun result u => result = .ok (Table.all.map fun _ => 0) ∧ u = t)
    ?_ ?_ ?_
  · unfold MeetsAt
    rw [ht.flushTables]
    exact ⟨rfl, rfl⟩
  · rintro e u ⟨⟨⟩, -⟩
  · rintro counts u ⟨hcounts, rfl⟩
    cases hcounts
    -- nothing was flushed, and the index is closed
    refine meetsAt_assign (meetsAt_useIndex (fun _ => ?_) fun hopen => ?_)
    · exact ⟨⟨_, rfl⟩, rfl, rfl⟩
    · exact absurd (ht.index.symm.trans hopen) nofun

theorem AtRest.write_refuses (ht : AtRest t) (argument : Argument) :
    Refuses (write clock argument) t := by
  refine meetsAt_requireOpen (fun _ => refused _ t) fun _ => ?_
  cases argument with
  | unsupported type => exact refused _ t
  | record record =>
    refine meetsAt_read (meetsAt_check_bind (fun e _ => refused e t) fun _ _ => ?_)
    refine meetsAt_check_bind (fun e _ => refused e t) fun _ _ => ?_
    refine meetsAt_bind (P := fun result u => result = .ok (clock.monotonic t.ticks) ∧
      u = { t with ticks := t.ticks + 1 }) ⟨rfl, rfl⟩ ?_ ?_
    · rintro e u ⟨⟨⟩, -⟩
    rintro now u ⟨-, rfl⟩
    -- nothing is queued, so neither is a checkpoint due nor the queue full
    have hdue : t.writer.isDue now = false := by
      unfold EvidenceWriter.isDue
      rw [ht.queued]
      cases t.writer.settings.checkpointIntervalS <;> rfl
    refine meetsAt_bind (P := fun result u => result = .ok () ∧
      u = { t with ticks := t.ticks + 1 }) ?_ ?_ ?_
    · refine meetsAt_onlyIf (fun h => ?_) fun _ => ⟨rfl, rfl⟩
      exact absurd (hdue.symm.trans h) nofun
    · rintro e u ⟨⟨⟩, -⟩
    rintro _ u ⟨-, rfl⟩
    refine meetsAt_read (meetsAt_read ?_)
    have hroom : ¬ t.writer.settings.maxQueuedRows ≤ t.writer.queuedRows := by
      have := ht.positive
      rw [ht.queued]
      omega
    rw [if_neg (by simpa using hroom)]
    refine meetsAt_bind (registerIdentity_meets _ record) ?_ ?_
    · rintro e u (⟨⟨⟩, -⟩ | ⟨-, rfl⟩)
      exact ⟨⟨e, rfl⟩, rfl, rfl⟩
    · rintro _ u (⟨-, hopen, -⟩ | ⟨⟨e, ⟨⟩⟩, -⟩)
      exact absurd (ht.index.symm.trans hopen) nofun

theorem AtRest.unprepared_refuses {α : Type} (ht : AtRest t) {message : String}
    {f : Unit → Method Session α} : Refuses (requireUnprepared message >>= f) t :=
  meetsAt_requireUnprepared (fun _ => refused _ t) fun _ hnone => absurd hnone ht.prepared

theorem register_refuses {count : Option ℤ}
    (hcount : (count.any fun count => decide (1 ≤ count)) = false) :
    Refuses (registerExternalBackpressureEvents clock count) t := by
  refine meetsAt_requireOpen (fun _ => refused _ t) fun _ => ?_
  refine meetsAt_check_bind (fun e _ => refused e t) fun _ hpositive => ?_
  rw [require_eq_ok, hcount] at hpositive
  cases hpositive

theorem Refuses.step {α : Type} {m : Method Session α} (h : Refuses m t) (f : α → Reply) :
    (∃ error, ((f <$> m) t).1 = .error error) ∧ Still t ((f <$> m) t).2 := by
  unfold Refuses MeetsAt at h
  rw [map_apply]
  rcases h with ⟨⟨error, herror⟩, hstill⟩
  rw [herror]
  exact ⟨⟨error, rfl⟩, hstill⟩

/-- A call that neither publishes nor registers events raises and changes nothing. -/
theorem AtRest.step (ht : AtRest t) (hash : Hashing) (clock : Clock) {call : Call} (hpublishes : call.publishes = false)
    (hregisters : call.registers = false) :
    (∃ error, (step hash clock t call).1 = .error error) ∧ Still t (step hash clock t call).2 := by
  cases call with
  | write argument => exact (ht.write_refuses argument).step _
  | flush => exact ht.flush_refuses.step _
  | registerExternalBackpressureEvents count => exact (register_refuses hregisters).step _
  | persistNativeTerminalArtifact artifact => exact ht.unprepared_refuses.step _
  | prepareClose => exact ht.unprepared_refuses.step _
  | publishClose validatePostBinding => cases hpublishes
  | abort reason => exact ht.unprepared_refuses.step _

/-! ## Publication -/

theorem requireOpen_eq (hclosed : t.writer.closed = false) (message : String) :
    requireOpen message t = (.ok (), t) := by
  unfold requireOpen
  rw [read_bind, hclosed]
  rfl

/-- What `publishClose` does depends on the writer and its files only. -/
theorem Still.publishClose (h : Still t u) (ht : AtRest t) (validatePostBinding : Except Error Unit) :
    (publishClose hash validatePostBinding u).1 = (publishClose hash validatePostBinding t).1 ∧
      (publishClose hash validatePostBinding u).2.files
        = (publishClose hash validatePostBinding t).2.files := by
  have hu := ht.still h
  rcases Option.ne_none_iff_exists'.mp ht.prepared with ⟨receipt, hreceipt⟩
  unfold Session.publishClose
  rw [bind_apply_ok (requireOpen_eq ht.opened _),
    bind_apply_ok (requireOpen_eq hu.opened _), read_bind, read_bind, h.writer,
    hreceipt]
  -- the result and the files are those of the publication
  cases hpublished : publishPreparedCompletion hash t.writer.runId t.writer.rank
      (some (hash.file (.receipt receipt true))) (validatePrepared t.writer.preparedFiles)
      validatePostBinding t.files with
  | mk result published =>
    have hcall : ∀ v, Still t v → publishPrepared hash receipt validatePostBinding v
        = (result, { v with files := published }) := by
      intro v hv
      unfold publishPrepared
      rw [hv.writer, hv.files, hpublished]
    cases result with
    | error e =>
      simp only
      rw [bind_apply_error (hcall u h), bind_apply_error (hcall t (Still.refl t))]
      exact ⟨rfl, rfl⟩
    | ok resolved =>
      simp only
      rw [bind_apply_ok (hcall u h), bind_apply_ok (hcall t (Still.refl t))]
      exact ⟨rfl, rfl⟩

/-! ## The calls that disturb -/

/-- Registered events rewrite the checkpoint. -/
theorem AtRest.register_disturbs (ht : AtRest t) {count : Option ℤ} {receipt : Receipt}
    {value : Checkpoint} (hcount : (count.any fun count => decide (1 ≤ count)) = true)
    (hbound : t.writer.path .checkpoint ∈ boundNames receipt)
    (hfile : t.files.get? (t.writer.path .checkpoint) = some (.checkpoint value))
    (hvalue : value.counters.backpressureEvents = t.writer.backpressureEvents) :
    ¬ Kept receipt (Machine.event (Session.step hash clock) t
      (.registerExternalBackpressureEvents count)) := by
  cases count with
  | none => cases hcount
  | some count =>
    have hpositive : 1 ≤ count := by simpa using hcount
    have hcall : registerExternalBackpressureEvents clock (some count) t
        = (.ok (), checkpointed clock
          { t with writer := t.writer.countBackpressure count.toNat }) := by
      unfold registerExternalBackpressureEvents
      rw [bind_apply_ok (requireOpen_eq ht.opened _),
        check_bind_ok (a := ()) (require_eq_ok.mpr hcount)]
      rfl
    unfold Machine.event
    rw [Session.step, map_apply, hcall]
    rintro (⟨error, herror⟩ | ⟨hsame, -⟩)
    · cases herror
    · have hcheckpoint := hsame _ hbound
      change (t.files.set (t.writer.path .checkpoint) _).get? (t.writer.path .checkpoint) = _
        at hcheckpoint
      rw [Dict.get?_set, if_pos rfl, hfile, Option.some.injEq, File.checkpoint.injEq] at hcheckpoint
      have hevents : t.writer.backpressureEvents + count.toNat
          = value.counters.backpressureEvents := by
        rw [← hcheckpoint]
        rfl
      omega

/-- Calls that do not register events leave a prepared writer still. -/
theorem AtRest.run_still (ht : AtRest t) (hash : Hashing) (clock : Clock) {calls : List Call}
    (hpublishes : ∀ call ∈ calls, call.publishes = false)
    (hregisters : ∀ call ∈ calls, call.registers = false) :
    (∀ e ∈ Machine.trace (Session.step hash clock) t calls, ∃ error, e.output = .error error) ∧
      Still t (Machine.final (Session.step hash clock) t calls) := by
  induction calls generalizing t with
  | nil => exact ⟨fun e he => absurd he not_mem_nil, Still.refl t⟩
  | cons call calls ih =>
    have hone := ht.step hash clock
      (hpublishes call mem_cons_self) (hregisters call mem_cons_self)
    have hrest := ih (ht.still hone.2)
      (fun call' hmem => hpublishes call' (mem_cons_of_mem _ hmem))
      (fun call' hmem => hregisters call' (mem_cons_of_mem _ hmem))
    refine ⟨fun e he => ?_, hone.2.trans hrest.2⟩
    rcases mem_cons.mp he with rfl | he
    · exact hone.1
    · exact hrest.1 e he

/-- When every call keeps what the receipt binds, no call registers events. -/
theorem AtRest.not_registers (ht : AtRest t) {calls : List Call} {receipt : Receipt}
    {value : Checkpoint} (hbound : t.writer.path .checkpoint ∈ boundNames receipt)
    (hfile : t.files.get? (t.writer.path .checkpoint) = some (.checkpoint value))
    (hvalue : value.counters.backpressureEvents = t.writer.backpressureEvents)
    (hpublishes : ∀ call ∈ calls, call.publishes = false)
    (hkept : ∀ e ∈ Machine.trace (Session.step hash clock) t calls, Kept receipt e) :
    ∀ call ∈ calls, call.registers = false := by
  induction calls generalizing t with
  | nil => exact fun call hcall => absurd hcall not_mem_nil
  | cons call calls ih =>
    have hhead : call.registers = false := by
      rw [← Bool.not_eq_true]
      intro hregisters
      cases call with
      | registerExternalBackpressureEvents count =>
        exact ht.register_disturbs hregisters hbound hfile hvalue (hkept _ mem_cons_self)
      | _ => cases hregisters
    have hstill := (ht.step hash clock
      (hpublishes call mem_cons_self) hhead).2
    have htail := ih (ht.still hstill)
      (by unfold EvidenceWriter.path at hbound ⊢; rw [hstill.writer]; exact hbound)
      (by unfold EvidenceWriter.path at hfile ⊢; rw [hstill.writer, hstill.files]; exact hfile)
      (by rw [hstill.writer]; exact hvalue)
      (fun call' hmem => hpublishes call' (mem_cons_of_mem _ hmem))
      (fun e he => hkept e (mem_cons_of_mem _ he))
    intro call' hmem
    rcases mem_cons.mp hmem with rfl | hmem
    · exact hhead
    · exact htail call' hmem

theorem atRest_of_prepared {settings : Settings} {accepted dropped : List EvidenceRecord}
    {resolved : Resolved} (ht : Conserved settings accepted dropped t)
    (hprepared : Prepared resolved t) : AtRest t := by
  refine ⟨hprepared.opened, hprepared.index, ?_, hprepared.empty,
    ht.queuedRows_eq_zero hprepared.empty, ht.positive⟩
  rcases hprepared.receipt with ⟨receipt, binding, hreceipt, -⟩
  rw [hreceipt]
  exact Option.some_ne_none receipt

/-- Prepared evidence is immutable exactly under the calls that register no backpressure
events. -/
theorem prepared_immutable_iff {settings : Settings} {files : Directory} {start : Session}
    {before : List Call} {resolved : Resolved} {receipt : Receipt} {calls : List Call}
    (hstart : init hash clock settings files = .ok start)
    (hprepare : step hash clock (Machine.final (step hash clock) start before) .prepareClose
      = (.ok (.resolved resolved), t))
    (hreceipt : t.writer.preparedReceipt = some receipt)
    (hpublishes : ∀ call ∈ calls, call.publishes = false) :
    Immutable hash clock receipt t calls ↔ ∀ call ∈ calls, call.registers = false := by
  rcases exists_conserved hstart before with ⟨accepted, dropped, hs⟩
  rcases prepared_of_step hs hprepare with ⟨ht, hprepared⟩
  have hrest := atRest_of_prepared ht hprepared
  constructor
  · rintro ⟨hkept, -⟩
    rcases hprepared.receipt with ⟨receipt', binding, hreceipt', hbinding, hname⟩
    rw [hreceipt, Option.some.injEq] at hreceipt'
    subst hreceipt'
    rcases hprepared.checkpoint with ⟨value, hfile, hvalue⟩
    refine hrest.not_registers ?_ hfile hvalue hpublishes hkept
    rw [← hname, boundNames, hbinding]
    exact List.mem_append_left _ (List.mem_append_left _ (List.mem_singleton_self _))
  · intro hregisters
    rcases hrest.run_still hash clock hpublishes hregisters
      with ⟨hraised, hstill⟩
    exact ⟨fun e he => .inl (hraised e he), fun v => hstill.publishClose hrest v⟩

def smallPrepared : Session := (step smallHash stoppedClock (smallFinal "r") .prepareClose).2

theorem smallPrepared_eq : ∃ resolved receipt,
    step smallHash stoppedClock (smallFinal "r") .prepareClose
        = (.ok (.resolved resolved), smallPrepared) ∧
      smallPrepared.writer.preparedReceipt = some receipt := by
  have hok : (prepareClose smallHash stoppedClock (smallFinal "r")).1.toBool = true := by
    decide +kernel
  have hsome : smallPrepared.writer.preparedReceipt.isSome = true := by
    decide +kernel
  rcases Option.isSome_iff_exists.mp hsome with ⟨receipt, hreceipt⟩
  cases hprepare : prepareClose smallHash stoppedClock (smallFinal "r") with
  | mk result t =>
    rw [hprepare] at hok
    rcases result with error | resolved
    · cases hok
    · refine ⟨resolved, receipt, ?_, hreceipt⟩
      unfold smallPrepared
      rw [step, map_apply, hprepare]
      rfl

/-- A flush and a rejected count leave the prepared evidence of the small attempt as it
is. -/
theorem prepared_immutable_small : ∃ receipt, Immutable smallHash stoppedClock receipt
    smallPrepared [.flush, .registerExternalBackpressureEvents (some 0)] := by
  rcases smallPrepared_eq with ⟨resolved, receipt, hprepare, hreceipt⟩
  exact ⟨receipt, (prepared_immutable_iff smallStart_eq hprepare hreceipt (by decide)).mpr
    (by decide)⟩

/-- One registered event, and the publication that would have returned raises. -/
theorem registered_event_disturbs : ∃ resolved receipt,
    step smallHash stoppedClock (smallFinal "r") .prepareClose
        = (.ok (.resolved resolved), smallPrepared) ∧
      smallPrepared.writer.preparedReceipt = some receipt ∧
      (publishClose smallHash (.ok ()) smallPrepared).1.toBool = true ∧
      (publishClose smallHash (.ok ()) (step smallHash stoppedClock smallPrepared
        (.registerExternalBackpressureEvents (some 1))).2).1.toBool = false ∧
      ¬ Immutable smallHash stoppedClock receipt smallPrepared
        [.registerExternalBackpressureEvents (some 1)] := by
  have hbefore : (publishClose smallHash (.ok ()) smallPrepared).1.toBool = true := by
    decide +kernel
  have hafter : (publishClose smallHash (.ok ()) (step smallHash stoppedClock smallPrepared
      (.registerExternalBackpressureEvents (some 1))).2).1.toBool = false := by
    decide +kernel
  rcases smallPrepared_eq with ⟨resolved, receipt, hprepare, hreceipt⟩
  refine ⟨resolved, receipt, hprepare, hreceipt, hbefore, hafter, ?_⟩
  rintro ⟨-, hpublish⟩
  have heq := (hpublish (.ok ())).1
  rw [Machine.final_cons, Machine.final_nil] at heq
  rw [heq, hbefore] at hafter
  cases hafter

end Session

end Telemetry
