import Mathlib.Data.List.Pairwise
import LightConeSpec.Lib.Digest
import LightConeSpec.Lib.Machine
import LightConeSpec.Control.ReplayStore

/-!
# Single use of challenges

Any number of processes call the store of one directory. `step` is one action of
one process: a call takes the lock, decides inside it, creates its file, writes
it, gives the lock back and returns; it may fail at any point, which gives the
lock back too. Actions of different processes interleave in any order, and a
process that does not hold the lock cannot touch the reservation files.

`Exclusive` is the invariant. It gives `SingleUse` for every run in which no call
writes at time zero: `verify_and_reserve` takes such a time, and the reader does not.
-/

namespace Control

open Python List Function

variable {D : Type} [LinearOrder D]

/-! ## Processes -/

/-- A call whose reservation has been decided. -/
structure Decided (D : Type) where
  call : StoreCall D
  batch : Batch D
  results : List (VerifiedControlArtifact D)
  reservation : Reservation D

/-- Where a process is in its call. -/
inductive Phase (D : Type)
  | idle
  | waiting (call : StoreCall D) (batch : Batch D)
  | locked (call : StoreCall D) (batch : Batch D)
  | decided (d : Decided D)
  | created (d : Decided D)
  | written (d : Decided D)
  | unlocked (d : Decided D)

/-- The files of the directory, who holds the lock, and where each process is. -/
structure World (D : Type) where
  files : List (StoreFile D)
  holder : Option ℕ
  phase : ℕ → Phase D

inductive Action (D : Type)
  | call (call : StoreCall D)
  | lock
  | decide
  | create
  | write
  | unlock
  | finish
  | fail

/-- What an action shows. -/
inductive Output (D : Type)
  | silent
  | raised
  | wrote (d : Decided D)
  | returned (d : Decided D)

def World.enter (w : World D) (p : ℕ) (phase : Phase D) : World D :=
  { w with phase := update w.phase p phase }

/-- The call ends: a lock that it holds is given back. -/
def World.leave (w : World D) (p : ℕ) : World D :=
  { files := w.files
    holder := if w.holder = some p then none else w.holder
    phase := update w.phase p .idle }

/-- The name of the file of a reservation. -/
def nameOf (sha : ControlSha D) (d : Decided D) : EntryName D :=
  .reservation (sha.reservation d.reservation)

/-- Before its bytes are written a file is not a reservation. -/
def emptyFile : Error := valueError "challenge reservation is not one bounded file"

/-- `bind_reservation`, which reads the file again without the lock. -/
def bindReservation (sha : ControlSha D) (files : List (StoreFile D)) (d : Decided D) :
    Except Error Unit :=
  match files.find? fun file => file.name = nameOf sha d with
  | none => .error ⟨.osError, "No such file or directory"⟩
  | some file => do
      let _ ← readReservation sha file
      pure ()

def StoreFile.fill (sha : ControlSha D) (d : Decided D) (file : StoreFile D) : StoreFile D :=
  if file.name = nameOf sha d then { file with content := .ok d.reservation } else file

/-- One action of process `p`; an action that is not its next one does nothing. -/
def step (sha : ControlSha D) (verifier : Verifier D) (zeroSha256 : D) (w : World D) :
    ℕ × Action D → Output D × World D
  | (p, action) =>
    match w.phase p, action with
    | .idle, .call call =>
      match call.enter zeroSha256 with
      | .error _ => (.raised, w)
      | .ok batch => (.silent, w.enter p (.waiting call batch))
    | .waiting call batch, .lock =>
      if w.holder = none then
        (.silent, { w.enter p (.locked call batch) with holder := some p })
      else (.silent, w)
    | .locked call batch, .decide =>
      match decideReservation sha verifier batch w.files with
      | .error _ => (.raised, w.leave p)
      | .ok (results, reservation) =>
        (.silent, w.enter p (.decided ⟨call, batch, results, reservation⟩))
    | .decided d, .create =>
      -- `O_EXCL`
      if nameOf sha d ∈ w.files.map (·.name) then (.raised, w.leave p)
      else
        (.silent, { w.enter p (.created d) with
          files := w.files ++ [⟨nameOf sha d, .error emptyFile⟩] })
    | .created d, .write =>
      (.wrote d, { w.enter p (.written d) with files := w.files.map (StoreFile.fill sha d) })
    | .written d, .unlock => (.silent, { w.enter p (.unlocked d) with holder := none })
    | .unlocked d, .finish =>
      match d.call with
      | .verifyAndReserve _ => (.returned d, w.enter p .idle)
      | .reserveContent _ _ =>
        match bindReservation sha w.files d with
        | .error _ => (.raised, w.enter p .idle)
        | .ok () => (.returned d, w.enter p .idle)
    | .idle, .fail => (.silent, w)
    | _, .fail => (.raised, w.leave p)
    | _, _ => (.silent, w)

/-! ## The invariant -/

variable {phase : Phase D} {call : StoreCall D} {batch : Batch D}

section

variable {sha : ControlSha D} {verifier : Verifier D} {zeroSha256 : D} {w w' : World D}
  {files files' older : List (StoreFile D)} {holder holder' : Option ℕ} {d e : Decided D}
  {p q : ℕ}

/-- The steps of a run so far. -/
abbrev Past (D : Type) := List (Machine.Event (World D) (ℕ × Action D) (Output D))

def Output.written : Output D → Option (Decided D)
  | .wrote d => some d
  | _ => none

def Output.result : Output D → Option (Decided D)
  | .returned d => some d
  | _ => none

/-- The reservations written so far. -/
def writes (past : Past D) : List (Decided D) := past.filterMap (·.output.written)

/-- The calls that have returned so far. -/
def returns (past : Past D) : List (Decided D) := past.filterMap (·.output.result)

variable {past past' : Past D}

/-- A call was decided on these files. -/
def DecidedOn (sha : ControlSha D) (verifier : Verifier D) (zeroSha256 : D) (d : Decided D)
    (files : List (StoreFile D)) : Prop :=
  d.call.enter zeroSha256 = .ok d.batch ∧
    decideReservation sha verifier d.batch files = .ok (d.results, d.reservation)

theorem DecidedOn.decides (h : DecidedOn sha verifier zeroSha256 d files) :
    Decides sha d.batch files d.reservation :=
  Control.decides h.1 h.2

/-- A call that has written and has not returned. -/
def Phase.pending : Phase D → Option (Decided D)
  | .written d | .unlocked d => some d
  | _ => none

/-- What holds of a process in a phase. In the critical section it holds the lock,
and its decision is about the files as they are. -/
def Fits (sha : ControlSha D) (verifier : Verifier D) (zeroSha256 : D) (past : Past D)
    (files : List (StoreFile D)) (holder : Option ℕ) (p : ℕ) : Phase D → Prop
  | .idle => True
  | .waiting call batch => call.enter zeroSha256 = .ok batch
  | .locked call batch => call.enter zeroSha256 = .ok batch ∧ holder = some p
  | .decided d => holder = some p ∧ DecidedOn sha verifier zeroSha256 d files
  | .created d => holder = some p ∧ ∃ older, files = older ++ [⟨nameOf sha d, .error emptyFile⟩] ∧
      nameOf sha d ∉ older.map (·.name) ∧ DecidedOn sha verifier zeroSha256 d older
  | .written d => holder = some p ∧ d ∈ writes past ∧ d ∉ returns past
  | .unlocked d => d ∈ writes past ∧ d ∉ returns past

/-- A challenge is recorded in exactly one file. -/
def RecordedOnce (files : List (StoreFile D)) (c : D) : Prop :=
  files.countP (·.records c) = 1

/-- What holds of the writes and the returned calls. -/
structure Kept (sha : ControlSha D) (verifier : Verifier D) (zeroSha256 : D) (past : Past D)
    (files : List (StoreFile D)) : Prop where
  decided : ∀ d ∈ writes past, ∃ older, DecidedOn sha verifier zeroSha256 d older
  disjoint : (writes past).Pairwise fun d e =>
    d.reservation.challengeSha256s.Disjoint e.reservation.challengeSha256s
  stored : ∀ d ∈ writes past, ⟨nameOf sha d, .ok d.reservation⟩ ∈ files
  recorded : ∀ d ∈ writes past, ∀ c ∈ d.reservation.challengeSha256s, RecordedOnce files c
  returned : ∀ d ∈ returns past, d ∈ writes past
  once : (returns past).Nodup

/-- The invariant of a run. -/
structure Exclusive (sha : ControlSha D) (verifier : Verifier D) (zeroSha256 : D) (past : Past D)
    (w : World D) : Prop where
  fits : ∀ p, Fits sha verifier zeroSha256 past w.files w.holder p (w.phase p)
  apart : ∀ p q d, (w.phase p).pending = some d → (w.phase q).pending = some d → p = q
  kept : Kept sha verifier zeroSha256 past w.files

/-- A process is not affected by another one that leaves it the lock and the
files. -/
theorem Fits.transfer (h : Fits sha verifier zeroSha256 past files holder q phase)
    (hsection : holder = some q → holder' = some q ∧ files' = files)
    (hwrites : ∀ d ∈ writes past, d ∈ writes past')
    (hreturns : ∀ d, phase.pending = some d → d ∉ returns past → d ∉ returns past') :
    Fits sha verifier zeroSha256 past' files' holder' q phase := by
  cases phase with
  | idle => trivial
  | waiting call batch => exact h
  | locked call batch => exact ⟨h.1, (hsection h.2).1⟩
  | decided d =>
    obtain ⟨hholder, hdecided⟩ := h
    obtain ⟨hholder', rfl⟩ := hsection hholder
    exact ⟨hholder', hdecided⟩
  | created d =>
    obtain ⟨hholder, hcreated⟩ := h
    obtain ⟨hholder', rfl⟩ := hsection hholder
    exact ⟨hholder', hcreated⟩
  | written d =>
    obtain ⟨hholder, hwritten, hreturned⟩ := h
    exact ⟨(hsection hholder).1, hwrites d hwritten, hreturns d rfl hreturned⟩
  | unlocked d => exact ⟨hwrites d h.1, hreturns d rfl h.2⟩

/-- A process moves to another phase. What the others rely on is untouched, and a
pending call of the moving process was pending before or is new. -/
theorem Exclusive.move (h : Exclusive sha verifier zeroSha256 past w)
    (hphase : w'.phase = update w.phase p phase)
    (hfits : Fits sha verifier zeroSha256 past' w'.files w'.holder p phase)
    (hsection : ∀ q, q ≠ p → w.holder = some q → w'.holder = some q ∧ w'.files = w.files)
    (hwrites : ∀ d ∈ writes past, d ∈ writes past')
    (hreturns : ∀ q d, q ≠ p → (w.phase q).pending = some d → d ∉ returns past → d ∉ returns past')
    (hpending : ∀ d, phase.pending = some d → (w.phase p).pending = some d ∨ d ∉ writes past)
    (hkept : Kept sha verifier zeroSha256 past' w'.files) :
    Exclusive sha verifier zeroSha256 past' w' := by
  have hself : w'.phase p = phase := by rw [hphase, update_self]
  have hother : ∀ {q}, q ≠ p → w'.phase q = w.phase q := by
    intro q hq
    rw [hphase, update_of_ne hq]
  -- a pending call of another process was written, so it is not a new one
  have hold : ∀ {q d}, (w.phase q).pending = some d → d ∈ writes past := by
    intro q d hq
    have hf := h.fits q
    cases hph : w.phase q <;> rw [hph] at hf hq <;> cases hq
    · exact hf.2.1
    · exact hf.1
  have hseparate : ∀ {q d}, q ≠ p → phase.pending = some d → (w.phase q).pending = some d →
      False := by
    intro q d hq hp hqd
    rcases hpending d hp with hbefore | hnew
    · exact hq (h.apart q p d hqd hbefore)
    · exact hnew (hold hqd)
  refine ⟨?_, ?_, hkept⟩
  · intro q
    by_cases hq : q = p
    · subst hq
      rw [hself]
      exact hfits
    · rw [hother hq]
      exact (h.fits q).transfer (hsection q hq) hwrites fun d => hreturns q d hq
  · intro q r d hqd hrd
    by_cases hq : q = p
    · subst hq
      by_cases hr : r = q
      · exact hr.symm
      · rw [hself] at hqd
        rw [hother hr] at hrd
        exact absurd hrd (hseparate hr hqd)
    · by_cases hr : r = p
      · subst hr
        rw [hself] at hrd
        rw [hother hq] at hqd
        exact absurd hqd (hseparate hq hrd)
      · rw [hother hq] at hqd
        rw [hother hr] at hrd
        exact h.apart q r d hqd hrd

omit [LinearOrder D] in
theorem writes_snoc (past : Past D) (event : Machine.Event (World D) (ℕ × Action D) (Output D)) :
    writes (past ++ [event]) = writes past ++ event.output.written.toList := by
  unfold writes
  rw [filterMap_append]
  cases h : event.output.written <;> simp [h]

omit [LinearOrder D] in
theorem returns_snoc (past : Past D) (event : Machine.Event (World D) (ℕ × Action D) (Output D)) :
    returns (past ++ [event]) = returns past ++ event.output.result.toList := by
  unfold returns
  rw [filterMap_append]
  cases h : event.output.result <;> simp [h]

attribute [simp] Output.written Output.result

/-- A new file that is no reservation yet records nothing. -/
theorem recordedOnce_create (name : EntryName D) {c : D} :
    RecordedOnce (files ++ [⟨name, .error emptyFile⟩]) c ↔ RecordedOnce files c := by
  unfold RecordedOnce
  rw [countP_append, countP_singleton, if_neg (by simp [StoreFile.records]),
    Nat.add_zero]

theorem Kept.create (h : Kept sha verifier zeroSha256 past files) (name : EntryName D) :
    Kept sha verifier zeroSha256 past (files ++ [⟨name, .error emptyFile⟩]) := by
  refine ⟨h.decided, h.disjoint, ?_, ?_, h.returned, h.once⟩
  · exact fun d hd => mem_append_left _ (h.stored d hd)
  · exact fun d hd c hc => (recordedOnce_create name).mpr (h.recorded d hd c hc)

/-- Writing fills the file that the call has created. -/
theorem map_fill (hfree : nameOf sha d ∉ older.map (·.name))
    (content : Except Error (Reservation D)) :
    (older ++ [(⟨nameOf sha d, content⟩ : StoreFile D)]).map (StoreFile.fill sha d)
      = older ++ [⟨nameOf sha d, .ok d.reservation⟩] := by
  have holder : older.map (StoreFile.fill sha d) = older := by
    refine (map_congr_left ?_).trans (map_id older)
    intro file hfile
    unfold StoreFile.fill
    rw [if_neg fun hname => hfree (mem_map.mpr ⟨file, hfile, hname⟩), id_eq]
  rw [map_append, holder, map_singleton]
  simp [StoreFile.fill]

/-- A reservation that was decided on the older files: its challenges are recorded
in the written file only. -/
theorem recordedOnce_write (h : DecidedOn sha verifier zeroSha256 d older) {c : D} :
    RecordedOnce (older ++ [⟨nameOf sha d, .ok d.reservation⟩]) c ↔
      RecordedOnce older c ∨ c ∈ d.reservation.challengeSha256s := by
  unfold RecordedOnce
  rw [countP_append, countP_singleton]
  by_cases hc : c ∈ d.reservation.challengeSha256s
  · have hzero : older.countP (·.records c) = 0 := by
      rw [countP_eq_zero]
      intro file hfile
      rw [h.decides.fresh c hc file hfile]
      exact Bool.false_ne_true
    rw [hzero, if_pos (by simpa [StoreFile.records] using hc)]
    simp [hc]
  · rw [if_neg (by simpa [StoreFile.records] using hc)]
    simp [hc]

/-- A write adds a reservation that is disjoint from those before it. -/
theorem Kept.write (h : Kept sha verifier zeroSha256 past
      (older ++ [⟨nameOf sha d, .error emptyFile⟩]))
    (hdecided : DecidedOn sha verifier zeroSha256 d older)
    (hwrites : writes past' = writes past ++ [d]) (hreturns : returns past' = returns past) :
    Kept sha verifier zeroSha256 past' (older ++ [⟨nameOf sha d, .ok d.reservation⟩]) := by
  have hrecorded : ∀ e ∈ writes past, ∀ c ∈ e.reservation.challengeSha256s,
      RecordedOnce older c :=
    fun e he c hc => (recordedOnce_create _).mp (h.recorded e he c hc)
  refine ⟨?_, ?_, ?_, ?_, ?_, ?_⟩
  · intro e he
    rw [hwrites] at he
    rcases mem_append.mp he with hold | hnew
    · exact h.decided e hold
    · obtain rfl := mem_singleton.mp hnew
      exact ⟨older, hdecided⟩
  · rw [hwrites]
    refine pairwise_append.mpr ⟨h.disjoint, pairwise_singleton _ _, ?_⟩
    intro e he e' he' c hc hc'
    obtain rfl := mem_singleton.mp he'
    -- a recorded challenge stands in one of the older files, a fresh one does not
    obtain ⟨file, hfile, hrecords⟩ : ∃ file ∈ older, file.records c = true := by
      rw [← countP_pos_iff, hrecorded e he c hc]
      exact Nat.one_pos
    rw [hdecided.decides.fresh c hc' file hfile] at hrecords
    cases hrecords
  · intro e he
    rw [hwrites] at he
    rcases mem_append.mp he with hold | hnew
    · rcases mem_append.mp (h.stored e hold) with hmem | hmem
      · exact mem_append_left _ hmem
      · have hcontent := congrArg StoreFile.content (mem_singleton.mp hmem)
        cases hcontent
    · obtain rfl := mem_singleton.mp hnew
      exact mem_append_right _ (mem_singleton.mpr rfl)
  · intro e he c hc
    rw [hwrites] at he
    refine (recordedOnce_write hdecided).mpr ?_
    rcases mem_append.mp he with hold | hnew
    · exact .inl (hrecorded e hold c hc)
    · obtain rfl := mem_singleton.mp hnew
      exact .inr hc
  · intro e he
    rw [hreturns] at he
    rw [hwrites]
    exact mem_append_left _ (h.returned e he)
  · rw [hreturns]
    exact h.once

/-- A new write is not an earlier one. -/
theorem Kept.not_written (h : Kept sha verifier zeroSha256 past
      (older ++ [⟨nameOf sha d, .error emptyFile⟩]))
    (hdecided : DecidedOn sha verifier zeroSha256 d older) : d ∉ writes past := by
  intro hd
  obtain ⟨c, hc⟩ := exists_mem_of_ne_nil _ hdecided.decides.nonempty
  have honce := (recordedOnce_create _).mp (h.recorded d hd c hc)
  obtain ⟨file, hfile, hrecords⟩ := countP_pos_iff.mp (by rw [honce]; exact Nat.one_pos)
  rw [hdecided.decides.fresh c hc file hfile] at hrecords
  cases hrecords

theorem Kept.finish (h : Kept sha verifier zeroSha256 past files) (hd : d ∈ writes past)
    (hnew : d ∉ returns past) (hwrites : writes past' = writes past)
    (hreturns : returns past' = returns past ++ [d]) :
    Kept sha verifier zeroSha256 past' files := by
  refine ⟨hwrites ▸ h.decided, hwrites ▸ h.disjoint, hwrites ▸ h.stored, hwrites ▸ h.recorded,
    ?_, ?_⟩
  · intro e he
    rw [hreturns] at he
    rw [hwrites]
    rcases mem_append.mp he with hold | hlast
    · exact h.returned e hold
    · rw [mem_singleton.mp hlast]
      exact hd
  · rw [hreturns]
    refine nodup_append'.mpr ⟨h.once, nodup_singleton _, ?_⟩
    intro e he he'
    rw [mem_singleton.mp he'] at he
    exact hnew he

/-! ## One action -/

omit [LinearOrder D] in
/-- The lock is with one process, so nobody else relies on the files. -/
theorem alone (hholder : w.holder = some p) {P : Prop} (hq : q ≠ p) (hold : w.holder = some q) :
    P :=
  absurd (Option.some.inj (hold.symm.trans hholder)) hq

section

variable (h : Exclusive sha verifier zeroSha256 past w)

include h

/-- An action after which files, lock and logs are as before, but for the lock of
the acting process. -/
theorem Exclusive.quiet (hphase : w'.phase = update w.phase p phase) (hfiles : w'.files = w.files)
    (hholder : ∀ q, q ≠ p → w.holder = some q → w'.holder = some q)
    (hwrites : writes past' = writes past) (hreturns : returns past' = returns past)
    (hfits : Fits sha verifier zeroSha256 past w.files w'.holder p phase)
    (hpending : ∀ d, phase.pending = some d → (w.phase p).pending = some d) :
    Exclusive sha verifier zeroSha256 past' w' := by
  have hkept : Kept sha verifier zeroSha256 past' w'.files := by
    obtain ⟨h1, h2, h3, h4, h5, h6⟩ := h.kept
    rw [hfiles]
    exact ⟨hwrites ▸ h1, hwrites ▸ h2, hwrites ▸ h3, hwrites ▸ h4,
      by rw [hwrites, hreturns]; exact h5, hreturns ▸ h6⟩
  refine h.move hphase ?_ (fun q hq hold => ⟨hholder q hq hold, hfiles⟩) ?_ ?_
    (fun d hd => .inl (hpending d hd)) hkept
  · rw [hfiles]
    exact hfits.transfer (fun hold => ⟨hold, rfl⟩) (fun d hd => hwrites ▸ hd)
      fun d _ hd => hreturns ▸ hd
  · exact fun d hd => hwrites ▸ hd
  · exact fun q d _ _ hd => hreturns ▸ hd

/-- A call that ends gives its lock back. -/
theorem Exclusive.leave
    (hwrites : writes past' = writes past) (hreturns : returns past' = returns past) :
    Exclusive sha verifier zeroSha256 past' (w.leave p) := by
  refine h.quiet (p := p) rfl rfl ?_ hwrites hreturns trivial nofun
  intro q hq hold
  unfold World.leave
  dsimp only
  rw [if_neg]
  · exact hold
  · rw [hold]
    exact fun heq => hq (Option.some.inj heq)

/-- Nothing happens. -/
theorem Exclusive.stay
    (hwrites : writes past' = writes past) (hreturns : returns past' = returns past) :
    Exclusive sha verifier zeroSha256 past' w :=
  h.quiet (p := 0) (update_eq_self 0 w.phase).symm rfl (fun _ _ hold => hold) hwrites
    hreturns (h.fits 0) fun _ hd => hd

/-- A waiting process takes the free lock. -/
theorem Exclusive.lock (hphase : w.phase p = .waiting call batch) (hfree : w.holder = none)
    (hw : writes past' = writes past) (hr : returns past' = returns past) :
    Exclusive sha verifier zeroSha256 past'
      { w.enter p (.locked call batch) with holder := some p } := by
  have hfits := h.fits p
  rw [hphase] at hfits
  refine h.quiet rfl rfl ?_ hw hr ⟨hfits, rfl⟩ nofun
  intro q _ hold
  rw [hfree] at hold
  cases hold

/-- The holder creates its file, which records nothing yet. -/
theorem Exclusive.create
    (hphase : w.phase p = .decided d) (hfree : nameOf sha d ∉ w.files.map (·.name))
    (hw : writes past' = writes past) (hr : returns past' = returns past) :
    Exclusive sha verifier zeroSha256 past' { w.enter p (.created d) with
      files := w.files ++ [⟨nameOf sha d, .error emptyFile⟩] } := by
  have hfits := h.fits p
  rw [hphase] at hfits
  obtain ⟨hholder, hdecided⟩ := hfits
  refine h.move (p := p) rfl ⟨hholder, w.files, rfl, hfree, hdecided⟩
    (fun q hq hold => alone hholder hq hold) ?_ ?_ nofun ?_
  · exact fun e he => hw ▸ he
  · exact fun q e _ _ he => hr ▸ he
  · obtain ⟨h1, h2, h3, h4, h5, h6⟩ := h.kept.create (nameOf sha d)
    exact ⟨hw ▸ h1, hw ▸ h2, hw ▸ h3, hw ▸ h4, by rw [hw, hr]; exact h5, hr ▸ h6⟩

/-- The holder writes its file: the one step that records challenges. -/
theorem Exclusive.write (hphase : w.phase p = .created d) (hw : writes past' = writes past ++ [d])
    (hr : returns past' = returns past) :
    Exclusive sha verifier zeroSha256 past' { w.enter p (.written d) with
      files := w.files.map (StoreFile.fill sha d) } := by
  have hfits := h.fits p
  rw [hphase] at hfits
  obtain ⟨hholder, older, hfiles, hfree, hdecided⟩ := hfits
  have hfilled : w.files.map (StoreFile.fill sha d)
      = older ++ [⟨nameOf sha d, .ok d.reservation⟩] := by
    rw [hfiles, map_fill hfree]
  have hkept := h.kept
  rw [hfiles] at hkept
  have hnew : d ∉ writes past := hkept.not_written hdecided
  refine h.move (p := p) rfl ?_
    (fun q hq hold => alone hholder hq hold) ?_ ?_ (fun e he => .inr ?_) ?_
  · refine ⟨hholder, ?_, ?_⟩
    · rw [hw]
      exact mem_append_right _ (mem_singleton.mpr rfl)
    · rw [hr]
      exact fun hd => hnew (h.kept.returned d hd)
  · intro e he
    rw [hw]
    exact mem_append_left _ he
  · exact fun q e _ _ he => hr ▸ he
  · cases he
    exact hnew
  · dsimp only
    rw [hfilled]
    exact hkept.write hdecided hw hr

/-- The holder gives the lock back. -/
theorem Exclusive.unlock (hphase : w.phase p = .written d) (hw : writes past' = writes past)
    (hr : returns past' = returns past) :
    Exclusive sha verifier zeroSha256 past' { w.enter p (.unlocked d) with holder := none } := by
  have hfits := h.fits p
  rw [hphase] at hfits
  refine h.quiet rfl rfl (fun q hq hold => alone hfits.1 hq hold) hw hr hfits.2 ?_
  rw [hphase]
  exact fun e he => he

/-- A call that has written returns, once. -/
theorem Exclusive.finish (hphase : w.phase p = .unlocked d) (hw : writes past' = writes past)
    (hr : returns past' = returns past ++ [d]) :
    Exclusive sha verifier zeroSha256 past' (w.enter p .idle) := by
  have hfits := h.fits p
  rw [hphase] at hfits
  refine h.move (p := p) rfl trivial (fun q _ hold => ⟨hold, rfl⟩) ?_ ?_ nofun
    (h.kept.finish hfits.1 hfits.2 hw hr)
  · exact fun e he => hw ▸ he
  · intro q e hq hqe he
    rw [hr]
    intro hmem
    rcases mem_append.mp hmem with hold | hlast
    · exact he hold
    · obtain rfl := mem_singleton.mp hlast
      exact hq (h.apart q p e hqe (by rw [hphase]; rfl))

end

/-- Step lemma: every action keeps to the phase of its own call. -/
theorem Exclusive.step (h : Exclusive sha verifier zeroSha256 past w) (input : ℕ × Action D) :
    Exclusive sha verifier zeroSha256
      (past ++ [Machine.event (step sha verifier zeroSha256) w input])
      (Control.step sha verifier zeroSha256 w input).2 := by
  obtain ⟨p, action⟩ := input
  have hw := writes_snoc past (Machine.event (Control.step sha verifier zeroSha256) w (p, action))
  have hr := returns_snoc past (Machine.event (Control.step sha verifier zeroSha256) w (p, action))
  generalize past ++ [Machine.event (Control.step sha verifier zeroSha256) w (p, action)] = past'
    at hw hr ⊢
  unfold Machine.event at hw hr
  dsimp only at hw hr
  have hfits := h.fits p
  generalize hres : Control.step sha verifier zeroSha256 w (p, action) = res at hw hr ⊢
  unfold Control.step at hres
  dsimp only at hres
  split at hres
  · -- call
    split at hres
    · subst hres
      exact h.stay (by simpa using hw) (by simpa using hr)
    · rename_i batch henter
      subst hres
      exact h.quiet rfl rfl (fun _ _ hold => hold) (by simpa using hw) (by simpa using hr) henter
        nofun
  · -- lock
    rename_i hphase
    split at hres
    · rename_i hfree
      subst hres
      exact h.lock hphase hfree (by simpa using hw) (by simpa using hr)
    · subst hres
      exact h.stay (by simpa using hw) (by simpa using hr)
  · -- decide
    rename_i hphase
    rw [hphase] at hfits
    split at hres
    · subst hres
      exact h.leave (by simpa using hw) (by simpa using hr)
    · rename_i hdecide
      subst hres
      exact h.quiet rfl rfl (fun _ _ hold => hold) (by simpa using hw) (by simpa using hr)
        ⟨hfits.2, hfits.1, hdecide⟩ nofun
  · -- create
    rename_i hphase
    split at hres
    · subst hres
      exact h.leave (by simpa using hw) (by simpa using hr)
    · rename_i hfree
      subst hres
      exact h.create hphase hfree (by simpa using hw) (by simpa using hr)
  · -- write
    rename_i hphase
    subst hres
    exact h.write hphase (by simpa using hw) (by simpa using hr)
  · -- unlock
    rename_i hphase
    subst hres
    exact h.unlock hphase (by simpa using hw) (by simpa using hr)
  · -- finish
    rename_i hphase
    split at hres
    · subst hres
      exact h.finish hphase (by simpa using hw) (by simpa using hr)
    · -- the file is read again, which may raise
      split at hres
      · subst hres
        exact h.quiet (p := p) rfl rfl (fun _ _ hold => hold) (by simpa using hw)
          (by simpa using hr) trivial nofun
      · subst hres
        exact h.finish hphase (by simpa using hw) (by simpa using hr)
  · subst hres
    exact h.stay (by simpa using hw) (by simpa using hr)
  · -- fail
    subst hres
    exact h.leave (by simpa using hw) (by simpa using hr)
  · subst hres
    exact h.stay (by simpa using hw) (by simpa using hr)

/-! ## Runs -/

/-- No process is in a call. -/
def World.start (files : List (StoreFile D)) : World D := ⟨files, none, fun _ => .idle⟩

theorem exclusive_start : Exclusive sha verifier zeroSha256 ([] : Past D) (World.start files) :=
  ⟨fun _ => trivial, nofun, ⟨nofun, .nil, nofun, nofun, nofun, .nil⟩⟩

theorem exclusive_run (sha : ControlSha D) (verifier : Verifier D) (zeroSha256 : D)
    (files : List (StoreFile D)) (inputs : List (ℕ × Action D)) : Exclusive sha verifier zeroSha256
      (Machine.trace (step sha verifier zeroSha256) (World.start files) inputs)
      (Machine.final (step sha verifier zeroSha256) (World.start files) inputs) := by
  have hstep : ∀ past w input, Exclusive sha verifier zeroSha256 past w → True →
      Exclusive sha verifier zeroSha256
        (past ++ [Machine.event (step sha verifier zeroSha256) w input])
        (step sha verifier zeroSha256 w input).2 :=
    fun _ _ input h _ => h.step input
  exact Machine.trace_induction hstep exclusive_start fun _ _ => trivial

/-- Only a call that has created its file writes, and it writes its own
reservation. -/
theorem step_wrote {input : ℕ × Action D} : (step sha verifier zeroSha256 w input).1 = .wrote d ↔
      input.2 = .write ∧ w.phase input.1 = .created d := by
  obtain ⟨p, action⟩ := input
  unfold step
  dsimp only
  split
  · -- call
    split <;> simp
  · -- lock
    split <;> simp
  · -- decide
    split <;> simp
  · -- create
    split <;> simp
  · -- write
    rename_i d' hphase
    simp [hphase]
  · -- unlock
    simp
  · -- finish
    split
    · simp
    · split <;> simp
  · simp
  · simp
  · -- a write in another phase
    rename_i hwrite _ _ _
    simp only [reduceCtorEq, false_iff]
    rintro ⟨rfl, hphase⟩
    exact hwrite d hphase rfl

/-- A step that changes the files creates the file of a decided call, or writes
it. -/
theorem step_files {input : ℕ × Action D}
    (h : (step sha verifier zeroSha256 w input).2.files ≠ w.files) :
    (input.2 = .create ∧ ∃ d, w.phase input.1 = .decided d) ∨
      (input.2 = .write ∧ ∃ d, w.phase input.1 = .created d) := by
  obtain ⟨p, action⟩ := input
  revert h
  unfold step
  dsimp only
  split
  · -- call
    split <;> exact fun h => absurd rfl h
  · -- lock
    split <;> exact fun h => absurd rfl h
  · -- decide
    split <;> exact fun h => absurd rfl h
  · -- create
    rename_i d hphase
    exact fun _ => .inl ⟨rfl, d, hphase⟩
  · -- write
    rename_i d hphase
    exact fun _ => .inr ⟨rfl, d, hphase⟩
  · exact fun h => absurd rfl h
  · -- finish
    split
    · exact fun h => absurd rfl h
    · split <;> exact fun h => absurd rfl h
  · exact fun h => absurd rfl h
  · exact fun h => absurd rfl h
  · exact fun h => absurd rfl h

/-- Challenges are single-use in a run that has left these files. -/
structure SingleUse (sha : ControlSha D) (run : Past D) (files : List (StoreFile D)) : Prop where
  /-- Two calls that have returned use no challenge in common. -/
  disjoint : (returns run).Pairwise fun d e => (layers sha d.batch).Disjoint (layers sha e.batch)
  /-- Every challenge of a returned call is recorded in exactly one file. -/
  recorded : ∀ d ∈ returns run, ∀ c ∈ layers sha d.batch, RecordedOnce files c
  /-- Files change when a decided call creates its file and when it writes it, so a
  call that raises before has changed none. -/
  unchanged : ∀ event ∈ run, event.post.files ≠ event.pre.files →
    (event.input.2 = .create ∧ ∃ d, event.pre.phase event.input.1 = .decided d) ∨
      (event.input.2 = .write ∧ ∃ d, event.pre.phase event.input.1 = .created d)
  /-- Every file that a call has written is accepted by the reader. -/
  accepted : ∀ d ∈ writes run, ∃ file ∈ files, file.name = nameOf sha d ∧
    readReservation sha file = .ok d.reservation

/-- A call that is about to write was given a positive time. -/
def Timed (w : World D) (input : ℕ × Action D) : Prop :=
  input.2 = .write → ∀ d, w.phase input.1 = .created d → 1 ≤ d.batch.nowNs

/-- The writes of a run are those of the calls that had created their file. -/
theorem mem_writes {inputs : List (ℕ × Action D)} :
    d ∈ writes (Machine.trace (step sha verifier zeroSha256) w inputs) ↔
      ∃ event ∈ Machine.trace (step sha verifier zeroSha256) w inputs,
        event.input.2 = .write ∧ event.pre.phase event.input.1 = .created d := by
  unfold writes
  rw [mem_filterMap]
  refine exists_congr fun event => and_congr_right fun hevent => ?_
  rw [← step_wrote, Machine.eq_event_of_mem_trace hevent]
  unfold Machine.event
  dsimp only
  cases (step sha verifier zeroSha256 event.pre event.input).1 <;> simp [Output.written]

/-- Whatever the calls are and however they interleave: challenges are single-use
if and only if no call writes a reservation whose time is not positive. -/
theorem single_use_iff (sha : ControlSha D) (verifier : Verifier D) (zeroSha256 : D)
    (files : List (StoreFile D)) (inputs : List (ℕ × Action D)) :
    SingleUse sha (Machine.trace (step sha verifier zeroSha256) (World.start files) inputs)
        (Machine.final (step sha verifier zeroSha256) (World.start files) inputs).files ↔
      ∀ event ∈ Machine.trace (step sha verifier zeroSha256) (World.start files) inputs,
        Timed event.pre event.input := by
  have h := exclusive_run sha verifier zeroSha256 files inputs
  constructor
  · intro huse event hevent hwrite d hcreated
    have hd := mem_writes.mpr ⟨event, hevent, hwrite, hcreated⟩
    obtain ⟨older, hdecided⟩ := h.kept.decided d hd
    obtain ⟨file, -, -, hread⟩ := huse.accepted d hd
    rw [← hdecided.decides.time]
    exact (readReservation_eq_ok.mp hread).2.2.1
  · intro htimed
    have hlayers : ∀ d ∈ returns (Machine.trace (step sha verifier zeroSha256)
        (World.start files) inputs), ∀ c, c ∈ d.reservation.challengeSha256s ↔
          c ∈ layers sha d.batch := by
      intro d hd
      obtain ⟨older, hdecided⟩ := h.kept.decided d (h.kept.returned d hd)
      exact hdecided.decides.mem
    refine ⟨?_, ?_, ?_, ?_⟩
    · -- returned calls are distinct writes
      have hsymm : Std.Symm fun d e : Decided D =>
          d.reservation.challengeSha256s.Disjoint e.reservation.challengeSha256s :=
        ⟨fun _ _ hde => hde.symm⟩
      refine h.kept.once.pairwise_of_forall_ne ?_
      intro d hd e he hne c hc hc'
      exact h.kept.disjoint.forall (h.kept.returned d hd) (h.kept.returned e he) hne
        ((hlayers d hd c).mpr hc) ((hlayers e he c).mpr hc')
    · intro d hd c hc
      exact h.kept.recorded d (h.kept.returned d hd) c ((hlayers d hd c).mpr hc)
    · intro event hevent hchanged
      have hstep := Machine.eq_event_of_mem_trace hevent
      rw [hstep] at hchanged
      exact step_files hchanged
    · intro d hd
      obtain ⟨event, hevent, hwrite, hcreated⟩ := mem_writes.mp hd
      have htime := htimed event hevent hwrite d hcreated
      obtain ⟨older, hdecided⟩ := h.kept.decided d hd
      have hd' := hdecided.decides
      refine ⟨_, h.kept.stored d hd, rfl, readReservation_eq_ok.mpr ⟨rfl, hd'.size, ?_,
        hd'.nonempty, hd'.length, hd'.canonical⟩⟩
      rw [hd'.time]
      exact htime

end

/-! ## A reservation of time zero -/

open Content

instance : Content (AttestationChallenge Digest) :=
  ofFields (fun c => (c.challengeId, c.nonceBase64, c.subjectSha256, c.issuedNs, c.expiresNs))

instance : Content (TrustedAttesterPolicyBundle Digest) :=
  ofFields (fun b => (b.sha256, b.trustedAttesterPolicySha256, b.validFromNs, b.expiresNs,
      b.hardwareEnvelopeSha256Allowlist, b.minimumLifetimeNs, b.maximumLifetimeNs,
      b.maximumClockSkewNs))

instance : Content (DeploymentPolicyAuthorization Digest) :=
  ofFields (fun a => (a.rootManifestSha256, a.inventorySha256, a.bundle, a.challenge,
      a.signatureBase64))

instance : Content (ControlArtifactAttestation Digest) :=
  ofFields (fun e => (e.artifactType, e.artifactSha256, e.hardwareEnvelopeSha256,
      e.trustAnchorSha256, e.trustBundleSha256, e.trustedAttesterPolicySha256,
      e.deploymentPolicyAuthorization, e.challenge, e.attestation))

instance : Content (Reservation Digest) :=
  ofFields (fun r => (r.reservedNs, r.challengeSha256s))

def freeControlSha : ControlSha Digest := ⟨digest, digest, digest, digest⟩

/-- A release root whose signatures are all good. -/
def sampleVerifier : Verifier Digest where
  rootBinding := .ok (.text "manifest", .text "root")
  rootSignature _ := .ok ()
  verifyRelease _ _ := .ok ()

/-- A challenge that is issued at time zero and lives five minutes. -/
def sampleChallenge (challengeId : String) : AttestationChallenge Digest where
  challengeId := challengeId
  nonceBase64 := "AAAAAAAAAAAAAAAAAAAAAAAAAAAAAAAAAAAAAAAAAAA="
  subjectSha256 := .text "subject"
  issuedNs := 0
  expiresNs := 300000000000
  nonnegative := by decide
  ordered := by decide

def sampleEnvelope : ControlArtifactAttestation Digest where
  artifactType := "dispatch"
  artifactSha256 := .text "artifact"
  hardwareEnvelopeSha256 := .text "hardware"
  trustAnchorSha256 := .text "root"
  trustBundleSha256 := .text "bundle"
  trustedAttesterPolicySha256 := .text "policy"
  deploymentPolicyAuthorization := {
    rootManifestSha256 := .text "manifest"
    inventorySha256 := .text "inventory"
    bundle := {
      sha256 := .text "bundle"
      trustedAttesterPolicySha256 := .text "policy"
      validFromNs := 0
      expiresNs := 600000000000
      hardwareEnvelopeSha256Allowlist := [.text "hardware"]
      minimumLifetimeNs := 1000000000
      maximumLifetimeNs := 600000000000
      maximumClockSkewNs := 30000000000 }
    challenge := sampleChallenge "deployment"
    signatureBase64 := "c2ln" }
  challenge := sampleChallenge "artifact"
  attestation := "attestation"

def batchAtZero : Batch Digest := ⟨[sampleEnvelope], .text "inventory", 0, []⟩

/-- One process, one call, at time zero. -/
def actionsAtZero : List (ℕ × Action Digest) :=
  [(0, .call (.verifyAndReserve batchAtZero)), (0, .lock), (0, .decide), (0, .create), (0, .write),
    (0, .unlock), (0, .finish)]

/-- A call at time zero returns, and the reader does not accept its file. -/
theorem single_use_fails_at_zero :
    ¬ SingleUse freeControlSha
      (Machine.trace (step freeControlSha sampleVerifier (.text "")) (World.start []) actionsAtZero)
      (Machine.final (step freeControlSha sampleVerifier (.text "")) (World.start [])
        actionsAtZero).files := by
  intro h
  have hrejected : ∃ d ∈ writes (Machine.trace (step freeControlSha sampleVerifier (.text ""))
      (World.start []) actionsAtZero),
      ∀ file ∈ (Machine.final (step freeControlSha sampleVerifier (.text "")) (World.start [])
        actionsAtZero).files, readReservation freeControlSha file ≠ .ok d.reservation := by
    decide +kernel
  obtain ⟨d, hd, hrejected⟩ := hrejected
  obtain ⟨file, hfile, -, hread⟩ := h.accepted d hd
  exact hrejected file hfile hread

end Control
