import LightConeSpec.Pool.Recorded

/-!
# What the writer of a journal appends

`Tracks` says that the fields of the writer agree with its files. A writing
method that returns keeps it. One that raises keeps it too, unless the disk tore
the file or raised after the file was whole: then the writer is stuck, and the
files are still what `Recorded` says if they replay at all.
-/

namespace Pool

open Python Intervals Method

variable {D : Type} [DecidableEq D]

/-! ## Appending -/

def JournalState.nextFile (s : JournalState D) (digest : D) (body : Option (JournalEvent D)) :
    JournalFile D :=
  ⟨s.eventNames.length, digest, body⟩

def JournalState.appended (s : JournalState D) (event : JournalEvent D) (digest : D) :
    JournalState D :=
  { s with
    writes := s.writes + 1
    files := s.files ++ [s.nextFile digest (some event)]
    eventNames := s.eventNames ++ [(s.eventNames.length, digest)]
    eventSha256s := s.eventSha256s ++ [digest] }

/-- The journal after an append that raised. -/
inductive Spoiled (s : JournalState D) (event : JournalEvent D) (digest : D) :
    JournalState D → Prop
  | same : Spoiled s event digest s
  | refused : Spoiled s event digest { s with writes := s.writes + 1 }
  | torn (h : s.disk s.writes = .torn) : Spoiled s event digest { s with
      writes := s.writes + 1, files := s.files ++ [s.nextFile digest none] }
  | unsynced (h : s.disk s.writes = .unsynced) : Spoiled s event digest { s with
      writes := s.writes + 1, files := s.files ++ [s.nextFile digest (some event)] }

theorem appendEvent_cases (sha : JournalSha D) (event : JournalEvent D) (s : JournalState D) :
    DispatchAttemptJournal.appendEvent sha event s
        = (.ok (sha.event event), s.appended event (sha.event event)) ∨
      ∃ e t, DispatchAttemptJournal.appendEvent sha event s = (.error e, t) ∧
        Spoiled s event (sha.event event) t := by
  unfold DispatchAttemptJournal.appendEvent
  rw [read_bind]
  cases hverify : DispatchAttemptJournal.verifyCachedHead sha (id s) with
  | error e => exact .inr ⟨e, s, check_bind_error rfl _ _, .same⟩
  | ok u =>
    rw [check_bind_ok rfl]
    cases hdisk : s.disk s.writes with
    | written =>
      refine .inl ?_
      rw [bind_apply_ok (a := ()) (t := s.appended event (sha.event event))]
      · rfl
      · simp [JournalState.write, hdisk, JournalState.appended, JournalState.nextFile]
    | refused =>
      refine .inr ⟨⟨.osError, "write"⟩, _, bind_apply_error ?_, .refused⟩
      simp only [JournalState.write, hdisk]
    | torn =>
      refine .inr ⟨⟨.osError, "write"⟩, _, bind_apply_error ?_, .torn hdisk⟩
      simp only [JournalState.write, hdisk, JournalState.nextFile]
    | unsynced =>
      refine .inr ⟨⟨.osError, "fsync"⟩, _, bind_apply_error ?_, .unsynced hdisk⟩
      simp only [JournalState.write, hdisk, JournalState.nextFile]

/-! ## The fields of the writer -/

/-- The cached names and digests are those of the files. -/
structure Cached (sha : JournalSha D) (journal : DispatchAttemptJournal D)
    (finished : Finished D) (s : JournalState D) (st : ReplayState D) : Prop
    extends Recorded sha journal finished s.files st where
  names : s.eventNames = s.files.map fun file => (file.sequence, file.declaredSha256)
  digests : s.eventSha256s = st.eventSha256s

/-- The fields of the writer agree with its files. -/
structure Tracks (sha : JournalSha D) (journal : DispatchAttemptJournal D)
    (finished : Finished D) (s : JournalState D) (st : ReplayState D) : Prop
    extends Cached sha journal finished s st where
  tokens : ∀ d, st.incomplete.get? d = (s.openTokens.get? d).map openIntent

/-- Writes are atomic: the whole file is written, or nothing is and the write
raises. -/
def Atomic (s : JournalState D) : Prop := ∀ n, s.disk n = .written ∨ s.disk n = .refused

/-- The files hold one that the writer does not know of, so it appends no more. -/
def Stuck (s : JournalState D) : Prop := s.eventNames.length < s.files.length

/-- If the files replay, they are the record of the calls. -/
def Recoverable (sha : JournalSha D) (journal : DispatchAttemptJournal D)
    (finished : Finished D) (files : List (JournalFile D)) : Prop :=
  ∀ st, journal.replayFiles sha files = .ok st → Recorded sha journal finished files st

/-- A method that raised has written nothing. -/
structure Unwritten (s t : JournalState D) : Prop where
  files : t.files = s.files
  names : t.eventNames = s.eventNames
  digests : t.eventSha256s = s.eventSha256s
  openTokens : t.openTokens = s.openTokens
  preissued : t.preissuedAssignmentTokens = s.preissuedAssignmentTokens

/-- What an append that raised leaves: it has written nothing, or the files hold
what it meant to write. -/
def Failed (sha : JournalSha D) (journal : DispatchAttemptJournal D) (finished' : Finished D)
    (s t : JournalState D) : Prop :=
  Unwritten s t ∨ ¬Atomic t ∧ Stuck t ∧ Recoverable sha journal finished' t.files

/-- What a method that raises leaves: it has done nothing, or the files hold what
it meant to write. -/
def Survives (sha : JournalSha D) (journal : DispatchAttemptJournal D)
    (finished finished' : Finished D) (s : JournalState D) : Prop :=
  (∃ st, Tracks sha journal finished s st) ∨
    ¬Atomic s ∧ Stuck s ∧ Recoverable sha journal finished' s.files

variable {sha : JournalSha D} {journal : DispatchAttemptJournal D}
  {finished finished' : Finished D} {s t : JournalState D} {st : ReplayState D}

theorem tracks_new (disk : ℕ → WriteOutcome) :
    Tracks sha journal [] (JournalState.new disk) {} where
  toRecorded := recorded_nil
  names := rfl
  digests := rfl
  tokens := fun _ => rfl

theorem Recorded.recoverable {files : List (JournalFile D)}
    (h : Recorded sha journal finished files st) : Recoverable sha journal finished files := by
  intro st' hst'
  obtain rfl : st = st' := Except.ok.inj (h.replays.symm.trans hst')
  exact h

variable {wave : PlannedWave D}

section

variable (h : Cached sha journal finished s st)

include h

theorem Cached.length_eventSha256s : st.eventSha256s.length = s.files.length := by
  rw [(numbered_of_replayFiles h.replays).digests, List.length_map]

theorem Cached.length_eventNames : s.eventNames.length = s.files.length := by
  rw [h.names, List.length_map]

/-- The writer identifies its events as the reader expects them. -/
theorem Cached.identified (hplanned : journal.plan.waves[wave.waveIndex]? = some wave)
    (payload : EventPayload D) :
    Identified journal st (journal.eventCommon wave payload s) wave where
  schemaVersion := rfl
  kind := rfl
  manifest := rfl
  sequence := h.length_eventNames.trans h.length_eventSha256s.symm
  previous := congrArg List.getLast? h.digests
  planSha256 := rfl
  context := rfl
  inventory := rfl
  planned := hplanned
  waveSha256 := rfl

/-- The files with an event that the reader accepts. -/
theorem Cached.replays_append (hplanned : journal.plan.waves[wave.waveIndex]? = some wave)
    {payload : EventPayload D} {st' : ReplayState D}
    (hreplays : Replays sha journal st wave (sha.event (journal.eventCommon wave payload s))
      payload st') : journal.replayFiles sha (s.files ++ [s.nextFile
        (sha.event (journal.eventCommon wave payload s))
        (some (journal.eventCommon wave payload s))])
      = .ok (st'.noted (sha.event (journal.eventCommon wave payload s))) := by
  rw [replayFiles_snoc, h.replays]
  refine replayFile_eq_ok.mpr ⟨?_, _, wave, st', rfl, rfl, h.identified hplanned payload, hreplays,
    rfl⟩
  exact h.length_eventNames.trans h.length_eventSha256s.symm

end

/-- A torn file is not read. -/
theorem not_replays_torn {files : List (JournalFile D)} {file : JournalFile D}
    (h : file.body = none) (st : ReplayState D) :
    journal.replayFiles sha (files ++ [file]) ≠ .ok st := by
  rw [replayFiles_snoc]
  intro hok
  obtain ⟨_, -, hfile⟩ := bind_eq_ok.mp hok
  obtain ⟨-, event, -, -, hbody, -⟩ := replayFile_eq_ok.mp hfile
  rw [h] at hbody
  cases hbody

/-- A state with the same record. -/
theorem Tracks.congr (h : Tracks sha journal finished s st) (hfiles : t.files = s.files)
    (hnames : t.eventNames = s.eventNames) (hdigests : t.eventSha256s = s.eventSha256s)
    (htokens : t.openTokens = s.openTokens) : Tracks sha journal finished t st where
  toRecorded := hfiles ▸ h.toRecorded
  names := by rw [hnames, hfiles, h.names]
  digests := hdigests.trans h.digests
  tokens := fun d => by rw [htokens, h.tokens]

/-- An append that raised. -/
theorem Tracks.failed (h : Tracks sha journal finished s st) {event : JournalEvent D} {digest : D}
    (hrecoverable : Recoverable sha journal finished' (s.files ++ [s.nextFile digest (some event)]))
    (hspoiled : Spoiled s event digest t) : Failed sha journal finished' s t := by
  have hlength := h.length_eventNames
  cases hspoiled with
  | same => exact .inl ⟨rfl, rfl, rfl, rfl, rfl⟩
  | refused => exact .inl ⟨rfl, rfl, rfl, rfl, rfl⟩
  | torn hdisk =>
    refine .inr ⟨fun hatomic => ?_, ?_, fun st' hst' => ?_⟩
    · rcases hatomic s.writes with hw | hw <;> exact absurd (hdisk.symm.trans hw) nofun
    · simp [Stuck, hlength]
    · exact absurd hst' (not_replays_torn rfl st')
  | unsynced hdisk =>
    refine .inr ⟨fun hatomic => ?_, ?_, hrecoverable⟩
    · rcases hatomic s.writes with hw | hw <;> exact absurd (hdisk.symm.trans hw) nofun
    · simp [Stuck, hlength]

theorem Tracks.unwritten (h : Tracks sha journal finished s st) (hsame : Unwritten s t) :
    Tracks sha journal finished t st :=
  h.congr hsame.files hsame.names hsame.digests hsame.openTokens

theorem Failed.survives (h : Failed sha journal finished' s t)
    (htracks : Tracks sha journal finished s st) : Survives sha journal finished finished' t := by
  rcases h with hsame | hstuck
  · exact .inl ⟨st, htracks.unwritten hsame⟩
  · exact .inr hstuck

/-- An append of an event that the reader accepts. -/
theorem Tracks.append (h : Tracks sha journal finished s st) {payload : EventPayload D}
    {st' : ReplayState D}
    (hreplays : Replays sha journal st wave (sha.event (journal.eventCommon wave payload s))
      payload st') (hnext : Recorded sha journal finished'
      (s.files ++ [s.nextFile (sha.event (journal.eventCommon wave payload s))
        (some (journal.eventCommon wave payload s))])
      (st'.noted (sha.event (journal.eventCommon wave payload s)))) :
    MeetsAt (DispatchAttemptJournal.appendEvent sha (journal.eventCommon wave payload s)) s
      fun result t =>
        (∀ digest, result = .ok digest →
          digest = sha.event (journal.eventCommon wave payload s) ∧
          t = s.appended (journal.eventCommon wave payload s) digest ∧
          Cached sha journal finished' t (st'.noted digest)) ∧
        (∀ e, result = .error e → Failed sha journal finished' s t) := by
  unfold MeetsAt
  rcases appendEvent_cases sha (journal.eventCommon wave payload s) s with
    happend | ⟨e, t, happend, hspoiled⟩
  · rw [happend]
    refine ⟨fun digest hdigest => ?_, nofun⟩
    obtain rfl := Except.ok.inj hdigest
    refine ⟨rfl, rfl, hnext, ?_, ?_⟩
    · show s.eventNames ++ [_] = (s.files ++ [_]).map _
      rw [List.map_append, ← h.names]
      rfl
    · show s.eventSha256s ++ [_] = st'.eventSha256s ++ [_]
      rw [h.digests, hreplays.eventSha256s]
  · rw [happend]
    exact ⟨nofun, fun _ _ => h.failed hnext.recoverable hspoiled⟩

end Pool
