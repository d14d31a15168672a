import Mathlib.Data.List.Induction
import LightConeSpec.Control.ReservationBytes

/-!
# Crashes of a reservation

`_locked_verify_and_reserve`, one system call that changes the directory at a
time. A crash is the end of the list of calls made so far: what they left is what
the next call reads.

The reservation file is created under its final name and then filled by a write
loop, and the lock file is created before its mode is set. The mode of the reservation
file is never set, so what the mask clears of it stays cleared. `crash_atomic_iff` says
at which points a crash is harmless.
-/

namespace Control

open Python List

/-- The directory of a store: the permission bits of its lock file, and its
reservation files. -/
structure StoreDirectory where
  lock : Option (BitVec 12)
  files : List RawFile

namespace StoreDirectory

/-- The reservation files as the store reads them. -/
def storeFiles (isRoot : Bool) (dir : StoreDirectory) : List (StoreFile Sha256) :=
  dir.files.map (RawFile.read isRoot)

/-- The check of the lock file, which a call creates when it is missing. -/
def checkLock (dir : StoreDirectory) : Except Error Unit :=
  require (dir.lock = none ∨ dir.lock = some 0o600)
    (valueError "challenge replay lock must be one empty current-user 0600 regular file")

/-- The challenges that a call finds consumed. -/
def readStore (sha : ControlSha Sha256) (isRoot : Bool) (dir : StoreDirectory) :
    Except Error (List Sha256) := do
  dir.checkLock
  let records ← collect ((dir.storeFiles isRoot).map (readReservation sha))
  let consumed := records.flatMap (·.challengeSha256s)
  require consumed.Nodup (valueError "challenge replay store contains duplicate claims")
  pure consumed

end StoreDirectory

/-- Where a call of `_locked_verify_and_reserve` is. -/
inductive Progress
  | entering
  /-- The lock file has been created, and its mode is not set yet. -/
  | lockCreated
  | locked
  /-- The reservation file has been created; `size` of its bytes are written. -/
  | writing (record : Reservation Sha256) (size : ℕ)
  | written (record : Reservation Sha256)
  | returned (record : Reservation Sha256)
  | raised (error : Error)
deriving DecidableEq

/-- The mode of a file that `os.open(.., .. | O_CREAT | O_EXCL, 0o600)` creates under a
file mode mask. -/
def createdMode (umask : BitVec 12) : BitVec 12 := 0o600 &&& ~~~umask

/-- The file of a reservation when `size` of its bytes are written. -/
def partFile (sha : ControlSha Sha256) (umask : BitVec 12) (record : Reservation Sha256)
    (size : ℕ) : RawFile :=
  ⟨.reservation (sha.reservation record), createdMode umask, (canonicalBytes record).take size⟩

section

variable (sha : ControlSha Sha256) (verifier : Verifier Sha256) (isRoot : Bool)
  (umask : BitVec 12) (batch : Batch Sha256)

/-- The next system call of a call that changes the directory. `written` is what
`os.write` returns, if it is one. -/
def systemCall (state : Progress × StoreDirectory) (written : ℕ) : Progress × StoreDirectory :=
  match state with
  | (.entering, dir) =>
    match dir.lock with
    | none => (.lockCreated, { dir with lock := some (createdMode umask) })
    | some _ =>
      match dir.checkLock with
      | .error e => (.raised e, dir)
      | .ok () => (.locked, dir)
  | (.lockCreated, dir) => (.locked, { dir with lock := some 0o600 })
  | (.locked, dir) =>
    match decideReservation sha verifier batch (dir.storeFiles isRoot) with
    | .error e => (.raised e, dir)
    | .ok (_, record) =>
      -- `O_EXCL`
      if (partFile sha umask record 0).name ∈ dir.files.map (·.name) then
        (.raised ⟨.osError, "File exists"⟩, dir)
      else (.writing record 0, { dir with files := dir.files ++ [partFile sha umask record 0] })
  | (.writing record size, dir) =>
    let offset := min (size + written) (canonicalBytes record).length
    let files := dir.files.map fun file =>
      if file = partFile sha umask record size then partFile sha umask record offset else file
    if offset < (canonicalBytes record).length then
      (.writing record offset, { dir with files := files })
    else (.written record, { dir with files := files })
  | (.written record, dir) => (.returned record, dir)
  | (.returned record, dir) => (.returned record, dir)
  | (.raised e, dir) => (.raised e, dir)

/-- The call on a directory, up to a crash after as many system calls as there are
results. -/
def callUntil (dir : StoreDirectory) (results : List ℕ) : Progress × StoreDirectory :=
  results.foldl (systemCall sha verifier isRoot umask batch) (.entering, dir)

end

/-- The next call reads the store, and finds all challenges of the interrupted
batch consumed or none but those that were consumed before. -/
def CrashAtomic (sha : ControlSha Sha256) (isRoot : Bool) (batch : Batch Sha256)
    (consumed : List Sha256) (dir : StoreDirectory) : Prop :=
  ∃ found, dir.readStore sha isRoot = .ok found ∧
    ((∀ c, c ∈ found ↔ c ∈ consumed) ∨ ∀ c, c ∈ found ↔ c ∈ consumed ∨ c ∈ layers sha batch)

/-- The points at which a crash breaks the store: the lock file has no mode yet and
the mask clears a bit of it, the reservation file is not complete, or it is
complete and carries the time zero or may not be read. -/
def Torn (isRoot : Bool) (umask : BitVec 12) (batch : Batch Sha256) : Progress → Prop
  | .lockCreated => createdMode umask ≠ 0o600
  | .writing _ _ => True
  | .written _ | .returned _ => batch.nowNs = 0 ∨ mayRead isRoot (createdMode umask) = false
  | .entering | .locked | .raised _ => False

/-! ## What a call has left -/

section

variable {sha : ControlSha Sha256} {verifier : Verifier Sha256} {isRoot : Bool} {umask : BitVec 12}
  {zeroSha256 : Sha256} {batch : Batch Sha256} {before dir : StoreDirectory}
  {consumed : List Sha256} {record : Reservation Sha256} {size : ℕ} {progress : Progress}

/-- The call has decided on the record, and its file is new. -/
structure Reserves (sha : ControlSha Sha256) (isRoot : Bool) (umask : BitVec 12)
    (batch : Batch Sha256) (before : StoreDirectory) (record : Reservation Sha256) : Prop where
  decides : Decides sha batch (before.storeFiles isRoot) record
  fresh : (partFile sha umask record 0).name ∉ before.files.map (·.name)

/-- The directory at each point of a call. -/
inductive Reached (sha : ControlSha Sha256) (isRoot : Bool) (umask : BitVec 12)
    (batch : Batch Sha256) (before : StoreDirectory) : Progress → StoreDirectory → Prop
  | entering : Reached sha isRoot umask batch before .entering before
  | lockCreated :
      Reached sha isRoot umask batch before .lockCreated { before with lock := some (createdMode umask) }
  | locked {dir : StoreDirectory} (files : dir.files = before.files)
      (lock : dir.lock = none ∨ dir.lock = some 0o600) : Reached sha isRoot umask batch before .locked dir
  | raised {dir : StoreDirectory} (e : Error) (files : dir.files = before.files)
      (lock : dir.lock = none ∨ dir.lock = some 0o600) :
      Reached sha isRoot umask batch before (.raised e) dir
  | writing {dir : StoreDirectory} {record : Reservation Sha256} {size : ℕ}
      (reserves : Reserves sha isRoot umask batch before record)
      (lock : dir.lock = none ∨ dir.lock = some 0o600) (short : size < (canonicalBytes record).length)
      (files : dir.files = before.files ++ [partFile sha umask record size]) :
      Reached sha isRoot umask batch before (.writing record size) dir
  | written {dir : StoreDirectory} {record : Reservation Sha256}
      (reserves : Reserves sha isRoot umask batch before record)
      (lock : dir.lock = none ∨ dir.lock = some 0o600)
      (files : dir.files = before.files ++ [partFile sha umask record (canonicalBytes record).length]) :
      Reached sha isRoot umask batch before (.written record) dir
  | returned {dir : StoreDirectory} {record : Reservation Sha256}
      (reserves : Reserves sha isRoot umask batch before record)
      (lock : dir.lock = none ∨ dir.lock = some 0o600)
      (files : dir.files = before.files ++ [partFile sha umask record (canonicalBytes record).length]) :
      Reached sha isRoot umask batch before (.returned record) dir

theorem checkLock_eq_ok : dir.checkLock = .ok () ↔ dir.lock = none ∨ dir.lock = some 0o600 :=
  require_eq_ok

/-- A write replaces the file of the reservation and no other. -/
theorem map_writeFile (hfresh : (partFile sha umask record 0).name ∉ before.files.map (·.name))
    (size size' : ℕ) :
    (before.files ++ [partFile sha umask record size]).map (fun file =>
      if file = partFile sha umask record size then partFile sha umask record size' else file) =
      before.files ++ [partFile sha umask record size'] := by
  rw [map_append, map_singleton, if_pos rfl]
  refine congrArg (· ++ _) ?_
  have hother : ∀ file ∈ before.files, (if file = partFile sha umask record size then
      partFile sha umask record size' else file) = id file := by
    intro file hfile
    refine if_neg ?_
    rintro rfl
    exact hfresh (mem_map.mpr ⟨_, hfile, rfl⟩)
  rw [map_congr_left hother, map_id]

/-- One system call further. -/
theorem Reached.step {call : StoreCall Sha256} (henter : call.enter zeroSha256 = .ok batch)
    (hlock : before.lock = none ∨ before.lock = some 0o600)
    (h : Reached sha isRoot umask batch before progress dir) (written : ℕ) :
    Reached sha isRoot umask batch before (systemCall sha verifier isRoot umask batch (progress, dir) written).1
      (systemCall sha verifier isRoot umask batch (progress, dir) written).2 := by
  cases h with
  | entering =>
    cases hmode : before.lock with
    | none =>
      simp only [systemCall, hmode]
      exact .lockCreated
    | some mode =>
      have hok : before.checkLock = .ok () := checkLock_eq_ok.mpr hlock
      simp only [systemCall, hmode, hok]
      exact .locked rfl hlock
  | lockCreated => exact .locked rfl (.inr rfl)
  | locked hfiles hmode =>
    have hstore : dir.storeFiles isRoot = before.storeFiles isRoot := by
      rw [StoreDirectory.storeFiles, hfiles, StoreDirectory.storeFiles]
    cases hdecide : decideReservation sha verifier batch (dir.storeFiles isRoot) with
    | error e =>
      simp only [systemCall, hdecide]
      exact .raised e hfiles hmode
    | ok decided =>
      rcases decided with ⟨results, record⟩
      simp only [systemCall, hdecide]
      split
      · exact .raised _ hfiles hmode
      · -- the file is created empty
        rename_i hfresh
        rw [hstore] at hdecide
        rw [hfiles] at hfresh
        refine .writing ⟨decides henter hdecide, hfresh⟩ hmode ?_ ?_
        · rw [canonicalBytes, length_append, length_singleton]
          omega
        · exact congrArg (· ++ _) hfiles
  | @writing _ record size hreserves hmode hsize hfiles =>
    have hfilled := map_writeFile hreserves.fresh size
      (min (size + written) (canonicalBytes record).length)
    rw [← hfiles] at hfilled
    simp only [systemCall]
    split
    · rename_i hshort
      exact .writing hreserves hmode hshort hfilled
    · rename_i hwhole
      have hlength : min (size + written) (canonicalBytes record).length =
          (canonicalBytes record).length := by omega
      rw [hlength] at hfilled ⊢
      exact .written hreserves hmode hfilled
  | written hreserves hmode hfiles => exact .returned hreserves hmode hfiles
  | returned hreserves hmode hfiles => exact .returned hreserves hmode hfiles
  | raised e hfiles hmode => exact .raised e hfiles hmode

/-- Every crash point of a call on a directory whose lock file is usable. -/
theorem reached (sha : ControlSha Sha256) (verifier : Verifier Sha256) (isRoot : Bool)
    (umask : BitVec 12) (before : StoreDirectory) {call : StoreCall Sha256} (henter : call.enter zeroSha256 = .ok batch)
    (hlock : before.lock = none ∨ before.lock = some 0o600) (results : List ℕ) :
    Reached sha isRoot umask batch before (callUntil sha verifier isRoot umask batch before results).1
      (callUntil sha verifier isRoot umask batch before results).2 := by
  induction results using List.reverseRecOn with
  | nil => exact .entering
  | append_singleton results written ih =>
    rw [callUntil, foldl_append]
    exact ih.step henter hlock written

/-! ## What the next call reads -/

theorem readStore_eq_ok {found : List Sha256} : dir.readStore sha isRoot = .ok found ↔
      (dir.lock = none ∨ dir.lock = some 0o600) ∧ ∃ records : List (Reservation Sha256),
        (dir.storeFiles isRoot).map (readReservation sha) = records.map .ok ∧
          (records.flatMap (·.challengeSha256s)).Nodup ∧
            records.flatMap (·.challengeSha256s) = found := by
  simp only [StoreDirectory.readStore, StoreDirectory.checkLock, bind_eq_ok, collect_eq_ok,
    check_eq_ok, pure_eq_ok]

/-- A crash that left the files as they were is harmless. -/
theorem crashAtomic_of_files (hread : before.readStore sha isRoot = .ok consumed)
    (hlock : dir.lock = none ∨ dir.lock = some 0o600) (hfiles : dir.files = before.files) :
    CrashAtomic sha isRoot batch consumed dir := by
  have hstore : dir.storeFiles isRoot = before.storeFiles isRoot := by
    rw [StoreDirectory.storeFiles, hfiles, StoreDirectory.storeFiles]
  rcases readStore_eq_ok.mp hread with ⟨-, hrecords⟩
  rw [← hstore] at hrecords
  exact ⟨consumed, readStore_eq_ok.mpr ⟨hlock, hrecords⟩, .inl fun _ => Iff.rfl⟩

/-- A file that cannot be read makes the store unreadable. -/
theorem not_crashAtomic_of_file {file : RawFile} (hfile : file ∈ dir.files)
    (hunread : ∀ record, readReservation sha (file.read isRoot) ≠ .ok record) :
    ¬ CrashAtomic sha isRoot batch consumed dir := by
  rintro ⟨found, hfound, -⟩
  rcases readStore_eq_ok.mp hfound with ⟨-, records, hrecords, -⟩
  have hmem : readReservation sha (file.read isRoot) ∈ records.map Except.ok := by
    rw [← hrecords]
    exact mem_map_of_mem (mem_map_of_mem hfile)
  rcases mem_map.mp hmem with ⟨record, -, heq⟩
  exact hunread record heq.symm

section

variable (h : Reserves sha isRoot umask batch before record)

include h

theorem Reserves.time_nonneg : 0 ≤ record.reservedNs := by
  rw [h.decides.time]
  exact h.decides.nonnegative

theorem Reserves.part_unread
    (hsize : size < (canonicalBytes record).length) (found : Reservation Sha256) :
    readReservation sha ((partFile sha umask record size).read isRoot) ≠ .ok found := by
  intro hread
  have hcontent : (partFile sha umask record size).content isRoot = .ok found :=
    congrArg StoreFile.content (readReservation_eq_ok.mp hread).1
  exact content_proper_part h.time_nonneg hsize found hcontent

theorem Reserves.whole_content (hmode : mayRead isRoot (createdMode umask) = true) :
    (partFile sha umask record (canonicalBytes record).length).content isRoot = .ok record := by
  have hwhole : partFile sha umask record (canonicalBytes record).length =
      ⟨.reservation (sha.reservation record), createdMode umask, canonicalBytes record⟩ := by
    rw [partFile, take_length]
  rw [hwhole]
  exact content_canonicalBytes hmode h.decides.nonempty h.time_nonneg h.decides.size

/-- The complete file is read when it may be opened and carries a positive time. -/
theorem Reserves.whole_read (hmode : mayRead isRoot (createdMode umask) = true)
    (htime : 1 ≤ batch.nowNs) :
    readReservation sha ((partFile sha umask record (canonicalBytes record).length).read isRoot)
      = .ok record := by
  refine readReservation_eq_ok.mpr ⟨?_, h.decides.size, ?_, h.decides.nonempty, h.decides.length,
    h.decides.canonical⟩
  · exact congrArg (StoreFile.mk _) (h.whole_content hmode)
  · rw [h.decides.time]
    exact htime

theorem Reserves.whole_unread
    (htorn : batch.nowNs = 0 ∨ mayRead isRoot (createdMode umask) = false)
    (found : Reservation Sha256) :
    readReservation sha ((partFile sha umask record (canonicalBytes record).length).read isRoot)
      ≠ .ok found := by
  intro hread
  rcases readReservation_eq_ok.mp hread with ⟨hfile, -, hpositive, -⟩
  have hcontent : (partFile sha umask record (canonicalBytes record).length).content isRoot
      = .ok found := congrArg StoreFile.content hfile
  cases hmode : mayRead isRoot (createdMode umask) with
  | false => exact content_unreadable hmode found hcontent
  | true =>
    -- the file is read, so it is refused for its time
    rw [h.whole_content hmode] at hcontent
    have hsame := Except.ok.inj hcontent
    have hzero := h.decides.time
    rw [← hsame] at hpositive
    rcases htorn with htime | hclosed
    · omega
    · exact absurd (hclosed.symm.trans hmode) nofun

/-- With the complete file all challenges of the batch are consumed. -/
theorem Reserves.crashAtomic (hread : before.readStore sha isRoot = .ok consumed)
    (hlock : dir.lock = none ∨ dir.lock = some 0o600)
    (hfiles : dir.files = before.files ++ [partFile sha umask record (canonicalBytes record).length])
    (hmode : mayRead isRoot (createdMode umask) = true) (htime : 1 ≤ batch.nowNs) :
    CrashAtomic sha isRoot batch consumed dir := by
  rcases readStore_eq_ok.mp hread with ⟨-, records, hrecords, hnodup, rfl⟩
  have hall : (dir.storeFiles isRoot).map (readReservation sha) = (records ++ [record]).map .ok := by
    rw [StoreDirectory.storeFiles, hfiles, map_append, map_append, map_append,
      ← hrecords]
    exact congrArg (_ ++ [·]) (h.whole_read hmode htime)
  have hnodup' : record.challengeSha256s.Nodup := by
    rw [h.decides.canonical]
    exact nodup_sortedSet _
  have hdisjoint : ∀ c ∈ records.flatMap (·.challengeSha256s), c ∉ record.challengeSha256s := by
    intro c hc hnew
    rcases mem_flatMap.mp hc with ⟨old, hold, hc⟩
    have hmem : Except.ok old ∈ (before.storeFiles isRoot).map (readReservation sha) := by
      rw [hrecords]
      exact mem_map_of_mem hold
    rcases mem_map.mp hmem with ⟨file, hfile, hok⟩
    have hrecords' := h.decides.fresh c hnew file hfile
    rw [(readReservation_eq_ok.mp hok).1] at hrecords'
    exact absurd hc (of_decide_eq_false hrecords')
  refine ⟨_, readStore_eq_ok.mpr ⟨hlock, _, hall, ?_, rfl⟩, .inr ?_⟩
  · rw [flatMap_append, flatMap_singleton]
    exact nodup_append'.mpr ⟨hnodup, hnodup', fun c hc hnew => hdisjoint c hc hnew⟩
  · intro c
    rw [flatMap_append, flatMap_singleton, mem_append, h.decides.mem]

end

/-! ## The crash points -/

theorem whole_iff (hread : before.readStore sha isRoot = .ok consumed)
    (h : Reserves sha isRoot umask batch before record) (hlock : dir.lock = none ∨ dir.lock = some 0o600)
    (hfiles : dir.files = before.files ++ [partFile sha umask record (canonicalBytes record).length]) :
    CrashAtomic sha isRoot batch consumed dir ↔
      ¬ (batch.nowNs = 0 ∨ mayRead isRoot (createdMode umask) = false) := by
  constructor
  · intro hatomic htorn
    exact not_crashAtomic_of_file (by rw [hfiles]; simp) (h.whole_unread htorn) hatomic
  · intro hwhole
    rw [not_or, Bool.not_eq_false] at hwhole
    have hnonneg := h.decides.nonnegative
    exact h.crashAtomic hread hlock hfiles hwhole.2 (by omega)

theorem Reached.crashAtomic_iff (hread : before.readStore sha isRoot = .ok consumed)
    (hreached : Reached sha isRoot umask batch before progress dir) :
    CrashAtomic sha isRoot batch consumed dir ↔ ¬ Torn isRoot umask batch progress := by
  have hlock := (readStore_eq_ok.mp hread).1
  cases hreached with
  | entering => exact iff_of_true (crashAtomic_of_files hread hlock rfl) id
  | lockCreated =>
    constructor
    · rintro ⟨found, hfound, -⟩ hmode
      rcases (readStore_eq_ok.mp hfound).1 with hnone | hsome
      · cases hnone
      · exact hmode (Option.some.inj hsome)
    · intro hmode
      exact crashAtomic_of_files hread (.inr (congrArg some (not_not.mp hmode))) rfl
  | locked hfiles hmode => exact iff_of_true (crashAtomic_of_files hread hmode hfiles) id
  | raised e hfiles hmode => exact iff_of_true (crashAtomic_of_files hread hmode hfiles) id
  | writing hreserves hmode hsize hfiles =>
    refine iff_of_false ?_ (not_not.mpr trivial)
    exact not_crashAtomic_of_file (by rw [hfiles]; simp) (hreserves.part_unread hsize)
  | written hreserves hmode hfiles => exact whole_iff hread hreserves hmode hfiles
  | returned hreserves hmode hfiles => exact whole_iff hread hreserves hmode hfiles

/-- A crash leaves the store readable, with all challenges of the batch consumed or
none of them, exactly when it is not at a torn point. -/
theorem crash_atomic_iff {call : StoreCall Sha256} (henter : call.enter zeroSha256 = .ok batch)
    (hread : before.readStore sha isRoot = .ok consumed) (results : List ℕ) :
    CrashAtomic sha isRoot batch consumed (callUntil sha verifier isRoot umask batch before results).2 ↔
      ¬ Torn isRoot umask batch (callUntil sha verifier isRoot umask batch before results).1 :=
  (reached sha verifier isRoot umask before henter (readStore_eq_ok.mp hread).1 results).crashAtomic_iff hread

end

/-! ## A crash between two writes -/

namespace CrashSample

def challenge : Sha256 :=
  ⟨"aaaaaaaaaaaaaaaaaaaaaaaaaaaaaaaaaaaaaaaaaaaaaaaaaaaaaaaaaaaaaaaa", by decide⟩

/-- The digest of the reservation of that challenge at time 1. -/
def identity : Sha256 :=
  ⟨"6ef53a4be25d7f9a7721fd645f0e0a045fa6b606c81898ee1fb4657860eae3cb", by decide⟩

def challengeB : Sha256 :=
  ⟨"bbbbbbbbbbbbbbbbbbbbbbbbbbbbbbbbbbbbbbbbbbbbbbbbbbbbbbbbbbbbbbbb", by decide⟩

def challengeC : Sha256 :=
  ⟨"cccccccccccccccccccccccccccccccccccccccccccccccccccccccccccccccc", by decide⟩

/-- The digest of the reservation of the other two at time 2. -/
def pairIdentity : Sha256 :=
  ⟨"0d412712bd4906de286c0b0a857e8c713db844911d32b9823f1ac33849ec3a3f", by decide⟩

/-- Only the digests of the reservations matter to calls without envelopes. -/
def sha : ControlSha Sha256 := ⟨fun _ => challenge, fun _ => challenge, fun _ => challenge,
  fun r => if r.reservedNs = 1 then identity else pairIdentity⟩

def verifier : Verifier Sha256 where
  rootBinding := .ok (identity, identity)
  rootSignature _ := .ok ()
  verifyRelease _ _ := .ok ()

def call : StoreCall Sha256 := .reserveContent [challenge] 1

def batch : Batch Sha256 := ⟨[], identity, 1, [challenge]⟩

/-- A batch of two, on a store that has the first reservation. -/
def pairCall : StoreCall Sha256 := .reserveContent [challengeB, challengeC] 2

def pairBatch : Batch Sha256 := ⟨[], identity, 2, [challengeB, challengeC]⟩

theorem enter_pair : pairCall.enter identity = .ok pairBatch := by decide +kernel

def used : StoreDirectory :=
  ⟨some 0o600, [⟨.reservation identity, 0o600, canonicalBytes ⟨1, [challenge]⟩⟩]⟩

theorem readStore_used : used.readStore sha false = .ok [challenge] := by decide +kernel

theorem enter : call.enter identity = .ok batch := by decide +kernel

def umask : BitVec 12 := 0o022

/-- The lock file, its mode, the reservation file and 100 of its 175 bytes. -/
def results : List ℕ := [0, 0, 0, 100]

/-- The directory of a store that has not been used. -/
def unused : StoreDirectory := ⟨none, []⟩

theorem readStore_unused : unused.readStore sha false = .ok [] := rfl

theorem progress : (callUntil sha verifier false umask batch unused results).1 =
    .writing ⟨1, [challenge]⟩ 100 := by
  decide +kernel

end CrashSample

open CrashSample in
/-- The batch of two, written in two parts. -/
theorem crash_atomic_sample :
    CrashAtomic sha false pairBatch [challenge]
        (callUntil sha verifier false umask pairBatch used [0, 0, 100, 142]).2 ↔
      ¬ Torn false umask pairBatch
        (callUntil sha verifier false umask pairBatch used [0, 0, 100, 142]).1 :=
  crash_atomic_iff enter_pair readStore_used [0, 0, 100, 142]

open CrashSample in
/-- A crash after 100 of 175 bytes leaves a store that the next call cannot read. -/
theorem crash_between_writes :
    unused.readStore sha false = .ok [] ∧
      ¬ CrashAtomic sha false batch [] (callUntil sha verifier false umask batch unused results).2 := by
  have hprogress := progress
  have hreached := reached sha verifier false umask unused enter (.inl rfl) results
  generalize callUntil sha verifier false umask batch unused results = state at hprogress hreached ⊢
  rw [hprogress] at hreached
  refine ⟨readStore_unused, fun hatomic => ?_⟩
  exact (hreached.crashAtomic_iff readStore_unused).mp hatomic True.intro

end Control
