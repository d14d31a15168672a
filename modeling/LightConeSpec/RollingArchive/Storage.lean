import LightConeSpec.Lib.Processes
import LightConeSpec.RollingArchive.Records

/-!
# What the archive does to the disk

The functions of the archive are programs whose effects are single system calls, so
that a crash can fall between any two of them. `Disk` is the file system, with three
records of what the calls have done that no Python object holds: the temporaries that
they created, the paths that they unlinked, and whether the running call has asked the
scheduler to stop. Only the statements read those.

`_publish_canonical_no_replace` writes a temporary, links it to its destination, and
unlinks it. `wp_publish` says what it does to the paths that a caller watches: it
changes no other of them than the destination, and when it raises it changes none.
-/

namespace RollingArchive

open FileSystem Program List Files

variable {Sha : Type}

/-! ## System calls -/

inductive Effect (Sha : Type)
  /-- `SingletonOperatorLock.acquire`, whose lock file is not part of the disk. -/
  | acquire
  /-- What `lstat`, `scandir` and `read` see until the next change. -/
  | observe
  | uuid4
  | mkdir (path : Path)
  | create (path : Path)
  | write (path : Path) (body : Body Sha)
  | link (source path : Path)
  | unlink (path : Path)
  /-- `_fsync_directory`. -/
  | fsync (path : Path)
  | schedulerStop (reason : String)

def Reply : Effect Sha → Type
  | .acquire | .schedulerStop _ => Unit
  | .observe => Tree Sha
  | .uuid4 => String
  | .mkdir _ | .create _ | .write _ _ | .link _ _ | .unlink _ | .fsync _ => Except Errno Unit

/-- The disk, and what the calls have done to it. -/
structure Disk (Sha : Type) where
  files : Tree Sha
  created : List Path
  unlinked : List Path
  stopRequested : Bool

/-- What the system chooses: the inode of a new file, and `uuid.uuid4().hex`. -/
structure Choice where
  inode : Inode
  uuid : String

/-- The next disk after a system call that may fail. -/
def Disk.attempt (s : Disk Sha) (outcome : Except Errno (Tree Sha)) (done : Disk Sha → Disk Sha) :
    Except Errno Unit × Disk Sha :=
  match outcome with
  | .error e => (.error e, s)
  | .ok files => (.ok (), done { s with files := files })

/-- The system. -/
def handle (s : Disk Sha) (choice : Choice) : (e : Effect Sha) → Reply e × Disk Sha
  | .acquire => ((), { s with stopRequested := false })
  | .observe => (s.files, s)
  | .uuid4 => (choice.uuid, s)
  | .mkdir path => s.attempt (s.files.mkdir path choice.inode) id
  | .create path =>
    s.attempt (s.files.create path choice.inode (.bytes []))
      fun t => { t with created := t.created ++ [path] }
  | .write path body => s.attempt (s.files.write path body) id
  | .link source path => s.attempt (s.files.link source path) id
  | .unlink path =>
    s.attempt (s.files.unlink path) fun t => { t with unlinked := t.unlinked ++ [path] }
  | .fsync path => (if s.files.isDirectory path then .ok () else .error .missing, s)
  | .schedulerStop _ => ((), { s with stopRequested := true })

abbrev Code (Sha α : Type) := Prog (Effect Sha) Reply Raised α

/-- What an `Except` holds is raised or returned. -/
def lift {α : Type} (outcome : Except Raised α) : Code Sha α := Prog.ofExcept outcome

/-- A system call that fails raises its `OSError`. -/
def sysResult : Except Errno Unit → Code Sha Unit
  | .ok () => .ret ()
  | .error e => .throw (osError e)

def sysMkdir (path : Path) : Code Sha Unit := .vis (.mkdir path) sysResult

def sysCreate (path : Path) : Code Sha Unit := .vis (.create path) sysResult

def sysWrite (path : Path) (body : Body Sha) : Code Sha Unit := .vis (.write path body) sysResult

def sysLink (source path : Path) : Code Sha Unit := .vis (.link source path) sysResult

def sysUnlink (path : Path) : Code Sha Unit := .vis (.unlink path) sysResult

def sysFsync (path : Path) : Code Sha Unit := .vis (.fsync path) sysResult

/-- `try: os.unlink(path)`, `except FileNotFoundError: pass`. -/
def unlinkMissingOk (path : Path) : Code Sha Unit :=
  .vis (.unlink path) fun
    | .error .missing => .ret ()
    | result => sysResult result

/-- One step of `Path.mkdir(parents=True, exist_ok=True)`. -/
def mkdirExistOk (path : Path) : Code Sha Unit :=
  .vis .observe fun (fs : Tree Sha) =>
    if fs.isDirectory path then .ret () else sysMkdir path

/-- `Path.mkdir(mode=0o700, parents=True, exist_ok=True)`. -/
def makedirs (path : Path) : Code Sha Unit := Prog.forEach mkdirExistOk path.inits.tail

/-- `try: body`, `finally: cleanup`. -/
def tryFinally {α : Type} (body : Code Sha α) (cleanup : Code Sha Unit) : Code Sha α :=
  (body.attempt fun _ => true).bind fun result => cleanup.bind fun _ => lift result

/-! ## Publication -/

/-- The temporary of a publication. -/
def partialPath (destination : Path) (uuid : String) : Path :=
  withName destination ("." ++ fileName destination ++ "." ++ uuid ++ ".partial")

/-- The temporary is written, linked to the destination, and unlinked. -/
def publishThrough (temporary destination : Path) (document : Document Sha) : Code Sha Unit :=
  (sysCreate temporary).bind fun _ =>
  (sysWrite temporary (.document document)).bind fun _ =>
  tryFinally
    ((sysLink temporary destination).bind fun _ => sysFsync destination.dropLast)
    (unlinkMissingOk temporary)

def publishCanonicalNoReplace (destination : Path) (document : Document Sha) : Code Sha Unit :=
  .vis .observe fun (fs : Tree Sha) =>
  (lift (absoluteNormalized fs destination "publication path")).bind fun _ =>
  (makedirs destination.dropLast).bind fun _ =>
  .vis .observe fun (fs : Tree Sha) =>
  (lift (ensure (fs.isDirectory destination.dropLast = true)
    (archiveError "publication parent is unsafe"))).bind fun _ =>
  .vis .uuid4 fun (uuid : String) =>
  publishThrough (partialPath destination uuid) destination document

/-! ## What stays the same -/

/-- The calls so far have left the watched paths alone, and have not asked the
scheduler to stop. -/
structure Quiet (W : Path → Prop) (s t : Disk Sha) : Prop where
  frame : Files.Frame W s.files t.files
  stop : t.stopRequested = s.stopRequested
  created : ∀ p ∈ s.created, p ∈ t.created
  unlinked : ∀ p ∈ s.unlinked, p ∈ t.unlinked

/-- An effect that leaves the watched paths alone. -/
def QuietEffect (W : Path → Prop) (s : Disk Sha) : Effect Sha → Prop
  | .observe | .uuid4 | .fsync _ => True
  | .mkdir path | .create path => W path → s.files.lexists path = true
  | .write path _ => ¬ W path ∧ path ∈ s.created ∧ ∃ i, s.files.Owns path i
  | .unlink path => ¬ W path ∧ path ∈ s.created
  | .acquire | .link _ _ | .schedulerStop _ => False

variable {W : Path → Prop} {s t u : Disk Sha}

theorem Quiet.refl (s : Disk Sha) : Quiet W s s :=
  ⟨.refl s.files, rfl, fun _ h => h, fun _ h => h⟩

theorem Quiet.trans (hst : Quiet W s t) (htu : Quiet W t u) : Quiet W s u where
  frame := hst.frame.trans htu.frame
  stop := htu.stop.trans hst.stop
  created p hp := htu.created p (hst.created p hp)
  unlinked p hp := htu.unlinked p (hst.unlinked p hp)

theorem Quiet.mono {W' : Path → Prop} (h : Quiet W s t) (hW : ∀ p, W' p → W p) : Quiet W' s t :=
  ⟨h.frame.mono hW, h.stop, h.created, h.unlinked⟩

/-- A system call that fails leaves the files as they are. -/
theorem files_attempt {P : Tree Sha → Prop} {outcome : Except Errno (Tree Sha)}
    {done : Disk Sha → Disk Sha} (hs : P s.files) (hdone : ∀ t : Disk Sha, (done t).files = t.files)
    (h : ∀ fs, outcome = .ok fs → P fs) : P (s.attempt outcome done).2.files := by
  unfold Disk.attempt
  cases outcome with
  | error e => exact hs
  | ok fs =>
    change P (done { s with files := fs }).files
    rw [hdone]
    exact h fs rfl

/-! ## Rules -/

section

variable {allowed safe : Disk Sha → Choice → Effect Sha → Prop} {α β : Type}
  {Q : α → Disk Sha → Prop} {X : Raised → Disk Sha → Prop}

theorem wp_lift {outcome : Except Raised α} (hok : ∀ a, outcome = .ok a → Q a s)
    (herror : ∀ e, outcome = .error e → X e s) :
    wp handle (Contract.alone allowed safe) Q X (lift outcome) s := by
  cases outcome with
  | error e => exact wp_alone_throw (herror e rfl)
  | ok a => exact wp_alone_ret (hok a rfl)

theorem wp_observe {k : Tree Sha → Code Sha α} (hsafe : ∀ choice, safe s choice .observe)
    (h : wp handle (Contract.alone allowed safe) Q X (k s.files) s) :
    wp handle (Contract.alone allowed safe) Q X (.vis .observe k) s :=
  wp_alone_vis fun choice _ => ⟨hsafe choice, h⟩

/-- A system call that raises when it fails. -/
theorem wp_sysResult {Q : Unit → Disk Sha → Prop} {outcome : Except Errno (Tree Sha)}
    {done : Disk Sha → Disk Sha} (herror : ∀ e, outcome = .error e → X (osError e) s)
    (hok : ∀ fs, outcome = .ok fs → Q () (done { s with files := fs })) :
    wp handle (Contract.alone allowed safe) Q X (sysResult (s.attempt outcome done).1)
      (s.attempt outcome done).2 := by
  unfold Disk.attempt
  cases outcome with
  | error e => exact wp_alone_throw (herror e rfl)
  | ok fs => exact wp_alone_ret (hok fs rfl)

variable {Q : Unit → Disk Sha → Prop} {path source : Path} {body : Body Sha}

theorem wp_sysMkdir (hsafe : ∀ choice, safe s choice (.mkdir path))
    (herror : ∀ choice e, allowed s choice (.mkdir path) →
      s.files.mkdir path choice.inode = .error e → X (osError e) s)
    (hok : ∀ inode fs, s.files.mkdir path inode = .ok fs → Q () { s with files := fs }) :
    wp handle (Contract.alone allowed safe) Q X (sysMkdir path) s :=
  wp_alone_vis fun choice hallowed => ⟨hsafe choice, wp_sysResult
    (fun e he => herror choice e hallowed he) fun fs hfs => hok choice.inode fs hfs⟩

theorem wp_sysCreate (hsafe : ∀ choice, safe s choice (.create path))
    (herror : ∀ choice e, allowed s choice (.create path) →
      s.files.create path choice.inode (.bytes []) = .error e → X (osError e) s)
    (hok : ∀ inode fs, s.files.create path inode (.bytes []) = .ok fs →
      Q () { s with files := fs, created := s.created ++ [path] }) :
    wp handle (Contract.alone allowed safe) Q X (sysCreate path) s :=
  wp_alone_vis fun choice hallowed => ⟨hsafe choice, wp_sysResult
    (fun e he => herror choice e hallowed he) fun fs hfs => hok choice.inode fs hfs⟩

theorem wp_sysWrite (hsafe : ∀ choice, safe s choice (.write path body))
    (herror : ∀ e, s.files.write path body = .error e → X (osError e) s)
    (hok : ∀ fs, s.files.write path body = .ok fs → Q () { s with files := fs }) :
    wp handle (Contract.alone allowed safe) Q X (sysWrite path body) s :=
  wp_alone_vis fun choice _ => ⟨hsafe choice, wp_sysResult herror hok⟩

theorem wp_sysLink (hsafe : ∀ choice, safe s choice (.link source path))
    (herror : ∀ e, s.files.link source path = .error e → X (osError e) s)
    (hok : ∀ fs, s.files.link source path = .ok fs → Q () { s with files := fs }) :
    wp handle (Contract.alone allowed safe) Q X (sysLink source path) s :=
  wp_alone_vis fun choice _ => ⟨hsafe choice, wp_sysResult herror hok⟩

theorem wp_sysUnlink (hsafe : ∀ choice, safe s choice (.unlink path))
    (herror : ∀ e, s.files.unlink path = .error e → X (osError e) s)
    (hok : ∀ fs, s.files.unlink path = .ok fs →
      Q () { s with files := fs, unlinked := s.unlinked ++ [path] }) :
    wp handle (Contract.alone allowed safe) Q X (sysUnlink path) s :=
  wp_alone_vis fun choice _ => ⟨hsafe choice, wp_sysResult herror hok⟩

theorem wp_sysFsync (hsafe : ∀ choice, safe s choice (.fsync path))
    (herror : s.files.isDirectory path = false → X (osError .missing) s)
    (hok : s.files.isDirectory path = true → Q () s) :
    wp handle (Contract.alone allowed safe) Q X (sysFsync path) s := by
  refine wp_alone_vis fun choice _ => ⟨hsafe choice, ?_⟩
  change wp handle (Contract.alone allowed safe) Q X
    (sysResult (if s.files.isDirectory path then .ok () else .error .missing)) s
  cases h : s.files.isDirectory path with
  | true => exact wp_alone_ret (hok h)
  | false => exact wp_alone_throw (herror h)

/-- The removal of a file that exists. -/
theorem wp_unlinkMissingOk (hsafe : ∀ choice, safe s choice (.unlink path)) {i : Inode}
    (hfile : s.files.node? path = some (.file i)) (hok : ∀ fs, s.files.unlink path = .ok fs →
      Q () { s with files := fs, unlinked := s.unlinked ++ [path] }) :
    wp handle (Contract.alone allowed safe) Q X (unlinkMissingOk path) s := by
  refine wp_alone_vis fun choice _ => ⟨hsafe choice, ?_⟩
  have hunlink : s.files.unlink path = .ok ⟨s.files.names.erase path, s.files.bodies⟩ := by
    unfold Files.unlink
    rw [hfile]
  simp only [handle, hunlink, Disk.attempt]
  exact wp_alone_ret (hok _ hunlink)

/-- `try`, `finally`: the cleanup runs after a result and after an error. -/
theorem wp_tryFinally {code : Code Sha α} {cleanup : Code Sha Unit} {Q : α → Disk Sha → Prop}
    (h : wp handle (Contract.alone allowed safe)
      (fun a => wp handle (Contract.alone allowed safe) (fun _ => Q a) X cleanup)
      (fun e => wp handle (Contract.alone allowed safe) (fun _ => X e) X cleanup) code s) :
    wp handle (Contract.alone allowed safe) Q X (tryFinally code cleanup) s := by
  refine wp_bind (wp_attempt (wp_mono h ?_ ?_))
  · intro a t ha
    exact wp_bind (wp_mono ha (fun _ _ hQ => wp_alone_ret hQ) fun _ _ hX => hX)
  · intro e t he
    exact wp_bind (wp_mono he (fun _ _ hX => wp_alone_throw hX) fun _ _ hX => hX)

end

/-! ## Publication under a watch -/

section

variable {allowed safe : Disk Sha → Choice → Effect Sha → Prop}

/-- New inodes are not in use. -/
structure FreshInodes (allowed : Disk Sha → Choice → Effect Sha → Prop) : Prop where
  mkdir : ∀ t choice path, allowed t choice (.mkdir path) → t.files.unused choice.inode = true
  create : ∀ t choice path, allowed t choice (.create path) → t.files.unused choice.inode = true

/-- Nothing but directories is in the way of `Path.mkdir(parents=True, exist_ok=True)`. -/
structure Passable (allowed : Disk Sha → Choice → Effect Sha → Prop) (fs : Tree Sha) (path : Path) :
    Prop where
  fresh : FreshInodes allowed
  root : fs.isDirectory [] = true
  vacant : ∀ q ∈ path.inits.tail, fs.node? q = none ∨ fs.isDirectory q = true

/-- Directories are made where nothing watched is missing. -/
theorem wp_makedirs
    (hsafe : ∀ t choice e, QuietEffect W t e → (∀ path, e ≠ .create path) → safe t choice e)
    {path : Path} (hdirs : ∀ q ∈ path.inits.tail, W q → s.files.lexists q = true) :
    wp handle (Contract.alone allowed safe)
      (fun _ t => Quiet W s t ∧ (s.files.isDirectory [] = true → t.files.isDirectory path = true))
      (fun e t => e.isGuarded = true ∧ Quiet W s t ∧ ¬ Passable allowed s.files path)
      (makedirs path) s := by
  -- along the prefixes, from one that is a directory if nothing is in the way
  have hloop : ∀ (rest : List Path) (prev : Path) (t : Disk Sha),
      (prev :: rest).IsChain (fun p q => q.dropLast = p) → (∀ q ∈ rest, q ∈ path.inits.tail) →
      Quiet W s t →
      (Passable allowed s.files path → t.files.isDirectory prev = true ∧
        ∀ q ∈ rest, t.files.node? q = none ∨ t.files.isDirectory q = true) →
      wp handle (Contract.alone allowed safe)
        (fun _ u => Quiet W s u ∧ (∀ q, t.files.isDirectory q = true → u.files.isDirectory q = true) ∧
          ∀ q ∈ rest, u.files.isDirectory q = true)
        (fun e u => e.isGuarded = true ∧ Quiet W s u ∧ ¬ Passable allowed s.files path)
        (Prog.forEach mkdirExistOk rest) t := by
    intro rest
    induction rest with
    | nil => exact fun prev t _ _ ht _ => wp_alone_ret ⟨ht, fun _ h => h, fun _ h => nomatch h⟩
    | cons q rest ih =>
      intro prev t hchain hrest ht hpass
      rcases isChain_cons_cons.mp hchain with ⟨hparent, hchain'⟩
      have hrest' : ∀ p ∈ rest, p ∈ path.inits.tail :=
        fun p hp => hrest p (mem_cons_of_mem _ hp)
      refine wp_bind (wp_observe (fun choice => hsafe t choice .observe trivial nofun) ?_)
      split
      · -- the directory is there
        rename_i hq
        refine wp_alone_ret (wp_mono (ih q t hchain' hrest' ht fun h => ⟨hq, fun p hp =>
          (hpass h).2 p (mem_cons_of_mem _ hp)⟩) ?_ fun _ _ h => h)
        rintro _ u ⟨hu, hkeep, hall⟩
        exact ⟨hu, hkeep, forall_mem_cons.mpr ⟨hkeep q hq, hall⟩⟩
      · rename_i hq
        have hvacant : W q → t.files.lexists q = true := by
          intro hW
          rw [ht.frame.lexists hW]
          exact hdirs q (hrest q mem_cons_self) hW
        refine wp_sysMkdir (fun choice => hsafe t choice _ hvacant nofun) ?_ ?_
        · intro choice e hallowed he
          refine ⟨by cases e <;> rfl, ht, fun h => ?_⟩
          have hnone := ((hpass h).2 q mem_cons_self).resolve_right hq
          have hdirectory : t.files.isDirectory q.dropLast = true := by
            rw [hparent]
            exact (hpass h).1
          have hok := mkdir_eq_ok.mpr
            ⟨hnone, hdirectory, h.fresh.mkdir t choice q hallowed, rfl⟩
          rw [hok] at he
          cases he
        · intro inode fs hfs
          have hstep : Quiet W t { t with files := fs } :=
            ⟨frame_mkdir hfs hvacant, rfl, fun _ h => h, fun _ h => h⟩
          have hmade : fs.isDirectory q = true := by
            rw [isDirectory_iff, node?_mkdir hfs, if_pos rfl]
            exact ⟨inode, rfl⟩
          have hkept : ∀ p, t.files.isDirectory p = true → fs.isDirectory p = true :=
            fun p => isDirectory_of_set (mkdir_eq_ok.mp hfs).1
              (fun p hp => by rw [node?_mkdir hfs, if_neg hp])
          refine wp_mono (ih q { t with files := fs } hchain' hrest' (ht.trans hstep) ?_) ?_
            fun _ _ h => h
          · refine fun h => ⟨hmade, fun p hp => ?_⟩
            by_cases hpq : p = q
            · exact .inr (hpq ▸ hmade)
            · rcases (hpass h).2 p (mem_cons_of_mem _ hp) with hnone | hdirectory
              · left
                rw [node?_mkdir hfs, if_neg hpq]
                exact hnone
              · exact .inr (hkept p hdirectory)
          · rintro _ u ⟨hu, hkeep, hall⟩
            exact ⟨hu, fun p hp => hkeep p (hkept p hp),
              forall_mem_cons.mpr ⟨hkeep q hmade, hall⟩⟩
  have hchain : ([] :: path.inits.tail).IsChain fun p q => q.dropLast = p := by
    have hinits : path.inits = [] :: path.inits.tail := by cases path <;> rfl
    rw [← hinits]
    exact isChain_inits path
  refine wp_mono (hloop path.inits.tail [] s hchain (fun _ h => h) (.refl s) fun h =>
    ⟨h.root, h.vacant⟩) ?_ fun _ _ h => h
  rintro _ t ⟨ht, hkeep, hall⟩
  refine ⟨ht, fun hroot => ?_⟩
  cases path with
  | nil => exact hkeep [] hroot
  | cons name rest =>
    refine hall _ ?_
    rw [inits_cons, tail_cons]
    exact mem_map.mpr ⟨rest, (mem_inits _ _).mpr (prefix_refl _), rfl⟩

/-- What a publication leaves: the document at its destination, which was vacant, and
every other watched path as it was. -/
structure Published (W : Path → Prop) (destination : Path) (document : Document Sha)
    (s t : Disk Sha) : Prop where
  quiet : Quiet (fun p => W p ∧ p ≠ destination) s t
  vacant : s.files.node? destination = none
  read : t.files.read? destination = some (.document document)
  owns : ∃ i, t.files.Owns destination i

/-- Nothing is in the way of a publication. -/
structure Unhindered (allowed : Disk Sha → Choice → Effect Sha → Prop) (fs : Tree Sha)
    (destination : Path) : Prop where
  normalized : fs.isNormalized destination = true
  vacant : fs.node? destination = none
  passable : Passable allowed fs destination.dropLast
  temporary : ∀ t choice, allowed t choice .uuid4 →
    t.files.lexists (partialPath destination choice.uuid) = false

variable {destination temporary : Path} {document : Document Sha} {Q : Unit → Disk Sha → Prop}
  {X : Raised → Disk Sha → Prop}

/-- The temporary has its body, and what is watched was left alone. -/
structure Staged (W : Path → Prop) (temporary destination : Path) (document : Document Sha)
    (inode : Inode) (s t : Disk Sha) : Prop where
  quiet : Quiet W s t
  unwatched : ¬ W temporary
  created : temporary ∈ t.created
  owns : t.files.Owns temporary inode
  read : t.files.read? temporary = some (.document document)
  parent : t.files.isDirectory destination.dropLast = true

/-- No watched path names the file of the temporary. -/
theorem Staged.other {inode i : Inode} (h : Staged W temporary destination document inode s t)
    {p : Path} (hp : W p) (hi : t.files.node? p = some (.file i)) :
    t.files.node? temporary ≠ some (.file i) := by
  intro htemp
  rw [h.owns.node?] at htemp
  cases htemp
  exact ne_of_not_watched h.unwatched hp ((h.owns p).mp hi)

variable
  (hsafe : ∀ t choice e, QuietEffect W t e → (∀ path, e ≠ .create path) → safe t choice e)

include hsafe

/-- The temporary is created and written, in a directory that exists. -/
theorem wp_stageTemporary {rest : Code Sha Unit}
    (hcreate : ∀ choice, safe s choice (.create temporary))
    (hsibling : temporary.dropLast = destination.dropLast)
    (htemporary : W temporary → s.files.lexists temporary = true)
    (hparent : s.files.isDirectory destination.dropLast = true)
    (hok : ∀ inode t, Staged W temporary destination document inode s t →
      wp handle (Contract.alone allowed safe) Q X rest t)
    (hraise : ∀ e, e.isGuarded = true →
      ¬ (FreshInodes allowed ∧ s.files.lexists temporary = false) → X e s) :
    wp handle (Contract.alone allowed safe) Q X ((sysCreate temporary).bind fun _ =>
      (sysWrite temporary (.document document)).bind fun _ => rest) s := by
  refine wp_bind (wp_sysCreate hcreate ?_ ?_)
  · intro choice e hallowed he
    refine hraise _ (by cases e <;> rfl) ?_
    rintro ⟨hfresh, hvacant⟩
    have hdirectory : s.files.isDirectory temporary.dropLast = true := by
      rw [hsibling]
      exact hparent
    have hok : s.files.create temporary choice.inode (.bytes []) = .ok _ :=
      create_eq_ok.mpr ⟨lexists_eq_false.mp hvacant, hdirectory,
        hfresh.create s choice temporary hallowed, rfl⟩
    rw [hok] at he
    cases he
  intro inode fs₂ hcreate
  have hnotW := not_watched_of_vacant (create_eq_ok.mp hcreate).1 htemporary
  have howns₂ := owns_create hcreate
  have h₂ : Quiet W s { s with files := fs₂, created := s.created ++ [temporary] } :=
    ⟨frame_create hcreate htemporary, rfl, fun _ h => mem_append_left _ h, fun _ h => h⟩
  have hcreated : temporary ∈ s.created ++ [temporary] :=
    mem_append_right _ mem_cons_self
  -- its body is written
  refine wp_bind (wp_sysWrite (fun choice => hsafe _ choice (.write temporary _)
    ⟨hnotW, hcreated, inode, howns₂⟩ nofun) ?_ ?_)
  · intro e he
    have hok : fs₂.write temporary (.document document) = .ok _ :=
      write_eq_ok.mpr ⟨inode, howns₂.node?, rfl⟩
    rw [hok] at he
    cases he
  intro fs₃ hwrite
  refine hok inode _ ⟨h₂.trans ⟨frame_write howns₂ hwrite hnotW, rfl, fun _ h => h, fun _ h => h⟩,
    hnotW, hcreated, howns₂.congr (node?_write hwrite), ?_, ?_⟩
  · rw [read?_write howns₂ hwrite, if_pos rfl]
  · have hparent₂ := isDirectory_of_set (create_eq_ok.mp hcreate).1
      (fun p hp => by rw [node?_create hcreate, if_neg hp]) hparent
    rcases isDirectory_iff.mp hparent₂ with ⟨i, hi⟩
    exact isDirectory_iff.mpr ⟨i, (node?_write hwrite _).trans hi⟩

/-- The temporary is linked to the destination and unlinked. -/
theorem wp_linkStaged {inode : Inode} (h : Staged W temporary destination document inode s t)
    (hwatched : W destination) (hlink : ∀ choice, safe t choice (.link temporary destination))
    (hok : ∀ u, Published W destination document s u → Q () u)
    (hraise : ∀ e u, e.isGuarded = true → Quiet W s u → s.files.node? destination ≠ none → X e u) :
    wp handle (Contract.alone allowed safe) Q X
      (tryFinally ((sysLink temporary destination).bind fun _ => sysFsync destination.dropLast)
        (unlinkMissingOk temporary)) t := by
  refine wp_tryFinally (wp_bind (wp_sysLink hlink ?_ ?_))
  · -- the destination is taken: the temporary is removed
    intro e he
    refine wp_unlinkMissingOk (fun choice => hsafe _ choice (.unlink temporary)
      ⟨h.unwatched, h.created⟩ nofun) h.owns.node? ?_
    intro fs₄ hunlink
    refine hraise _ _ (by cases e <;> rfl) (h.quiet.trans ⟨frame_unlink hunlink h.unwatched
      fun p i hp hi => h.other hp hi, rfl, fun _ h => h, fun _ h => mem_append_left _ h⟩) ?_
    intro hvacant
    rw [← h.quiet.frame.node destination hwatched] at hvacant
    have hok := link_eq_ok.mpr ⟨inode, h.owns.node?, hvacant, h.parent, rfl⟩
    rw [hok] at he
    cases he
  · intro fs₄ hlinked
    rcases link_eq_ok.mp hlinked with ⟨inode', hnode, hvacant, hdirectory, -⟩
    have hne : temporary ≠ destination := by
      rintro rfl
      exact h.unwatched hwatched
    have hdest : ∀ p, p ≠ destination → fs₄.node? p = t.files.node? p := by
      intro p hp
      rw [node?_link hlinked, if_neg hp]
    refine wp_sysFsync (fun choice => hsafe _ choice (.fsync _) trivial nofun) ?_ ?_
    · -- the directory is still there
      intro hmissing
      have htrue : fs₄.isDirectory destination.dropLast = true :=
        isDirectory_of_set hvacant hdest h.parent
      change fs₄.isDirectory destination.dropLast = false at hmissing
      rw [htrue] at hmissing
      cases hmissing
    · intro _
      have hnode₄ : fs₄.node? temporary = some (.file inode) := by
        rw [hdest temporary hne, h.owns.node?]
      refine wp_unlinkMissingOk (fun choice => hsafe _ choice (.unlink temporary)
        ⟨h.unwatched, h.created⟩ nofun) hnode₄ ?_
      intro fs₅ hunlink
      have hframe : Files.Frame (fun p => W p ∧ p ≠ destination) t.files fs₅ := by
        refine Files.Frame.trans (frame_link hlinked (fun h => h.2 rfl) ?_)
          (frame_unlink hunlink (fun hW => h.unwatched hW.1) ?_)
        · exact fun p i hp hi => h.other hp.1 hi
        · intro p i hp hi
          rw [hdest p hp.2] at hi
          rw [hdest temporary hne]
          exact h.other hp.1 hi
      refine hok _ ⟨?_, ?_, ?_, ?_⟩
      · exact (h.quiet.mono fun p hp => hp.1).trans ⟨hframe, rfl, fun _ h => h,
          fun _ h => mem_append_left _ h⟩
      · rw [← h.quiet.frame.node destination hwatched]
        exact hvacant
      · rw [read?_unlink hunlink, if_neg hne.symm, read?_link hlinked, if_pos rfl]
        exact h.read
      · exact ⟨inode, owns_unlink hne (h.owns.names_link hlinked) hunlink⟩

/-- The temporary is written, linked and unlinked, in a directory that exists. -/
theorem wp_publishThrough (hcreate : ∀ choice, safe s choice (.create temporary))
    (hwatched : W destination) (hsibling : temporary.dropLast = destination.dropLast)
    (htemporary : W temporary → s.files.lexists temporary = true)
    (hparent : s.files.isDirectory destination.dropLast = true)
    (hlink : ∀ t choice, Quiet W s t → t.files.read? temporary = some (.document document) →
      safe t choice (.link temporary destination))
    (hok : ∀ t, Published W destination document s t → Q () t)
    (hraise : ∀ e t, e.isGuarded = true → Quiet W s t →
      ¬ (FreshInodes allowed ∧ s.files.node? destination = none ∧
        s.files.lexists temporary = false) → X e t) :
    wp handle (Contract.alone allowed safe) Q X
      (publishThrough temporary destination document) s := by
  refine wp_stageTemporary hsafe hcreate hsibling htemporary hparent ?_ ?_
  · intro inode t ht
    refine wp_linkStaged hsafe ht hwatched (fun choice => hlink t choice ht.quiet ht.read) hok ?_
    exact fun e u he hu htaken => hraise e u he hu fun hfree => htaken hfree.2.1
  · exact fun e he hhindered => hraise e s he (.refl s) fun hfree => hhindered ⟨hfree.1, hfree.2.2⟩

/-- `_publish_canonical_no_replace` to a watched path. -/
theorem wp_publish
    (hcreate : ∀ t choice choice', Quiet W s t → allowed t choice .uuid4 →
      safe t choice' (.create (partialPath destination choice.uuid))) (hwatched : W destination)
    (htemporary : ∀ t choice, allowed t choice .uuid4 → W (partialPath destination choice.uuid) →
      s.files.lexists (partialPath destination choice.uuid) = true)
    (hdirs : ∀ q ∈ destination.dropLast.inits.tail, W q → s.files.lexists q = true)
    (hlink : ∀ t choice temporary, Quiet W s t →
      t.files.read? temporary = some (.document document) →
      safe t choice (.link temporary destination))
    (hok : ∀ t, Published W destination document s t → Q () t)
    (hraise : ∀ e t, e.isGuarded = true → Quiet W s t →
      ¬ Unhindered allowed s.files destination → X e t) :
    wp handle (Contract.alone allowed safe) Q X
      (publishCanonicalNoReplace destination document) s := by
  refine wp_observe (fun choice => hsafe s choice .observe trivial nofun) (wp_bind (wp_lift ?_ ?_))
  rotate_left
  · intro e he
    rw [absoluteNormalized, ensure_eq_error] at he
    rw [← he.2]
    exact hraise _ _ rfl (.refl s) fun h => he.1 h.normalized
  intro _ _
  refine wp_bind (wp_mono (wp_makedirs hsafe hdirs) ?_ fun e t h =>
    hraise e t h.1 h.2.1 fun hfree => h.2.2 hfree.passable)
  rintro _ t₁ ⟨h₁, hdirectory⟩
  refine wp_observe (fun choice => hsafe t₁ choice .observe trivial nofun) (wp_bind (wp_lift ?_ ?_))
  rotate_left
  · -- the parent is a directory if the root is one
    intro e he
    rw [ensure_eq_error] at he
    rw [← he.2]
    exact hraise _ _ rfl h₁ fun hfree => he.1 (hdirectory hfree.passable.root)
  intro _ hparent
  rw [ensure_eq_ok] at hparent
  refine wp_alone_vis fun choice hallowed => ⟨hsafe t₁ choice .uuid4 trivial nofun, ?_⟩
  refine wp_publishThrough hsafe (fun choice' => hcreate t₁ choice choice' h₁ hallowed) hwatched ?_ ?_
    hparent ?_ ?_ ?_
  · exact dropLast_concat
  · exact fun hW => (h₁.frame.lexists hW).trans (htemporary t₁ choice hallowed hW)
  · intro t choice ht hread
    exact hlink t choice _ (h₁.trans ht) hread
  · intro t ht
    refine hok t ⟨(h₁.mono fun p hp => hp.1).trans ht.quiet, ?_, ht.read, ht.owns⟩
    rw [← h₁.frame.node destination hwatched]
    exact ht.vacant
  · intro e t he ht hhindered
    refine hraise e t he (h₁.trans ht) fun hfree => hhindered ?_
    refine ⟨hfree.passable.fresh, ?_, hfree.temporary t₁ choice hallowed⟩
    exact (h₁.frame.node destination hwatched).trans hfree.vacant

end

end RollingArchive
