import LightConeSpec.Pool.Publication
import LightConeSpec.Pool.Retry

/-!
# Crashes of a publication

A crash is the end of the calls made so far. Between the link of an artifact and the unlink of
its temporary the artifact has two links, and no reader accepts it any more; nothing removes the
temporary later. `publication_survives_iff` says that this is the only harmful point.

`Ready` is the invariant of the directory at all other points: an artifact is missing, or
complete under its only name. It carries over to the next publication, so any number of harmless
crashes is harmless.
-/

namespace Pool

open Python FileSystem Program Files List

variable {D : Type}

/-! ## What is published where -/

/-- A publication of a receipt of the plan. -/
structure Publishing (D : Type) [DecidableEq D] where
  sha : ContentSha D
  plan : FrozenPlan D
  ctx : ExecutionContext D
  parent : Path
  name : String
  receipt : DispatchScheduleReceipt D
  attemptJournal : Option (DispatchAttemptJournalBinding D)
  assignments : ∀ wave ∈ receipt.waveReceipts, ∀ row ∈ wave.assignmentReceipts,
    row.postInit sha = .ok ()
  waves : ∀ wave ∈ receipt.waveReceipts, wave.postInit = .ok ()
  schedule : receipt.postInit = .ok ()
  planned : validateDispatchResumeStructure plan receipt ctx = .ok ()

namespace Publishing

variable [DecidableEq D] (w : Publishing D)

def call : Code D (Path × Path) :=
  publishDispatchScheduleReceipt w.sha w.parent w.name w.receipt w.attemptJournal

def output : Path := w.parent ++ [w.name]

def sidecarPath : Path := w.parent ++ [sidecarName w.name]

def envelopeBody : Body D :=
  .canonical (.envelope w.receipt (w.receipt.sidecar w.sha) w.attemptJournal)

def sidecarBody : Body D := .canonical (.sidecar (w.receipt.sidecar w.sha))

/-- `load_dispatch_schedule_receipt` of the output. -/
def load (fs : Files (Body D)) : Except Error (DispatchScheduleReceipt D) :=
  loadDispatchScheduleReceipt w.sha fs w.output w.plan w.ctx

end Publishing

/-- A system whose temporaries are new. -/
structure Host (D : Type) where
  answer : Files (Body D) → Effect D → Choice D
  vacant : ∀ (fs : Files (Body D)) (parent : Path) (name : String),
    fs.node? (temporaryPath parent name (answer fs (.mkstemp parent name)).random) = none
  unused : ∀ (fs : Files (Body D)) (parent : Path) (name : String),
    fs.unused (answer fs (.mkstemp parent name)).inode = true

/-- What a crash may leave: the envelope is missing or returns the receipt, and publishing again
succeeds and completes the sidecar. -/
structure Publishing.Survives [DecidableEq D] (w : Publishing D) (fs : Files (Body D)) : Prop where
  envelope : fs.node? w.output = none ∨ w.load fs = .ok w.receipt
  again : ∀ host : Host D, ∃ fs',
    w.call.exec handle host.answer fs = (.ok (w.output, w.sidecarPath), fs') ∧
      w.load fs' = .ok w.receipt ∧ fs'.read? w.sidecarPath = some w.sidecarBody

/-- The next system call is the unlink of a temporary that has been linked. -/
def BetweenLinkAndUnlink {α : Type} (rest : Code D α) : Prop :=
  ∃ temporary, rest.next = some (.unlink temporary)

instance {α : Type} (rest : Code D α) : Decidable (BetweenLinkAndUnlink rest) :=
  match h : rest.next with
  | some (.unlink temporary) => .isTrue ⟨temporary, h⟩
  | none | some .observe | some (.mkstemp _ _) | some (.writeSome _) | some (.write _ _)
  | some (.fsync _) | some (.link _ _) | some (.fsyncDirectory _) =>
    .isFalse fun ⟨_, hnext⟩ => by simp [h] at hnext

/-! ## The directory -/

def HoldsAt (fs : Files (Body D)) (path : Path) (body : Body D) : Prop :=
  ∃ inode, fs.Owns path inode ∧ fs.read? path = some body

/-- The path is free or holds the body. -/
def Slot (fs : Files (Body D)) (path : Path) (body : Body D) : Prop :=
  fs.node? path = none ∨ HoldsAt fs path body

/-- The path is one of several names of a file. -/
def Doubled (fs : Files (Body D)) (path : Path) : Prop :=
  ∃ inode, fs.node? path = some (.file inode) ∧ ¬ fs.Owns path inode

namespace Publishing

variable [DecidableEq D] (w : Publishing D)

/-- The directory of the output is there, and so is what the journal binding names. -/
structure Shelf (fs : Files (Body D)) : Prop where
  normalized : fs.isNormalized w.parent = true
  directory : fs.isDirectory w.parent = true
  journal : ∀ binding ∈ w.attemptJournal.toList, binding.postInit fs = .ok ()

/-- The directory at a point where a crash is harmless. -/
structure Ready (fs : Files (Body D)) : Prop where
  shelf : w.Shelf fs
  envelope : Slot fs w.output w.envelopeBody
  sidecar : Slot fs w.sidecarPath w.sidecarBody

/-- The directory after a crash that blocks the receipt. -/
structure Blocked (fs : Files (Body D)) : Prop where
  shelf : w.Shelf fs
  doubled : Doubled fs w.output ∨
    HoldsAt fs w.output w.envelopeBody ∧ Doubled fs w.sidecarPath

end Publishing

/-! ## What a publication leaves alone -/

/-- All paths but the temporary and the destination. -/
def Others (temporary path p : Path) : Prop := p ≠ temporary ∧ p ≠ path

variable {inode : Inode} {name random : String} {temporary : Path}

section

variable {fs fs' : Files (Body D)} {temporary path p : Path} {body : Body D} {W : Path → Prop}

theorem HoldsAt.frame (h : HoldsAt fs p body) (hframe : Files.Frame W fs fs') (hp : W p) :
    HoldsAt fs' p body := by
  rcases h with ⟨inode, howns, hread⟩
  exact ⟨inode, hframe.owns hp howns, (hframe.read p hp).trans hread⟩

theorem Slot.frame (h : Slot fs p body) (hframe : Files.Frame W fs fs') (hp : W p) :
    Slot fs' p body := by
  rcases h with hnone | hholds
  · exact Or.inl ((hframe.node p hp).trans hnone)
  · exact Or.inr (hholds.frame hframe hp)

theorem Publishing.Shelf.frame [DecidableEq D] {w : Publishing D} (h : w.Shelf fs)
    (hframe : Files.Frame W fs fs') (hparent : W w.parent) : w.Shelf fs' := by
  refine ⟨hframe.isNormalized h.normalized, ?_, ?_⟩
  · have hdirectory := h.directory
    rw [isDirectory_iff] at hdirectory ⊢
    rwa [hframe.node _ hparent]
  · intro binding hbinding
    have hold := h.journal binding hbinding
    simp only [DispatchAttemptJournalBinding.postInit, bind_eq_ok, check_eq_ok, isResolved,
      Bool.and_eq_true] at hold ⊢
    exact ⟨⟨hold.1.1, hframe.isNormalized hold.1.2⟩, hold.2⟩

/-! ## Reading an artifact -/

variable {parent : Path} {name : String}

/-- The reader of a file goes by its links. -/
theorem readRegularFile_file (hnormal : fs.isNormalized parent = true)
    (hparent : fs.isDirectory parent = true)
    (hnode : fs.node? (parent ++ [name]) = some (.file inode)) (label : String) :
    readRegularFile fs (parent ++ [name]) label =
      (require (fs.links inode = 1) (runtimeError s!"{label} is not a regular file")).bind
        fun _ => .ok (fs.bodies inode) := by
  have hpath : fs.isNormalized (parent ++ [name]) = true := by
    refine isNormalized_concat_of_ne hnormal ?_
    rw [hnode]
    nofun
  have hdir : fs.isDirectory (parent ++ [name]).dropLast = true := by
    rwa [dropLast_concat]
  unfold readRegularFile
  rw [require_of hpath, require_of hdir, hnode]
  rfl

/-- An artifact under one name is read. -/
theorem HoldsAt.readRegularFile (h : HoldsAt fs (parent ++ [name]) body)
    (hnormal : fs.isNormalized parent = true) (hparent : fs.isDirectory parent = true)
    (label : String) : readRegularFile fs (parent ++ [name]) label = .ok body := by
  rcases h with ⟨inode, howns, hread⟩
  rcases read?_eq_some.mp hread with ⟨i, hnode, hbody⟩
  have hsame : i = inode := by
    rw [howns.node?] at hnode
    cases hnode
    rfl
  subst hsame
  rw [readRegularFile_file hnormal hparent hnode,
    require_of ((links_eq_one hnode).mpr howns), hbody]
  rfl

/-- An artifact under two names is refused. -/
theorem Doubled.readRegularFile (h : Doubled fs (parent ++ [name]))
    (hnormal : fs.isNormalized parent = true) (hparent : fs.isDirectory parent = true)
    (label : String) : readRegularFile fs (parent ++ [name]) label =
      .error (runtimeError s!"{label} is not a regular file") := by
  rcases h with ⟨inode, hnode, hshared⟩
  have hlinks : ¬ fs.links inode = 1 := fun hone => hshared ((links_eq_one hnode).mp hone)
  rw [readRegularFile_file hnormal hparent hnode, require_eq_error.mpr ⟨hlinks, rfl⟩]
  rfl

/-- The envelope under one name returns its receipt. -/
theorem Publishing.load_eq_ok [DecidableEq D] {w : Publishing D} (hshelf : w.Shelf fs)
    (h : HoldsAt fs w.output w.envelopeBody) : w.load fs = .ok w.receipt := by
  have hwaves : forEach (fun wave : DispatchWaveExecutionReceipt D => do
      forEach (AssignmentExecutionReceipt.postInit w.sha) wave.assignmentReceipts
      wave.postInit) w.receipt.waveReceipts = .ok () := by
    rw [forEach_eq_ok]
    intro wave hwave
    exact bind_eq_ok.mpr ⟨(), forEach_eq_ok.mpr (w.assignments wave hwave), w.waves wave hwave⟩
  have hsidecar : validateSidecar "dispatch_schedule_receipt.v1"
      (w.sha.scheduleReceipt w.receipt) (w.receipt.sidecar w.sha) = .ok () := by
    unfold validateSidecar ArtifactSidecar.postInit DispatchScheduleReceipt.sidecar
    simp only [bind_eq_ok, require_eq_ok, exists_const, and_true]
    decide
  have hreceipt : w.receipt.fromDict w.sha w.plan w.ctx (w.receipt.sidecar w.sha) = .ok () :=
    bind_eq_ok.mpr ⟨(), hwaves, bind_eq_ok.mpr ⟨(), w.schedule, bind_eq_ok.mpr
      ⟨(), w.planned, hsidecar⟩⟩⟩
  have hjournal : forEach (DispatchAttemptJournalBinding.postInit fs) w.attemptJournal.toList =
      .ok () := forEach_eq_ok.mpr hshelf.journal
  have hbody := h.readRegularFile hshelf.normalized hshelf.directory
    "dispatch schedule receipt envelope"
  have henvelope : loadDispatchScheduleEnvelope w.sha fs w.output w.plan w.ctx =
      .ok (w.receipt, w.attemptJournal) :=
    bind_eq_ok.mpr ⟨_, hbody, bind_eq_ok.mpr ⟨(), hreceipt, bind_eq_ok.mpr ⟨(), hjournal, rfl⟩⟩⟩
  exact bind_eq_ok.mpr ⟨_, henvelope, rfl⟩

end

/-! ## Rules for the system calls -/

/-- New temporaries. -/
def allowed (fs : Files (Body D)) (choice : Choice D) : Effect D → Prop
  | .mkstemp parent name =>
    fs.node? (temporaryPath parent name choice.random) = none ∧ fs.unused choice.inode = true
  | _ => True

theorem Host.allowed (host : Host D) (fs : Files (Body D)) (e : Effect D) :
    allowed fs (host.answer fs e) e := by
  cases e with
  | mkstemp parent name => exact ⟨host.vacant fs parent name, host.unused fs parent name⟩
  | _ => trivial

/-- What holds when a call is interrupted before an effect: one property before the unlink of a
temporary, another before all other effects. -/
def atEffect (harmless harmful : Files (Body D) → Prop) (fs : Files (Body D)) (_ : Choice D) :
    Effect D → Prop
  | .unlink _ => harmful fs
  | _ => harmless fs

section

variable {safe : Files (Body D) → Choice D → Effect D → Prop} {α β : Type}
  {post : α → Files (Body D) → Prop} {raises : Error → Files (Body D) → Prop}
  {fs fs' : Files (Body D)} {path : Path} {body : Body D}

theorem wp_ofExcept {outcome : Except Error α} (hok : ∀ a, outcome = .ok a → post a fs)
    (herror : ∀ e, outcome = .error e → raises e fs) :
    wp handle (Contract.alone allowed safe) post raises (Prog.ofExcept outcome) fs := by
  cases outcome with
  | error e => exact wp_alone_throw (herror e rfl)
  | ok a => exact wp_alone_ret (hok a rfl)

/-- A system call that succeeds. -/
theorem wp_attemptCall {post : β → Files (Body D) → Prop} {outcome : Except Errno (Files (Body D))}
    {value : β} (hok : ∃ fs', outcome = .ok fs') (h : ∀ fs', outcome = .ok fs' → post value fs') :
    wp handle (Contract.alone allowed safe) post raises
      (sysResult (attemptCall fs outcome value).1) (attemptCall fs outcome value).2 := by
  rcases hok with ⟨fs', rfl⟩
  exact wp_alone_ret (h fs' rfl)

theorem wp_sysMkstemp {post : Path → Files (Body D) → Prop} {parent : Path}
    (hsafe : ∀ choice, safe fs choice (.mkstemp parent name))
    (hdirectory : fs.isDirectory parent = true)
    (hok : ∀ random inode fs', fs.create (temporaryPath parent name random) inode (.other none) =
      .ok fs' → post (temporaryPath parent name random) fs') :
    wp handle (Contract.alone allowed safe) post raises (sysMkstemp parent name) fs := by
  refine wp_alone_vis fun choice hallowed => ⟨hsafe choice, wp_attemptCall ?_ ?_⟩
  · refine ⟨_, create_eq_ok.mpr ⟨hallowed.1, ?_, hallowed.2, rfl⟩⟩
    rwa [temporaryPath, dropLast_concat]
  · exact hok choice.random choice.inode

variable {post : Unit → Files (Body D) → Prop} {source : Path} {inode : Inode}

theorem wp_sysWriteSome (hsafe : ∀ choice, safe fs choice (.writeSome path))
    (hnode : fs.node? path = some (.file inode))
    (hok : ∀ some fs', fs.write path some = .ok fs' → post () fs') :
    wp handle (Contract.alone allowed safe) post raises (sysWriteSome path) fs :=
  wp_alone_vis fun choice _ => ⟨hsafe choice, wp_attemptCall
    ⟨_, write_eq_ok.mpr ⟨inode, hnode, rfl⟩⟩ (hok choice.some)⟩

theorem wp_sysWrite (hsafe : ∀ choice, safe fs choice (.write path body))
    (hnode : fs.node? path = some (.file inode))
    (hok : ∀ fs', fs.write path body = .ok fs' → post () fs') :
    wp handle (Contract.alone allowed safe) post raises (sysWrite path body) fs :=
  wp_alone_vis fun choice _ => ⟨hsafe choice, wp_attemptCall
    ⟨_, write_eq_ok.mpr ⟨inode, hnode, rfl⟩⟩ hok⟩

theorem wp_sysFsync (hsafe : ∀ choice, safe fs choice (.fsync path))
    (hexists : fs.lexists path = true) (hok : post () fs) :
    wp handle (Contract.alone allowed safe) post raises (sysFsync path) fs := by
  refine wp_alone_vis fun choice _ => ⟨hsafe choice, ?_⟩
  change wp handle (Contract.alone allowed safe) post raises
    (sysResult (if fs.lexists path then .ok () else .error .missing)) fs
  rw [if_pos hexists]
  exact wp_alone_ret hok

theorem wp_fsyncDirectory (hsafe : ∀ choice, safe fs choice (.fsyncDirectory path))
    (hdirectory : fs.isDirectory path = true) (hok : post () fs) :
    wp handle (Contract.alone allowed safe) post raises (fsyncDirectory path) fs := by
  refine wp_alone_vis fun choice _ => ⟨hsafe choice, ?_⟩
  change wp handle (Contract.alone allowed safe) post raises
    (sysResult (if fs.isDirectory path then .ok () else .error .missing)) fs
  rw [if_pos hdirectory]
  exact wp_alone_ret hok

/-- The removal of a temporary that exists. -/
theorem wp_unlinkMissingOk (hsafe : ∀ choice, safe fs choice (.unlink path))
    (hnode : fs.node? path = some (.file inode))
    (hok : ∀ fs', fs.unlink path = .ok fs' → post () fs') :
    wp handle (Contract.alone allowed safe) post raises (unlinkMissingOk path) fs := by
  refine wp_alone_vis fun choice _ => ⟨hsafe choice, ?_⟩
  have hunlink : fs.unlink path = .ok ⟨fs.names.erase path, fs.bodies⟩ := by
    unfold Files.unlink
    rw [hnode]
  simp only [handle, hunlink, attemptCall]
  exact wp_alone_ret (hok _ hunlink)

/-- A program that does not raise needs no handler. -/
theorem wp_onError_of_ok {code : Code D Unit} {handler : Error → Code D Unit}
    (h : wp handle (Contract.alone allowed safe) post (fun _ _ => False) code fs) :
    wp handle (Contract.alone allowed safe) post (fun _ _ => False) (code.onError handler) fs := by
  refine wp_onError (wp_mono h (fun _ _ hpost => hpost) fun _ _ hfalse => False.elim hfalse) ?_ ?_
  · rintro _ t u hpost rfl
    exact hpost
  · exact fun _ _ _ hfalse _ => hfalse

variable [DecidableEq D]

/-- The link of a temporary to a path that is free. -/
theorem wp_linkOrCompare (hsafe : ∀ choice, safe fs choice (.link source path))
    (hnode : fs.node? source = some (.file inode)) (hfree : fs.node? path = none)
    (hdirectory : fs.isDirectory path.dropLast = true)
    (hok : ∀ fs', fs.link source path = .ok fs' → post () fs') :
    wp handle (Contract.alone allowed safe) post raises (linkOrCompare source path body) fs := by
  refine wp_alone_vis fun choice _ => ⟨hsafe choice, ?_⟩
  have hlink := link_eq_ok.mpr ⟨inode, hnode, hfree, hdirectory, rfl⟩
  simp only [handle, hlink, attemptCall]
  exact wp_alone_ret (hok _ hlink)

/-- The check of an artifact that exists. -/
theorem wp_requireSame {label : String} (hsafe : ∀ choice, safe fs choice .observe)
    (hok : readRegularFile fs path label = .ok body → post () fs)
    (herror : ∀ e, readRegularFile fs path label ≠ .ok body → raises e fs) :
    wp handle (Contract.alone allowed safe) post raises (requireSame path body label) fs := by
  refine wp_alone_vis fun choice _ => ⟨hsafe choice, wp_bind (wp_ofExcept ?_ ?_)⟩
  · intro found hfound
    refine wp_ofExcept ?_ ?_
    · intro _ hsame
      rw [require_eq_ok.mp hsame] at hfound
      exact hok hfound
    · intro e hdiffers
      refine herror e fun hbody => (require_eq_error.mp hdiffers).1 ?_
      change readRegularFile fs path label = _ at hfound
      rw [hfound] at hbody
      exact Except.ok.inj hbody
  · intro e he
    change readRegularFile fs path label = _ at he
    refine herror e fun hbody => ?_
    rw [he] at hbody
    cases hbody

end

/-! ## The publication of one artifact -/

section

variable {harmless harmful : Files (Body D) → Prop} {fs : Files (Body D)} {parent : Path}
  {name : String} {body : Body D}

/-- A new temporary is filled. -/
theorem wp_fillTemporary (howns : fs.Owns temporary inode)
    (hharmless : ∀ fs', Files.Frame (· ≠ temporary) fs fs' → harmless fs') :
    wp handle (Contract.alone allowed (atEffect harmless harmful))
      (fun _ fs' => Files.Frame (· ≠ temporary) fs fs' ∧ HoldsAt fs' temporary body)
      (fun _ _ => False)
      ((sysWriteSome temporary).bind fun _ => (sysWrite temporary body).bind fun _ =>
        sysFsync temporary) fs := by
  refine wp_bind (wp_sysWriteSome (fun _ => hharmless fs (.refl fs)) howns.node?
    fun some fs₁ hsome => ?_)
  have howns₁ := howns.congr (node?_write hsome)
  have hframe₁ : Files.Frame (· ≠ temporary) fs fs₁ :=
    frame_write howns hsome fun hne => hne rfl
  refine wp_bind (wp_sysWrite (fun _ => hharmless fs₁ hframe₁) howns₁.node? fun fs₂ hwrite => ?_)
  have howns₂ := howns₁.congr (node?_write hwrite)
  have hframe₂ : Files.Frame (· ≠ temporary) fs fs₂ :=
    hframe₁.trans (frame_write howns₁ hwrite fun hne => hne rfl)
  have hread : fs₂.read? temporary = Option.some body := by
    rw [read?_write howns₁ hwrite, if_pos rfl]
  exact wp_sysFsync (fun _ => hharmless fs₂ hframe₂) (lexists_of_read? hread)
    ⟨hframe₂, _, howns₂, hread⟩

/-- The temporary is written to its end. -/
theorem wp_writeFsyncedTemporary (hstart : harmless fs) (hdirectory : fs.isDirectory parent = true)
    (hharmless : ∀ random fs', fs.node? (temporaryPath parent name random) = none →
      Files.Frame (· ≠ temporaryPath parent name random) fs fs' → harmless fs') :
    wp handle (Contract.alone allowed (atEffect harmless harmful))
      (fun temporary fs' => (∃ random, temporary = temporaryPath parent name random) ∧
        fs.node? temporary = none ∧ Files.Frame (· ≠ temporary) fs fs' ∧ HoldsAt fs' temporary body)
      (fun _ _ => False) (writeFsyncedTemporary parent name body) fs := by
  refine wp_bind (wp_sysMkstemp (fun _ => hstart) hdirectory fun random inode fs₁ hcreate => ?_)
  have hvacant := (create_eq_ok.mp hcreate).1
  have hharmless' := hharmless random
  have hnamed : ∃ r, temporaryPath parent name random = temporaryPath parent name r := ⟨random, rfl⟩
  generalize temporaryPath parent name random = temporary at *
  have hframe₁ : Files.Frame (· ≠ temporary) fs fs₁ :=
    frame_create hcreate fun hne => absurd rfl hne
  refine wp_bind (wp_mono (wp_onError_of_ok (wp_fillTemporary (owns_create hcreate)
    fun fs' hframe => hharmless' fs' hvacant (hframe₁.trans hframe))) ?_ fun _ _ h => h)
  rintro _ fs₂ ⟨hframe₂, hholds⟩
  exact wp_alone_ret ⟨hnamed, hvacant, hframe₁.trans hframe₂, hholds⟩

/-- A temporary is longer than the name that it is for. -/
theorem temporaryPath_ne : temporaryPath parent name random ≠ parent ++ [name] := by
  intro heq
  rcases List.cons.inj (append_cancel_left heq) with ⟨hname, -⟩
  have hlength := congrArg String.length hname
  simp only [String.length_append] at hlength
  have hdot : ".".length = 1 := rfl
  omega

/-- After a link both paths are names of the file, and nothing else has changed. -/
theorem link_temporary {path : Path} {fs' : Files (Body D)} (hholds : HoldsAt fs temporary body)
    (hlink : fs.link temporary path = .ok fs') : Files.Frame (Others temporary path) fs fs' ∧
      ∃ inode, (∀ p, fs'.node? p = some (.file inode) ↔ p = temporary ∨ p = path) ∧
        fs'.bodies inode = body := by
  rcases hholds with ⟨inode, howns, hread⟩
  rcases read?_eq_some.mp hread with ⟨i, hnode, hbody⟩
  have hsame : i = inode := by
    rw [howns.node?] at hnode
    cases hnode
    rfl
  subst hsame
  have hframe : Files.Frame (Others temporary path) fs fs' := by
    refine frame_link hlink (fun h => h.2 rfl) ?_
    intro p j hp hpj htemporary
    rw [howns.node?] at htemporary
    cases htemporary
    exact hp.1 ((howns p).mp hpj)
  refine ⟨hframe, i, howns.names_link hlink, ?_⟩
  rcases link_eq_ok.mp hlink with ⟨_, _, _, _, rfl⟩
  exact hbody

/-- Once the temporary is unlinked, the file has one name. -/
theorem unlink_temporary {path : Path} {fs' : Files (Body D)} (hne : temporary ≠ path)
    (hnames : ∀ p, fs.node? p = some (.file inode) ↔ p = temporary ∨ p = path)
    (hbody : fs.bodies inode = body) (hunlink : fs.unlink temporary = .ok fs') :
    Files.Frame (Others temporary path) fs fs' ∧ HoldsAt fs' path body := by
  have hframe : Files.Frame (Others temporary path) fs fs' := by
    refine frame_unlink hunlink (fun h => h.1 rfl) ?_
    intro p j hp hpj htemporary
    rw [(hnames temporary).mpr (Or.inl rfl)] at htemporary
    cases htemporary
    rcases (hnames p).mp hpj with heq | heq
    · exact hp.1 heq
    · exact hp.2 heq
  have howns : fs'.Owns path inode := owns_unlink hne hnames hunlink
  refine ⟨hframe, inode, howns, read?_eq_some.mpr ⟨inode, howns.node?, ?_⟩⟩
  rcases unlink_eq_ok.mp hunlink with ⟨-, -, rfl⟩
  exact hbody

variable [DecidableEq D]

/-- A path that is free is filled. Before the temporary is unlinked the path is one of two names,
at all other points it is free. -/
theorem wp_publishImmutableFile_free (hfree : fs.node? (parent ++ [name]) = none)
    (hdirectory : fs.isDirectory parent = true) (hstart : harmless fs)
    (hharmless : ∀ random fs', fs.node? (temporaryPath parent name random) = none →
      Files.Frame (· ≠ temporaryPath parent name random) fs fs' → harmless fs')
    (hharmful : ∀ random fs', fs.node? (temporaryPath parent name random) = none →
      Files.Frame (Others (temporaryPath parent name random) (parent ++ [name])) fs fs' →
      Doubled fs' (parent ++ [name]) → harmful fs') :
    wp handle (Contract.alone allowed (atEffect harmless harmful))
      (fun _ fs' => ∃ random, fs.node? (temporaryPath parent name random) = none ∧
        Files.Frame (Others (temporaryPath parent name random) (parent ++ [name])) fs fs' ∧
        HoldsAt fs' (parent ++ [name]) body)
      (fun _ _ => False) (publishImmutableFile parent name body) fs := by
  refine wp_alone_vis fun _ _ => ⟨hstart, ?_⟩
  change wp handle _ _ _ (if fs.lexists (parent ++ [name]) then _ else _) fs
  rw [if_neg (by rw [lexists_eq_false.mpr hfree]; nofun)]
  refine wp_bind (wp_mono (wp_writeFsyncedTemporary hstart hdirectory hharmless) ?_ fun _ _ h => h)
  rintro temporary fs₁ ⟨⟨random, rfl⟩, hvacant, hframe₁, hholds⟩
  have hne : temporaryPath parent name random ≠ parent ++ [name] := temporaryPath_ne
  have hharmful' := hharmful random
  have hfinal : ∀ fs', Files.Frame (Others (temporaryPath parent name random) (parent ++ [name]))
      fs fs' → HoldsAt fs' (parent ++ [name]) body → ∃ r,
        fs.node? (temporaryPath parent name r) = none ∧
        Files.Frame (Others (temporaryPath parent name r) (parent ++ [name])) fs fs' ∧
        HoldsAt fs' (parent ++ [name]) body :=
    fun fs' hframe hheld => ⟨random, hvacant, hframe, hheld⟩
  have hstill := hharmless random fs₁ hvacant hframe₁
  have hparent : parent ≠ temporaryPath parent name random := fun heq => by
    simpa [temporaryPath] using congrArg List.length heq
  generalize temporaryPath parent name random = temporary at *
  have hframe₁' : Files.Frame (Others temporary (parent ++ [name])) fs fs₁ :=
    hframe₁.mono fun p hp => hp.1
  have hnode₁ : ∃ inode, fs₁.node? temporary = some (.file inode) :=
    hholds.imp fun inode h => h.1.node?
  rcases hnode₁ with ⟨inode₁, hnode₁⟩
  have hfree₁ : fs₁.node? (parent ++ [name]) = none := (hframe₁.node _ hne.symm).trans hfree
  have hdirectory₁ : fs₁.isDirectory (parent ++ [name]).dropLast = true := by
    rw [dropLast_concat, isDirectory_iff, hframe₁.node _ hparent]
    exact isDirectory_iff.mp hdirectory
  refine wp_bind (wp_attempt (wp_linkOrCompare (fun _ => hstill) hnode₁ hfree₁ hdirectory₁
    fun fs₂ hlink => ?_))
  rcases link_temporary hholds hlink with ⟨hframe₂, inode, hnames, hbody⟩
  have hdoubled : Doubled fs₂ (parent ++ [name]) :=
    ⟨inode, (hnames _).mpr (Or.inr rfl), fun howns =>
      hne ((howns temporary).mp ((hnames temporary).mpr (Or.inl rfl)))⟩
  refine wp_bind (wp_unlinkMissingOk
    (fun _ => hharmful' fs₂ hvacant (hframe₁'.trans hframe₂) hdoubled)
    ((hnames temporary).mpr (Or.inl rfl)) fun fs₃ hunlink => ?_)
  rcases unlink_temporary hne hnames hbody hunlink with ⟨hframe₃, hheld⟩
  exact wp_alone_ret (hfinal fs₃ ((hframe₁'.trans hframe₂).trans hframe₃) hheld)

/-- An artifact that is there is left as it is. -/
theorem wp_publishImmutableFile_held {safe : Files (Body D) → Choice D → Effect D → Prop}
    {post : Unit → Files (Body D) → Prop} {raises : Error → Files (Body D) → Prop}
    (hsafe : ∀ choice, safe fs choice .observe) (hnormal : fs.isNormalized parent = true)
    (hdirectory : fs.isDirectory parent = true) (hheld : HoldsAt fs (parent ++ [name]) body)
    (hok : post () fs) : wp handle (Contract.alone allowed safe) post raises
      (publishImmutableFile parent name body) fs := by
  refine wp_alone_vis fun choice _ => ⟨hsafe choice, ?_⟩
  have hexists : fs.lexists (parent ++ [name]) = true := by
    rcases hheld with ⟨inode, howns, _⟩
    exact lexists_iff.mpr ⟨_, howns.node?⟩
  change wp handle _ _ _ (if fs.lexists (parent ++ [name]) then _ else _) fs
  rw [if_pos hexists]
  refine wp_requireSame hsafe (fun _ => hok) ?_
  exact fun e hdiffers => absurd (hheld.readRegularFile hnormal hdirectory _) hdiffers

/-- An artifact with a second name is not accepted. -/
theorem wp_publishImmutableFile_doubled {safe : Files (Body D) → Choice D → Effect D → Prop}
    {post : Unit → Files (Body D) → Prop} {raises : Error → Files (Body D) → Prop}
    (hsafe : ∀ choice, safe fs choice .observe) (hnormal : fs.isNormalized parent = true)
    (hdirectory : fs.isDirectory parent = true) (hdoubled : Doubled fs (parent ++ [name]))
    (hraises : ∀ e, raises e fs) : wp handle (Contract.alone allowed safe) post raises
      (publishImmutableFile parent name body) fs := by
  refine wp_alone_vis fun choice _ => ⟨hsafe choice, ?_⟩
  have hexists : fs.lexists (parent ++ [name]) = true := by
    rcases hdoubled with ⟨inode, hnode, _⟩
    exact lexists_iff.mpr ⟨_, hnode⟩
  change wp handle _ _ _ (if fs.lexists (parent ++ [name]) then _ else _) fs
  rw [if_pos hexists]
  refine wp_requireSame hsafe (fun hread => ?_) fun e _ => hraises e
  rw [hdoubled.readRegularFile hnormal hdirectory] at hread
  cases hread

end

/-! ## The publication -/

namespace Publishing

variable [DecidableEq D] {w : Publishing D} {fs fs' : Files (Body D)}

theorem sidecarPath_ne_output : w.sidecarPath ≠ w.output := by
  intro heq
  rcases List.cons.inj (append_cancel_left heq) with ⟨hname, -⟩
  have hlength := congrArg String.length hname
  simp only [sidecarName, String.length_append] at hlength
  have hsuffix : ".sidecar.json".length = 13 := rfl
  omega

/-- A temporary is no sidecar: it ends in another letter. -/
theorem sidecarPath_ne_temporaryPath : w.sidecarPath ≠ temporaryPath w.parent name random := by
  intro heq
  rcases List.cons.inj (append_cancel_left heq) with ⟨hname, -⟩
  have hlast := congrArg (fun text : String => text.toList.getLast?) hname
  have hsidecar : (sidecarName w.name).toList.getLast? = some 'n' := by
    rw [sidecarName, String.toList_append, getLast?_append]
    rfl
  have htemporary : ("." ++ name ++ "." ++ random ++ ".tmp").toList.getLast? = some 'p' := by
    rw [String.toList_append, getLast?_append]
    rfl
  simp only [hsidecar, htemporary, Option.some.injEq, Char.reduceEq] at hlast

theorem parent_ne_concat : w.parent ≠ w.parent ++ [name] := by
  intro heq
  simpa using congrArg List.length heq

/-- While the envelope is written, the directory is ready. -/
theorem Ready.frame_temporary (h : w.Ready fs)
    (hframe : Files.Frame (· ≠ temporaryPath w.parent w.name random) fs fs') : w.Ready fs' :=
  ⟨h.shelf.frame hframe parent_ne_concat, h.envelope.frame hframe temporaryPath_ne.symm,
    h.sidecar.frame hframe sidecarPath_ne_temporaryPath⟩

/-- The envelope is published. -/
theorem wp_envelope (h : w.Ready fs) :
    wp handle (Contract.alone allowed (atEffect w.Ready w.Blocked))
      (fun _ fs' => w.Ready fs' ∧ HoldsAt fs' w.output w.envelopeBody) (fun _ _ => False)
      (publishImmutableFile w.parent w.name w.envelopeBody) fs := by
  rcases h.envelope with hfree | hheld
  · refine wp_mono (wp_publishImmutableFile_free hfree h.shelf.directory h ?_ ?_) ?_ fun _ _ h => h
    · exact fun random fs' _ hframe => h.frame_temporary hframe
    · intro random fs' _ hframe hdoubled
      exact ⟨h.shelf.frame hframe ⟨parent_ne_concat, parent_ne_concat⟩, Or.inl hdoubled⟩
    · rintro _ fs' ⟨random, _, hframe, hheld⟩
      refine ⟨⟨h.shelf.frame hframe ⟨parent_ne_concat, parent_ne_concat⟩, Or.inr hheld, ?_⟩, hheld⟩
      exact h.sidecar.frame hframe ⟨sidecarPath_ne_temporaryPath, sidecarPath_ne_output⟩
  · exact wp_publishImmutableFile_held (fun _ => h) h.shelf.normalized h.shelf.directory hheld
      ⟨h, hheld⟩

/-- The sidecar of a published envelope is published. -/
theorem wp_sidecar (h : w.Ready fs) (hheld : HoldsAt fs w.output w.envelopeBody) :
    wp handle (Contract.alone allowed (atEffect w.Ready w.Blocked))
      (fun _ fs' => w.Ready fs' ∧ HoldsAt fs' w.output w.envelopeBody ∧
        HoldsAt fs' w.sidecarPath w.sidecarBody) (fun _ _ => False)
      (publishImmutableFile w.parent (sidecarName w.name) w.sidecarBody) fs := by
  -- the envelope exists, so it is none of the temporaries
  have houtput : ∀ random, fs.node? (temporaryPath w.parent (sidecarName w.name) random) = none →
      w.output ≠ temporaryPath w.parent (sidecarName w.name) random := by
    intro random hvacant heq
    rcases hheld with ⟨inode, howns, _⟩
    rw [← heq, howns.node?] at hvacant
    cases hvacant
  rcases h.sidecar with hfree | hsidecar
  · refine wp_mono (wp_publishImmutableFile_free hfree h.shelf.directory h ?_ ?_) ?_ fun _ _ h => h
    · intro random fs' hvacant hframe
      exact ⟨h.shelf.frame hframe parent_ne_concat,
        Or.inr (hheld.frame hframe (houtput random hvacant)),
        h.sidecar.frame hframe sidecarPath_ne_temporaryPath⟩
    · intro random fs' hvacant hframe hdoubled
      refine ⟨h.shelf.frame hframe ⟨parent_ne_concat, parent_ne_concat⟩, Or.inr ⟨?_, hdoubled⟩⟩
      exact hheld.frame hframe ⟨houtput random hvacant, sidecarPath_ne_output.symm⟩
    · rintro _ fs' ⟨random, hvacant, hframe, hsidecar⟩
      have hheld' : HoldsAt fs' w.output w.envelopeBody :=
        hheld.frame hframe ⟨houtput random hvacant, sidecarPath_ne_output.symm⟩
      exact ⟨⟨h.shelf.frame hframe ⟨parent_ne_concat, parent_ne_concat⟩, Or.inr hheld',
        Or.inr hsidecar⟩, hheld', hsidecar⟩
  · exact wp_publishImmutableFile_held (fun _ => h) h.shelf.normalized h.shelf.directory hsidecar
      ⟨h, hheld, hsidecar⟩

/-- From a ready directory the publication succeeds. A crash blocks the receipt only before the
unlink of a temporary. -/
theorem wp_call (h : w.Ready fs) : wp handle (Contract.alone allowed (atEffect w.Ready w.Blocked))
      (fun result fs' => result = (w.output, w.sidecarPath) ∧ w.Ready fs' ∧
        HoldsAt fs' w.output w.envelopeBody ∧ HoldsAt fs' w.sidecarPath w.sidecarBody)
      (fun _ _ => False) w.call fs := by
  refine wp_alone_vis fun _ _ => ⟨h, wp_bind (wp_ofExcept ?_ ?_)⟩
  · intro _ _
    refine wp_bind (wp_mono (wp_envelope h) ?_ fun _ _ h => h)
    rintro _ fs₁ ⟨h₁, hheld₁⟩
    refine wp_bind (wp_fsyncDirectory (fun _ => h₁) h₁.shelf.directory ?_)
    refine wp_bind (wp_mono (wp_sidecar h₁ hheld₁) ?_ fun _ _ h => h)
    rintro _ fs₂ ⟨h₂, hheld₂, hsidecar₂⟩
    refine wp_bind (wp_fsyncDirectory (fun _ => h₂) h₂.shelf.directory ?_)
    exact wp_alone_ret ⟨rfl, h₂, hheld₂, hsidecar₂⟩
  · intro e he
    exact (require_eq_error.mp he).1 ⟨h.shelf.normalized, h.shelf.directory⟩

/-- A receipt survives in a ready directory. -/
theorem Ready.survives (h : w.Ready fs) : w.Survives fs := by
  refine ⟨h.envelope.imp id (load_eq_ok h.shelf), fun host => ?_⟩
  rcases exec_of_wp host.allowed (wp_call h) with
    ⟨result, hok, hresult, hready, houtput, hsidecar⟩ | ⟨_, _, hfalse⟩
  · refine ⟨_, Prod.ext (hok.trans (congrArg Except.ok hresult)) rfl,
      load_eq_ok hready.shelf houtput, ?_⟩
    rcases hsidecar with ⟨_, _, hread⟩
    exact hread
  · exact hfalse.elim

/-- A receipt does not survive in a blocked one. -/
theorem Blocked.not_survives (h : w.Blocked fs) (host : Host D) : ¬ w.Survives fs := by
  intro hsurvives
  rcases h.doubled with hdoubled | ⟨hheld, hdoubled⟩
  · rcases hsurvives.envelope with hnone | hload
    · rcases hdoubled with ⟨inode, hnode, _⟩
      rw [hnone] at hnode
      cases hnode
    · rcases bind_eq_ok.mp hload with ⟨_, henvelope, _⟩
      rcases bind_eq_ok.mp henvelope with ⟨_, hread, _⟩
      rw [show w.output = w.parent ++ [w.name] from rfl,
        hdoubled.readRegularFile h.shelf.normalized h.shelf.directory] at hread
      cases hread
  · have hwp : wp handle (Contract.alone allowed fun _ _ _ => True) (fun _ _ => False)
        (fun _ _ => True) w.call fs := by
      refine wp_alone_vis fun _ _ => ⟨trivial, wp_bind (wp_ofExcept (fun _ _ => ?_) fun _ _ => trivial)⟩
      refine wp_bind (wp_publishImmutableFile_held (fun _ => trivial) h.shelf.normalized
        h.shelf.directory hheld ?_)
      refine wp_bind (wp_fsyncDirectory (fun _ => trivial) h.shelf.directory ?_)
      exact wp_bind (wp_publishImmutableFile_doubled (fun _ => trivial) h.shelf.normalized
        h.shelf.directory hdoubled fun _ => trivial)
    rcases hsurvives.again host with ⟨fs', hagain, _⟩
    rcases exec_of_wp host.allowed hwp with ⟨_, _, hfalse⟩ | ⟨_, herror, _⟩
    · exact hfalse
    · change (w.call.exec handle host.answer fs).1 = _ at herror
      rw [hagain] at herror
      cases herror

end Publishing

/-! ## Crashes -/

namespace Publishing

variable [DecidableEq D] {w : Publishing D} {fs : Files (Body D)}

/-- A harmless crash leaves the directory ready. -/
theorem Ready.after (h : w.Ready fs) (host : Host D) {n : ℕ}
    (hbetween : ¬ BetweenLinkAndUnlink (w.call.after handle host.answer n fs).1) :
    w.Ready (w.call.after handle host.answer n fs).2 := by
  cases hnext : (w.call.after handle host.answer n fs).1.next with
  | none =>
    rcases over_after host.allowed (wp_call h) n hnext with ⟨_, _, hready, _⟩ | ⟨_, hfalse⟩
    · exact hready
    · exact hfalse.elim
  | some e =>
    have hsafe := safe_after host.allowed (wp_call h) n hnext
    cases e with
    | unlink temporary => exact absurd ⟨temporary, hnext⟩ hbetween
    | _ => exact hsafe

/-- The directory after publications that were killed one after another, each after a number of
effects. -/
def killed (w : Publishing D) (host : Host D) : List ℕ → Files (Body D) → Files (Body D)
  | [], fs => fs
  | n :: rest, fs => w.killed host rest (w.call.after handle host.answer n fs).2

/-- None of them was killed between a link and its unlink. -/
def Harmless (w : Publishing D) (host : Host D) : List ℕ → Files (Body D) → Prop
  | [], _ => True
  | n :: rest, fs =>
    ¬ BetweenLinkAndUnlink (w.call.after handle host.answer n fs).1 ∧
      w.Harmless host rest (w.call.after handle host.answer n fs).2

/-- A receipt survives any number of harmless crashes. -/
theorem Ready.survives_killed (h : w.Ready fs) (host : Host D) {crashes : List ℕ}
    (hharmless : w.Harmless host crashes fs) : w.Survives (w.killed host crashes fs) := by
  induction crashes generalizing fs with
  | nil => exact h.survives
  | cons n rest ih => exact ih (h.after host hharmless.1) hharmless.2

end Publishing

/-- Whether a receipt survives a crash of its publication: it does at every point but between a
link and the unlink of its temporary. -/
theorem publication_survives_iff [DecidableEq D] (w : Publishing D) (host : Host D)
    {fs : Files (Body D)} (hready : w.Ready fs) (n : ℕ) :
    w.Survives (w.call.after handle host.answer n fs).2 ↔
      ¬ BetweenLinkAndUnlink (w.call.after handle host.answer n fs).1 := by
  constructor
  · rintro hsurvives ⟨temporary, hnext⟩
    have hblocked : w.Blocked _ := safe_after host.allowed (Publishing.wp_call hready) n hnext
    exact hblocked.not_survives host hsurvives
  · exact fun hbetween => (hready.after host hbetween).survives

/-! ## A host that counts -/

/-- The letters of all paths. -/
def letters (fs : Files (Body D)) : ℕ :=
  (fs.names.entries.map fun entry => (entry.1.map String.length).sum).sum

def inodeNumber : Node → ℕ
  | .file inode => inode.number
  | .directory inode => inode.number
  | .symlink => 0
  | .special => 0

/-- A name that is longer than all others, and a number that is larger. -/
def counting (fs : Files (Body D)) : Choice D where
  random := String.ofList (List.replicate (letters fs) 'a')
  inode := ⟨0, (fs.names.values.map inodeNumber).sum + 1⟩
  some := .other none

theorem counting_vacant (fs : Files (Body D)) (parent : Path) (name : String) :
    fs.node? (temporaryPath parent name (counting fs).random) = none := by
  rw [Option.eq_none_iff_forall_not_mem]
  intro node hnode
  have hentry : (temporaryPath parent name (counting fs).random, node) ∈ fs.names.entries :=
    Dict.mem_entries_iff.mpr hnode
  have hletters : ((temporaryPath parent name (counting fs).random).map String.length).sum ≤
      letters fs :=
    single_le_sum (fun _ _ => Nat.zero_le _) _ (mem_map.mpr ⟨_, hentry, rfl⟩)
  have hlast : ("." ++ name ++ "." ++ (counting fs).random ++ ".tmp").length ≤
      ((temporaryPath parent name (counting fs).random).map String.length).sum := by
    simp [temporaryPath]
  have hlength : (counting fs).random.length = letters fs := by
    simp [counting]
  simp only [String.length_append, hlength] at hlast
  have hdot : ".".length = 1 := rfl
  omega

theorem counting_unused (fs : Files (Body D)) : fs.unused (counting fs).inode = true := by
  have hlarger : ∀ p node, fs.node? p = some node → inodeNumber node ≠ (counting fs).inode.number := by
    intro p node hnode
    have hle : inodeNumber node ≤ (fs.names.values.map inodeNumber).sum :=
      single_le_sum (fun _ _ => Nat.zero_le _) _
        (mem_map_of_mem (Dict.mem_values_iff.mpr ⟨p, hnode⟩))
    simp only [counting]
    omega
  rw [unused_iff]
  exact fun p => ⟨fun h => hlarger p _ h rfl, fun h => hlarger p _ h rfl⟩

def countingHost : Host D where
  answer fs _ := counting fs
  vacant := counting_vacant
  unused fs _ _ := counting_unused fs

/-! ## A crash of a publication -/

namespace PublicationSample

open RetrySample (sha scope prior)

def wave : DispatchWaveExecutionReceipt String where
  planSha256 := "plan"
  waveIndex := 0
  waveSha256 := "wave"
  assignmentReceipts := [prior]
  inventorySha256 := "inventory"
  fixedInstanceGpuCount := 1
  activeIntervalsMonotonicNs := [(3, 5)]
  fixedInstanceActualBilledGpuNs := 2
  perAssignmentAttributedGpuNs := 2
  perAssignmentAttributedFixedInstanceGpuNs := 2

/-- The publication of a failed schedule to `/pool/receipt.json`. -/
def publishing : Publishing String where
  sha := sha
  plan := scope.plan
  ctx := { scope.ctx with
    issuePlan := .ok scope.plan
    issuesWaves := by rintro _ ⟨⟩; decide }
  parent := ["pool"]
  name := "receipt.json"
  receipt := {
    planSha256 := "plan"
    phase := .failed
    waveReceipts := [wave]
    inventorySha256 := "inventory"
    fixedInstanceGpuCount := 1
    activeIntervalsMonotonicNs := [(3, 5)]
    fixedInstanceActualBilledGpuNs := 2
    perAssignmentAttributedGpuNs := 2
    perAssignmentAttributedFixedInstanceGpuNs := 2
    priorScheduleReceiptSha256 := none }
  attemptJournal := none
  assignments := by decide +kernel
  waves := by decide +kernel
  schedule := by decide +kernel
  planned := by decide +kernel

/-- A directory without files. -/
def files : Files (Body String) where
  names := ⟨[([], .directory ⟨0, 0⟩), (["pool"], .directory ⟨0, 1⟩)], by decide⟩
  bodies _ := .other none

theorem ready : publishing.Ready files where
  shelf := ⟨by decide, by decide, nofun⟩
  envelope := Or.inl (by decide)
  sidecar := Or.inl (by decide)

/-- The seventh effect links the envelope. -/
theorem between : BetweenLinkAndUnlink
    (publishing.call.after handle countingHost.answer 7 files).1 := by
  decide +kernel

end PublicationSample

open PublicationSample in
/-- A publication that is killed before the link. -/
theorem publication_survives_six :
    publishing.Survives (publishing.call.after handle countingHost.answer 6 files).2 ↔
      ¬ BetweenLinkAndUnlink (publishing.call.after handle countingHost.answer 6 files).1 :=
  publication_survives_iff publishing countingHost ready 6

open PublicationSample in
/-- A publication that is killed before the link, and once more after both files are there. -/
theorem survives_killed_twice : publishing.Harmless countingHost [6, 100] files ∧
      publishing.Survives (publishing.killed countingHost [6, 100] files) := by
  have hharmless : publishing.Harmless countingHost [6, 100] files :=
    ⟨by decide +kernel, by decide +kernel, trivial⟩
  exact ⟨hharmless, ready.survives_killed countingHost hharmless⟩

open PublicationSample in
/-- A publication that is killed after the link of its envelope loses the receipt. -/
theorem publication_killed_between :
    ¬ ∀ (w : Publishing String) (host : Host String) (fs : Files (Body String)), w.Ready fs →
      ∀ n, w.Survives (w.call.after handle host.answer n fs).2 := by
  intro hall
  have hblocked : publishing.Blocked
      (publishing.call.after handle countingHost.answer 7 files).2 := by
    rcases between with ⟨temporary, hnext⟩
    exact safe_after (countingHost (D := String)).allowed (Publishing.wp_call ready) 7 hnext
  exact hblocked.not_survives countingHost (hall publishing countingHost files ready 7)

end Pool
