import Mathlib.Data.List.Infix
import Mathlib.Logic.Function.Basic
import LightConeSpec.Lib.Dict

/-!
# File systems with links

A file system gives each path a node. A regular file is known by its inode, so that
several paths can be links to one file, and its body belongs to the inode. Paths are
lists of components from the root.

Every operation is one system call: it fails with an `Errno` and changes nothing, or
it returns the next file system. The rules say what a call needs to succeed
(`create_eq_ok` and its siblings), and what it changes: `node?`, `read?` and
`links` after each call. `Owns` is about files with a single link, which can be
written without changing what any other path reads. `Agrees` and `Frame` are about the
paths that a caller watches: the rules say which calls leave them alone.
-/

namespace FileSystem

open List Function

/-- A path that is absolute and normalized. -/
abbrev Path := List String

/-- `st_dev` and `st_ino`. -/
structure Inode where
  device : ℕ
  number : ℕ
deriving DecidableEq

/-- What a path names. -/
inductive Node
  | file (inode : Inode)
  | directory (inode : Inode)
  | symlink
  | special
deriving DecidableEq

/-- Why a system call fails. -/
inductive Errno
  | exists
  | missing
  | notDirectory
  | isDirectory
  | noSpace
deriving DecidableEq

/-- A file system whose files hold values of type `β`. -/
structure Files (β : Type) where
  names : Dict Path Node
  bodies : Inode → β

namespace Files

variable {β : Type} (fs : Files β)

def node? (path : Path) : Option Node := fs.names.get? path

def lexists (path : Path) : Bool := (fs.node? path).isSome

/-- The inode of a regular file. -/
def inode? (path : Path) : Option Inode :=
  match fs.node? path with
  | some (.file inode) => some inode
  | _ => none

/-- The body of a regular file. -/
def read? (path : Path) : Option β := (fs.inode? path).map fs.bodies

/-- `st_nlink` of a regular file. -/
def links (inode : Inode) : ℕ := fs.names.values.countP fun node => node = .file inode

/-- No file and no directory has this inode. -/
def unused (inode : Inode) : Bool :=
  fs.names.values.all fun node => node ≠ .file inode && node ≠ .directory inode

def isDirectory (path : Path) : Bool :=
  match fs.node? path with
  | some (.directory _) => true
  | _ => false

/-- No symbolic link is on the way to the path, or at it. -/
def isNormalized (path : Path) : Bool :=
  path.inits.all fun p => fs.node? p ≠ some .symlink

/-! ## System calls -/

/-- A new name can be made at a path. -/
def checkVacant (path : Path) : Except Errno Unit :=
  if fs.lexists path then .error .exists
  else if fs.isDirectory path.dropLast then .ok ()
  else if fs.lexists path.dropLast then .error .notDirectory
  else .error .missing

/-- `os.open(path, O_WRONLY | O_CREAT | O_EXCL)`, with the inode that the system picks
and the body of an empty file. -/
def create (path : Path) (inode : Inode) (empty : β) : Except Errno (Files β) :=
  match fs.checkVacant path with
  | .error e => .error e
  | .ok () =>
    if fs.unused inode then
      .ok ⟨fs.names.set path (.file inode), update fs.bodies inode empty⟩
    else .error .noSpace

def write (path : Path) (body : β) : Except Errno (Files β) :=
  match fs.inode? path with
  | none => .error .missing
  | some inode => .ok ⟨fs.names, update fs.bodies inode body⟩

/-- `os.link(source, path, follow_symlinks=False)` of a regular file. -/
def link (source path : Path) : Except Errno (Files β) :=
  match fs.inode? source with
  | none => .error .missing
  | some inode =>
    match fs.checkVacant path with
    | .error e => .error e
    | .ok () => .ok ⟨fs.names.set path (.file inode), fs.bodies⟩

def unlink (path : Path) : Except Errno (Files β) :=
  match fs.node? path with
  | none => .error .missing
  | some (.directory _) => .error .isDirectory
  | some _ => .ok ⟨fs.names.erase path, fs.bodies⟩

def mkdir (path : Path) (inode : Inode) : Except Errno (Files β) :=
  match fs.checkVacant path with
  | .error e => .error e
  | .ok () =>
    if fs.unused inode then .ok ⟨fs.names.set path (.directory inode), fs.bodies⟩
    else .error .noSpace

/-! ## What a call needs and what it leaves -/

variable {fs} {fs' : Files β} {path source p q : Path} {inode i : Inode} {body empty : β}

theorem lexists_iff : fs.lexists p = true ↔ ∃ node, fs.node? p = some node := by
  unfold lexists
  rw [Option.isSome_iff_exists]

theorem lexists_eq_false : fs.lexists p = false ↔ fs.node? p = none := by
  unfold lexists
  rw [Option.isSome_eq_false_iff, Option.isNone_iff_eq_none]

theorem inode?_eq_some : fs.inode? p = some i ↔ fs.node? p = some (.file i) := by
  unfold inode?
  cases h : fs.node? p with
  | none => simp
  | some node => cases node <;> simp

theorem inode?_congr (h : fs'.node? p = fs.node? p) : fs'.inode? p = fs.inode? p := by
  unfold inode?
  rw [h]

theorem read?_eq_some : fs.read? p = some body ↔
    ∃ i, fs.node? p = some (.file i) ∧ fs.bodies i = body := by
  unfold read?
  rw [Option.map_eq_some_iff]
  simp only [inode?_eq_some]

/-- A path that is read exists. -/
theorem lexists_of_read? (h : fs.read? p = some body) : fs.lexists p = true := by
  obtain ⟨i, hi, -⟩ := read?_eq_some.mp h
  exact lexists_iff.mpr ⟨_, hi⟩

theorem isDirectory_iff : fs.isDirectory p = true ↔ ∃ i, fs.node? p = some (.directory i) := by
  unfold isDirectory
  cases h : fs.node? p with
  | none => simp
  | some node => cases node <;> simp

theorem checkVacant_eq_ok : fs.checkVacant p = .ok () ↔
    fs.node? p = none ∧ fs.isDirectory p.dropLast = true := by
  unfold checkVacant
  rw [← lexists_eq_false]
  split
  · simp_all
  · split
    · simp_all
    · split <;> simp_all

theorem unused_iff : fs.unused i = true ↔
    ∀ p, fs.node? p ≠ some (.file i) ∧ fs.node? p ≠ some (.directory i) := by
  unfold unused
  rw [all_eq_true]
  constructor
  · intro h p
    refine ⟨fun hp => ?_, fun hp => ?_⟩
    · have hvalue := h _ (Dict.mem_values_iff.mpr ⟨p, hp⟩)
      simp at hvalue
    · have hvalue := h _ (Dict.mem_values_iff.mpr ⟨p, hp⟩)
      simp at hvalue
  · intro h node hnode
    obtain ⟨p, hp⟩ := Dict.mem_values_iff.mp hnode
    have hfree := h p
    simp only [Bool.and_eq_true, decide_eq_true_eq]
    constructor
    · rintro rfl
      exact hfree.1 hp
    · rintro rfl
      exact hfree.2 hp

/-- A node is made at a vacant path, of a new inode. -/
theorem makeNode_eq_ok {made : Files β} :
    (match fs.checkVacant path with
      | .error e => .error e
      | .ok () => if fs.unused inode then .ok made else .error .noSpace) = Except.ok fs' ↔
    fs.node? path = none ∧ fs.isDirectory path.dropLast = true ∧ fs.unused inode = true ∧
      fs' = made := by
  cases h : fs.checkVacant path with
  | error e =>
    have hvacant : ¬ (fs.node? path = none ∧ fs.isDirectory path.dropLast = true) := by
      rw [← checkVacant_eq_ok, h]
      exact nofun
    simp only [reduceCtorEq, false_iff]
    exact fun hall => hvacant ⟨hall.1, hall.2.1⟩
  | ok _ =>
    obtain ⟨hnone, hparent⟩ := checkVacant_eq_ok.mp h
    by_cases hunused : fs.unused inode = true
    · simp [hnone, hparent, hunused, eq_comm]
    · simp [hunused]

theorem create_eq_ok : fs.create path inode empty = .ok fs' ↔
    fs.node? path = none ∧ fs.isDirectory path.dropLast = true ∧ fs.unused inode = true ∧
      fs' = ⟨fs.names.set path (.file inode), update fs.bodies inode empty⟩ :=
  makeNode_eq_ok

theorem write_eq_ok : fs.write path body = .ok fs' ↔ ∃ inode, fs.node? path = some (.file inode) ∧
      fs' = ⟨fs.names, update fs.bodies inode body⟩ := by
  unfold write
  cases h : fs.inode? path with
  | none =>
    simp only [reduceCtorEq, false_iff]
    rintro ⟨inode, hnode, -⟩
    rw [inode?_eq_some.mpr hnode] at h
    cases h
  | some inode =>
    have hnode := inode?_eq_some.mp h
    constructor
    · rintro ⟨⟩
      exact ⟨inode, hnode, rfl⟩
    · rintro ⟨inode', hnode', rfl⟩
      rw [hnode] at hnode'
      cases hnode'
      rfl

theorem link_eq_ok : fs.link source path = .ok fs' ↔
    ∃ inode, fs.node? source = some (.file inode) ∧ fs.node? path = none ∧
      fs.isDirectory path.dropLast = true ∧ fs' = ⟨fs.names.set path (.file inode), fs.bodies⟩ := by
  unfold link
  cases h : fs.inode? source with
  | none =>
    simp only [reduceCtorEq, false_iff]
    rintro ⟨inode, hnode, -⟩
    rw [inode?_eq_some.mpr hnode] at h
    cases h
  | some inode =>
    have hnode := inode?_eq_some.mp h
    cases hvacant : fs.checkVacant path with
    | error e =>
      simp only [reduceCtorEq, false_iff]
      rintro ⟨_, _, hnone, hparent, _⟩
      rw [checkVacant_eq_ok.mpr ⟨hnone, hparent⟩] at hvacant
      cases hvacant
    | ok _ =>
      obtain ⟨hnone, hparent⟩ := checkVacant_eq_ok.mp hvacant
      constructor
      · rintro ⟨⟩
        exact ⟨inode, hnode, hnone, hparent, rfl⟩
      · rintro ⟨inode', hnode', _, _, rfl⟩
        rw [hnode] at hnode'
        cases hnode'
        rfl

theorem unlink_eq_ok : fs.unlink path = .ok fs' ↔
    fs.lexists path = true ∧ fs.isDirectory path = false ∧ fs' = ⟨fs.names.erase path, fs.bodies⟩ := by
  unfold unlink lexists isDirectory
  cases h : fs.node? path with
  | none => simp
  | some node => cases node <;> simp [eq_comm]

theorem mkdir_eq_ok : fs.mkdir path inode = .ok fs' ↔
    fs.node? path = none ∧ fs.isDirectory path.dropLast = true ∧ fs.unused inode = true ∧
      fs' = ⟨fs.names.set path (.directory inode), fs.bodies⟩ :=
  makeNode_eq_ok

/-! ## Nodes after a call -/

theorem node?_create (h : fs.create path inode empty = .ok fs') (p : Path) :
    fs'.node? p = if p = path then some (.file inode) else fs.node? p := by
  obtain ⟨-, -, -, rfl⟩ := create_eq_ok.mp h
  exact fs.names.get?_set path _ p

theorem node?_write (h : fs.write path body = .ok fs') (p : Path) : fs'.node? p = fs.node? p := by
  obtain ⟨_, -, rfl⟩ := write_eq_ok.mp h
  rfl

theorem node?_link (h : fs.link source path = .ok fs') (p : Path) :
    fs'.node? p = if p = path then fs.node? source else fs.node? p := by
  obtain ⟨inode, hsource, -, -, rfl⟩ := link_eq_ok.mp h
  rw [hsource]
  exact fs.names.get?_set path _ p

theorem node?_unlink (h : fs.unlink path = .ok fs') (p : Path) :
    fs'.node? p = if p = path then none else fs.node? p := by
  obtain ⟨-, -, rfl⟩ := unlink_eq_ok.mp h
  exact fs.names.get?_erase path p

theorem node?_mkdir (h : fs.mkdir path inode = .ok fs') (p : Path) :
    fs'.node? p = if p = path then some (.directory inode) else fs.node? p := by
  obtain ⟨-, -, -, rfl⟩ := mkdir_eq_ok.mp h
  exact fs.names.get?_set path _ p

/-! ## Bodies after a call -/

/-- A path reads what it read if its node is the same and the body is. -/
theorem read?_congr (hnode : fs'.node? p = fs.node? p)
    (hbody : ∀ i, fs.node? p = some (.file i) → fs'.bodies i = fs.bodies i) :
    fs'.read? p = fs.read? p := by
  unfold read?
  rw [inode?_congr hnode]
  cases h : fs.inode? p with
  | none => rfl
  | some i =>
    rw [Option.map_some, Option.map_some, hbody i (inode?_eq_some.mp h)]

theorem read?_create (h : fs.create path inode empty = .ok fs') (p : Path) :
    fs'.read? p = if p = path then some empty else fs.read? p := by
  obtain ⟨-, -, hunused, rfl⟩ := create_eq_ok.mp h
  split
  · rename_i hp
    refine read?_eq_some.mpr ⟨inode, ?_, update_self ..⟩
    rw [node?_create h, if_pos hp]
  · rename_i hp
    refine read?_congr ?_ ?_
    · rw [node?_create h, if_neg hp]
    · rintro i hi
      refine update_of_ne ?_ ..
      rintro rfl
      exact (unused_iff.mp hunused p).1 hi

theorem read?_link (h : fs.link source path = .ok fs') (p : Path) :
    fs'.read? p = if p = path then fs.read? source else fs.read? p := by
  obtain ⟨inode, hsource, -, -, rfl⟩ := link_eq_ok.mp h
  split
  · rename_i hp
    have hread : fs.read? source = some (fs.bodies inode) := read?_eq_some.mpr ⟨inode, hsource, rfl⟩
    rw [hread]
    refine read?_eq_some.mpr ⟨inode, ?_, rfl⟩
    rw [node?_link h, if_pos hp, hsource]
  · rename_i hp
    refine read?_congr ?_ fun _ _ => rfl
    rw [node?_link h, if_neg hp]

theorem read?_unlink (h : fs.unlink path = .ok fs') (p : Path) :
    fs'.read? p = if p = path then none else fs.read? p := by
  obtain ⟨-, -, rfl⟩ := unlink_eq_ok.mp h
  split
  · rename_i hp
    unfold read? inode?
    rw [node?_unlink h, if_pos hp]
    rfl
  · rename_i hp
    refine read?_congr ?_ fun _ _ => rfl
    rw [node?_unlink h, if_neg hp]

theorem read?_mkdir (h : fs.mkdir path inode = .ok fs') (p : Path) : fs'.read? p = fs.read? p := by
  obtain ⟨hnone, -, -, rfl⟩ := mkdir_eq_ok.mp h
  by_cases hp : p = path
  · subst hp
    unfold read? inode?
    rw [node?_mkdir h, if_pos rfl, hnone]
  · refine read?_congr ?_ fun _ _ => rfl
    rw [node?_mkdir h, if_neg hp]

/-! ## Files with one link -/

/-- The path is the only name of the file. -/
def Owns (fs : Files β) (path : Path) (inode : Inode) : Prop :=
  ∀ p, fs.node? p = some (.file inode) ↔ p = path

theorem Owns.node? (h : fs.Owns path inode) : fs.node? path = some (.file inode) :=
  (h path).mpr rfl

theorem owns_create (h : fs.create path inode empty = .ok fs') : fs'.Owns path inode := by
  obtain ⟨-, -, hunused, -⟩ := create_eq_ok.mp h
  intro p
  rw [node?_create h]
  split
  · rename_i hp
    exact ⟨fun _ => hp, fun _ => rfl⟩
  · rename_i hp
    exact ⟨fun hnode => absurd hnode (unused_iff.mp hunused p).1, fun heq => absurd heq hp⟩

/-- A file with one name has two after a link. -/
theorem Owns.names_link (howns : fs.Owns source inode) (h : fs.link source path = .ok fs')
    (p : Path) : fs'.node? p = some (.file inode) ↔ p = source ∨ p = path := by
  rw [node?_link h]
  split
  · rename_i hp
    exact ⟨fun _ => .inr hp, fun _ => howns.node?⟩
  · rename_i hp
    rw [howns p]
    exact ⟨.inl, fun hor => hor.resolve_right hp⟩

/-- A file with two names has one after one of them is unlinked. -/
theorem owns_unlink (hne : source ≠ path)
    (hnames : ∀ p, fs.node? p = some (.file inode) ↔ p = source ∨ p = path)
    (h : fs.unlink source = .ok fs') : fs'.Owns path inode := by
  intro p
  rw [node?_unlink h]
  split
  · rename_i hp
    exact ⟨nofun, fun heq => absurd (hp.symm.trans heq) hne⟩
  · rename_i hp
    rw [hnames p]
    exact ⟨fun hor => hor.resolve_left hp, .inr⟩

theorem Owns.congr (h : fs.Owns path inode) (hnode : ∀ p, fs'.node? p = fs.node? p) :
    fs'.Owns path inode := by
  intro p
  rw [hnode]
  exact h p

/-- A write to a file with one link changes what its path reads, and no other. -/
theorem read?_write (howns : fs.Owns path inode) (h : fs.write path body = .ok fs') (p : Path) :
    fs'.read? p = if p = path then some body else fs.read? p := by
  obtain ⟨inode', hnode, rfl⟩ := write_eq_ok.mp h
  have hsame : inode' = inode := by
    rw [howns.node?] at hnode
    cases hnode
    rfl
  subst hsame
  split
  · rename_i hp
    subst hp
    exact read?_eq_some.mpr ⟨inode', hnode, update_self ..⟩
  · rename_i hp
    refine read?_congr rfl ?_
    intro i hi
    refine update_of_ne ?_ ..
    rintro rfl
    exact hp ((howns p).mp hi)

/-! ## Link counts -/

theorem links_eq_zero : fs.links i = 0 ↔ ∀ p, fs.node? p ≠ some (.file i) := by
  unfold links
  rw [countP_eq_zero]
  constructor
  · intro h p hp
    exact h _ (Dict.mem_values_iff.mpr ⟨p, hp⟩) (by simp)
  · intro h node hnode
    obtain ⟨p, hp⟩ := Dict.mem_values_iff.mp hnode
    rw [decide_eq_true_eq]
    rintro rfl
    exact h p hp

/-- The links of a file are a name and the links without it. -/
theorem links_erase {node : Node} (h : fs.node? path = some node) (i : Inode) :
    fs.links i = (Files.mk (fs.names.erase path) fs.bodies).links i
      + if node = .file i then 1 else 0 := by
  unfold links
  rw [Dict.countP_values h]
  simp only [decide_eq_true_eq]

/-- A file has one link exactly when it has one name. -/
theorem links_eq_one (h : fs.node? path = some (.file i)) : fs.links i = 1 ↔ fs.Owns path i := by
  rw [links_erase h i, if_pos rfl]
  have hrest : (Files.mk (fs.names.erase path) fs.bodies).links i = 0 ↔ fs.Owns path i := by
    rw [links_eq_zero]
    have hnode : ∀ p, (Files.mk (fs.names.erase path) fs.bodies).node? p
        = if p = path then none else fs.node? p := fun p => fs.names.get?_erase path p
    constructor
    · intro hall p
      constructor
      · intro hp
        by_contra hne
        refine hall p ?_
        rw [hnode, if_neg hne]
        exact hp
      · rintro rfl
        exact h
    · intro howns p hp
      rw [hnode] at hp
      split at hp
      · cases hp
      · rename_i hne
        exact hne ((howns p).mp hp)
  rw [← hrest]
  omega

/-! ## Normal paths -/

/-- A path stays normal when no symbolic link appears. -/
theorem isNormalized_of_le (h : fs.isNormalized p = true)
    (hle : ∀ q, fs'.node? q = some .symlink → fs.node? q = some .symlink) :
    fs'.isNormalized p = true := by
  unfold isNormalized at *
  rw [all_eq_true] at *
  intro q hq
  have hold := h q hq
  simp only [ne_eq, decide_eq_true_eq] at *
  exact fun hlink => hold (hle q hlink)

/-- A name in a normal directory is normal unless it is a symbolic link. -/
theorem isNormalized_concat_of_ne {name : String} (h : fs.isNormalized path = true)
    (hnode : fs.node? (path ++ [name]) ≠ some .symlink) :
    fs.isNormalized (path ++ [name]) = true := by
  unfold isNormalized at h ⊢
  rw [inits_append, all_append, h, Bool.true_and]
  simp [hnode]

/-- A vacant name in a normal directory is normal. -/
theorem isNormalized_concat {name : String} (h : fs.isNormalized path = true)
    (hnode : fs.node? (path ++ [name]) = none) : fs.isNormalized (path ++ [name]) = true := by
  refine isNormalized_concat_of_ne h ?_
  rw [hnode]
  nofun

/-- From one prefix of a path to the next. -/
theorem isChain_inits (path : Path) : path.inits.IsChain fun p q => q.dropLast = p := by
  rw [isChain_iff_getElem]
  intro i hi
  rw [length_inits] at hi
  simp only [getElem_inits]
  rw [dropLast_eq_take, take_take, length_take]
  congr 1
  omega

/-! ## Directories -/

/-- Every name is in a directory. -/
def Rooted (fs : Files β) : Prop :=
  ∀ p node, fs.node? p = some node → p ≠ [] → fs.isDirectory p.dropLast = true

theorem rooted_of_entries (h : ∀ entry ∈ fs.names.entries, entry.1 ≠ [] →
    fs.isDirectory entry.1.dropLast = true) : fs.Rooted := by
  intro p node hp hne
  exact h (p, node) ((Dict.mem_entries_iff).mpr hp) hne

/-- New names in directories, and directories that stay, keep a file system a tree. -/
theorem Rooted.extend (h : fs.Rooted)
    (hdir : ∀ p, fs.isDirectory p = true → fs'.isDirectory p = true)
    (hnew : ∀ p node, fs'.node? p = some node →
      (∃ node, fs.node? p = some node) ∨ fs.isDirectory p.dropLast = true) : fs'.Rooted := by
  intro p node hp hne
  rcases hnew p node hp with ⟨node', hold⟩ | hparent
  · exact hdir _ (h p node' hold hne)
  · exact hdir _ hparent

/-- A directory stays one where no node changes but a vacant one. -/
theorem isDirectory_of_set (hvacant : fs.node? path = none)
    (hnode : ∀ p, p ≠ path → fs'.node? p = fs.node? p) (h : fs.isDirectory p = true) :
    fs'.isDirectory p = true := by
  rw [isDirectory_iff] at h ⊢
  rcases h with ⟨i, hi⟩
  refine ⟨i, ?_⟩
  rw [hnode p ?_, hi]
  rintro rfl
  rw [hvacant] at hi
  cases hi

section

variable (h : fs.Rooted)

include h

/-- A call that makes one name, in a directory. -/
theorem Rooted.set (hvacant : fs.node? path = none) (hparent : fs.isDirectory path.dropLast = true)
    (hnode : ∀ p, p ≠ path → fs'.node? p = fs.node? p) : fs'.Rooted := by
  refine h.extend (fun p => isDirectory_of_set hvacant hnode) ?_
  intro p node hp
  by_cases heq : p = path
  · rw [heq]
    exact .inr hparent
  · rw [hnode p heq] at hp
    exact .inl ⟨node, hp⟩

theorem rooted_create (hcall : fs.create path inode empty = .ok fs') : fs'.Rooted := by
  rcases create_eq_ok.mp hcall with ⟨hvacant, hparent, -, -⟩
  refine h.set hvacant hparent fun p hp => ?_
  rw [node?_create hcall, if_neg hp]

theorem rooted_link (hcall : fs.link source path = .ok fs') : fs'.Rooted := by
  rcases link_eq_ok.mp hcall with ⟨_, _, hvacant, hparent, -⟩
  refine h.set hvacant hparent fun p hp => ?_
  rw [node?_link hcall, if_neg hp]

theorem rooted_mkdir (hcall : fs.mkdir path inode = .ok fs') : fs'.Rooted := by
  rcases mkdir_eq_ok.mp hcall with ⟨hvacant, hparent, -, -⟩
  refine h.set hvacant hparent fun p hp => ?_
  rw [node?_mkdir hcall, if_neg hp]

theorem rooted_write (hcall : fs.write path body = .ok fs') : fs'.Rooted := by
  have hnode := node?_write hcall
  refine h.extend ?_ ?_
  · intro p hp
    rw [isDirectory_iff] at hp ⊢
    simpa only [hnode] using hp
  · intro p node hp
    rw [hnode] at hp
    exact .inl ⟨node, hp⟩

theorem rooted_unlink (hcall : fs.unlink path = .ok fs') : fs'.Rooted := by
  rcases unlink_eq_ok.mp hcall with ⟨-, hfile, -⟩
  refine h.extend ?_ ?_
  · intro p hp
    rw [isDirectory_iff] at hp ⊢
    rcases hp with ⟨i, hi⟩
    refine ⟨i, ?_⟩
    rw [node?_unlink hcall, if_neg ?_, hi]
    rintro rfl
    rw [isDirectory_iff.mpr ⟨i, hi⟩] at hfile
    cases hfile
  · intro p node hp
    rw [node?_unlink hcall] at hp
    split at hp
    · cases hp
    · exact .inl ⟨node, hp⟩

/-- A file system that has any name has a root. -/
theorem Rooted.isDirectory_root {node : Node} (hnode : fs.node? path = some node)
    (hne : path ≠ []) : fs.isDirectory [] = true := by
  induction hlength : path.length generalizing path node with
  | zero => exact absurd (length_eq_zero_iff.mp hlength) hne
  | succ n ih =>
    have hparent := h path node hnode hne
    rcases isDirectory_iff.mp hparent with ⟨i, hi⟩
    by_cases hroot : path.dropLast = []
    · rw [← hroot]
      exact hparent
    · refine ih hi hroot ?_
      rw [length_dropLast, hlength, Nat.add_sub_cancel]

/-- Nothing is below a path that is vacant. -/
theorem Rooted.read?_eq_none (hpath : fs.node? path = none) (name : String) :
    fs.read? (path ++ [name]) = none := by
  unfold Files.read? Files.inode?
  cases hnode : fs.node? (path ++ [name]) with
  | none => rfl
  | some node =>
    have hparent := h _ node hnode (by simp)
    rw [dropLast_concat, isDirectory_iff] at hparent
    rcases hparent with ⟨i, hi⟩
    rw [hpath] at hi
    cases hi

end

/-! ## Frames -/

/-- From `fs` to `fs'` no watched path has changed, neither its node nor what it reads,
and no symbolic link has appeared anywhere. -/
structure Agrees (W : Path → Prop) (fs fs' : Files β) : Prop where
  node : ∀ p, W p → fs'.node? p = fs.node? p
  read : ∀ p, W p → fs'.read? p = fs.read? p
  symlinks : ∀ p, fs'.node? p = some .symlink → fs.node? p = some .symlink

/-- The watched files also have the names that they had. -/
structure Frame (W : Path → Prop) (fs fs' : Files β) : Prop extends Agrees W fs fs' where
  names : ∀ p i, W p → fs.node? p = some (.file i) →
    ∀ q, fs'.node? q = some (.file i) ↔ fs.node? q = some (.file i)

variable {W W' : Path → Prop} {fs'' : Files β}

theorem Agrees.refl (fs : Files β) : Agrees W fs fs :=
  ⟨fun _ _ => rfl, fun _ _ => rfl, fun _ h => h⟩

theorem Agrees.trans (h : Agrees W fs fs') (h' : Agrees W fs' fs'') : Agrees W fs fs'' where
  node p hp := (h'.node p hp).trans (h.node p hp)
  read p hp := (h'.read p hp).trans (h.read p hp)
  symlinks p hp := h.symlinks p (h'.symlinks p hp)

theorem Agrees.mono (h : Agrees W fs fs') (hW : ∀ p, W' p → W p) : Agrees W' fs fs' :=
  ⟨fun p hp => h.node p (hW p hp), fun p hp => h.read p (hW p hp), h.symlinks⟩

theorem Agrees.lexists (h : Agrees W fs fs') (hp : W p) : fs'.lexists p = fs.lexists p := by
  unfold Files.lexists
  rw [h.node p hp]

theorem Agrees.isNormalized (h : Agrees W fs fs') (hp : fs.isNormalized p = true) :
    fs'.isNormalized p = true :=
  isNormalized_of_le hp h.symlinks

theorem Frame.refl (fs : Files β) : Frame W fs fs :=
  ⟨.refl fs, fun _ _ _ _ _ => Iff.rfl⟩

theorem Frame.trans (h : Frame W fs fs') (h' : Frame W fs' fs'') : Frame W fs fs'' where
  toAgrees := h.toAgrees.trans h'.toAgrees
  names p i hp hi q := (h'.names p i hp ((h.node p hp).trans hi) q).trans (h.names p i hp hi q)

theorem Frame.mono (h : Frame W fs fs') (hW : ∀ p, W' p → W p) : Frame W' fs fs' :=
  ⟨h.toAgrees.mono hW, fun p i hp => h.names p i (hW p hp)⟩

/-- A watched file with one link keeps it. -/
theorem Frame.owns (h : Frame W fs fs') (hp : W p) (howns : fs.Owns p i) : fs'.Owns p i := by
  intro q
  rw [h.names p i hp howns.node? q]
  exact howns q

theorem ne_of_not_watched (hpath : ¬ W path) (hp : W p) : p ≠ path := by
  rintro rfl
  exact hpath hp

/-- A path that is vacant is not one that is watched and exists. -/
theorem not_watched_of_vacant (hnone : fs.node? path = none)
    (hpath : W path → fs.lexists path = true) : ¬ W path := by
  intro hW
  have hexists := hpath hW
  rw [lexists_eq_false.mpr hnone] at hexists
  cases hexists

/-- A new file; no watched path was vacant there. -/
theorem frame_create (h : fs.create path inode empty = .ok fs')
    (hvacant : W path → fs.lexists path = true) : Frame W fs fs' := by
  obtain ⟨hnone, -, hunused, -⟩ := create_eq_ok.mp h
  have hpath := not_watched_of_vacant hnone hvacant
  refine ⟨⟨?_, ?_, ?_⟩, ?_⟩
  · intro p hp
    rw [node?_create h, if_neg (ne_of_not_watched hpath hp)]
  · intro p hp
    rw [read?_create h, if_neg (ne_of_not_watched hpath hp)]
  · intro p hp
    rw [node?_create h] at hp
    split at hp
    · cases hp
    · exact hp
  · intro p i _ hi q
    rw [node?_create h]
    split
    · -- the new file has an inode of its own
      rename_i hq
      have hne : inode ≠ i := by
        rintro rfl
        exact (unused_iff.mp hunused p).1 hi
      rw [hq, hnone]
      simp [hne]
    · exact Iff.rfl

theorem frame_write (howns : fs.Owns path inode) (h : fs.write path body = .ok fs')
    (hpath : ¬ W path) : Frame W fs fs' := by
  refine ⟨⟨?_, ?_, ?_⟩, ?_⟩
  · intro p _
    exact node?_write h p
  · intro p hp
    rw [read?_write howns h, if_neg (ne_of_not_watched hpath hp)]
  · intro p hp
    rw [node?_write h] at hp
    exact hp
  · intro p i _ _ q
    rw [node?_write h]

theorem agrees_link (h : fs.link source path = .ok fs') (hpath : ¬ W path) : Agrees W fs fs' := by
  obtain ⟨inode, hnode, -, -, -⟩ := link_eq_ok.mp h
  refine ⟨?_, ?_, ?_⟩
  · intro p hp
    rw [node?_link h, if_neg (ne_of_not_watched hpath hp)]
  · intro p hp
    rw [read?_link h, if_neg (ne_of_not_watched hpath hp)]
  · intro p hp
    rw [node?_link h] at hp
    split at hp
    · rw [hnode] at hp
      cases hp
    · exact hp

/-- A new link to a file that no watched path names. -/
theorem frame_link (h : fs.link source path = .ok fs') (hpath : ¬ W path)
    (hsource : ∀ p i, W p → fs.node? p = some (.file i) → fs.node? source ≠ some (.file i)) :
    Frame W fs fs' := by
  refine ⟨agrees_link h hpath, ?_⟩
  intro p i hp hi q
  have hne := hsource p i hp hi
  obtain ⟨-, -, hnone, -, -⟩ := link_eq_ok.mp h
  rw [node?_link h]
  split
  · rename_i hq
    rw [hq, hnone]
    simp [hne]
  · exact Iff.rfl

theorem agrees_unlink (h : fs.unlink path = .ok fs') (hpath : ¬ W path) : Agrees W fs fs' := by
  refine ⟨?_, ?_, ?_⟩
  · intro p hp
    rw [node?_unlink h, if_neg (ne_of_not_watched hpath hp)]
  · intro p hp
    rw [read?_unlink h, if_neg (ne_of_not_watched hpath hp)]
  · intro p hp
    rw [node?_unlink h] at hp
    split at hp
    · cases hp
    · exact hp

/-- A name is removed whose file no watched path names. -/
theorem frame_unlink (h : fs.unlink path = .ok fs') (hpath : ¬ W path)
    (hother : ∀ p i, W p → fs.node? p = some (.file i) → fs.node? path ≠ some (.file i)) :
    Frame W fs fs' := by
  refine ⟨agrees_unlink h hpath, ?_⟩
  intro p i hp hi q
  have hne := hother p i hp hi
  rw [node?_unlink h]
  split
  · rename_i hq
    rw [hq]
    simp [hne]
  · exact Iff.rfl

/-- A new directory; no watched path was vacant there. -/
theorem frame_mkdir (h : fs.mkdir path inode = .ok fs')
    (hpath : W path → fs.lexists path = true) : Frame W fs fs' := by
  obtain ⟨hnone, -, -, -⟩ := mkdir_eq_ok.mp h
  have hnot := not_watched_of_vacant hnone hpath
  refine ⟨⟨?_, ?_, ?_⟩, ?_⟩
  · intro p hp
    rw [node?_mkdir h, if_neg (ne_of_not_watched hnot hp)]
  · intro p _
    exact read?_mkdir h p
  · intro p hp
    rw [node?_mkdir h] at hp
    split at hp
    · cases hp
    · exact hp
  · intro p i _ _ q
    rw [node?_mkdir h]
    split
    · rename_i hq
      rw [hq, hnone]
      simp
    · exact Iff.rfl

end Files

end FileSystem
