import LightConeSpec.Lib.FileSystem
import LightConeSpec.Lib.Python

/-!
# Trees of files

A directory with all that is below it. Paths are relative to it, and every name is in a
directory, so that a tree cannot be built otherwise.

`files` are the regular files in the order of their paths; two trees with the same files have the
same list, `files_congr`. `copyFiles` copies some files of a tree to another: the other one stays
a part of the first, `Part`, and gets these files, `copyFiles_spec`.

Permissions are recorded and not enforced. A symbolic link leads nowhere.
-/

namespace DirectoryTree

open FileSystem List

/-- What a name in a tree stands for. -/
inductive Node (β : Type)
  | directory (writable : Bool)
  | file (body : β) (writable : Bool)
  | symlink
  | special
deriving DecidableEq

namespace Node

variable {β : Type}

def isDirectory : Node β → Bool
  | .directory _ => true
  | _ => false

/-- A directory or a regular file. -/
def isRegular : Node β → Bool
  | .directory _ | .file _ _ => true
  | _ => false

/-- `st_mode & 0o222`. -/
def writable : Node β → Bool
  | .directory writable | .file _ writable => writable
  | _ => true

def body? : Node β → Option β
  | .file body _ => some body
  | _ => none

theorem isDirectory_iff {node : Node β} : node.isDirectory = true ↔ ∃ w, node = .directory w := by
  cases node <;> simp [isDirectory]

theorem body?_eq_some {node : Node β} {body : β} :
    node.body? = some body ↔ ∃ w, node = .file body w := by
  cases node <;> simp [body?]

end Node

/-- What a directory can hold as a name. -/
def isName (name : String) : Bool :=
  name ≠ "" && name ≠ "." && name ≠ ".." && !name.toList.contains '/' && !Python.hasNul name

/-- A directory and all that is below it. -/
structure Tree (β : Type) where
  nodes : Dict Path (Node β)
  root : ∃ w, nodes.get? [] = some (.directory w)
  rooted : ∀ p name node, nodes.get? (p ++ [name]) = some node →
    isName name = true ∧ ∃ w, nodes.get? p = some (.directory w)

namespace Tree

variable {β : Type} (t : Tree β)

def node? (p : Path) : Option (Node β) := t.nodes.get? p

def isDirectory (p : Path) : Bool := (t.node? p).any Node.isDirectory

def file? (p : Path) : Option β := (t.node? p).bind Node.body?

/-- `sorted(path.rglob("*"))`, with what each name stands for. -/
def walk : List (Path × Node β) :=
  Python.sortedBy Prod.fst (t.nodes.entries.filter fun entry => entry.1 ≠ [])

/-- The regular files, sorted by their paths. -/
def files : List (Path × β) :=
  t.walk.filterMap fun entry => entry.2.body?.map fun body => (entry.1, body)

/-- There are only directories and regular files. -/
def IsRegular : Prop := ∀ p node, t.node? p = some node → node.isRegular = true

/-- Nothing can be written. -/
def IsImmutable : Prop := ∀ p node, t.node? p = some node → node.writable = false

/-! ## Changes -/

/-- A node can be put at a path: the path is in a directory, and a directory stays one. -/
structure Fits (p : Path) (node : Node β) : Prop where
  parent : ∀ q name, p = q ++ [name] → isName name = true ∧ t.isDirectory q = true
  stays : t.isDirectory p = true → node.isDirectory = true

variable {t} {p q : Path} {node : Node β} {body : β} {name : String}

theorem isDirectory_iff : t.isDirectory p = true ↔ ∃ w, t.node? p = some (.directory w) := by
  unfold isDirectory
  cases t.node? p with
  | none => simp
  | some node => simp [Node.isDirectory_iff]

theorem isDirectory_root : t.isDirectory [] = true := isDirectory_iff.mpr t.root

theorem parent_of_node? (h : t.node? (p ++ [name]) = some node) :
    isName name = true ∧ t.isDirectory p = true := by
  rcases t.rooted p name node h with ⟨hname, hdirectory⟩
  exact ⟨hname, isDirectory_iff.mpr hdirectory⟩

theorem file?_eq_some : t.file? p = some body ↔ ∃ w, t.node? p = some (.file body w) := by
  unfold file?
  cases t.node? p with
  | none => simp
  | some node => simp [Node.body?_eq_some]

def put (t : Tree β) (p : Path) (node : Node β) (h : t.Fits p node) : Tree β where
  nodes := t.nodes.set p node
  root := by
    rw [t.nodes.get?_set]
    split
    · rename_i hp
      rcases Node.isDirectory_iff.mp (h.stays (by rw [← hp]; exact isDirectory_root)) with ⟨w, rfl⟩
      exact ⟨w, rfl⟩
    · exact t.root
  rooted := by
    intro q name node' hnode
    have hold : isName name = true ∧ t.isDirectory q = true := by
      rw [t.nodes.get?_set] at hnode
      split at hnode
      · rename_i hp
        exact h.parent q name hp.symm
      · exact parent_of_node? hnode
    refine ⟨hold.1, ?_⟩
    rw [t.nodes.get?_set]
    split
    · rename_i hq
      rcases Node.isDirectory_iff.mp (h.stays (by rw [← hq]; exact hold.2)) with ⟨w, rfl⟩
      exact ⟨w, rfl⟩
    · exact isDirectory_iff.mp hold.2

theorem node?_put (h : t.Fits p node) (q : Path) :
    (t.put p node h).node? q = if q = p then some node else t.node? q :=
  t.nodes.get?_set p node q

/-- A node that is replaced by one of its kind. -/
theorem fits_of_node? {old : Node β} (hold : t.node? p = some old)
    (hkind : old.isDirectory = node.isDirectory) : t.Fits p node where
  parent := by
    rintro q name rfl
    exact parent_of_node? hold
  stays := by
    intro hdirectory
    unfold isDirectory at hdirectory
    rw [hold] at hdirectory
    rw [← hkind]
    exact hdirectory

/-- A name can be made at the path. -/
def isVacant (t : Tree β) (p : Path) : Bool :=
  (t.node? p).isNone && p.getLast?.any isName && t.isDirectory p.dropLast

theorem isVacant_iff : t.isVacant p = true ↔
    t.node? p = none ∧ ∃ q name, p = q ++ [name] ∧ isName name = true ∧ t.isDirectory q = true := by
  unfold isVacant
  rcases eq_nil_or_concat p with rfl | ⟨q, name, rfl⟩
  · simp
  · simp only [concat_eq_append, getLast?_concat, dropLast_concat, Bool.and_eq_true,
      Option.isNone_iff_eq_none, Option.any_some, and_assoc]
    constructor
    · rintro ⟨hnone, hname, hdirectory⟩
      exact ⟨hnone, q, name, rfl, hname, hdirectory⟩
    · rintro ⟨hnone, q', name', heq, hname, hdirectory⟩
      rcases append_inj' heq rfl with ⟨rfl, hlast⟩
      cases hlast
      exact ⟨hnone, hname, hdirectory⟩

theorem fits_of_isVacant (h : t.isVacant p = true) : t.Fits p node where
  parent := by
    rintro q name rfl
    rcases isVacant_iff.mp h with ⟨_, q', name', heq, hname, hdirectory⟩
    rcases append_inj' heq rfl with ⟨rfl, hlast⟩
    cases hlast
    exact ⟨hname, hdirectory⟩
  stays := by
    intro hdirectory
    rcases isDirectory_iff.mp hdirectory with ⟨w, hw⟩
    rw [(isVacant_iff.mp h).1] at hw
    cases hw

/-! ## System calls -/

/-- `os.mkdir`, for a directory that may exist. -/
def mkdir (t : Tree β) (p : Path) : Except Errno (Tree β) :=
  if h : t.isVacant p = true then .ok (t.put p (.directory true) (fits_of_isVacant h))
  else if t.isDirectory p = true then .ok t
  else .error .notDirectory

/-- `path.mkdir(parents=True, exist_ok=True)` for the names behind a directory. -/
def mkdirs (t : Tree β) (at_ : Path) : Path → Except Errno (Tree β)
  | [] => .ok t
  | name :: rest => do
    let t ← t.mkdir (at_ ++ [name])
    t.mkdirs (at_ ++ [name]) rest

def readFile (t : Tree β) (p : Path) : Except Errno β :=
  match t.node? p with
  | some (.file body _) => .ok body
  | some (.directory _) => .error .isDirectory
  | _ => .error .missing

/-- A file that is opened with mode `wb` and written. -/
def writeFile (t : Tree β) (p : Path) (body : β) : Except Errno (Tree β) :=
  match h : t.node? p with
  | none =>
    if h : t.isVacant p = true then .ok (t.put p (.file body true) (fits_of_isVacant h))
    else .error .missing
  | some (.file _ w) => .ok (t.put p (.file body w) (fits_of_node? h rfl))
  | some (.directory _) => .error .isDirectory
  | some _ => .error .missing

/-- `os.chmod`, of which only the write permission is kept. -/
def chmod (t : Tree β) (p : Path) (writable : Bool) : Except Errno (Tree β) :=
  match h : t.node? p with
  | some (.directory _) => .ok (t.put p (.directory writable) (fits_of_node? h rfl))
  | some (.file body _) => .ok (t.put p (.file body writable) (fits_of_node? h rfl))
  | _ => .error .missing

/-- `os.chmod` of every directory. -/
def chmodDirectories (t : Tree β) (writable : Bool) : Tree β where
  nodes := t.nodes.mapValues fun
    | .directory _ => .directory writable
    | node => node
  root := by
    rcases t.root with ⟨w, hw⟩
    exact ⟨writable, by rw [Dict.get?_mapValues, hw]; rfl⟩
  rooted := by
    intro p name node hnode
    rw [Dict.get?_mapValues] at hnode
    rcases Option.map_eq_some_iff.mp hnode with ⟨old, hold, -⟩
    rcases t.rooted p name old hold with ⟨hname, w, hw⟩
    exact ⟨hname, writable, by rw [Dict.get?_mapValues, hw]; rfl⟩

/-- `target.parent.mkdir(..)`, `shutil.copyfile(source, target)` and `os.chmod(target, ..)`. -/
def copyFile (source : Tree β) (writable : Bool) (target : Tree β) (p : Path) :
    Except Errno (Tree β) := do
  let target ← target.mkdirs [] p.dropLast
  let body ← source.readFile p
  let target ← target.writeFile p body
  target.chmod p writable

/-- The loop over the files that are copied. -/
def copyFiles (source : Tree β) (writable : Bool) (target : Tree β) (paths : List Path) :
    Except Errno (Tree β) :=
  paths.foldlM (copyFile source writable) target

/-- A new directory. -/
def empty : Tree β where
  nodes := ⟨[([], .directory true)], by simp⟩
  root := ⟨true, rfl⟩
  rooted := by
    intro p name node hnode
    have hentry := Dict.mem_entries_iff.mpr hnode
    simp at hentry

/-- Every name of a dictionary of nodes is in a directory. -/
theorem rooted_of_entries {nodes : Dict Path (Node β)}
    (h : ∀ entry ∈ nodes.entries, entry.1 ≠ [] → entry.1.getLast?.any isName = true ∧
      (nodes.get? entry.1.dropLast).any Node.isDirectory = true)
    (p : Path) (name : String) (node : Node β) (hnode : nodes.get? (p ++ [name]) = some node) :
    isName name = true ∧ ∃ w, nodes.get? p = some (.directory w) := by
  have hentry := h _ (Dict.mem_entries_iff.mpr hnode) (by simp)
  simp only [getLast?_concat, dropLast_concat, Option.any_some] at hentry
  refine ⟨hentry.1, ?_⟩
  cases hparent : nodes.get? p with
  | none =>
    rw [hparent] at hentry
    cases hentry.2
  | some parent =>
    rw [hparent] at hentry
    rcases Node.isDirectory_iff.mp hentry.2 with ⟨w, rfl⟩
    exact ⟨w, rfl⟩

/-- A tree of directories and files, by its entries. -/
theorem isRegular_of_entries
    (h : ∀ entry ∈ t.nodes.entries, entry.2.isRegular = true) : t.IsRegular :=
  fun p node hnode => h (p, node) (Dict.mem_entries_iff.mpr hnode)

/-! ## What is in a tree -/

theorem mem_walk : (p, node) ∈ t.walk ↔ p ≠ [] ∧ t.node? p = some node := by
  unfold walk
  rw [Python.mem_sortedBy, mem_filter, decide_eq_true_eq, and_comm]
  exact and_congr_right fun _ => Dict.mem_entries_iff

theorem pairwise_walk (t : Tree β) : t.walk.Pairwise fun a b => a.1 < b.1 := by
  have hnodup : (t.walk.map Prod.fst).Nodup := by
    have hperm := (Python.sortedBy_perm Prod.fst
      (t.nodes.entries.filter fun entry => entry.1 ≠ [])).map Prod.fst
    exact hperm.nodup_iff.mpr (t.nodes.nodup.sublist (filter_sublist.map _))
  rw [List.Nodup, pairwise_map] at hnodup
  have hsorted := Python.sortedBy_pairwise Prod.fst
    (t.nodes.entries.filter fun entry => entry.1 ≠ [])
  exact (hsorted.and hnodup).imp fun h => lt_of_le_of_ne h.1 h.2

/-- The files are those that can be read. -/
theorem mem_files : (p, body) ∈ t.files ↔ t.file? p = some body := by
  unfold files
  rw [mem_filterMap]
  constructor
  · rintro ⟨⟨q, node⟩, hwalk, hbody⟩
    rcases Option.map_eq_some_iff.mp hbody with ⟨b, hb, heq⟩
    cases heq
    rcases Node.body?_eq_some.mp hb with ⟨w, rfl⟩
    exact file?_eq_some.mpr ⟨w, (mem_walk.mp hwalk).2⟩
  · intro h
    rcases file?_eq_some.mp h with ⟨w, hw⟩
    refine ⟨(p, .file body w), mem_walk.mpr ⟨?_, hw⟩, rfl⟩
    rintro rfl
    rcases isDirectory_iff.mp (isDirectory_root (t := t)) with ⟨w', hw'⟩
    rw [hw] at hw'
    cases hw'

theorem pairwise_files (t : Tree β) : t.files.Pairwise fun a b => a.1 < b.1 := by
  unfold files
  rw [pairwise_filterMap]
  refine t.pairwise_walk.imp ?_
  intro a b hlt c hc d hd
  rcases Option.map_eq_some_iff.mp hc with ⟨_, _, rfl⟩
  rcases Option.map_eq_some_iff.mp hd with ⟨_, _, rfl⟩
  exact hlt

/-- Two trees with the same files list them alike. -/
theorem files_congr {t' : Tree β} (h : ∀ p, t.file? p = t'.file? p) : t.files = t'.files := by
  have hnodup : ∀ t : Tree β, t.files.Nodup := by
    intro t
    refine t.pairwise_files.imp ?_
    rintro a _ hlt rfl
    exact lt_irrefl _ hlt
  have hperm : t.files.Perm t'.files := by
    rw [perm_ext_iff_of_nodup (hnodup t) (hnodup t')]
    rintro ⟨p, body⟩
    rw [mem_files, mem_files, h]
  refine hperm.eq_of_pairwise ?_ t.pairwise_files t'.pairwise_files
  exact fun a b _ _ hab hba => absurd hab (lt_asymm hba)

/-- The names of a path in a tree. -/
theorem isName_of_node? (h : t.node? p = some node) : ∀ name ∈ p, isName name = true := by
  induction p using List.reverseRecOn generalizing node with
  | nil => nofun
  | append_singleton p last ih =>
    rcases parent_of_node? h with ⟨hlast, hdirectory⟩
    rcases isDirectory_iff.mp hdirectory with ⟨w, hw⟩
    intro name hname
    rcases mem_append.mp hname with hmem | hmem
    · exact ih hw name hmem
    · rw [mem_singleton.mp hmem]
      exact hlast

/-- Whatever is on the way to a node is a directory. -/
theorem isDirectory_of_node? (h : t.node? (p ++ q) = some node) (hq : q ≠ []) :
    t.isDirectory p = true := by
  induction q using List.reverseRecOn generalizing node with
  | nil => exact absurd rfl hq
  | append_singleton q last ih =>
    rw [← append_assoc] at h
    rcases parent_of_node? h with ⟨_, hdirectory⟩
    by_cases hempty : q = []
    · rw [hempty, append_nil] at hdirectory
      exact hdirectory
    · rcases isDirectory_iff.mp hdirectory with ⟨w, hw⟩
      exact ih hw hempty

/-! ## Copying -/

/-- What is in the second tree is in the first: directories, and files with the same bodies. -/
def Part (source target : Tree β) : Prop :=
  ∀ p node, target.node? p = some node →
    (node.isDirectory = true ∧ source.isDirectory p = true) ∨
      ∃ body, node.body? = some body ∧ source.file? p = some body

variable {source target : Tree β}

theorem part_empty : Part source empty := by
  intro p node hnode
  have hentry := Dict.mem_entries_iff.mpr hnode
  simp only [empty, mem_singleton, Prod.mk.injEq] at hentry
  rcases hentry with ⟨rfl, rfl⟩
  exact Or.inl ⟨rfl, isDirectory_root⟩

/-- A path that is a directory or a file is not the other. -/
theorem file?_eq_none_of_isDirectory (h : t.isDirectory p = true) : t.file? p = none := by
  rcases isDirectory_iff.mp h with ⟨w, hw⟩
  unfold file?
  rw [hw]
  rfl

section

variable (h : Part source target)

include h

/-- Where the source has a directory, a part of it has one or nothing. -/
theorem Part.directory (hp : source.isDirectory p = true) :
    target.node? p = none ∨ target.isDirectory p = true := by
  cases hnode : target.node? p with
  | none => exact Or.inl rfl
  | some node =>
    rcases h p node hnode with ⟨hdirectory, _⟩ | ⟨body, _, hbody⟩
    · rcases Node.isDirectory_iff.mp hdirectory with ⟨w, rfl⟩
      exact Or.inr (isDirectory_iff.mpr ⟨w, hnode⟩)
    · rw [file?_eq_none_of_isDirectory hp] at hbody
      cases hbody

/-- Where the source has a file, a part of it has the same or nothing. -/
theorem Part.file (hp : source.file? p = some body) :
    target.node? p = none ∨ ∃ w, target.node? p = some (.file body w) := by
  cases hnode : target.node? p with
  | none => exact Or.inl rfl
  | some node =>
    rcases h p node hnode with ⟨_, hdirectory⟩ | ⟨found, hfound, hbody⟩
    · rw [file?_eq_none_of_isDirectory hdirectory] at hp
      cases hp
    · rcases Node.body?_eq_some.mp hfound with ⟨w, rfl⟩
      rw [hp] at hbody
      cases hbody
      exact Or.inr ⟨w, rfl⟩

theorem Part.put (hfits : target.Fits p node)
    (hnode : (node.isDirectory = true ∧ source.isDirectory p = true) ∨
      ∃ body, node.body? = some body ∧ source.file? p = some body) :
    Part source (target.put p node hfits) := by
  intro q found hfound
  rw [node?_put] at hfound
  split at hfound
  · rename_i hq
    cases hfound
    rw [hq]
    exact hnode
  · exact h q found hfound

/-- A directory of the source is made in a part of it. The files stay. -/
theorem mkdir_spec (hdirectory : target.isDirectory p = true)
    (hsource : source.isDirectory (p ++ [name]) = true) :
    ∃ target', target.mkdir (p ++ [name]) = .ok target' ∧ Part source target' ∧
      target'.isDirectory (p ++ [name]) = true ∧
      ∀ q body w, target'.node? q = some (.file body w) ↔ target.node? q = some (.file body w) := by
  unfold mkdir
  rcases h.directory hsource with hnone | hthere
  · have hname : isName name = true := by
      rcases isDirectory_iff.mp hsource with ⟨w, hw⟩
      exact (parent_of_node? hw).1
    have hvacant : target.isVacant (p ++ [name]) = true :=
      isVacant_iff.mpr ⟨hnone, p, name, rfl, hname, hdirectory⟩
    rw [dif_pos hvacant]
    refine ⟨_, rfl, h.put _ (Or.inl ⟨rfl, hsource⟩), ?_, ?_⟩
    · exact isDirectory_iff.mpr ⟨true, by rw [node?_put, if_pos rfl]⟩
    · intro q body w
      rw [node?_put]
      split
      · rename_i hq
        rw [hq, hnone]
        simp
      · exact Iff.rfl
  · have hnot : ¬ target.isVacant (p ++ [name]) = true := by
      intro hvacant
      rcases isDirectory_iff.mp hthere with ⟨w, hw⟩
      rw [(isVacant_iff.mp hvacant).1] at hw
      cases hw
    rw [dif_neg hnot, if_pos hthere]
    exact ⟨target, rfl, h, hthere, fun _ _ _ => Iff.rfl⟩

theorem mkdirs_spec (hdirectory : target.isDirectory p = true)
    (hsource : source.isDirectory (p ++ q) = true) :
    ∃ target', target.mkdirs p q = .ok target' ∧ Part source target' ∧
      target'.isDirectory (p ++ q) = true ∧
      ∀ r body w, target'.node? r = some (.file body w) ↔ target.node? r = some (.file body w) := by
  induction q generalizing target p with
  | nil =>
    rw [append_nil]
    exact ⟨target, rfl, h, hdirectory, fun _ _ _ => Iff.rfl⟩
  | cons name rest ih =>
    have hassoc : p ++ name :: rest = p ++ [name] ++ rest := by simp
    rw [hassoc] at hsource ⊢
    have hfirst : source.isDirectory (p ++ [name]) = true := by
      by_cases hrest : rest = []
      · rwa [hrest, append_nil] at hsource
      · rcases isDirectory_iff.mp hsource with ⟨w, hw⟩
        exact isDirectory_of_node? hw hrest
    rcases mkdir_spec h hdirectory hfirst with ⟨t₁, hmkdir, hpart, hthere, hfiles⟩
    rcases ih hpart hthere hsource with ⟨t₂, hmkdirs, hpart', hthere', hfiles'⟩
    refine ⟨t₂, ?_, hpart', hthere', fun r body w => (hfiles' r body w).trans (hfiles r body w)⟩
    exact Python.bind_eq_ok.mpr ⟨t₁, hmkdir, hmkdirs⟩

end

theorem writeFile_of_isVacant (h : t.isVacant p = true) :
    t.writeFile p body = .ok (t.put p (.file body true) (fits_of_isVacant h)) := by
  have hnone := (isVacant_iff.mp h).1
  unfold writeFile
  split
  · rw [dif_pos h]
  all_goals
    rename_i hnode
    rw [hnone] at hnode
    cases hnode

theorem writeFile_of_file {old : β} {w : Bool} (h : t.node? p = some (.file old w)) :
    t.writeFile p body = .ok (t.put p (.file body w) (fits_of_node? h rfl)) := by
  unfold writeFile
  split
  · rename_i hnode
    rw [h] at hnode
    cases hnode
  · rename_i hnode
    rw [h] at hnode
    cases hnode
    rfl
  · rename_i hnode
    rw [h] at hnode
    cases hnode
  · rename_i hnot _ hnode
    rw [h] at hnode
    cases hnode
    exact absurd rfl (hnot _ _)

/-- A file of the source is written to a part of it. -/
theorem writeFile_spec (h : Part source target) (hp : source.file? p = some body)
    (hdirectory : target.isDirectory p.dropLast = true) :
    ∃ target' w, target.writeFile p body = .ok target' ∧ Part source target' ∧
      ∀ q, target'.node? q = if q = p then some (.file body w) else target.node? q := by
  have hpart : ∀ w hfits, Part source (target.put p (.file body w) hfits) := fun w hfits =>
    h.put hfits (Or.inr ⟨body, rfl, hp⟩)
  rcases h.file hp with hnone | ⟨w, hthere⟩
  · rcases file?_eq_some.mp hp with ⟨w, hw⟩
    have hvacant : target.isVacant p = true := by
      rcases eq_nil_or_concat p with rfl | ⟨q, name, rfl⟩
      · rcases isDirectory_iff.mp (isDirectory_root (t := target)) with ⟨w', hw'⟩
        rw [hnone] at hw'
        cases hw'
      · rw [concat_eq_append] at hw hdirectory hnone ⊢
        rw [dropLast_concat] at hdirectory
        exact isVacant_iff.mpr ⟨hnone, q, name, rfl, (parent_of_node? hw).1, hdirectory⟩
    exact ⟨_, true, writeFile_of_isVacant hvacant, hpart _ _, node?_put _⟩
  · exact ⟨_, w, writeFile_of_file hthere, hpart _ _, node?_put _⟩

theorem chmod_of_file {w writable : Bool} (h : t.node? p = some (.file body w)) :
    t.chmod p writable = .ok (t.put p (.file body writable) (fits_of_node? h rfl)) := by
  unfold chmod
  split
  · rename_i hnode
    rw [h] at hnode
    cases hnode
  · rename_i hnode
    rw [h] at hnode
    cases hnode
    rfl
  · rename_i hnot
    exact (hnot _ _ h).elim

/-- A file of the source is copied to a part of it. No other file changes. -/
theorem copyFile_spec (writable : Bool) (h : Part source target) (hp : source.file? p = some body) :
    ∃ target', copyFile source writable target p = .ok target' ∧ Part source target' ∧
      ∀ q found w, target'.node? q = some (.file found w) ↔
        if q = p then found = body ∧ w = writable else target.node? q = some (.file found w) := by
  rcases file?_eq_some.mp hp with ⟨w₀, hw₀⟩
  have hparent : source.isDirectory ([] ++ p.dropLast) = true := by
    rw [nil_append]
    rcases eq_nil_or_concat p with rfl | ⟨q, name, rfl⟩
    · exact isDirectory_root
    · rw [concat_eq_append] at hw₀ ⊢
      rw [dropLast_concat]
      exact (parent_of_node? hw₀).2
  rcases mkdirs_spec h isDirectory_root hparent with ⟨t₁, hmkdirs, hpart₁, hthere, hfiles⟩
  rw [nil_append] at hthere
  rcases writeFile_spec hpart₁ hp hthere with ⟨t₂, w, hwrite, hpart₂, hnode₂⟩
  have hfile₂ : t₂.node? p = some (.file body w) := by rw [hnode₂, if_pos rfl]
  have hread : source.readFile p = .ok body := by
    unfold readFile
    rw [hw₀]
  refine ⟨t₂.put p (.file body writable) (fits_of_node? hfile₂ rfl), ?_, ?_, ?_⟩
  · exact Python.bind_eq_ok.mpr ⟨t₁, hmkdirs, Python.bind_eq_ok.mpr ⟨body, hread,
      Python.bind_eq_ok.mpr ⟨t₂, hwrite, chmod_of_file hfile₂⟩⟩⟩
  · exact hpart₂.put _ (Or.inr ⟨body, rfl, hp⟩)
  · intro q found w'
    rw [node?_put, hnode₂]
    split
    · simp only [Option.some.injEq, Node.file.injEq]
      constructor
      · rintro ⟨rfl, rfl⟩
        exact ⟨rfl, rfl⟩
      · rintro ⟨rfl, rfl⟩
        exact ⟨rfl, rfl⟩
    · exact hfiles q found w'

/-- Some files of the source are copied to a part of it. -/
theorem copyFiles_spec (writable : Bool) {paths : List Path} (h : Part source target)
    (hpaths : ∀ p ∈ paths, ∃ body, source.file? p = some body) :
    ∃ target', copyFiles source writable target paths = .ok target' ∧ Part source target' ∧
      ∀ q found w, target'.node? q = some (.file found w) ↔
        if q ∈ paths then source.file? q = some found ∧ w = writable
        else target.node? q = some (.file found w) := by
  induction paths generalizing target with
  | nil => exact ⟨target, rfl, h, fun q found w => by simp⟩
  | cons p paths ih =>
    rcases hpaths p mem_cons_self with ⟨body, hbody⟩
    rcases copyFile_spec writable h hbody with ⟨t₁, hcopy, hpart₁, hnode₁⟩
    rcases ih hpart₁ fun q hq => hpaths q (mem_cons_of_mem _ hq) with
      ⟨t₂, hrest, hpart₂, hnode₂⟩
    refine ⟨t₂, Python.bind_eq_ok.mpr ⟨t₁, hcopy, hrest⟩, hpart₂, fun q found w => ?_⟩
    rw [hnode₂, hnode₁]
    by_cases hrest : q ∈ paths
    · rw [if_pos hrest, if_pos (mem_cons_of_mem _ hrest)]
    · rw [if_neg hrest]
      by_cases hq : q = p
      · subst hq
        rw [if_pos rfl, if_pos mem_cons_self, hbody, Option.some.injEq, eq_comm (a := body)]
      · rw [if_neg hq, if_neg]
        intro hmem
        rcases mem_cons.mp hmem with heq | hmem
        · exact hq heq
        · exact hrest hmem

/-- A part of a tree is regular. -/
theorem Part.isRegular (h : Part source target) : target.IsRegular := by
  intro p node hnode
  rcases h p node hnode with ⟨hdirectory, _⟩ | ⟨body, hbody, _⟩
  · rcases Node.isDirectory_iff.mp hdirectory with ⟨w, rfl⟩
    rfl
  · rcases Node.body?_eq_some.mp hbody with ⟨w, rfl⟩
    rfl

theorem node?_empty : (empty : Tree β).node? p = if p = [] then some (.directory true) else none := by
  unfold node? empty Dict.get?
  by_cases hp : p = []
  · simp [hp]
  · simp [hp, Ne.symm hp]

/-- All files of a tree, copied to a new directory. -/
theorem copyFiles_empty (t : Tree β) (writable : Bool) :
    ∃ target, copyFiles t writable empty (t.files.map Prod.fst) = .ok target ∧ target.IsRegular ∧
      target.files = t.files ∧ ∀ p body w, target.node? p = some (.file body w) → w = writable := by
  have hpaths : ∀ p, p ∈ t.files.map Prod.fst ↔ ∃ body, t.file? p = some body := by
    intro p
    rw [mem_map]
    constructor
    · rintro ⟨⟨q, body⟩, hfile, rfl⟩
      exact ⟨body, mem_files.mp hfile⟩
    · rintro ⟨body, hbody⟩
      exact ⟨(p, body), mem_files.mpr hbody, rfl⟩
  rcases copyFiles_spec writable part_empty fun p hp => (hpaths p).mp hp with
    ⟨target, hcopy, hpart, hnode⟩
  have hempty : ∀ p (body : β) w, (empty : Tree β).node? p ≠ some (.file body w) := by
    intro p body w
    rw [node?_empty]
    split <;> nofun
  refine ⟨target, hcopy, hpart.isRegular, files_congr fun p => ?_, ?_⟩
  · apply Option.ext
    intro body
    rw [file?_eq_some]
    constructor
    · rintro ⟨w, hw⟩
      rw [hnode] at hw
      split at hw
      · exact hw.1
      · exact absurd hw (hempty p body w)
    · intro hbody
      refine ⟨writable, (hnode p body writable).mpr ?_⟩
      rw [if_pos ((hpaths p).mpr ⟨body, hbody⟩)]
      exact ⟨hbody, rfl⟩
  · intro p body w hw
    rw [hnode] at hw
    split at hw
    · exact hw.2
    · exact absurd hw (hempty p body w)

/-! ## Permissions of directories -/

theorem node?_chmodDirectories (t : Tree β) (writable : Bool) (p : Path) :
    (t.chmodDirectories writable).node? p = (t.node? p).map fun
      | .directory _ => .directory writable
      | node => node :=
  Dict.get?_mapValues _ _ _

theorem file?_chmodDirectories (t : Tree β) (writable : Bool) (p : Path) :
    (t.chmodDirectories writable).file? p = t.file? p := by
  unfold file?
  rw [node?_chmodDirectories]
  cases t.node? p with
  | none => rfl
  | some node => cases node <;> rfl

theorem IsRegular.chmodDirectories (h : t.IsRegular) (writable : Bool) :
    (t.chmodDirectories writable).IsRegular := by
  intro p node hnode
  rw [node?_chmodDirectories] at hnode
  rcases Option.map_eq_some_iff.mp hnode with ⟨old, hold, rfl⟩
  have hregular := h p old hold
  cases old with
  | directory w => rfl
  | file body w => rfl
  | symlink => exact hregular
  | special => exact hregular

/-- A regular tree whose files cannot be written is immutable when its directories are. -/
theorem IsRegular.isImmutable (h : t.IsRegular)
    (hfiles : ∀ p body w, t.node? p = some (.file body w) → w = false) :
    (t.chmodDirectories false).IsImmutable := by
  intro p node hnode
  rw [node?_chmodDirectories] at hnode
  rcases Option.map_eq_some_iff.mp hnode with ⟨old, hold, rfl⟩
  have hregular := h p old hold
  cases old with
  | directory w => rfl
  | file body w => exact hfiles p body w hold
  | symlink => cases hregular
  | special => cases hregular

end Tree

end DirectoryTree
