import LightConeSpec.RollingArchive.Eviction

/-!
# The manifest of a candidate tree

`_scan_archive_tree` lists the regular files of a tree, and a sealed tree is one whose
list is that of its manifest. The planner selects the members of the manifest that are
not retained.

The scan depends on the kind and the content of each path only (`scanArchiveTree_congr`),
not on inodes, so that a tree from which files were removed and to which they came back
is sealed by the same manifest.
-/

namespace RollingArchive

open FileSystem Python List

variable {Sha : Type}

/-! ## Scanning -/

/-- `FormalArchiveSha256Manifest.__post_init__`, with the constructors of its rows. -/
def FormalArchiveSha256Manifest.postInit (manifest : FormalArchiveSha256Manifest Sha) :
    Except Raised Unit := do
  forEachRecord (fun row => checkRelative row.path) manifest.files
  ensure (manifest.files.map (·.path) ≠ [])
    (valueError "archive manifest must contain at least one file")
  ensure (manifest.files.map (·.path) = sortedPaths (manifest.files.map (·.path)))
    (valueError "archive manifest paths must be exact, unique, and sorted")

section

variable (hash : Hashing Sha) (fs : Tree Sha) (root : Path)

/-- What lies below a directory, in the order of the walk: the entries of a directory by
name, and what is in one of them directly after it. -/
def walk : List Path :=
  sortedBy id ((fs.names.entries.map Prod.fst).filterMap fun path =>
    if root <+: path ∧ path ≠ root then some (path.drop root.length) else none)

def scanEntry (allowRootManifest : Bool) (relative : Path) :
    Except Raised (List (ArchiveManifestFile Sha)) :=
  match fs.node? (root ++ relative) with
  | none | some (.directory _) => .ok []
  | some .symlink =>
    .error (archiveError ("archive tree contains a symbolic link: " ++ pathText (root ++ relative)))
  | some .special =>
    .error (archiveError
      ("archive tree contains a FIFO/socket/device: " ++ pathText (root ++ relative)))
  | some (.file inode) =>
    if fileName relative = archiveManifestName then
      if allowRootManifest = true ∧ relative = [archiveManifestName] then .ok []
      else .error (archiveError ("archive manifest cannot include itself or a nested copy: " ++
        pathText (root ++ relative)))
    else do
      checkRelative relative
      pure [⟨relative, hash.fileSha256 (fs.bodies inode), hash.fileSize (fs.bodies inode)⟩]

def scanEntries (allowRootManifest : Bool) :
    List Path → Except Raised (List (ArchiveManifestFile Sha))
  | [] => .ok []
  | relative :: rest => do
    let head ← scanEntry hash fs root allowRootManifest relative
    let tail ← scanEntries allowRootManifest rest
    pure (head ++ tail)

def scanArchiveTree (allowRootManifest : Bool) :
    Except Raised (List (ArchiveManifestFile Sha)) := do
  existingDirectory fs root "archive candidate root"
  let found ← scanEntries hash fs root allowRootManifest (walk fs root)
  let rows := sortedBy (fun row => pathText row.path) found
  ensure (rows ≠ [] ∧ (rows.map (·.path)).Nodup)
    (archiveError "archive tree is empty or has duplicate relative paths")
  pure rows

variable [DecidableEq Sha]

/-- `_verify_manifest_tree(.., require_manifest=True)`. -/
def verifyManifestTree (manifest : FormalArchiveSha256Manifest Sha) : Except Raised Unit := do
  existingFile fs (root ++ [archiveManifestName]) "archive manifest"
  let identity ← stableFileIdentity fs hash (root ++ [archiveManifestName])
  ensure (identity.sha256 = hash.manifestSha256 manifest)
    (archiveError "archive manifest bytes differ")
  let actual ← scanArchiveTree hash fs root true
  ensure (actual = manifest.files)
    (archiveError "archive tree has unregistered, missing, duplicate, or changed files")

/-- `load_formal_archive_sha256_manifest(root / "sha256_manifest.json", verify_root=True)`. -/
def loadFormalArchiveSha256Manifest : Except Raised (FormalArchiveSha256Manifest Sha) := do
  match ← readCanonicalObject fs (root ++ [archiveManifestName])
    "formal archive SHA-256 manifest" with
  | some (.manifest manifest) => do
    manifest.postInit
    verifyManifestTree hash fs root manifest
    pure manifest
  | _ => .error (valueError "archive manifest fields differ")

/-! ## Planning -/

/-- What the planner is told of a member: whether it is retained, why it must not be
evicted, and whether a process writes to it. -/
structure Selection where
  retained : Path → Bool
  reject : Path → Except Raised Unit
  writer : Path → Except Raised (Option Bool)

/-- One row of the manifest in `build_remote_eviction_plan`. -/
def planMember (selection : Selection) (row : ArchiveManifestFile Sha) :
    Except Raised (List (EvictionFileBinding Sha)) := do
  let member ← safeArchiveMember fs root row.path
  if selection.retained member then pure []
  else do
    selection.reject member
    let identity ← stableFileIdentity fs hash member
    ensure (identity.links = 1)
      (archiveError ("archive eviction rejects hard-linked file: " ++ pathText member))
    ensure (identity.sizeBytes = row.sizeBytes ∧ identity.sha256 = row.sha256)
      (archiveError ("archive member changed before eviction planning: " ++ pathText member))
    match ← selection.writer member with
    | none => .error (typeError "active writer probe must return bool")
    | some true => .error (archiveError ("archive member has an active writer: " ++ pathText member))
    | some false => pure [⟨member, row.path, identity.inode, identity.sizeBytes, identity.sha256⟩]

def planMembers (selection : Selection) :
    List (ArchiveManifestFile Sha) → Except Raised (List (EvictionFileBinding Sha))
  | [] => .ok []
  | row :: rest => do
    let head ← planMember hash fs root selection row
    let tail ← planMembers selection rest
    pure (head ++ tail)

/-- The files of a plan in `build_remote_eviction_plan`. -/
def planFiles (selection : Selection) (manifest : FormalArchiveSha256Manifest Sha) :
    Except Raised (List (EvictionFileBinding Sha)) := do
  let planned ← planMembers hash fs root selection manifest.files
  ensure (planned.length ≠ 0) (archiveError "archive has no nonretained files to evict")
  pure (sortedBy (fun binding => pathText binding.absolutePath) planned)

end

/-! ## What a scan depends on -/

/-- The kind of a path, and the content of a file. -/
inductive Description (Sha : Type)
  | directory
  | symlink
  | special
  | file (sha256 : Sha) (sizeBytes : ℕ)

def describe (hash : Hashing Sha) (fs : Tree Sha) (path : Path) : Option (Description Sha) :=
  (fs.node? path).map fun
    | .directory _ => .directory
    | .symlink => .symlink
    | .special => .special
    | .file inode => .file (hash.fileSha256 (fs.bodies inode)) (hash.fileSize (fs.bodies inode))

variable {hash : Hashing Sha} {fs fs' : Tree Sha} {root path : Path}

theorem lexists_of_describe (h : describe hash fs' path = describe hash fs path) :
    fs'.lexists path = fs.lexists path := by
  have hsome := congrArg Option.isSome h
  unfold describe at hsome
  rw [Option.isSome_map, Option.isSome_map] at hsome
  exact hsome

theorem describe_congr (hnode : fs'.node? path = fs.node? path)
    (hread : fs'.read? path = fs.read? path) : describe hash fs' path = describe hash fs path := by
  unfold describe
  rw [hnode]
  cases h : fs.node? path with
  | none => rfl
  | some node =>
    cases node with
    | file inode =>
      have hold := Files.read?_eq_some.mpr ⟨inode, h, rfl⟩
      rw [hold] at hread
      rcases Files.read?_eq_some.mp hread with ⟨inode', hnode', hbody⟩
      rw [hnode, h] at hnode'
      cases hnode'
      simp only [Option.map_some, hbody]
    | _ => rfl

theorem describe_eq_file {sha256 : Sha} {sizeBytes : ℕ} :
    describe hash fs path = some (.file sha256 sizeBytes) ↔ ∃ body, fs.read? path = some body ∧
      hash.fileSha256 body = sha256 ∧ hash.fileSize body = sizeBytes := by
  unfold describe
  constructor
  · intro h
    rcases Option.map_eq_some_iff.mp h with ⟨node, hnode, hfile⟩
    cases node with
    | file inode =>
      cases hfile
      exact ⟨_, Files.read?_eq_some.mpr ⟨inode, hnode, rfl⟩, rfl, rfl⟩
    | _ => cases hfile
  · rintro ⟨body, hread, rfl, rfl⟩
    rcases Files.read?_eq_some.mp hread with ⟨inode, hnode, rfl⟩
    rw [hnode]
    rfl

theorem mem_walk {relative : Path} :
    relative ∈ walk fs root ↔ relative ≠ [] ∧ fs.lexists (root ++ relative) = true := by
  unfold walk
  rw [mem_sortedBy, mem_filterMap]
  constructor
  · rintro ⟨path, hpath, hbelow⟩
    split at hbelow
    · rename_i hroot
      cases hbelow
      rcases hroot with ⟨⟨rest, rfl⟩, hne⟩
      rcases mem_map.mp hpath with ⟨⟨_, node⟩, hentry, rfl⟩
      rw [drop_left]
      refine ⟨?_, Files.lexists_iff.mpr ⟨node, Dict.mem_entries_iff.mp hentry⟩⟩
      rintro rfl
      exact hne (append_nil root)
    · cases hbelow
  · rintro ⟨hne, hexists⟩
    rcases Files.lexists_iff.mp hexists with ⟨node, hnode⟩
    refine ⟨root ++ relative, mem_map.mpr ⟨_, Dict.mem_entries_iff.mpr hnode, rfl⟩, ?_⟩
    have hbelow : root ++ relative ≠ root := fun h => hne (append_right_eq_self.mp h)
    rw [if_pos ⟨prefix_append _ _, hbelow⟩, drop_left]

theorem nodup_walk (fs : Tree Sha) (root : Path) : (walk fs root).Nodup := by
  unfold walk
  rw [(sortedBy_perm _ _).nodup_iff]
  refine List.Nodup.filterMap ?_ fs.names.nodup
  intro p q relative hp hq
  simp only [Option.mem_def, Option.ite_none_right_eq_some, Option.some.injEq] at hp hq
  rcases hp with ⟨⟨⟨rest, rfl⟩, -⟩, hp⟩
  rcases hq with ⟨⟨⟨rest', rfl⟩, -⟩, hq⟩
  rw [drop_left] at hp hq
  rw [hp, hq]

/-- The walk depends on what exists below the root. -/
theorem walk_congr (h : ∀ path, root <+: path → fs'.lexists path = fs.lexists path) :
    walk fs' root = walk fs root := by
  have hperm : (walk fs' root).Perm (walk fs root) := by
    refine (perm_ext_iff_of_nodup (nodup_walk fs' root) (nodup_walk fs root)).mpr ?_
    intro relative
    rw [mem_walk, mem_walk, h _ (prefix_append _ _)]
  refine hperm.eq_of_pairwise ?_ (sortedBy_pairwise id _) (sortedBy_pairwise id _)
  exact fun a b _ _ hab hba => le_antisymm hab hba

variable {allowRootManifest : Bool} {rows : List (EvictionFileBinding Sha)}

theorem scanEntry_congr {relative : Path}
    (h : describe hash fs' (root ++ relative) = describe hash fs (root ++ relative)) :
    scanEntry hash fs' root allowRootManifest relative =
      scanEntry hash fs root allowRootManifest relative := by
  unfold describe at h
  unfold scanEntry
  rcases hnode : fs.node? (root ++ relative) with _ | node <;>
    rcases hnode' : fs'.node? (root ++ relative) with _ | node' <;>
    rw [hnode, hnode'] at h
  · cases h
  · cases h
  · cases node <;> cases node' <;> simp_all

theorem scanEntries_congr
    (h : ∀ path, root <+: path → describe hash fs' path = describe hash fs path)
    (relatives : List Path) : scanEntries hash fs' root allowRootManifest relatives =
      scanEntries hash fs root allowRootManifest relatives := by
  induction relatives with
  | nil => rfl
  | cons relative rest ih =>
    unfold scanEntries
    rw [scanEntry_congr (h _ (prefix_append root relative)), ih]

/-- The scan of a tree whose paths are of the same kind and content. -/
theorem scanArchiveTree_congr {rows : List (ArchiveManifestFile Sha)}
    (hscan : scanArchiveTree hash fs root allowRootManifest = .ok rows)
    (hroot : existingDirectory fs' root "archive candidate root" = .ok ())
    (h : ∀ path, root <+: path → describe hash fs' path = describe hash fs path) :
    scanArchiveTree hash fs' root allowRootManifest = .ok rows := by
  have hwalk : walk fs' root = walk fs root :=
    walk_congr fun path hpath => lexists_of_describe (h path hpath)
  unfold scanArchiveTree at hscan ⊢
  rw [then_eq_ok] at hscan ⊢
  rw [hwalk, scanEntries_congr h]
  exact ⟨hroot, hscan.2⟩

/-! ## What the planner selects -/

variable [DecidableEq Sha] {selection : Selection} {binding : EvictionFileBinding Sha}

/-- A binding is that of a file of the tree. -/
theorem planMember_eq_ok {row : ArchiveManifestFile Sha}
    (h : planMember hash fs root selection row = .ok rows) (hbinding : binding ∈ rows) :
    binding.absolutePath = root ++ binding.archiveRelativePath ∧
      describe hash fs binding.absolutePath = some (.file binding.sha256 binding.sizeBytes) := by
  unfold planMember at h
  rcases bind_eq_ok.mp h with ⟨member, hmember, hrest⟩
  have hpath : member = root ++ row.path := by
    unfold safeArchiveMember at hmember
    simp only [then_eq_ok, pure_eq_ok] at hmember
    exact hmember.2.2.symm
  split at hrest
  · cases pure_eq_ok.mp hrest
    cases hbinding
  · rw [then_eq_ok] at hrest
    rcases bind_eq_ok.mp hrest.2 with ⟨identity, hidentity, hchecks⟩
    rw [then_eq_ok, then_eq_ok] at hchecks
    rcases bind_eq_ok.mp hchecks.2.2 with ⟨state, _, hstate⟩
    rcases state with _ | _ | _
    · cases hstate
    · cases pure_eq_ok.mp hstate
      cases mem_singleton.mp hbinding
      refine ⟨hpath, ?_⟩
      unfold stableFileIdentity at hidentity
      split at hidentity
      · cases hidentity
      · rename_i inode hnode
        cases hidentity
        unfold describe
        rw [hnode]
        rfl
      · cases hidentity
    · cases hstate

theorem planMembers_eq_ok {manifestRows : List (ArchiveManifestFile Sha)}
    (h : planMembers hash fs root selection manifestRows = .ok rows) (hbinding : binding ∈ rows) :
    binding.absolutePath = root ++ binding.archiveRelativePath ∧
      describe hash fs binding.absolutePath = some (.file binding.sha256 binding.sizeBytes) := by
  induction manifestRows generalizing rows with
  | nil =>
    cases h
    cases hbinding
  | cons row rest ih =>
    rcases bind_eq_ok.mp h with ⟨head, hhead, htail⟩
    rcases bind_eq_ok.mp htail with ⟨tail, hload, hrows⟩
    cases pure_eq_ok.mp hrows
    rcases mem_append.mp hbinding with hmem | hmem
    · exact planMember_eq_ok hhead hmem
    · exact ih hload hmem

theorem planFiles_eq_ok {manifest : FormalArchiveSha256Manifest Sha}
    (h : planFiles hash fs root selection manifest = .ok rows) (hbinding : binding ∈ rows) :
    binding.absolutePath = root ++ binding.archiveRelativePath ∧
      describe hash fs binding.absolutePath = some (.file binding.sha256 binding.sizeBytes) := by
  unfold planFiles at h
  rcases bind_eq_ok.mp h with ⟨planned, hplanned, hrest⟩
  rw [then_eq_ok, pure_eq_ok] at hrest
  rcases hrest with ⟨-, rfl⟩
  exact planMembers_eq_ok hplanned (mem_sortedBy.mp hbinding)

end RollingArchive
