import LightConeSpec.CompileCache.Store
import LightConeSpec.Lib.JoinedPaths

/-!
# Inventories

An inventory lists the files of a tree in the order of their paths, `inventory_eq_ok`. A receipt
has to list them in the order of the texts of the paths. `inventory_sorted_iff` says when the two
orders agree: no path may go on below a name where another path has a longer name whose next
letter is below the slash.
-/

namespace CompileCache

open Python FileSystem DirectoryTree JoinedPaths List

def letters (path : Path) : List (List Char) := path.map String.toList

def TextOrdered (paths : List Path) : Prop :=
  ∀ p ∈ paths, ∀ q ∈ paths, ¬ Crosses '/' (letters p) (letters q)

instance (paths : List Path) : Decidable (TextOrdered paths) := by
  unfold TextOrdered
  infer_instance

/-! ## Texts of paths -/

section

variable {path path' : Path} (hnames : ∀ name ∈ path, isName name = true)

theorem isName_iff {name : String} : isName name = true ↔
    name ≠ "" ∧ name ≠ "." ∧ name ≠ ".." ∧ '/' ∉ name.toList ∧ '\x00' ∉ name.toList := by
  simp [isName, hasNul, and_assoc]

theorem toList_asPosix : (asPosix path).toList = joined '/' (letters path) := by
  unfold asPosix joined letters
  rw [String.toList_ofList]

include hnames in
theorem slash_not_mem_letters : ∀ name ∈ letters path, '/' ∉ name := by
  intro name hname
  rcases mem_map.mp hname with ⟨text, htext, rfl⟩
  exact (isName_iff.mp (hnames text htext)).2.2.2.1

include hnames in
/-- The text of a path in a tree has the parts of the path. -/
theorem pathParts_asPosix (hpath : path ≠ []) : pathParts (asPosix path) = path := by
  have hsplit : (asPosix path).toList.splitOn '/' = letters path := by
    rw [toList_asPosix]
    refine splitOn_intercalate '/' (slash_not_mem_letters hnames) ?_
    simpa [letters] using hpath
  unfold pathParts
  rw [hsplit, letters, map_map]
  have hid : path.map (String.ofList ∘ String.toList) = path := by
    simp [Function.comp_def]
  rw [hid, filter_eq_self]
  intro name hname
  have hvalid := isName_iff.mp (hnames name hname)
  simp [hvalid.1, hvalid.2.1]

include hnames in
theorem asPosix_inj (hpath : path ≠ []) (hnames' : ∀ name ∈ path', isName name = true)
    (hpath' : path' ≠ []) (heq : asPosix path = asPosix path') : path = path' := by
  rw [← pathParts_asPosix hnames hpath, ← pathParts_asPosix hnames' hpath', heq]

include hnames in
/-- The text begins with a letter of a name. -/
theorem head?_asPosix (hpath : path ≠ []) : ∃ c ∈ (asPosix path).toList.head?, c ≠ '/' := by
  cases path with
  | nil => exact absurd rfl hpath
  | cons name rest =>
    have hname := isName_iff.mp (hnames name mem_cons_self)
    rcases joined_eq_append (s := '/') name.toList (letters rest) with ⟨more, hmore⟩
    have htext : (asPosix (name :: rest)).toList = name.toList ++ more := by
      rw [toList_asPosix]
      exact hmore
    cases hletters : name.toList with
    | nil => exact absurd (String.toList_injective (hletters.trans String.toList_empty.symm)) hname.1
    | cons c more' =>
      rw [htext, hletters]
      refine ⟨c, rfl, ?_⟩
      rintro rfl
      refine hname.2.2.2.1 ?_
      rw [hletters]
      exact mem_cons_self

end

/-! ## Inventories of trees -/

section

variable {D : Type} {sha : CacheSha D} {tree : DirectoryTree.Tree Bytes} {path : Path} {body : Bytes}

/-- What an inventory says of a file. -/
def recordFile (sha : CacheSha D) (file : Path × Bytes) : CompileCacheFile D :=
  ⟨asPosix file.1, file.2.length, sha.file file.2⟩

/-- The names of a file in a tree. -/
theorem names_of_mem_files (h : (path, body) ∈ tree.files) :
    path ≠ [] ∧ ∀ name ∈ path, isName name = true := by
  rcases DirectoryTree.Tree.file?_eq_some.mp (DirectoryTree.Tree.mem_files.mp h) with ⟨w, hw⟩
  refine ⟨?_, DirectoryTree.Tree.isName_of_node? hw⟩
  rintro rfl
  rcases DirectoryTree.Tree.isDirectory_iff.mp (DirectoryTree.Tree.isDirectory_root (t := tree)) with ⟨w', hw'⟩
  rw [hw] at hw'
  cases hw'

/-- The inventory of a regular tree. Any other tree has none. -/
theorem inventory_eq_ok {files : List (CompileCacheFile D)} :
    inventory sha tree = .ok files ↔ tree.IsRegular ∧ files = tree.files.map (recordFile sha) := by
  unfold inventory
  rw [collect_eq_ok]
  have hfiles : tree.IsRegular → tree.walk.filterMap (inventoryEntry sha) =
      (tree.files.map (recordFile sha)).map .ok := by
    intro hregular
    unfold DirectoryTree.Tree.files
    rw [map_map, map_filterMap]
    refine filterMap_congr ?_
    rintro ⟨p, node⟩ hentry
    have hnode := hregular p node (DirectoryTree.Tree.mem_walk.mp hentry).2
    cases node with
    | directory w => rfl
    | file body w => rfl
    | symlink => cases hnode
    | special => cases hnode
  constructor
  · intro h
    have hregular : tree.IsRegular := by
      intro p node hnode
      by_cases hp : p = []
      · subst hp
        rcases DirectoryTree.Tree.isDirectory_iff.mp (DirectoryTree.Tree.isDirectory_root (t := tree)) with ⟨w, hw⟩
        rw [hw] at hnode
        cases hnode
        rfl
      · -- a symbolic link or a special file would be an error
        by_contra hirregular
        have hwalk : (p, node) ∈ tree.walk := DirectoryTree.Tree.mem_walk.mpr ⟨hp, hnode⟩
        have herror : ∃ e, inventoryEntry sha (p, node) = some (.error e) := by
          cases node with
          | directory w => exact absurd rfl hirregular
          | file body w => exact absurd rfl hirregular
          | symlink => exact ⟨_, rfl⟩
          | special => exact ⟨_, rfl⟩
        rcases herror with ⟨e, he⟩
        have hmem := mem_filterMap.mpr ⟨(p, node), hwalk, he⟩
        rw [h] at hmem
        rcases mem_map.mp hmem with ⟨_, _, heq⟩
        cases heq
    refine ⟨hregular, ?_⟩
    rw [hfiles hregular] at h
    exact (map_injective_iff.mpr (fun _ _ => Except.ok.inj) h).symm
  · rintro ⟨hregular, rfl⟩
    exact hfiles hregular

/-- Two trees have the same inventory only if they have the same files. -/
theorem map_recordFile_inj {tree' : DirectoryTree.Tree Bytes}
    (h : tree.files.map (recordFile sha) = tree'.files.map (recordFile sha)) :
    tree.files = tree'.files := by
  have hlength : tree.files.length = tree'.files.length := by
    simpa using congrArg List.length h
  refine ext_getElem hlength fun i hi hi' => ?_
  have hrecord : recordFile sha tree.files[i] = recordFile sha tree'.files[i] := by
    have hget := congrArg (fun files => files[i]?) h
    simpa [getElem?_eq_getElem hi, getElem?_eq_getElem hi'] using hget
  have hpath := names_of_mem_files (getElem_mem hi)
  have hpath' := names_of_mem_files (getElem_mem hi')
  have htext := congrArg CompileCacheFile.relativePath hrecord
  have hbody := congrArg CompileCacheFile.sha256 hrecord
  exact Prod.ext (asPosix_inj hpath.2 hpath.1 hpath'.2 hpath'.1 htext) (sha.file_injective hbody)

/-- The order of an inventory is that of the texts if no path crosses another. -/
theorem inventory_sorted_iff : (tree.files.map (recordFile sha)).map (·.relativePath) =
        sortedSet ((tree.files.map (recordFile sha)).map (·.relativePath)) ↔
      TextOrdered (tree.files.map Prod.fst) := by
  have hpaths : ∀ path ∈ tree.files.map Prod.fst, path ≠ [] ∧ ∀ name ∈ path, isName name = true := by
    intro path hpath
    rcases mem_map.mp hpath with ⟨⟨p, body⟩, hfile, rfl⟩
    exact names_of_mem_files hfile
  have hsorted : ((tree.files.map Prod.fst).map letters).Pairwise (· < ·) := by
    rw [pairwise_map, pairwise_map]
    refine tree.pairwise_files.imp fun hlt => List.map_lt ?_ hlt
    exact fun a b hab => String.lt_iff_toList_lt.mp hab
  have hjoined := pairwise_joined_lt_iff (s := '/') hsorted
    (by
      intro hmem
      rcases mem_map.mp hmem with ⟨path, hpath, hnil⟩
      exact (hpaths path hpath).1 (map_eq_nil_iff.mp hnil))
    (by
      intro path hpath
      rcases mem_map.mp hpath with ⟨p, hp, rfl⟩
      exact slash_not_mem_letters (hpaths p hp).2)
  have htexts : ((tree.files.map (recordFile sha)).map (·.relativePath)).Pairwise (· < ·) ↔
      (((tree.files.map Prod.fst).map letters).map (joined '/')).Pairwise (· < ·) := by
    simp only [pairwise_map, String.lt_iff_toList_lt, recordFile, toList_asPosix]
  rw [eq_comm, sortedSet_eq_self_iff, htexts, hjoined]
  simp only [TextOrdered, forall_mem_map]

/-! ## Files of a receipt -/

/-- What an inventory says of a file without newlines in its path is valid. -/
theorem validate_recordFile (h : (path, body) ∈ tree.files)
    (hline : ∀ name ∈ path, '\n' ∉ name.toList) :
    (recordFile sha (path, body)).validate = .ok () := by
  rcases names_of_mem_files h with ⟨hpath, hnames⟩
  rcases head?_asPosix hnames hpath with ⟨c, hc, hslash⟩
  have hnonempty : asPosix path ≠ "" := by
    intro hempty
    rw [hempty] at hc
    cases hc
  have hletters : '\n' ∉ (asPosix path).toList := by
    rw [toList_asPosix]
    intro hmem
    rcases mem_joined hmem with hslash | ⟨name, hname, hnewline⟩
    · cases hslash
    · rcases mem_map.mp hname with ⟨text, htext, rfl⟩
      exact hline text htext hnewline
  have habsolute : isAbsolutePath (asPosix path) = false := by
    unfold isAbsolutePath
    rw [Option.mem_def.mp hc]
    simpa using hslash
  unfold CompileCacheFile.validate requireLine recordFile
  simp only [bind_eq_ok, require_eq_ok, exists_const, pathParts_asPosix hnames hpath]
  refine ⟨⟨hnonempty, hletters⟩, habsolute, hpath, ?_⟩
  intro name hname
  have hvalid := isName_iff.mp (hnames name hname)
  simp [hvalid.1, hvalid.2.1, hvalid.2.2.1]

end

end CompileCache
