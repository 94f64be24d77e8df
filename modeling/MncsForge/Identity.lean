import Mathlib
import MncsForge.Errors
import MncsForge.Foundation.Digest
import MncsForge.Foundation.Framing
import MncsForge.Foundation.Text
import MncsForge.Records.Validation

/-!
# Content identities

`content_identity` hashes a sorted inventory of files: each name and each file
identity after its length in eight bytes.
-/

namespace MncsForge.Identity

open MncsForge.Foundation MncsForge.Foundation.Text MncsForge.Records

/-- An absolute path, by its parts. -/
abbrev Path := List String

def Path.display (path : Path) : String := "/" ++ "/".intercalate path

/-- `path.relative_to(root).as_posix()` -/
def Path.relativeTo (path root : Path) : String :=
  match path.drop root.length with
  | [] => "."
  | parts => "/".intercalate parts

/-- What the file system answers while an identity is computed. -/
structure FileTree where
  /-- `resolve(strict=True)`, with the text of an error. -/
  resolveStrict : Path → Except String Path
  /-- `resolve(strict=False)` -/
  resolve : Path → Path
  present : Path → Bool
  isFile : Path → Bool
  isSymlink : Path → Bool
  /-- `rglob("*")` -/
  rglob : Path → List Path
  /-- The bytes of a file, or the text of the error that reading them raises. -/
  read : Path → Except String (List UInt8)

/-! ## Inventory -/

section Inventory

variable {β : Type} (tree : FileTree) (identify : List UInt8 → β) (missing : β)

/-- `file_identity`, with the identity of the bytes as a parameter. -/
def fileIdentity (path : Path) : Except ForgeError β :=
  match tree.read path with
  | .ok bytes => .ok (identify bytes)
  | .error exc => .error ⟨"IDENTITY_READ", s!"cannot hash {path.display}: {exc}"⟩

/-- The row of a file below a directory; what is no file has none. -/
def childRows (rootReal child : Path) : Except ForgeError (List (String × β)) := do
  refuseIf (tree.isSymlink child = true ∧ rootReal.isPrefixOf (tree.resolve child) = false)
    "SYMLINK_ESCAPE" s!"symlink escapes root: {child.display}"
  if tree.isFile child = true then do
    let identity ← fileIdentity tree identify child
    .ok [(child.relativeTo rootReal, identity)]
  else .ok []

/-- The rows of one configured path. -/
def pathRows (rootReal configured : Path) : Except ForgeError (List (String × β)) := do
  let resolved := tree.resolve configured
  refuseIf (rootReal.isPrefixOf resolved = false)
    "PATH_ESCAPE" s!"identity path escapes root: {configured.display}"
  if tree.present resolved = false then .ok [(resolved.relativeTo rootReal, missing)]
  else if tree.isFile resolved = true then do
    let identity ← fileIdentity tree identify resolved
    .ok [(resolved.relativeTo rootReal, identity)]
  else do
    let rows ← ((tree.rglob resolved).mergeSort fun a b => decide (a ≤ b)).mapM
      (childRows tree identify rootReal)
    .ok rows.flatten

def inventory (root : Path) (paths : List Path) : Except ForgeError (List (String × β)) := do
  match tree.resolveStrict root with
  | .error exc => .error ⟨"FileNotFoundError", exc⟩
  | .ok rootReal =>
      let rows ← paths.mapM (pathRows tree identify missing rootReal)
      .ok rows.flatten

end Inventory

/-! ## Identity -/

/-- The name of a file with the text of its identity, or `MISSING`. -/
abbrev InventoryRow := String × String

/-- `sorted(inventory)` -/
def sortedRows (rows : List InventoryRow) : List InventoryRow :=
  rows.mergeSort fun a b => decide (toLex a ≤ toLex b)

/-- A row as the two byte strings that are written; identities are ASCII. -/
def rowBytes (row : InventoryRow) : List (List UInt8) :=
  [utf8 row.1, utf8 row.2]

/-- The bytes that are hashed.  A length that does not fit in eight bytes is an
`OverflowError`. -/
def hashedBytes (rows : List InventoryRow) : Except ForgeError (List UInt8) :=
  match Framing.frames 8 ((sortedRows rows).flatMap rowBytes) with
  | some stream => .ok stream
  | none => .error ⟨"OverflowError", "int too big to convert"⟩

def digestIdentity (hashing : Hashing) (bytes : List UInt8) : String :=
  "sha256:" ++ hashing.hexdigest bytes

/-- `content_identity` up to the digest: the byte stream that is hashed. -/
def contentStream (hashing : Hashing) (tree : FileTree) (root : Path) (paths : List Path) :
    Except ForgeError (List UInt8) := do
  let rows ← inventory tree (digestIdentity hashing) "MISSING" root paths
  hashedBytes rows

def contentIdentity (hashing : Hashing) (tree : FileTree) (root : Path) (paths : List Path) :
    Except ForgeError String := do
  let stream ← contentStream hashing tree root paths
  .ok ("forge-tree-sha256-v1:" ++ hashing.hexdigest stream)

/-! ## Order -/

/-- Mapping a rearranged list gives a rearranged result. -/
theorem mapM_perm {α β : Type} {f : α → Except ForgeError β} {xs ys : List α} {zs : List β}
    (perm : xs.Perm ys) (h : ys.mapM f = .ok zs) : ∃ ws, xs.mapM f = .ok ws ∧ ws.Perm zs := by
  obtain ⟨ws, related, rearranged⟩ := List.perm_comp_forall₂ perm (mapM_eq_ok_iff.mp h)
  exact ⟨ws, mapM_eq_ok_iff.mpr related, rearranged⟩

theorem inventory_perm {β : Type} {tree : FileTree} {identify : List UInt8 → β} {missing : β}
    {root : Path} {paths paths' : List Path} {rows : List (String × β)}
    (perm : paths'.Perm paths) (h : inventory tree identify missing root paths = .ok rows) :
    ∃ rows', inventory tree identify missing root paths' = .ok rows' ∧ rows'.Perm rows := by
  unfold inventory at h ⊢
  cases hroot : tree.resolveStrict root with
  | error exc => simp [hroot] at h
  | ok rootReal =>
      simp only [hroot, bind_eq_ok, Except.ok.injEq] at h ⊢
      obtain ⟨parts, hparts, rfl⟩ := h
      obtain ⟨parts', hparts', rearranged⟩ := mapM_perm perm hparts
      exact ⟨parts'.flatten, ⟨parts', hparts', rfl⟩, rearranged.flatten⟩

theorem sortedRows_pairwise (rows : List InventoryRow) :
    (sortedRows rows).Pairwise fun a b => toLex a ≤ toLex b := by
  have sorted : (sortedRows rows).Pairwise fun a b => decide (toLex a ≤ toLex b) = true :=
    List.pairwise_mergeSort (fun a b c hab hbc => by
      simp only [decide_eq_true_eq] at hab hbc ⊢
      exact hab.trans hbc)
    (fun a b => by
      simp only [Bool.or_eq_true, decide_eq_true_eq]
      exact le_total _ _) rows
  exact sorted.imp fun h => of_decide_eq_true h

/-- Rows in any order are sorted alike. -/
theorem sortedRows_eq_iff {rows rows' : List InventoryRow} :
    sortedRows rows = sortedRows rows' ↔ rows.Perm rows' := by
  have perm : ∀ rows, (sortedRows rows).Perm rows := fun rows => List.mergeSort_perm rows _
  constructor
  · intro same
    exact (perm rows).symm.trans (same ▸ perm rows')
  · intro rearranged
    refine List.Perm.eq_of_pairwise (fun a b _ _ hab hba => ?_) (sortedRows_pairwise rows)
      (sortedRows_pairwise rows') (((perm rows).trans rearranged).trans (perm rows').symm)
    exact toLex_inj.mp (le_antisymm hab hba)

theorem hashedBytes_perm {rows rows' : List InventoryRow} (perm : rows.Perm rows') :
    hashedBytes rows = hashedBytes rows' := by
  rw [hashedBytes, hashedBytes, sortedRows_eq_iff.mpr perm]

/-! ## Relabelling -/

theorem mapM_map {α β γ : Type} {f : α → Except ForgeError β} {g : β → γ} (xs : List α) :
    xs.mapM (fun x => (f x).map g) = (xs.mapM f).map (List.map g) := by
  induction xs with
  | nil => rfl
  | cons x xs ih =>
      rw [List.mapM_cons, List.mapM_cons, ih]
      cases f x with
      | error e => rfl
      | ok y => cases xs.mapM f <;> rfl

/-- Rows with their identities read by another name. -/
def relabel {β γ : Type} (f : β → γ) (rows : List (String × β)) : List (String × γ) :=
  rows.map (Prod.map id f)

section Relabel

variable {β γ : Type} (f : β → γ) (tree : FileTree) (identify : List UInt8 → β) (missing : β)

theorem childRows_relabel (rootReal child : Path) :
    childRows tree (f ∘ identify) rootReal child =
      (childRows tree identify rootReal child).map (relabel f) := by
  unfold childRows refuseIf fileIdentity
  split
  · rfl
  · by_cases file : tree.isFile child = true
    · cases tree.read child <;> simp [file, bind, Except.bind, Except.map, relabel]
    · simp [file, bind, Except.bind, Except.map, relabel]

theorem pathRows_relabel (rootReal configured : Path) :
    pathRows tree (f ∘ identify) (f missing) rootReal configured =
      (pathRows tree identify missing rootReal configured).map (relabel f) := by
  unfold pathRows refuseIf
  dsimp only
  split
  · rfl
  · simp only [bind, Except.bind]
    split
    · rfl
    · split
      · cases read : tree.read (tree.resolve configured) <;>
          simp [fileIdentity, read, Except.map, relabel]
      · rw [funext (childRows_relabel f tree identify rootReal), mapM_map]
        cases List.mapM (childRows tree identify rootReal) _ with
        | error e => rfl
        | ok rows => exact congrArg Except.ok List.map_flatten.symm

theorem inventory_relabel (root : Path) (paths : List Path) :
    inventory tree (f ∘ identify) (f missing) root paths =
      (inventory tree identify missing root paths).map (relabel f) := by
  unfold inventory
  cases tree.resolveStrict root with
  | error exc => rfl
  | ok rootReal =>
      dsimp only
      rw [funext (pathRows_relabel f tree identify missing rootReal), mapM_map]
      cases List.mapM (pathRows tree identify missing rootReal) paths with
      | error e => rfl
      | ok rows => exact congrArg Except.ok List.map_flatten.symm

end Relabel

/-- The files that an identity covers: each name with its contents, `none` where nothing is. -/
def contents (tree : FileTree) (root : Path) (paths : List Path) :
    Except ForgeError (List (String × Option (List UInt8))) :=
  inventory tree some none root paths

/-- The text that stands for the contents of a file. -/
def identityText (hashing : Hashing) : Option (List UInt8) → String
  | some bytes => digestIdentity hashing bytes
  | none => "MISSING"

theorem identityText_injective {hashing : Hashing}
    (injective : Function.Injective hashing.hexdigest) :
    Function.Injective (identityText hashing) := by
  have ne_missing : ∀ bytes, digestIdentity hashing bytes ≠ "MISSING" := by
    intro bytes h
    have first := congrArg (fun text => text.toList.head?) h
    simp [digestIdentity] at first
  rintro (_ | bytes) (_ | bytes') h
  · rfl
  · exact absurd h.symm (ne_missing bytes')
  · exact absurd h (ne_missing bytes)
  · have digests := congrArg String.toList h
    simp only [identityText, digestIdentity, String.toList_append] at digests
    exact congrArg some (injective (String.toList_injective (List.append_cancel_left digests)))

/-- The hashed inventory is that of the contents, each by the text that stands for it. -/
theorem inventory_eq (hashing : Hashing) (tree : FileTree) (root : Path) (paths : List Path) :
    inventory tree (digestIdentity hashing) "MISSING" root paths =
      (contents tree root paths).map (relabel (identityText hashing)) :=
  inventory_relabel (identityText hashing) tree some none root paths

/-! ## Reading the stream back -/

theorem rowBytes_flatMap_injective :
    Function.Injective fun rows : List InventoryRow => rows.flatMap rowBytes := by
  intro rows rows' same
  dsimp only at same
  induction rows generalizing rows' with
  | nil =>
      cases rows' with
      | nil => rfl
      | cons row rows' => simp [rowBytes] at same
  | cons row rows ih =>
      cases rows' with
      | nil => simp [rowBytes] at same
      | cons row' rows' =>
          simp only [List.flatMap_cons, rowBytes, List.cons_append, List.nil_append,
            List.cons.injEq] at same
          obtain ⟨name, identity, rest⟩ := same
          rw [ih rest, Prod.ext (utf8_injective name) (utf8_injective identity)]

theorem frames_of_hashedBytes {rows : List InventoryRow} {stream : List UInt8}
    (h : hashedBytes rows = .ok stream) :
    Framing.frames 8 ((sortedRows rows).flatMap rowBytes) = some stream := by
  unfold hashedBytes at h
  split at h
  · next framed =>
      cases h
      exact framed
  · cases h

theorem perm_of_hashedBytes {rows rows' : List InventoryRow} {stream : List UInt8}
    (h : hashedBytes rows = .ok stream) (h' : hashedBytes rows' = .ok stream) :
    rows.Perm rows' := by
  have runs := Framing.frames_inj (by omega) (frames_of_hashedBytes h) (frames_of_hashedBytes h')
  exact sortedRows_eq_iff.mp (rowBytes_flatMap_injective runs)

/-- Rows whose texts are of any length below `2 ^ 64` have a stream. -/
theorem exists_hashedBytes {rows : List InventoryRow}
    (fit : ∀ row ∈ rows, (utf8 row.1).length < 2 ^ 64 ∧ (utf8 row.2).length < 2 ^ 64) :
    ∃ stream, hashedBytes rows = .ok stream := by
  have bounds : ∀ bytes ∈ (sortedRows rows).flatMap rowBytes, bytes.length < 256 ^ 8 := by
    intro bytes hbytes
    obtain ⟨row, hrow, hrun⟩ := List.mem_flatMap.mp hbytes
    have bound := fit row ((List.mergeSort_perm rows _).mem_iff.mp hrow)
    simp only [rowBytes, List.mem_cons, List.not_mem_nil, or_false] at hrun
    rcases hrun with rfl | rfl <;> omega
  obtain ⟨stream, hstream⟩ := Framing.exists_frames bounds
  exact ⟨stream, by rw [hashedBytes, hstream]⟩

/-! ## What an identity says -/

section

variable {hashing : Hashing} {tree tree' : FileTree} {root root' : Path}
variable {paths paths' : List Path} {stream : List UInt8} {identity : String}

theorem contentStream_of_perm (perm : paths.Perm paths')
    (h : contentStream hashing tree root paths = .ok stream) :
    contentStream hashing tree root paths' = .ok stream := by
  obtain ⟨rows, hrows, hstream⟩ := bind_eq_ok.mp h
  obtain ⟨rows', hrows', rearranged⟩ := inventory_perm perm.symm hrows
  exact bind_eq_ok.mpr ⟨rows', hrows', by rw [hashedBytes_perm rearranged, hstream]⟩

/-- What `content_identity` covered, and the stream it hashed. -/
theorem contentIdentity_eq_ok (h : contentIdentity hashing tree root paths = .ok identity) :
    ∃ files stream, contents tree root paths = .ok files ∧
      hashedBytes (relabel (identityText hashing) files) = .ok stream ∧
      identity = "forge-tree-sha256-v1:" ++ hashing.hexdigest stream := by
  obtain ⟨stream, hstream, hidentity⟩ := bind_eq_ok.mp h
  obtain ⟨rows, hrows, hbytes⟩ := bind_eq_ok.mp hstream
  rw [inventory_eq] at hrows
  cases covered : contents tree root paths with
  | error e => simp [covered, Except.map] at hrows
  | ok files =>
      rw [covered] at hrows
      cases hrows
      exact ⟨files, stream, rfl, hbytes, (Except.ok.inj hidentity).symm⟩

theorem contents_perm_of_contentIdentity (injective : Function.Injective hashing.hexdigest)
    (h : contentIdentity hashing tree root paths = .ok identity)
    (h' : contentIdentity hashing tree' root' paths' = .ok identity) :
    ∃ files files', contents tree root paths = .ok files ∧
      contents tree' root' paths' = .ok files' ∧ files.Perm files' := by
  obtain ⟨files, stream, covered, hashed, rfl⟩ := contentIdentity_eq_ok h
  obtain ⟨files', stream', covered', hashed', same⟩ := contentIdentity_eq_ok h'
  have digests : hashing.hexdigest stream = hashing.hexdigest stream' := by
    have := congrArg String.toList same
    simp only [String.toList_append] at this
    exact String.toList_injective (List.append_cancel_left this)
  rw [← injective digests] at hashed'
  refine ⟨files, files', covered, covered', ?_⟩
  have relabelled : Function.Injective (Prod.map (id : String → String) (identityText hashing)) :=
    Function.injective_id.prodMap (identityText_injective injective)
  exact (List.map_perm_map_iff relabelled).mp (perm_of_hashedBytes hashed hashed')

end

/-- The hashed stream does not depend on the order of the paths, has a single inventory
behind it, and is there whenever the names fit; so, if the digest has no collisions, an
identity has the same files with the same contents behind it. -/
theorem contentIdentity_covers (hashing : Hashing) :
    (∀ (tree : FileTree) (root : Path) (paths paths' : List Path), paths.Perm paths' →
      ∀ stream, contentStream hashing tree root paths = .ok stream ↔
        contentStream hashing tree root paths' = .ok stream) ∧
    (∀ (rows rows' : List InventoryRow) (stream : List UInt8), hashedBytes rows = .ok stream →
      hashedBytes rows' = .ok stream → rows.Perm rows') ∧
    (∀ rows : List InventoryRow,
      (∀ row ∈ rows, (utf8 row.1).length < 2 ^ 64 ∧ (utf8 row.2).length < 2 ^ 64) →
        ∃ stream, hashedBytes rows = .ok stream) ∧
    (Function.Injective hashing.hexdigest →
      ∀ (tree tree' : FileTree) (root root' : Path) (paths paths' : List Path) (identity : String),
        contentIdentity hashing tree root paths = .ok identity →
        contentIdentity hashing tree' root' paths' = .ok identity →
        ∃ files files', contents tree root paths = .ok files ∧
          contents tree' root' paths' = .ok files' ∧ files.Perm files') := by
  refine ⟨?_, ?_, ?_, ?_⟩
  · intro tree root paths paths' perm stream
    exact ⟨contentStream_of_perm perm, contentStream_of_perm perm.symm⟩
  · exact fun rows rows' stream => perm_of_hashedBytes
  · exact fun rows => exists_hashedBytes
  · intro injective tree tree' root root' paths paths' identity
    exact contents_perm_of_contentIdentity injective

/-- A digest without collisions, and a directory with one file. -/
private def identityHashing : Hashing := ⟨Digest.verbatim, fun _ => .ok []⟩

private def sampleFileTree : FileTree where
  resolveStrict := .ok
  resolve := id
  present _ := true
  isFile path := path = ["project", "kept", "notes"]
  isSymlink _ := false
  rglob _ := [["project", "kept", "notes"]]
  read _ := .ok [7]

private theorem sample_inventory {path : Path}
    (listed : path = ["project", "kept"] ∨ path = ["project", "kept", "notes"]) :
    inventory sampleFileTree (digestIdentity identityHashing) "MISSING" ["project"] [path] =
      .ok [("kept/notes", digestIdentity identityHashing [7])] := by
  rcases listed with rfl | rfl
  · simp only [inventory, sampleFileTree, pathRows, List.mapM_cons, List.mapM_nil,
      List.mergeSort_singleton]
    rfl
  · rfl

/-- The file and its directory have one identity, and the same file behind it. -/
theorem contentIdentity_covers_sample :
    ∃ files files', contents sampleFileTree ["project"] [["project", "kept"]] = .ok files ∧
      contents sampleFileTree ["project"] [["project", "kept", "notes"]] = .ok files' ∧
      files.Perm files' := by
  have identities : ∀ path : Path,
      path = ["project", "kept"] ∨ path = ["project", "kept", "notes"] →
        contentIdentity identityHashing sampleFileTree ["project"] [path] =
          (hashedBytes [("kept/notes", digestIdentity identityHashing [7])]).map fun stream =>
            "forge-tree-sha256-v1:" ++ identityHashing.hexdigest stream := by
    intro path listed
    rw [contentIdentity, contentStream, sample_inventory listed]
    rfl
  obtain ⟨stream, hstream⟩ := (contentIdentity_covers identityHashing).2.2.1
    [("kept/notes", digestIdentity identityHashing [7])] (by decide +kernel)
  rw [hstream] at identities
  exact (contentIdentity_covers identityHashing).2.2.2 Digest.verbatim_injective _ _ _ _ _ _ _
    (identities _ (Or.inl rfl)) (identities _ (Or.inr rfl))

end MncsForge.Identity
