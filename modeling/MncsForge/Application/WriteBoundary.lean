import Mathlib
import MncsForge.Identity
import MncsForge.Lifecycle.History
import MncsForge.Paths

/-!
# The write boundary of a candidate

Configured scopes are relative paths.  `load_config` keeps the writable ones apart
from the protected ones and `validate_changed_files` looks up each changed path in
them, both by name; where a name leads is asked of the file system.
-/

namespace MncsForge.Application

open MncsForge.Foundation MncsForge.Records MncsForge.Identity
open MncsForge.Paths (validateRelativePath isWithin)
open Lifecycle (sortedTexts)

/-! ## Containment -/

/-- `resolve_contained` -/
def resolveContained (tree : FileTree) (root : Path) (value : String) (mustExist : Bool) :
    Except ForgeError Path := do
  let rel ← validateRelativePath value true
  match tree.resolveStrict root with
  | .error exc => .error ⟨"FileNotFoundError", exc⟩
  | .ok rootReal =>
      let candidate := rootReal ++ rel
      let resolved ←
        if mustExist = true then
          match tree.resolveStrict candidate with
          | .ok resolved => .ok resolved
          | .error exc => .error ⟨"PATH_RESOLUTION", s!"cannot resolve {value}: {exc}"⟩
        else .ok (tree.resolve candidate)
      refuseIf (rootReal.isPrefixOf resolved = false) "SYMLINK_ESCAPE"
        s!"path escapes project root: {value}"
      .ok resolved

/-- `validate_tree_containment` -/
def validateTreeContainment (tree : FileTree) (root path : Path) : Except ForgeError Unit :=
  match tree.resolveStrict root with
  | .error exc => .error ⟨"FileNotFoundError", exc⟩
  | .ok rootReal =>
      if tree.present path = false ∨ tree.isFile path = true then .ok ()
      else
        match (tree.rglob path).find? fun child =>
            tree.isSymlink child && !rootReal.isPrefixOf (tree.resolve child) with
        | some child =>
            .error ⟨"SYMLINK_ESCAPE", s!"symlink escapes project root: {child.display}"⟩
        | none => .ok ()

def scopeText (scope : List String) : String := "/".intercalate scope

/-- `validate_scopes_do_not_overlap`, for one pair. -/
def validateApart (writeScope protectedScope : List String) : Except ForgeError Unit := do
  refuseIf (writeScope = protectedScope) "AUTHORITY_OVERLAP"
    s!"writable and protected scopes overlap at {scopeText writeScope}"
  refuseIf
    (protectedScope.isPrefixOf writeScope = true ∨ writeScope.isPrefixOf protectedScope = true)
    "AUTHORITY_OVERLAP"
    s!"writable {scopeText writeScope} overlaps protected {scopeText protectedScope}"

def validateScopesDoNotOverlap (writable protectedScopes : List (List String)) :
    Except ForgeError Unit := do
  let _ ← writable.mapM fun writeScope => protectedScopes.mapM (validateApart writeScope)
  .ok ()

/-! ## Scopes -/

/-- The paths of a configuration, by their keys. -/
abbrev PathValues := Dict String (List String)

/-- `path_values.get(key, [])` for each key. -/
def scopeValues (paths : PathValues) (keys : List String) : List String :=
  keys.flatMap fun key => (Dict.get? paths key).getD []

def relativeScopes (paths : PathValues) (keys : List String) :
    Except ForgeError (List (List String)) :=
  (scopeValues paths keys).mapM fun value => validateRelativePath value false

def protectedKeys : List String :=
  ["contracts", "references", "evaluators", "acceptance_policies", "protected"]

/-- What `load_config` asks of the paths. -/
def validatePaths (tree : FileTree) (root : Path) (paths : PathValues) :
    Except ForgeError Unit := do
  let _ ← (paths.flatMap Prod.snd).mapM fun value => do
    let resolved ← resolveContained tree root value false
    validateTreeContainment tree root resolved
  let writable ← relativeScopes paths ["candidates", "generated", "outputs"]
  let protectedScopes ← relativeScopes paths protectedKeys
  validateScopesDoNotOverlap writable protectedScopes

/-! ## Changed files -/

section Project

variable (hashing : Hashing) (tree : FileTree) (root : Path) (paths : PathValues)

def changedFile (writable protectedScopes : List (List String)) (value : String) :
    Except ForgeError (String × String) := do
  let relative ← validateRelativePath value false
  refuseIf (isWithin relative protectedScopes = true) "PROTECTED_MODIFICATION"
    s!"candidate change touches protected authority: {value}"
  refuseIf (isWithin relative writable = false) "WRITE_BOUNDARY"
    s!"candidate change is outside declared write paths: {value}"
  let resolved ← resolveContained tree root value true
  refuseIf (tree.isFile resolved = false) "INVALID_CHANGED_FILE"
    s!"changed path is not a file: {value}"
  let identity ← fileIdentity tree (digestIdentity hashing) resolved
  .ok (value, identity)

def validateChangedFiles (changedFiles : List String) :
    Except ForgeError (List (String × String)) := do
  let writable ← relativeScopes paths ["candidates", "generated"]
  let protectedScopes ← relativeScopes paths protectedKeys
  (sortedTexts changedFiles.dedup).mapM
    (changedFile hashing tree root writable protectedScopes)

/-! ## Authority -/

/-- No accepted change is a file of a protected scope. -/
def KeepsAuthority : Prop :=
  ∀ changed identities, validateChangedFiles hashing tree root paths changed = .ok identities →
    ∀ value ∈ changed, ∃ resolved, resolveContained tree root value true = .ok resolved ∧
      tree.isFile resolved = true ∧
      ∀ scope ∈ scopeValues paths protectedKeys, ∀ location,
        resolveContained tree root scope false = .ok location → ¬ location <+: resolved

/-- A readable file under a name that is writable and not protected. -/
structure WritableFile (value : String) (relative : List String) (resolved : Path) : Prop where
  named : validateRelativePath value false = .ok relative
  unprotected : ∀ scopes, relativeScopes paths protectedKeys = .ok scopes →
    isWithin relative scopes = false
  writable : ∀ scopes, relativeScopes paths ["candidates", "generated"] = .ok scopes →
    isWithin relative scopes = true
  leads : resolveContained tree root value true = .ok resolved
  file : tree.isFile resolved = true
  readable : ∃ identity, fileIdentity tree (digestIdentity hashing) resolved = .ok identity

/-- The way to the location crosses no link. -/
def CrossesNoLink (relative : List String) (location : Path) : Prop :=
  ∀ rootReal, tree.resolveStrict root = .ok rootReal → location = rootReal ++ relative

/-- Where the name of a writable file or of a protected scope crosses a link, the file
is none of the scope. -/
def LinksStayApart : Prop :=
  ∀ value relative resolved, WritableFile hashing tree root paths value relative resolved →
    ∀ scope ∈ scopeValues paths protectedKeys, ∀ scopeRelative location,
      validateRelativePath scope false = .ok scopeRelative →
      resolveContained tree root scope false = .ok location →
      ¬ (CrossesNoLink tree root relative resolved ∧ CrossesNoLink tree root scopeRelative location) →
      ¬ location <+: resolved

variable {hashing tree root paths}

theorem resolveContained_root {value : String} {mustExist : Bool} {resolved : Path}
    (h : resolveContained tree root value mustExist = .ok resolved) :
    ∃ rootReal, tree.resolveStrict root = .ok rootReal := by
  obtain ⟨rel, -, h⟩ := bind_eq_ok.mp h
  cases real : tree.resolveStrict root with
  | ok rootReal => exact ⟨rootReal, rfl⟩
  | error exc => simp [real] at h

theorem changedFile_eq_ok {writable protectedScopes : List (List String)} {value : String}
    {entry : String × String} (known : relativeScopes paths protectedKeys = .ok protectedScopes)
    (open_ : relativeScopes paths ["candidates", "generated"] = .ok writable) :
    changedFile hashing tree root writable protectedScopes value = .ok entry ↔
      ∃ relative resolved, WritableFile hashing tree root paths value relative resolved ∧
        ∃ identity, fileIdentity tree (digestIdentity hashing) resolved = .ok identity ∧
          entry = (value, identity) := by
  simp only [changedFile, bind_eq_ok, refuseIf_eq_ok, exists_const, Bool.not_eq_true,
    Bool.not_eq_false, Except.ok.injEq]
  constructor
  · rintro ⟨relative, named, unprotected, within, resolved, leads, file, identity, read, rfl⟩
    refine ⟨relative, resolved, ⟨named, ?_, ?_, leads, file, identity, read⟩, identity, read, rfl⟩
    · intro scopes same
      rw [← Except.ok.inj (known.symm.trans same)]
      exact unprotected
    · intro scopes same
      rw [← Except.ok.inj (open_.symm.trans same)]
      exact within
  · rintro ⟨relative, resolved, file, identity, read, rfl⟩
    exact ⟨relative, file.named, file.unprotected _ known, file.writable _ open_, resolved,
      file.leads, file.file, identity, read, rfl⟩

/-- Without links a name outside a scope is a location outside it. -/
theorem not_prefix_of_no_link {relative scopeRelative : List String} {resolved location : Path}
    {scopes : List (List String)} {rootReal : Path}
    (real : tree.resolveStrict root = .ok rootReal) (outside : isWithin relative scopes = false)
    (member : scopeRelative ∈ scopes) (own : CrossesNoLink tree root relative resolved)
    (scopeOwn : CrossesNoLink tree root scopeRelative location) : ¬ location <+: resolved := by
  intro under
  rw [own rootReal real, scopeOwn rootReal real, List.prefix_append_right_inj] at under
  have within : isWithin relative scopes = true :=
    List.any_eq_true.mpr ⟨scopeRelative, member, List.isPrefixOf_iff_prefix.mpr under⟩
  rw [outside] at within
  cases within

theorem scopeValues_mono {keys more : List String} (h : keys ⊆ more) :
    scopeValues paths keys ⊆ scopeValues paths more := by
  intro value member
  obtain ⟨key, known, found⟩ := List.mem_flatMap.mp member
  exact List.mem_flatMap.mpr ⟨key, h known, found⟩

/-- The scopes that `load_config` accepts can be read as relative paths. -/
theorem relativeScopes_of_loaded (loaded : validatePaths tree root paths = .ok ()) :
    (∃ writable, relativeScopes paths ["candidates", "generated"] = .ok writable) ∧
      ∃ scopes, relativeScopes paths protectedKeys = .ok scopes := by
  obtain ⟨_, -, h⟩ := bind_eq_ok.mp loaded
  obtain ⟨writable, written, h⟩ := bind_eq_ok.mp h
  obtain ⟨scopes, kept, -⟩ := bind_eq_ok.mp h
  refine ⟨exists_mapM_eq_ok.mpr fun value member => ?_, scopes, kept⟩
  obtain ⟨relative, -, named⟩ := exists_mem_of_mapM_eq_ok written
    (scopeValues_mono (by simp) member)
  exact ⟨relative, named⟩

/-- Under an accepted configuration no accepted change is a protected file if and only if
the links on the way to writable files and to protected scopes keep the two apart. -/
theorem keepsAuthority_iff (loaded : validatePaths tree root paths = .ok ()) :
    KeepsAuthority hashing tree root paths ↔ LinksStayApart hashing tree root paths := by
  obtain ⟨⟨writable, open_⟩, protectedScopes, known⟩ := relativeScopes_of_loaded loaded
  constructor
  · intro keeps value relative resolved file scope member scopeRelative location _ reached _ under
    obtain ⟨identity, read⟩ := file.readable
    have accepted : validateChangedFiles hashing tree root paths [value] =
        .ok [(value, identity)] := by
      have entry : changedFile hashing tree root writable protectedScopes value =
          .ok (value, identity) :=
        (changedFile_eq_ok known open_).mpr ⟨relative, resolved, file, identity, read, rfl⟩
      refine bind_eq_ok.mpr ⟨writable, open_, bind_eq_ok.mpr ⟨protectedScopes, known, ?_⟩⟩
      rw [mapM_eq_ok_iff, (List.nodup_singleton value).dedup, sortedTexts,
        List.mergeSort_singleton]
      exact .cons entry .nil
    obtain ⟨found, leads, -, apart⟩ := keeps _ _ accepted value (List.mem_singleton_self value)
    obtain rfl := Except.ok.inj (leads.symm.trans file.leads)
    exact apart scope member location reached under
  · intro apart changed identities accepted value member
    obtain ⟨_, read, accepted⟩ := bind_eq_ok.mp accepted
    obtain rfl := Except.ok.inj (open_.symm.trans read)
    obtain ⟨_, read, accepted⟩ := bind_eq_ok.mp accepted
    obtain rfl := Except.ok.inj (known.symm.trans read)
    have listed : value ∈ sortedTexts changed.dedup := by
      simpa [sortedTexts] using member
    obtain ⟨entry, -, checked⟩ := exists_mem_of_mapM_eq_ok accepted listed
    obtain ⟨relative, resolved, file, -⟩ := (changedFile_eq_ok known open_).mp checked
    refine ⟨resolved, file.leads, file.file, fun scope declared location reached => ?_⟩
    obtain ⟨scopeRelative, kept, named⟩ := exists_mem_of_mapM_eq_ok known declared
    by_cases linkless : CrossesNoLink tree root relative resolved ∧
        CrossesNoLink tree root scopeRelative location
    · obtain ⟨rootReal, real⟩ := resolveContained_root file.leads
      exact not_prefix_of_no_link real (file.unprotected _ known) kept linkless.1 linkless.2
    · exact apart value relative resolved file scope declared scopeRelative location named reached
        linkless

end Project

/-! ## A link from a candidate to a contract -/

private def constantHashing : Hashing where
  hexdigest _ := "0"
  jcs value := .ok value.canonicalBytes

def linkedFollow (path : Path) : Path :=
  if path = ["project", "candidate", "api.py"] then ["project", "contracts", "api.py"] else path

/-- The candidate holds one name, a link to the contract. -/
def linkedTree : FileTree where
  resolveStrict path := .ok (linkedFollow path)
  resolve := linkedFollow
  present path :=
    path ∈ [["project"], ["project", "candidate"], ["project", "contracts"],
      ["project", "candidate", "api.py"], ["project", "contracts", "api.py"]]
  isFile path := linkedFollow path = ["project", "contracts", "api.py"]
  isSymlink path := path = ["project", "candidate", "api.py"]
  rglob path :=
    if path = ["project", "candidate"] then [["project", "candidate", "api.py"]]
    else if path = ["project", "contracts"] then [["project", "contracts", "api.py"]]
    else []
  read _ := .ok []

def linkedPaths : PathValues :=
  [("acceptance_policies", ["policies"]), ("candidates", ["candidate"]),
   ("contracts", ["contracts"]), ("evaluators", ["evaluators"]), ("generated", []),
   ("outputs", ["outputs"]), ("protected", ["protected"]), ("references", ["references"])]

theorem keepsAuthority_iff_linked :
    KeepsAuthority constantHashing linkedTree ["project"] linkedPaths ↔
      LinksStayApart constantHashing linkedTree ["project"] linkedPaths :=
  keepsAuthority_iff (by decide +kernel)

/-- The link is writable by its name and a contract by its location. -/
theorem validateChangedFiles_follows_link :
    validatePaths linkedTree ["project"] linkedPaths = .ok () ∧
      validateChangedFiles constantHashing linkedTree ["project"] linkedPaths
        ["candidate/api.py"] = .ok [("candidate/api.py", "sha256:0")] ∧
      ¬ KeepsAuthority constantHashing linkedTree ["project"] linkedPaths := by
  have accepted : validateChangedFiles constantHashing linkedTree ["project"] linkedPaths
      ["candidate/api.py"] = .ok [("candidate/api.py", "sha256:0")] := by decide +kernel
  refine ⟨by decide +kernel, accepted, fun keeps => ?_⟩
  obtain ⟨resolved, leads, -, apart⟩ := keeps _ _ accepted _ (List.mem_singleton_self _)
  have followed : resolveContained linkedTree ["project"] "candidate/api.py" true =
      .ok ["project", "contracts", "api.py"] := by decide +kernel
  obtain rfl := Except.ok.inj (leads.symm.trans followed)
  have reached : resolveContained linkedTree ["project"] "contracts" false =
      .ok ["project", "contracts"] := by decide +kernel
  exact apart "contracts" (by decide) _ reached ⟨["api.py"], rfl⟩

end MncsForge.Application
