import Mathlib
import MncsForge.Errors

/-!
# Project paths

Configured paths are relative POSIX paths below the project root.
-/

namespace MncsForge.Paths

/-- A parsed path: empty parts and single dots are dropped. -/
structure PurePosixPath where
  absolute : Bool
  parts : List String
  deriving DecidableEq, Repr

def PurePosixPath.ofString (value : String) : PurePosixPath where
  absolute := value.toList.head? = some '/'
  parts :=
    ((value.toList.splitOn '/').map String.ofList).filter fun part => part ≠ "" ∧ part ≠ "."

/-- `validate_relative_path`, with the parts of the path. -/
def validateRelativePath (value : String) (allowDot : Bool) : Except ForgeError (List String) := do
  refuseIf (value = "") "INVALID_PATH" "configured paths must be non-empty strings"
  let path := PurePosixPath.ofString value
  refuseIf (path.absolute = true) "ABSOLUTE_PATH" s!"absolute project path is forbidden: {value}"
  refuseIf (".." ∈ path.parts) "PATH_TRAVERSAL" s!"parent traversal is forbidden: {value}"
  refuseIf ('\x00' ∈ value.toList) "INVALID_PATH" "NUL is forbidden in paths"
  refuseIf (path.parts = [] ∧ allowDot = false) "INVALID_PATH"
    "project root is not a valid scoped path"
  .ok path.parts

def isWithin (path : List String) (scopes : List (List String)) : Bool :=
  scopes.any fun scope => scope.isPrefixOf path

end MncsForge.Paths
