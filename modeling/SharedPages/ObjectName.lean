import SharedPages.Errno.Basic
import SharedPages.Flag

/-!
# Names of shared-memory objects

A shared-memory object is named by a slash and a component without slashes. Any
number of leading slashes, none included, means the same object; `normalize` gives
the one form with a single slash, and refuses what names no object.
-/

namespace SharedPages.ObjectName

/-- The text without its leading slashes. -/
def stripSlashes (cs : List Char) : List Char := cs.dropWhile (· = '/')

/-- A component that can name an object: not empty, shorter than a path component may be, and
free of slashes and NUL. -/
def isComponent (component : List Char) : Bool :=
  component ≠ [] && (String.ofList component).utf8ByteSize < Limit.pathComponent
    && !component.contains '/' && !component.contains (Char.ofNat 0)

/-- The name with exactly one slash, in front. -/
def normalize (name : String) : Except Errno String :=
  let component := stripSlashes name.toList
  if isComponent component then .ok (String.ofList ('/' :: component)) else .error .einval

end SharedPages.ObjectName
