import Safekeep.Text.Lower

/-!
# File paths

Paths are texts whose components are separated by `/`. A path starting with `/` is absolute.
Empty components and `.` components other than a leading one carry no name; `..` names the
parent. These rules give a path's file name (its last component, when that is a name), its
extension (what follows the last dot of the file name, unless that dot starts the name), and the
path of a name joined to a directory.
-/

namespace Safekeep.Path

def isAbsolute (p : String) : Bool := p.startsWith "/"

def names (p : String) : List String :=
  ((p.toList.splitOn '/').filter fun c => c ≠ [] ∧ c ≠ ['.']).map String.ofList

/-- The last component of a path when it is a name: none for `/`, `.`, `..` or an empty path. -/
def fileName? (p : String) : Option String :=
  match (names p).getLast? with
  | some ".." => none
  | other => other

/-- The part of a file name after its last dot; none without a dot, or when the only dot
starts the name. -/
def extensionOfName (name : String) : Option String :=
  let cs := name.toList
  let after := (cs.reverse.takeWhile (· ≠ '.')).reverse
  if after.length = cs.length then none
  else
    let before := cs.take (cs.length - after.length - 1)
    if before.isEmpty then none else some (String.ofList after)

def extension? (p : String) : Option String := (fileName? p).bind extensionOfName

/-- The lower-cased extension of a path; none when it has none or it is empty. -/
def extensionOf (p : String) : Option String :=
  match extension? p with
  | some e => if e.isEmpty then none else some (Text.lower e)
  | none => none

/-- A component of a path as the system reads it. -/
inductive Component
  -- The leading `/`.
  | root
  -- A leading `.`.
  | current
  -- A `..`.
  | parent
  -- A name.
  | name (s : String)
  deriving DecidableEq, Repr

/-- The components of a path: a leading `/` or `.`, then names and `..`; empty components and
later `.` components vanish. -/
def components (p : String) : List Component :=
  let raw := (p.toList.splitOn '/').map String.ofList
  let (head, rest) : List Component × List String :=
    if p.startsWith "/" then ([.root], raw.drop 1)
    else if raw.head? = some "." then ([.current], raw.drop 1)
    else ([], raw)
  head ++ (rest.filter fun c => c ≠ "" ∧ c ≠ ".").map fun c => if c = ".." then .parent else .name c

/-- The text of a list of components. -/
def render (cs : List Component) : String :=
  let word : Component → String
    | .root => ""
    | .current => "."
    | .parent => ".."
    | .name s => s
  match cs with
  | [.root] => "/"
  | .root :: rest => "/" ++ "/".intercalate (rest.map word)
  | _ => "/".intercalate (cs.map word)

/-- The path without its last component: none for the root or an empty path. -/
def parent? (p : String) : Option String :=
  match (components p).reverse with
  | [] => none
  | .root :: _ => none
  | _ :: before => some (render before.reverse)

/-- A path followed by another: an absolute second path replaces the first, otherwise the two are
joined by one `/` (none is added after an empty path or one ending in `/`). -/
def join (base rel : String) : String :=
  if isAbsolute rel then rel
  else if base.isEmpty || base.endsWith "/" then base ++ rel
  else base ++ "/" ++ rel

/-- The stem of a file name: the name before its last dot, or the whole name when it has no dot
or its only dot starts it. -/
def stemOfName (name : String) : String :=
  match extensionOfName name with
  | some ext => String.ofList (name.toList.take (name.length - ext.length - 1))
  | none => name

/-- A path with the extension of its file name replaced (or added): unchanged when it has no file
name. Trailing separators after the file name are dropped. -/
def withExtension (p : String) (ext : String) : String :=
  match fileName? p with
  | none => p
  | some name =>
    let trimmed := String.ofList ((p.toList.reverse.dropWhile (fun c => c = '/' ∨ c = '.')).reverse)
    let base := String.ofList (trimmed.toList.take (trimmed.length - name.length))
    base ++ stemOfName name ++ (if ext.isEmpty then "" else "." ++ ext)

/-- The components of `path` seen from `base`; `fuel` bounds the steps. -/
def relativeParts : Nat → List Component → List Component → List Component → Option (List Component)
  | 0, _, _, acc => some acc
  | fuel + 1, as, bs, acc =>
    match as, bs with
    | [], [] => some acc
    | a :: rest, [] => some (acc ++ a :: rest)
    | [], _ :: bs' => relativeParts fuel [] bs' (acc ++ [.parent])
    | a :: as', b :: bs' =>
      if acc.isEmpty ∧ a = b then relativeParts fuel as' bs' acc
      else if b = .current then relativeParts fuel as' bs' (acc ++ [a])
      else if b = .parent then none
      else some (acc ++ [.parent] ++ bs'.map (fun _ => .parent) ++ a :: as')

/-- A path relative to a base directory, both absolute or both relative; an absolute path seen
from a relative base stays as it is. None when the base climbs above what it names. -/
def relativeTo (path base : String) : Option String :=
  if isAbsolute path ≠ isAbsolute base then
    if isAbsolute path then some path else none
  else
    let as := components path
    let bs := components base
    (relativeParts (as.length + bs.length + 1) as bs []).map render

end Safekeep.Path
