import Recurrence.Text.Basic

/-!
# File paths

A path is a sequence of names, from the working directory or from the root.  Empty names and single
points say nothing and are left out; two points lead one directory up.

Files are given by their paths.  Every directory that leads to a file exists, and so do the working
directory, all those around it, and the root.
-/

namespace Recurrence

/-- A path. -/
structure Path where
  /-- The slashes in front: none for a path from the working directory. -/
  lead : Text
  /-- The names. -/
  names : List Text
deriving DecidableEq

namespace Path

/-- The slashes that count at the front of a path: exactly two are kept, otherwise one will do. -/
def leadOf : Text → Text
  | '/' :: '/' :: '/' :: _ => ['/']
  | '/' :: '/' :: _ => ['/', '/']
  | '/' :: _ => ['/']
  | _ => []

/-- The path that a text is. -/
def ofText (s : Text) : Path :=
  ⟨leadOf s, (Text.splitOn '/' s).filter fun name => !(name.isEmpty || name == ['.'])⟩

/-- The text of a path. -/
def toText (p : Path) : Text :=
  if p.lead.isEmpty && p.names.isEmpty then ['.'] else p.lead ++ Text.joinWith ['/'] p.names

/-- The last name. -/
def name (p : Path) : Text :=
  p.names.getLastD []

/-- The end of the last name, from its last point on.  A point at either end of the name does not
count. -/
def extension (p : Path) : Text :=
  let reversed := p.name.reverse
  let tail := reversed.takeWhile (· != '.')
  let stem := (reversed.drop (tail.length + 1))
  if tail.isEmpty || stem.isEmpty then [] else '.' :: tail.reverse

end Path

/-! ## Looking for a file -/

/-- What is found at a path. -/
inductive FileEntry
  /-- Nothing. -/
  | missing
  /-- A directory. -/
  | directory
  /-- A file, with the text in it. -/
  | file (s : Text)
  /-- Nothing can be there, as the path is too long. -/
  | tooLong
deriving DecidableEq

/-- Files, by the texts of their paths from the working directory. -/
abbrev Files := List (Text × Text)

namespace Files

/-- The longest name, in octets. -/
def nameLimit : Nat := 255

/-- The longest path, in octets. -/
def pathLimit : Nat := 4095

/-- The names lead to a directory. -/
def isDirectory (files : Files) (names : List Text) : Bool :=
  names.isEmpty || files.any fun (path, _) =>
    let all := (Path.ofText path).names
    names.length < all.length && names.isPrefixOf all

/-- The text of the file that the names lead to. -/
def text? (files : Files) (names : List Text) : Option Text :=
  (files.find? fun (path, _) => (Path.ofText path).names == names).map Prod.snd

/-- What is found when some names are followed from a directory; `above` is the number of directories
that the way has led up from the working directory. -/
def follow (files : Files) : (above : Nat) → (here : List Text) → List Text → FileEntry
  | _, _, [] => .directory
  | above, here, name :: rest =>
    if name == ['.', '.'] then
      if here.isEmpty then follow files (above + 1) [] rest else follow files above here.dropLast rest
    else if nameLimit < Text.octetCount name then .tooLong
    else if above != 0 then .missing
    else if isDirectory files (here ++ [name]) then follow files above (here ++ [name]) rest
    else
      match text? files (here ++ [name]) with
      | some s => if rest.isEmpty then .file s else .missing
      | none => .missing

/-- What is found at a path. -/
def entry (files : Files) (p : Path) : FileEntry :=
  if p.toText.contains (Char.ofNat 0) then .missing
  else if pathLimit < Text.octetCount p.toText then .tooLong
  else if p.lead.isEmpty then follow files 0 [] p.names
  else if p.names.isEmpty then .directory
  else .missing

end Files

end Recurrence
