import Recurrence.Error
import Recurrence.Zone.Basic
import Recurrence.Zone.Table.Africa
import Recurrence.Zone.Table.Alias
import Recurrence.Zone.Table.America
import Recurrence.Zone.Table.Antarctica
import Recurrence.Zone.Table.Asia
import Recurrence.Zone.Table.Atlantic
import Recurrence.Zone.Table.Australia
import Recurrence.Zone.Table.Etc
import Recurrence.Zone.Table.Europe
import Recurrence.Zone.Table.Indian
import Recurrence.Zone.Table.Pacific
import Recurrence.Zone.Table.Plain

/-!
# Finding a zone by name

Zones are named like files, `Area/Place`, and a name that is not a zone may fail in three ways: it is
unknown; it is an area, which is a directory and no zone; or its last part is longer than a file name
can be.  Only the first is the ordinary answer to a wrong name.  The other two come from the file
system in which the tables of zones are kept.
-/

namespace Recurrence.Zone

/-- Why a name is not the name of a zone. -/
inductive NameFault
  /-- There is no such zone. -/
  | unknown
  /-- The name is that of an area. -/
  | area
  /-- The last part of the name is too long. -/
  | tooLong
deriving DecidableEq, Repr

/-- All zones, by area. -/
def tables : List (List (String × List String)) :=
  [Table.plain, Table.etc, Table.africa, Table.america, Table.antarctica, Table.asia,
    Table.atlantic, Table.australia, Table.europe, Table.indian, Table.pacific]

/-- The text that the tables hold for a zone, in lines. -/
def linesOf? (name : String) : Option (List String) :=
  tables.findSome? fun table => table.lookup name

/-- The name under which the tables hold a zone. -/
def canonicalName (name : String) : String :=
  (Table.aliases.lookup name).getD name

/-- All names of zones. -/
def names : List String :=
  (tables.flatMap fun table => table.map Prod.fst) ++ Table.aliases.map Prod.fst

/-- The name is one or more leading parts of the name of a zone. -/
def isArea (name : Text) : Bool :=
  names.any fun zone => Text.startsWith (name ++ ['/']) zone.toList

/-- The parts of a name between slashes. -/
def parts (name : Text) : List Text :=
  Text.splitOn '/' name

/-- The name could be that of a file below the directory of zones: no part is empty or dots alone. -/
def isProper (name : Text) : Bool :=
  !name.contains (Char.ofNat 0)
    && (parts name).all fun part => !(part == [] || part == ['.'] || part == ['.', '.'])

/-- The longest part of a name that can be a file, in octets. -/
def partLimit : Nat := 255

/-- The name's last part is too long to be a file in the directory that the other parts name. -/
def isTooLong (name : Text) : Bool :=
  let leading := (parts name).dropLast
  (partLimit < Text.octetCount ((parts name).getLastD []))
    && (leading.isEmpty || isArea (Text.joinWith ['/'] leading))

/-- The zone with a given name. -/
def find (name : Text) : Except NameFault Zone :=
  if !isProper name then .error .unknown
  else
    match linesOf? (canonicalName (String.ofList name)) with
    | some lines => .ok (ofText (Text.joinWith [' '] (lines.map String.toList)))
    | none =>
      if isArea name then .error .area
      else if isTooLong name then .error .tooLong
      else .error .unknown

/-- The zone with a given name, or the error that the name causes. -/
def resolve (name : Text) : Except Error Zone :=
  match find name with
  | .ok z => .ok z
  | .error .unknown => .error (.rule (.unknownZone name))
  | .error .area => .error .isDirectory
  | .error .tooLong => .error .nameTooLong

end Recurrence.Zone
