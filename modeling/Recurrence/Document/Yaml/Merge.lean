import Recurrence.Document.Yaml.Node

/-!
# Merged mappings

A mapping may take over the entries of other mappings: the value of the key `<<` is a mapping or a
list of mappings.  The entries taken over come first, so that the mapping's own entries, which come
later, count.  Of several mappings in a list the first counts most, so it comes last.

Merging also makes the key `=` an ordinary text.
-/

namespace Recurrence.Yaml

namespace Node

/-- The type of a node. -/
def kind : Node → Kind
  | .scalar kind _ | .list kind _ | .map kind _ => kind
  | .enclosingList => .list
  | .enclosingMap => .map

/-- A key of a merged mapping. -/
def asKey : Node → Node
  | .scalar .default text => .scalar .text text
  | n => n

/-- The entries of this type of mapping are merged. -/
def merges (kind : Kind) : Bool :=
  kind = .map || kind = .set

mutual

/-- The node with all mappings in it merged. -/
def merged : Node → Except Error Node
  | .list .pairs members => do .ok (.list .pairs (← mergedPairs members))
  | .list kind members => do .ok (.list kind (← mergedAll members))
  | .map kind entries => do
    if merges kind then
      let (taken, own) ← mergedEntries entries
      .ok (.map kind (taken ++ own))
    else .ok (.map kind (← mergedInside entries))
  | n => .ok n

/-- Nodes with all mappings in them merged. -/
def mergedAll : List Node → Except Error (List Node)
  | [] => .ok []
  | n :: rest => do
    let n ← merged n
    let rest ← mergedAll rest
    .ok (n :: rest)

/-- Nodes with all mappings in them merged, those themselves that are mappings excepted. -/
def mergedPairs : List Node → Except Error (List Node)
  | [] => .ok []
  | .map kind entries :: rest => do
    let entries ← mergedInside entries
    let rest ← mergedPairs rest
    .ok (.map kind entries :: rest)
  | n :: rest => do
    let n ← merged n
    let rest ← mergedPairs rest
    .ok (n :: rest)

/-- Entries with all mappings in their keys and values merged. -/
def mergedInside : List (Node × Node) → Except Error (List (Node × Node))
  | [] => .ok []
  | (key, value) :: rest => do
    let key ← merged key
    let value ← merged value
    let rest ← mergedInside rest
    .ok ((key, value) :: rest)

/-- The entries that some entries take over, and the others. -/
def mergedEntries : List (Node × Node) → Except Error (List (Node × Node) × List (Node × Node))
  | [] => .ok ([], [])
  | (key, value) :: rest => do
    if key.kind = .merge then
      let taken ← takenFrom value
      let (others, own) ← mergedEntries rest
      .ok (taken ++ others, own)
    else
      let key ← merged key
      let value ← merged value
      let (taken, own) ← mergedEntries rest
      .ok (taken, (key.asKey, value) :: own)

/-- The entries that are taken over from a node. -/
def takenFrom : Node → Except Error (List (Node × Node))
  | .map _ entries => do
    let (taken, own) ← mergedEntries entries
    .ok (taken ++ own)
  | .list _ members => takenFromAll members
  | .enclosingMap => .ok []
  | _ => .error .malformedYaml

/-- The entries that are taken over from mappings, the last one's first. -/
def takenFromAll : List Node → Except Error (List (Node × Node))
  | [] => .ok []
  | .map _ entries :: rest => do
    let (taken, own) ← mergedEntries entries
    let others ← takenFromAll rest
    .ok (others ++ (taken ++ own))
  | .enclosingMap :: rest => takenFromAll rest
  | _ => .error .malformedYaml

end

end Node

end Recurrence.Yaml
