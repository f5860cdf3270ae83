import Recurrence.Document.Yaml.Implicit
import Recurrence.Document.Yaml.Token

/-!
# Nodes of a YAML document

A document is a tree of scalars, lists and mappings, each with its type.  Where the name of another
node stands, there is that node once more; a name that stands inside its own node, which would make
the tree infinite, is left as such.

The tokens are read from left to right, and the next one always tells what to do.  A text holds one
document or none.
-/

namespace Recurrence.Yaml

/-- A node. -/
inductive Node
  /-- A scalar. -/
  | scalar (kind : Kind) (text : Text)
  /-- A list. -/
  | list (kind : Kind) (members : List Node)
  /-- A mapping. -/
  | map (kind : Kind) (entries : List (Node × Node))
  /-- The name of a list that this node is in. -/
  | enclosingList
  /-- The name of a mapping that this node is in. -/
  | enclosingMap

/-- What the name of a node stands for while the document is read. -/
inductive Named
  /-- A node that has been read. -/
  | node (n : Node)
  /-- A list that is being read. -/
  | openList
  /-- A mapping that is being read. -/
  | openMap

/-- How far a document has been read. -/
structure Reading where
  /-- The tokens to come. -/
  tokens : List Token
  /-- The names of nodes. -/
  names : List (Text × Named)
  /-- What the handles of tags stand for. -/
  handles : List (Text × Text)

namespace Reading

/-- The reading behind the next token. -/
def next (r : Reading) : Reading :=
  { r with tokens := r.tokens.tail }

/-- The next token is this one. -/
def sees (r : Reading) (token : Token) : Bool :=
  r.tokens.head? == some token

/-- The next token is one of these. -/
def seesAny (r : Reading) (tokens : List Token) : Bool :=
  tokens.any r.sees

/-- The reading behind a given token. -/
def expect? (r : Reading) (token : Token) : Option Reading :=
  if r.sees token then some r.next else none

/-- A name is given to a node, or to a list or mapping that begins. -/
def bind (r : Reading) (name : Option Text) (n : Named) : Reading :=
  match name with
  | some name => { r with names := (name, n) :: r.names }
  | none => r

end Reading

/-! ## Anchors and tags -/

/-- What stands before a node: its name and its tag. -/
structure Properties where
  /-- The name. -/
  anchor : Option Text
  /-- The tag, its handle replaced. -/
  tag : Option Text

namespace Properties

/-- The type of a scalar.  Only a scalar that is plain and has no tag, or one with the tag `!`, has
the type that it is written like. -/
def scalarKind (p : Properties) (text : Text) (plain : Bool) : Kind :=
  match p.tag with
  | none => if plain then .ofPlain text else .text
  | some tag => if tag = ['!'] then .ofPlain text else .ofTag tag

/-- The type of a collection; `usual` if the tag says nothing. -/
def collectionKind (p : Properties) (usual : Kind) : Kind :=
  match p.tag with
  | some tag => if tag = ['!'] then usual else .ofTag tag
  | none => usual

end Properties

/-- A tag with its handle replaced. -/
def fullTag? (handles : List (Text × Text)) (handle : Option Text) (suffix : Text) : Option Text :=
  match handle with
  | none => some suffix
  | some handle => (handles.lookup handle).map (· ++ suffix)

/-- The tag that comes next, if one does. -/
def readTag? (r : Reading) : Option (Option Text × Reading) :=
  match r.tokens with
  | .tag handle suffix :: _ => (fullTag? r.handles handle suffix).map fun tag => (some tag, r.next)
  | _ => some (none, r)

/-- The anchor that comes next, if one does. -/
def readAnchor (r : Reading) : Option Text × Reading :=
  match r.tokens with
  | .anchor name :: _ => (some name, r.next)
  | _ => (none, r)

/-- What stands before a node, in either order.  No two nodes have one name. -/
def readProperties? (r : Reading) : Option (Properties × Reading) := do
  let (first, r) := readAnchor r
  let (tag, r) ← readTag? r
  let (anchor, r) :=
    match first with
    | some name => (some name, r)
    | none => readAnchor r
  if anchor.any fun name => (r.names.lookup name).isSome then none
  else some (⟨anchor, tag⟩, r)

/-! ## Nodes -/

/-- The scalar that stands where nothing is written. -/
def emptyNode : Node := .scalar .null []

/-- Where a node stands: what may be written there. -/
structure Position where
  /-- A collection in lines may begin. -/
  allowsBlock : Bool
  /-- A list may follow that is not indented. -/
  allowsUnindented : Bool

/-- A place inside brackets or braces. -/
def inFlow : Position := ⟨false, false⟩

/-- A place for a member of a list in lines, or for a whole document. -/
def inBlock : Position := ⟨true, false⟩

/-- A place for a key or a value of a mapping in lines. -/
def inBlockMap : Position := ⟨true, true⟩

/-- The node that a name stands for. -/
def aliasNode? (r : Reading) (name : Text) : Option Node :=
  (r.names.lookup name).map fun
    | .node n => n
    | .openList => .enclosingList
    | .openMap => .enclosingMap

mutual

/-- The next node. -/
def readNode (fuel : Nat) (p : Position) (r : Reading) : Option (Node × Reading) :=
  match fuel with
  | 0 => none
  | fuel + 1 =>
    match r.tokens with
    | .alias name :: _ => (aliasNode? r name).map fun n => (n, r.next)
    | _ => do
      let (properties, r) ← readProperties? r
      let (n, after) ← readContent fuel p properties r
      some (n, after.bind properties.anchor (.node n))

/-- The node behind its name and tag. -/
def readContent (fuel : Nat) (p : Position) (properties : Properties) (r : Reading) :
    Option (Node × Reading) :=
  match fuel with
  | 0 => none
  | fuel + 1 =>
    let asList (r : Reading) : Reading := r.bind properties.anchor .openList
    let asMap (r : Reading) : Reading := r.bind properties.anchor .openMap
    let list (found : List Node × Reading) : Node × Reading :=
      (.list (properties.collectionKind .list) found.1, found.2)
    let map (found : List (Node × Node) × Reading) : Node × Reading :=
      (.map (properties.collectionKind .map) found.1, found.2)
    match r.tokens with
    | .scalar text plain :: _ => some (.scalar (properties.scalarKind text plain) text, r.next)
    | .flowListStart :: _ => (readFlowList fuel true (asList r.next)).map list
    | .flowMapStart :: _ => (readFlowMap fuel true (asMap r.next)).map map
    | token :: _ =>
      if p.allowsUnindented && token = .blockEntry then
        (readUnindentedList fuel (asList r)).map list
      else if p.allowsBlock && token = .blockListStart then
        (readBlockList fuel (asList r.next)).map list
      else if p.allowsBlock && token = .blockMapStart then
        (readBlockMap fuel (asMap r.next)).map map
      else readNothing properties r
    | [] => readNothing properties r

/-- No node is written: this is one only behind a name or a tag. -/
def readNothing (properties : Properties) (r : Reading) : Option (Node × Reading) :=
  if properties.anchor.isNone && properties.tag.isNone then none
  else some (.scalar (properties.scalarKind [] true) [], r)

/-- The members of a list in lines. -/
def readBlockList (fuel : Nat) (r : Reading) : Option (List Node × Reading) :=
  match fuel with
  | 0 => none
  | fuel + 1 =>
    if r.sees .blockEntry then do
      let (n, r) ← readUnless fuel inBlock [.blockEntry, .blockEnd] r.next
      let (members, r) ← readBlockList fuel r
      some (n :: members, r)
    else (r.expect? .blockEnd).map fun r => ([], r)

/-- The members of a list in lines that is not indented. -/
def readUnindentedList (fuel : Nat) (r : Reading) : Option (List Node × Reading) :=
  match fuel with
  | 0 => none
  | fuel + 1 =>
    if r.sees .blockEntry then do
      let (n, r) ← readUnless fuel inBlock [.blockEntry, .key, .value, .blockEnd] r.next
      let (members, r) ← readUnindentedList fuel r
      some (n :: members, r)
    else some ([], r)

/-- The entries of a mapping in lines. -/
def readBlockMap (fuel : Nat) (r : Reading) : Option (List (Node × Node) × Reading) :=
  match fuel with
  | 0 => none
  | fuel + 1 =>
    let ends : List Token := [.key, .value, .blockEnd]
    if r.sees .key then do
      let (key, r) ← readUnless fuel inBlockMap ends r.next
      let (value, r) ← readMarked fuel inBlockMap ends r
      let (entries, r) ← readBlockMap fuel r
      some ((key, value) :: entries, r)
    else (r.expect? .blockEnd).map fun r => ([], r)

/-- The members of a list in brackets; `first` if none has been read. -/
def readFlowList (fuel : Nat) (first : Bool) (r : Reading) : Option (List Node × Reading) :=
  match fuel with
  | 0 => none
  | fuel + 1 =>
    if r.sees .flowListEnd then some ([], r.next)
    else do
      let r ← if first then some r else r.expect? .flowEntry
      if r.sees .flowListEnd then some ([], r.next)
      else
        let (n, r) ←
          if r.sees .key then do
            let ends : List Token := [.flowEntry, .flowListEnd]
            let (key, r) ← readUnless fuel inFlow (.value :: ends) r.next
            let (value, r) ← readMarked fuel inFlow ends r
            some (Node.map .map [(key, value)], r)
          else readNode fuel inFlow r
        let (members, r) ← readFlowList fuel false r
        some (n :: members, r)

/-- The entries of a mapping in braces; `first` if none has been read. -/
def readFlowMap (fuel : Nat) (first : Bool) (r : Reading) :
    Option (List (Node × Node) × Reading) :=
  match fuel with
  | 0 => none
  | fuel + 1 =>
    if r.sees .flowMapEnd then some ([], r.next)
    else do
      let r ← if first then some r else r.expect? .flowEntry
      if r.sees .flowMapEnd then some ([], r.next)
      else
        let ends : List Token := [.flowEntry, .flowMapEnd]
        let (key, value, r) ←
          if r.sees .key then do
            let (key, r) ← readUnless fuel inFlow (.value :: ends) r.next
            let (value, r) ← readMarked fuel inFlow ends r
            some (key, value, r)
          else (readNode fuel inFlow r).map fun (key, r) => (key, emptyNode, r)
        let (entries, r) ← readFlowMap fuel false r
        some ((key, value) :: entries, r)

/-- The next node, or nothing if one of these tokens comes. -/
def readUnless (fuel : Nat) (p : Position) (ends : List Token) (r : Reading) :
    Option (Node × Reading) :=
  match fuel with
  | 0 => none
  | fuel + 1 => if r.seesAny ends then some (emptyNode, r) else readNode fuel p r

/-- The value behind its mark, or nothing if there is no mark. -/
def readMarked (fuel : Nat) (p : Position) (ends : List Token) (r : Reading) :
    Option (Node × Reading) :=
  match fuel with
  | 0 => none
  | fuel + 1 =>
    if r.sees .value then readUnless fuel p ends r.next else some (emptyNode, r)

end

/-! ## Documents -/

/-- The handles that every document has. -/
def usualHandles : List (Text × Text) :=
  [(['!'], ['!']), (['!', '!'], Kind.tagLead)]

/-- The directives at the front of some tokens, and the tokens behind them.  There is at most one
version, of the first edition, and each handle is introduced once. -/
def readDirectives : (versioned : Bool) → (handles : List (Text × Text)) → List Token →
    Option (List (Text × Text) × List Token)
  | versioned, handles, .version major :: rest =>
    if versioned || major != 1 then none else readDirectives true handles rest
  | versioned, handles, .tagHandle handle lead :: rest =>
    if (handles.lookup handle).isSome then none
    else readDirectives versioned ((handle, lead) :: handles) rest
  | versioned, handles, .directive :: rest => readDirectives versioned handles rest
  | _, handles, tokens => some (handles ++ usualHandles, tokens)

/-- The token is a directive. -/
def Token.isDirective : Token → Bool
  | .version _ | .tagHandle .. | .directive => true
  | _ => false

/-- Enough fuel to read some tokens: no token leads to more than a few calls. -/
def fuelFor (tokens : List Token) : Nat :=
  8 * tokens.length + 8

/-- Nothing comes behind a document but marks of its end. -/
def isFinished (r : Reading) : Bool :=
  (r.tokens.dropWhile (· == .documentEnd)).isEmpty

/-- The document that some tokens make; `none` if they make none, and no node if there is nothing in
them. -/
def ofTokens? (tokens : List Token) : Option (Option Node) :=
  let fuel := fuelFor tokens
  match tokens with
  | [] => some none
  | token :: _ =>
    if token.isDirective || token = .documentStart then do
      let (handles, tokens) ← readDirectives false [] tokens
      let r ← Reading.expect? ⟨tokens, [], handles⟩ .documentStart
      let (n, r) ←
        if r.tokens.isEmpty || r.seesAny [.documentStart, .documentEnd]
            || r.tokens.head?.any Token.isDirective then
          some (emptyNode, r)
        else readNode fuel inBlock r
      if isFinished r then some (some n) else none
    else do
      let (n, r) ← readNode fuel inBlock ⟨tokens, [], usualHandles⟩
      if isFinished r then some (some n) else none

end Recurrence.Yaml
