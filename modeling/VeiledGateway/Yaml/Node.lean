/-
  The nodes of a YAML document.

  A node can be named and used again, also inside itself, so the nodes of a document form a graph:
  they are numbered, and a collection holds the numbers of its parts.  `Graph.ofTokens?` reads a
  stream of tokens that holds one document or none.
-/
import VeiledGateway.Text.Entries
import VeiledGateway.Yaml.Scalar
import VeiledGateway.Yaml.Token

set_option autoImplicit false

namespace VeiledGateway.Yaml

inductive Content where
  | scalar (t : Text)
  | list (items : List Nat)
  | table (entries : List (Nat × Nat))
deriving Inhabited

structure Node where
  tag : Tag
  content : Content
deriving Inhabited

structure Graph where
  nodes : Array Node
  root : Nat

/-- Where reading stands: the tokens that are left, what handles of tags stand for, the nodes that
have names, and all nodes so far. -/
structure Reading where
  tokens : List Token
  handles : Entries Text
  names : Entries Nat
  nodes : Array Node

namespace Reading

/-- What the handles stand for where nothing else is said. -/
def commonHandles : Entries Text :=
  [("!", "!"), ("!!", Tag.commonLead)]

def drop (r : Reading) : Reading :=
  { r with tokens := r.tokens.drop 1 }

/-- The next token is one of some tokens. -/
def atOne (r : Reading) (tokens : List Token) : Bool :=
  match r.tokens with
  | t :: _ => tokens.contains t
  | [] => false

def add (r : Reading) (node : Node) : Nat × Reading :=
  (r.nodes.size, { r with nodes := r.nodes.push node })

/-- A node where nothing is written. -/
def addEmpty (r : Reading) : Nat × Reading :=
  r.add ⟨.nothing, .scalar []⟩

def setContent (r : Reading) (n : Nat) (content : Content) : Reading :=
  { r with nodes := r.nodes.modify n fun node => { node with content } }

/-- The name and the tag before a node, in either order. -/
structure Marks where
  name : Option Text
  tag : Option Text

def tagText (r : Reading) (handle : Option Text) (suffix : Text) : Except Fault Text :=
  match handle with
  | none => .ok suffix
  | some handle =>
    match Entries.get? r.handles handle with
    | some lead => .ok (lead ++ suffix)
    | none => .error .malformed

def readMarks (r : Reading) : Except Fault (Marks × Reading) :=
  match r.tokens with
  | .anchor name :: .tag handle suffix :: _ => do
    return (⟨some name, some (← r.tagText handle suffix)⟩, r.drop.drop)
  | .tag handle suffix :: .anchor name :: _ => do
    return (⟨some name, some (← r.tagText handle suffix)⟩, r.drop.drop)
  | .anchor name :: _ => .ok (⟨some name, none⟩, r.drop)
  | .tag handle suffix :: _ => do
    return (⟨none, some (← r.tagText handle suffix)⟩, r.drop)
  | _ => .ok (⟨none, none⟩, r)

/-- A tag that leaves the kind of a node to its content. -/
def Marks.isOpen (m : Marks) : Bool :=
  match m.tag with
  | none => true
  | some t => t.eqString "!"

def Marks.tagOr (m : Marks) (tag : Tag) : Tag :=
  match m.tag with
  | some t => if m.isOpen then tag else Tag.ofText t
  | none => tag

/-- The kind of a scalar.  An open tag makes any scalar a plain one. -/
def Marks.scalarTag (m : Marks) (t : Text) (plain : Bool) : Tag :=
  if m.tag.isSome || plain then m.tagOr (Tag.ofPlain t) else .text

/-- A new node, which has its name before its parts are read. -/
def addMarked (r : Reading) (m : Marks) (tag : Tag) (content : Content) :
    Except Fault (Nat × Reading) :=
  let (n, r) := r.add ⟨tag, content⟩
  match m.name with
  | none => .ok (n, r)
  | some name =>
    if Entries.has r.names name then .error .malformed
    else .ok (n, { r with names := (name, n) :: r.names })

mutual

/-- A node.  In a `block` block collections may begin; where it is `loose`, the items of a list may
stand at the column of the table around them. -/
def readNode (block loose : Bool) : Nat → Reading → Except Fault (Nat × Reading)
  | 0, _ => .error .malformed
  | fuel + 1, r =>
    match r.tokens with
    | .again name :: _ =>
      match Entries.get? r.names name with
      | some n => .ok (n, r.drop)
      | none => .error .malformed
    | _ => do
      let (m, r) ← r.readMarks
      let list (r : Reading) (read : Reading → Except Fault (List Nat × Reading)) :
          Except Fault (Nat × Reading) := do
        let (n, r) ← r.addMarked m (m.tagOr .list) (.list [])
        let (items, r) ← read r
        return (n, r.setContent n (.list items))
      let table (r : Reading) (read : Reading → Except Fault (List (Nat × Nat) × Reading)) :
          Except Fault (Nat × Reading) := do
        let (n, r) ← r.addMarked m (m.tagOr .table) (.table [])
        let (entries, r) ← read r
        return (n, r.setContent n (.table entries))
      match r.tokens with
      | .scalar t plain :: _ => r.drop.addMarked m (m.scalarTag t plain) (.scalar t)
      | .flowListStart :: _ => list r.drop (readFlowItems true fuel)
      | .flowTableStart :: _ => table r.drop (readFlowEntries true fuel)
      | token :: _ =>
        if loose && token = .item then list r (readLooseItems fuel)
        else if block && token = .blockListStart then list r.drop (readBlockItems fuel)
        else if block && token = .blockTableStart then table r.drop (readBlockEntries fuel)
        else if m.name.isSome || m.tag.isSome then
          r.addMarked m (m.scalarTag [] true) (.scalar [])
        else .error .malformed
      | [] =>
        if m.name.isSome || m.tag.isSome then r.addMarked m (m.scalarTag [] true) (.scalar [])
        else .error .malformed

/-- A node, unless one of the tokens comes before which none is written. -/
def readUnless (block loose : Bool) (ends : List Token) :
    Nat → Reading → Except Fault (Nat × Reading)
  | 0, _ => .error .malformed
  | fuel + 1, r => if r.atOne ends then .ok r.addEmpty else readNode block loose fuel r

/-- The items of a list, up to the end of its block. -/
def readBlockItems : Nat → Reading → Except Fault (List Nat × Reading)
  | 0, _ => .error .malformed
  | fuel + 1, r =>
    if r.atOne [.item] then do
      let (n, r) ← readUnless true false [.item, .blockEnd] fuel r.drop
      let (items, r) ← readBlockItems fuel r
      return (n :: items, r)
    else if r.atOne [.blockEnd] then .ok ([], r.drop)
    else .error .malformed

/-- The items of a list that is no block of its own. -/
def readLooseItems : Nat → Reading → Except Fault (List Nat × Reading)
  | 0, _ => .error .malformed
  | fuel + 1, r =>
    if r.atOne [.item] then do
      let (n, r) ← readUnless true false [.item, .key, .value, .blockEnd] fuel r.drop
      let (items, r) ← readLooseItems fuel r
      return (n :: items, r)
    else .ok ([], r)

/-- The value after a key, or nothing. -/
def readBlockValue : Nat → Reading → Except Fault (Nat × Reading)
  | 0, _ => .error .malformed
  | fuel + 1, r =>
    if r.atOne [.value] then readUnless true true [.key, .value, .blockEnd] fuel r.drop
    else .ok r.addEmpty

/-- The entries of a table, up to the end of its block. -/
def readBlockEntries : Nat → Reading → Except Fault (List (Nat × Nat) × Reading)
  | 0, _ => .error .malformed
  | fuel + 1, r =>
    if r.atOne [.key] then do
      let (k, r) ← readUnless true true [.key, .value, .blockEnd] fuel r.drop
      let (v, r) ← readBlockValue fuel r
      let (entries, r) ← readBlockEntries fuel r
      return ((k, v) :: entries, r)
    else if r.atOne [.blockEnd] then .ok ([], r.drop)
    else .error .malformed

/-- The value after a key of a flow collection, or nothing. -/
def readFlowValue (ends : List Token) : Nat → Reading → Except Fault (Nat × Reading)
  | 0, _ => .error .malformed
  | fuel + 1, r =>
    if r.atOne [.value] then readUnless false false ends fuel r.drop else .ok r.addEmpty

/-- The items of a list in brackets; an item with a key is a table of one entry. -/
def readFlowItems (first : Bool) : Nat → Reading → Except Fault (List Nat × Reading)
  | 0, _ => .error .malformed
  | fuel + 1, r =>
    if r.atOne [.flowListEnd] then .ok ([], r.drop)
    else if !first && !r.atOne [.comma] then .error .malformed
    else
      let r := if first then r else r.drop
      if r.atOne [.flowListEnd] then .ok ([], r.drop)
      else if r.atOne [.key] then do
        let (t, r) := r.drop.add ⟨.table, .table []⟩
        let (k, r) ← readUnless false false [.value, .comma, .flowListEnd] fuel r
        let (v, r) ← readFlowValue [.comma, .flowListEnd] fuel r
        let (items, r) ← readFlowItems false fuel (r.setContent t (.table [(k, v)]))
        return (t :: items, r)
      else do
        let (n, r) ← readNode false false fuel r
        let (items, r) ← readFlowItems false fuel r
        return (n :: items, r)

/-- The entries of a table in braces. -/
def readFlowEntries (first : Bool) : Nat → Reading → Except Fault (List (Nat × Nat) × Reading)
  | 0, _ => .error .malformed
  | fuel + 1, r =>
    if r.atOne [.flowTableEnd] then .ok ([], r.drop)
    else if !first && !r.atOne [.comma] then .error .malformed
    else
      let r := if first then r else r.drop
      if r.atOne [.flowTableEnd] then .ok ([], r.drop)
      else do
        let (k, v, r) ← (do
          if r.atOne [.key] then
            let (k, r) ← readUnless false false [.value, .comma, .flowTableEnd] fuel r.drop
            let (v, r) ← readFlowValue [.comma, .flowTableEnd] fuel r
            return (k, v, r)
          else
            let (k, r) ← readNode false false fuel r
            let (v, r) := r.addEmpty
            return (k, v, r) : Except Fault (Nat × Nat × Reading))
        let (entries, r) ← readFlowEntries false fuel r
        return ((k, v) :: entries, r)

end

/-- The directives before a document: the version of the format at most once, and each handle at
most once. -/
def readDirectives : List Token → Bool → Entries Text → Except Fault (Entries Text × List Token)
  | .directive d :: rest, versioned, handles =>
    match d with
    | .version major =>
      if versioned || major ≠ 1 then .error .malformed else readDirectives rest true handles
    | .handle name lead =>
      if Entries.has handles name then .error .malformed
      else readDirectives rest versioned ((name, lead) :: handles)
    | .other => readDirectives rest versioned handles
  | tokens, _, handles => .ok (handles ++ commonHandles, tokens)

def isDocumentEdge : Token → Bool
  | .directive _ | .documentStart | .documentEnd => true
  | _ => false

/-- The document of a stream that has one; after it nothing but marks of its end may come. -/
def readDocument (r : Reading) : Except Fault Graph := do
  let fuel := 4 * r.tokens.length + 8
  let (root, r) ← match r.tokens with
    | .directive _ :: _ | .documentStart :: _ => do
      let (handles, tokens) ← readDirectives r.tokens false []
      match tokens with
      | .documentStart :: tokens =>
        let r := { r with tokens, handles }
        let isEmpty := match tokens with
          | t :: _ => isDocumentEdge t
          | [] => true
        if isEmpty then pure r.addEmpty else readNode true false fuel r
      | _ => throw .malformed
    | _ => readNode true false fuel r
  if r.tokens.all (· = .documentEnd) then return ⟨r.nodes, root⟩ else throw .malformed

end Reading

/-- The nodes of a text, or `none` when it holds no document. -/
def Graph.ofText? (t : Text) : Except Fault (Option Graph) := do
  match ← Token.scan t with
  | [] => return none
  | tokens =>
    return some (← Reading.readDocument ⟨tokens, Reading.commonHandles, [], #[]⟩)

end VeiledGateway.Yaml
