/-
  The syntax that trees of scripts have: ESTree, as ECMAScript 2017 uses it.

  `syntaxTable` says for each kind of node which of its fields hold nodes, and of which kinds.  A
  tree is well formed when every node in it has the fields of its kind and holds nodes in no other
  field.  The table is wider than the language in some places, where expressions and patterns share
  a form: what is shown of all well-formed trees is shown of the trees of all scripts.
-/
import VeiledGateway.Proofs.Text.Entries
import VeiledGateway.Script.Rewrite

set_option autoImplicit false

namespace VeiledGateway.Script

/-! ## The table -/

/-- What a field of a node holds. -/
inductive Slot where
  | one (kinds : List String)
  | optional (kinds : List String)
  | many (kinds : List String)
  /-- A list in which nodes may be missing. -/
  | sparse (kinds : List String)
deriving DecidableEq

namespace Slot

/-- The kinds of the nodes in a field. -/
def kinds : Slot → List String
  | .one kinds => kinds
  | .optional kinds => kinds
  | .many kinds => kinds
  | .sparse kinds => kinds

/-- The field holds a list. -/
def isList : Slot → Bool
  | .one _ => false
  | .optional _ => false
  | .many _ => true
  | .sparse _ => true

end Slot

def expressionKinds : List String :=
  ["Identifier", "Literal", "ThisExpression", "ArrayExpression", "ObjectExpression",
    "FunctionExpression", "ArrowFunctionExpression", "ClassExpression", "TemplateLiteral",
    "TaggedTemplateExpression", "MemberExpression", "Super", "MetaProperty", "NewExpression",
    "CallExpression", "Import", "UpdateExpression", "AwaitExpression", "UnaryExpression",
    "BinaryExpression", "LogicalExpression", "ConditionalExpression", "YieldExpression",
    "AssignmentExpression", "SequenceExpression"]

/-- What binds names. -/
def patternKinds : List String :=
  ["Identifier", "ObjectPattern", "ArrayPattern", "AssignmentPattern", "RestElement"]

/-- What is assigned to. -/
def targetKinds : List String :=
  patternKinds ++ expressionKinds

def argumentKinds : List String :=
  "SpreadElement" :: expressionKinds

def statementKinds : List String :=
  ["ExpressionStatement", "BlockStatement", "EmptyStatement", "DebuggerStatement", "WithStatement",
    "ReturnStatement", "LabeledStatement", "BreakStatement", "ContinueStatement", "IfStatement",
    "SwitchStatement", "ThrowStatement", "TryStatement", "WhileStatement", "DoWhileStatement",
    "ForStatement", "ForInStatement", "ForOfStatement", "VariableDeclaration",
    "FunctionDeclaration", "ClassDeclaration"]

def moduleItemKinds : List String :=
  ["ImportDeclaration", "ExportNamedDeclaration", "ExportDefaultDeclaration",
    "ExportAllDeclaration"] ++ statementKinds

/-- The fields of the nodes of each kind that hold nodes. -/
def syntaxTable : List (String × List (String × Slot)) :=
  [("Program", [("body", .many moduleItemKinds)]),
    -- names and literals
    ("Identifier", []),
    ("Literal", []),
    ("TemplateElement", []),
    ("Super", []),
    ("Import", []),
    -- functions and classes
    ("FunctionDeclaration",
      [("id", .optional ["Identifier"]), ("params", .many patternKinds),
        ("body", .one ["BlockStatement"])]),
    ("FunctionExpression",
      [("id", .optional ["Identifier"]), ("params", .many patternKinds),
        ("body", .one ["BlockStatement"])]),
    ("ArrowFunctionExpression",
      [("params", .many patternKinds), ("body", .one ("BlockStatement" :: expressionKinds))]),
    ("ClassDeclaration",
      [("id", .optional ["Identifier"]), ("superClass", .optional expressionKinds),
        ("body", .one ["ClassBody"])]),
    ("ClassExpression",
      [("id", .optional ["Identifier"]), ("superClass", .optional expressionKinds),
        ("body", .one ["ClassBody"])]),
    ("ClassBody", [("body", .many ["MethodDefinition"])]),
    ("MethodDefinition",
      [("key", .one expressionKinds), ("value", .optional ["FunctionExpression"])]),
    -- statements
    ("ExpressionStatement", [("expression", .one expressionKinds)]),
    ("BlockStatement", [("body", .many statementKinds)]),
    ("EmptyStatement", []),
    ("DebuggerStatement", []),
    ("WithStatement", [("object", .one expressionKinds), ("body", .one statementKinds)]),
    ("ReturnStatement", [("argument", .optional expressionKinds)]),
    ("LabeledStatement", [("label", .one ["Identifier"]), ("body", .one statementKinds)]),
    ("BreakStatement", [("label", .optional ["Identifier"])]),
    ("ContinueStatement", [("label", .optional ["Identifier"])]),
    ("IfStatement",
      [("test", .one expressionKinds), ("consequent", .one statementKinds),
        ("alternate", .optional statementKinds)]),
    ("SwitchStatement",
      [("discriminant", .one expressionKinds), ("cases", .many ["SwitchCase"])]),
    ("SwitchCase", [("test", .optional expressionKinds), ("consequent", .many statementKinds)]),
    ("ThrowStatement", [("argument", .one expressionKinds)]),
    ("TryStatement",
      [("block", .one ["BlockStatement"]), ("handler", .optional ["CatchClause"]),
        ("finalizer", .optional ["BlockStatement"])]),
    ("CatchClause", [("param", .optional patternKinds), ("body", .one ["BlockStatement"])]),
    ("WhileStatement", [("test", .one expressionKinds), ("body", .one statementKinds)]),
    ("DoWhileStatement", [("body", .one statementKinds), ("test", .one expressionKinds)]),
    ("ForStatement",
      [("init", .optional ("VariableDeclaration" :: expressionKinds)),
        ("test", .optional expressionKinds), ("update", .optional expressionKinds),
        ("body", .one statementKinds)]),
    ("ForInStatement",
      [("left", .one ("VariableDeclaration" :: targetKinds)), ("right", .one expressionKinds),
        ("body", .one statementKinds)]),
    ("ForOfStatement",
      [("left", .one ("VariableDeclaration" :: targetKinds)), ("right", .one expressionKinds),
        ("body", .one statementKinds)]),
    ("VariableDeclaration", [("declarations", .many ["VariableDeclarator"])]),
    ("VariableDeclarator", [("id", .one patternKinds), ("init", .optional expressionKinds)]),
    -- expressions
    ("ThisExpression", []),
    ("ArrayExpression", [("elements", .sparse argumentKinds)]),
    ("ObjectExpression", [("properties", .many ["Property", "SpreadElement"])]),
    ("Property", [("key", .one expressionKinds), ("value", .one targetKinds)]),
    ("TemplateLiteral",
      [("quasis", .many ["TemplateElement"]), ("expressions", .many expressionKinds)]),
    ("TaggedTemplateExpression",
      [("tag", .one expressionKinds), ("quasi", .one ["TemplateLiteral"])]),
    ("MemberExpression", [("object", .one expressionKinds), ("property", .one expressionKinds)]),
    ("MetaProperty", [("meta", .one ["Identifier"]), ("property", .one ["Identifier"])]),
    ("NewExpression", [("callee", .one expressionKinds), ("arguments", .many argumentKinds)]),
    ("CallExpression", [("callee", .one expressionKinds), ("arguments", .many argumentKinds)]),
    ("SpreadElement", [("argument", .one expressionKinds)]),
    ("UpdateExpression", [("argument", .one expressionKinds)]),
    ("AwaitExpression", [("argument", .one expressionKinds)]),
    ("UnaryExpression", [("argument", .one expressionKinds)]),
    ("BinaryExpression", [("left", .one expressionKinds), ("right", .one expressionKinds)]),
    ("LogicalExpression", [("left", .one expressionKinds), ("right", .one expressionKinds)]),
    ("ConditionalExpression",
      [("test", .one expressionKinds), ("consequent", .one expressionKinds),
        ("alternate", .one expressionKinds)]),
    ("YieldExpression", [("argument", .optional expressionKinds)]),
    ("AssignmentExpression", [("left", .one targetKinds), ("right", .one expressionKinds)]),
    ("SequenceExpression", [("expressions", .many expressionKinds)]),
    -- patterns
    ("ObjectPattern", [("properties", .many ["Property", "RestElement"])]),
    ("ArrayPattern", [("elements", .sparse targetKinds)]),
    ("AssignmentPattern", [("left", .one targetKinds), ("right", .one expressionKinds)]),
    ("RestElement", [("argument", .one targetKinds)]),
    -- modules
    ("ImportDeclaration",
      [("specifiers",
          .many ["ImportSpecifier", "ImportDefaultSpecifier", "ImportNamespaceSpecifier"]),
        ("source", .one ["Literal"])]),
    ("ImportSpecifier", [("local", .one ["Identifier"]), ("imported", .one ["Identifier"])]),
    ("ImportDefaultSpecifier", [("local", .one ["Identifier"])]),
    ("ImportNamespaceSpecifier", [("local", .one ["Identifier"])]),
    ("ExportNamedDeclaration",
      [("declaration",
          .optional ["VariableDeclaration", "FunctionDeclaration", "ClassDeclaration"]),
        ("specifiers", .many ["ExportSpecifier"]), ("source", .optional ["Literal"])]),
    ("ExportSpecifier", [("exported", .one ["Identifier"]), ("local", .one ["Identifier"])]),
    ("ExportDefaultDeclaration",
      [("declaration",
          .one (["FunctionDeclaration", "ClassDeclaration"] ++ expressionKinds))]),
    ("ExportAllDeclaration", [("source", .one ["Literal"])])]

/-- The fields of a kind of nodes that hold nodes. -/
def slotsOf (kind : String) : List (String × Slot) :=
  (syntaxTable.lookup kind).getD []

/-- A slot of nodes of a kind, found by its field. -/
theorem slot_mem {kind known : String} (hkind : kind = known) {field : String} {slot : Slot}
    (h : (slotsOf known).lookup field = some slot) : (field, slot) ∈ slotsOf kind := by
  rw [hkind]
  obtain ⟨before, after, hslots, -⟩ := List.lookup_eq_some_iff.mp h
  rw [hslots]
  exact List.mem_append_right _ List.mem_cons_self

/-! ## Nodes -/

namespace Tree

def isNode (t : Tree) : Bool :=
  (t.get? "type").isSome

def isOfKinds (kinds : List String) (t : Tree) : Bool :=
  t.isNode && kinds.contains t.kind

def fields (t : Tree) : List (Text × Tree) :=
  t.object?.getD []

/-- Neither a node nor a list with a node in it. -/
def holdsNoNode : Tree → Bool
  | .list items => items.all fun item => !Tree.isNode item
  | t => !t.isNode

end Tree

/-- A node of one of the kinds, or nothing. -/
def Tree.isOfKindsOrNull (kinds : List String) (t : Tree) : Bool :=
  t matches .null || t.isOfKinds kinds

/-- What a field may hold. -/
def Slot.admits (slot : Slot) (value : Option Tree) : Bool :=
  match slot with
  | .one kinds => value.any (Tree.isOfKinds kinds)
  | .optional kinds => value.all (Tree.isOfKindsOrNull kinds)
  | .many kinds => value.any fun t => t.list?.any (·.all (Tree.isOfKinds kinds))
  | .sparse kinds => value.any fun t => t.list?.any (·.all (Tree.isOfKindsOrNull kinds))

/-- A name that stands by itself, or with a value for when it is missing. -/
def isShorthandValue (value : Tree) : Bool :=
  value.isKind "Identifier"
    || (value.isKind "AssignmentPattern" && (value.get? "left").any (Tree.isKind · "Identifier"))

/-- A node has the fields of its kind, each of them once. -/
structure Fits (t : Tree) : Prop where
  known : (syntaxTable.lookup t.kind).isSome
  once : (t.fields.map Prod.fst).Nodup
  filled : ∀ slot ∈ slotsOf t.kind, slot.2.admits (t.get? slot.1) = true
  bare : ∀ field ∈ t.fields,
    (∃ slot ∈ slotsOf t.kind, field.1 = Text.ofString slot.1) ∨ field.2.holdsNoNode = true
  /-- Names are not empty. -/
  named : t.kind = "Identifier" → t.name?.any (!·.isEmpty) = true
  ranged : t.kind = "Identifier" ∨ t.kind = "Literal" → (rangeOf t).isOk = true
  /-- A name that is the key and the value of a property at once is written, not calculated. -/
  shorthand : t.kind = "Property" → (part? t "shorthand").isSome = true →
    (part? t "computed").isNone = true ∧ (t.get? "value").any isShorthandValue = true
  directive : t.kind = "ExpressionStatement" → (part? t "directive").isSome = true →
    (t.get? "expression").any (Tree.isKind · "Literal") = true
  /-- What is not calculated is written as a name or a literal. -/
  written : t.kind ∈ ["MemberExpression", "Property", "MethodDefinition"] →
    (part? t "computed").isNone = true →
    (t.get? (if t.kind = "MemberExpression" then "property" else "key")).any
      (Tree.isOfKinds ["Identifier", "Literal"]) = true

/-! ## The children of a node -/

theorem mem_child {t : Tree} {field : String} {c : Child} :
    c ∈ child t field ↔ c.1 = (Text.ofString field, 0) ∧ t.get? field = some c.2 := by
  unfold child
  cases hvalue : t.get? field with
  | none => simp
  | some value =>
    obtain ⟨step, node⟩ := c
    simp [eq_comm]

theorem getElem?_items {t : Tree} {field : String} {i : Nat} {node : Tree} :
    (t.items field)[i]? = some node ↔
      ∃ items, t.get? field = some (.list items) ∧ items[i]? = some node := by
  unfold Tree.items
  constructor
  · intro h
    cases hvalue : t.get? field with
    | none => simp [hvalue] at h
    | some value =>
      rw [hvalue] at h
      cases value with
      | list items => exact ⟨items, rfl, h⟩
      | _ => simp [Json.list?] at h
  · rintro ⟨items, hitems, hnode⟩
    rw [hitems]
    exact hnode

theorem mem_listed {t : Tree} {field : String} {c : Child} :
    c ∈ listed t field ↔ c.1.1 = Text.ofString field ∧
      ∃ items, t.get? field = some (.list items) ∧ items[c.1.2]? = some c.2 := by
  obtain ⟨⟨name, i⟩, node⟩ := c
  rw [← getElem?_items]
  simp only [listed, List.mem_map, Prod.exists, List.mem_zipIdx_iff_getElem?, Prod.mk.injEq]
  constructor
  · rintro ⟨item, j, hitem, ⟨rfl, rfl⟩, rfl⟩
    exact ⟨rfl, hitem⟩
  · rintro ⟨rfl, hitem⟩
    exact ⟨node, i, hitem, ⟨rfl, rfl⟩, rfl⟩

theorem exists_mem_listed {t node : Tree} {field : String} (h : node ∈ t.items field) :
    ∃ c ∈ listed t field, c.2 = node := by
  obtain ⟨i, hi⟩ := List.mem_iff_getElem?.mp h
  exact ⟨((Text.ofString field, i), node), mem_listed.mpr ⟨rfl, getElem?_items.mp hi⟩, rfl⟩

/-- The nodes that the value of a field holds. -/
def held (field : Text) (value : Tree) : List Child :=
  match value with
  | .list items =>
    (items.zipIdx.filter fun item => Tree.isNode item.1).map fun item => ((field, item.2), item.1)
  | _ => if value.isNode then [((field, 0), value)] else []

theorem mem_held {field : Text} {value : Tree} {c : Child} :
    c ∈ held field value ↔ c.1.1 = field ∧ c.2.isNode = true ∧
      ((c.1.2 = 0 ∧ value = c.2) ∨ ∃ items, value = .list items ∧ items[c.1.2]? = some c.2) := by
  obtain ⟨⟨name, i⟩, node⟩ := c
  unfold held
  split
  · rename_i items
    simp only [List.mem_map, List.mem_filter, Prod.exists, List.mem_zipIdx_iff_getElem?,
      Prod.mk.injEq, Json.list.injEq, exists_eq_left']
    constructor
    · rintro ⟨item, j, ⟨hitem, hnode⟩, ⟨rfl, rfl⟩, rfl⟩
      exact ⟨rfl, hnode, .inr hitem⟩
    · rintro ⟨rfl, hnode, ⟨-, rfl⟩ | hitem⟩
      · cases hnode
      · exact ⟨node, i, ⟨hitem, hnode⟩, ⟨rfl, rfl⟩, rfl⟩
  · rename_i hlist
    by_cases hnode : value.isNode = true
    · simp only [hnode, if_true, List.mem_singleton, Prod.mk.injEq]
      constructor
      · rintro ⟨⟨rfl, rfl⟩, rfl⟩
        exact ⟨rfl, hnode, .inl ⟨rfl, rfl⟩⟩
      · rintro ⟨rfl, -, ⟨rfl, rfl⟩ | ⟨items, rfl, -⟩⟩
        · exact ⟨⟨rfl, rfl⟩, rfl⟩
        · exact absurd rfl (hlist items)
    · simp only [hnode, Bool.false_eq_true, if_false, List.not_mem_nil, false_iff, not_and, not_or]
      rintro rfl hnode'
      constructor
      · rintro - rfl
        exact hnode hnode'
      · rintro ⟨items, rfl, -⟩
        exact hlist items rfl

theorem children_eq (t : Tree) :
    children t = t.fields.flatMap fun field =>
      if Text.eqString field.1 "range" || Text.eqString field.1 "loc" then []
      else held field.1 field.2 := by
  unfold children Tree.fields
  cases t <;> rfl

/-- The children of a node are the nodes that its fields hold. -/
theorem mem_children {t : Tree} {c : Child} :
    c ∈ children t ↔ c.1.1 ≠ Text.ofString "range" ∧ c.1.1 ≠ Text.ofString "loc" ∧
      ∃ value, (c.1.1, value) ∈ t.fields ∧ c ∈ held c.1.1 value := by
  rw [children_eq, List.mem_flatMap]
  constructor
  · rintro ⟨⟨field, value⟩, hfield, hc⟩
    split at hc
    · cases hc
    · rename_i hskip
      obtain rfl := (mem_held.mp hc).1
      simp only [Text.eqString, Bool.or_eq_true, beq_iff_eq, not_or] at hskip
      exact ⟨hskip.1, hskip.2, value, hfield, hc⟩
  · rintro ⟨hrange, hloc, value, hfield, hc⟩
    refine ⟨(c.1.1, value), hfield, ?_⟩
    rw [if_neg]
    · exact hc
    · simp only [Text.eqString, Bool.or_eq_true, beq_iff_eq, not_or]
      exact ⟨hrange, hloc⟩

theorem get?_eq_lookup (t : Tree) (field : String) :
    t.get? field = t.fields.lookup (Text.ofString field) := by
  cases t <;> rfl

theorem mem_fields_of_get? {t value : Tree} {field : String} (h : t.get? field = some value) :
    (Text.ofString field, value) ∈ t.fields := by
  rw [get?_eq_lookup, List.lookup_eq_some_iff] at h
  obtain ⟨before, after, hfields, -⟩ := h
  rw [hfields]
  exact List.mem_append_right _ List.mem_cons_self

theorem held_of_holdsNoNode {field : Text} {value : Tree} (h : value.holdsNoNode = true) :
    held field value = [] := by
  refine List.eq_nil_iff_forall_not_mem.mpr fun c hc => ?_
  obtain ⟨-, hnode, ⟨-, rfl⟩ | ⟨items, rfl, hitem⟩⟩ := mem_held.mp hc
  · unfold Tree.holdsNoNode at h
    split at h
    · rename_i hlist
      rw [hlist] at hnode
      exact absurd hnode Bool.false_ne_true
    · rw [hnode] at h
      cases h
  · have hplain := List.all_eq_true.mp h c.2 (List.mem_of_getElem? hitem)
    rw [hnode] at hplain
    cases hplain

theorem null_or_isOfKinds {kinds : List String} {t : Tree} (h : t.isOfKindsOrNull kinds = true) :
    t = .null ∨ t.isOfKinds kinds = true := by
  cases t with
  | null => exact .inl rfl
  | _ => exact .inr (by simpa [Tree.isOfKindsOrNull] using h)

theorem isOfKinds_of_orNull {kinds : List String} {t : Tree} (hnode : t.isNode = true)
    (h : t.isOfKindsOrNull kinds = true) : t.isOfKinds kinds = true := by
  obtain rfl | hkinds := null_or_isOfKinds h
  · exact absurd hnode Bool.false_ne_true
  · exact hkinds

theorem list?_of_isNode {t : Tree} (h : t.isNode = true) : t.list? = none := by
  cases t with
  | list items => exact absurd h Bool.false_ne_true
  | _ => rfl

theorem isOfKinds_list (kinds : List String) (items : List Tree) :
    Tree.isOfKinds kinds (.list items) = false :=
  rfl

/-- The nodes in a field are of the kinds that belong there, and stand in a list where one does. -/
theorem isOfKinds_of_admits {slot : Slot} {field : Text} {value : Tree} {c : Child}
    (h : slot.admits (some value) = true) (hc : c ∈ held field value) :
    c.2.isOfKinds slot.kinds = true ∧
      ((slot.isList = false ∧ c.1.2 = 0 ∧ value = c.2) ∨
        (slot.isList = true ∧ ∃ items, value = .list items ∧ items[c.1.2]? = some c.2)) := by
  obtain ⟨-, hnode, ⟨hstep, rfl⟩ | ⟨items, rfl, hitem⟩⟩ := mem_held.mp hc
  · have hlist := list?_of_isNode hnode
    cases slot with
    | one kinds => exact ⟨h, .inl ⟨rfl, hstep, rfl⟩⟩
    | optional kinds => exact ⟨isOfKinds_of_orNull hnode h, .inl ⟨rfl, hstep, rfl⟩⟩
    | many kinds => simp [Slot.admits, hlist] at h
    | sparse kinds => simp [Slot.admits, hlist] at h
  · have hmem := List.mem_of_getElem? hitem
    cases slot with
    | one kinds => simp [Slot.admits, isOfKinds_list] at h
    | optional kinds => simp [Slot.admits, Tree.isOfKindsOrNull, isOfKinds_list] at h
    | many kinds => exact ⟨List.all_eq_true.mp h c.2 hmem, .inr ⟨rfl, items, rfl, hitem⟩⟩
    | sparse kinds =>
      have hitems := List.all_eq_true.mp h c.2 hmem
      exact ⟨isOfKinds_of_orNull hnode hitems, .inr ⟨rfl, items, rfl, hitem⟩⟩

/-- The children that a slot holds. -/
def slotChildren (t : Tree) (slot : String × Slot) : List Child :=
  if slot.2.isList then listed t slot.1 else child t slot.1

/-- The step to a child goes through the field of the slot that holds it. -/
theorem step_of_mem_slotChildren {t : Tree} {slot : String × Slot} {c : Child}
    (hc : c ∈ slotChildren t slot) : c.1.1 = Text.ofString slot.1 := by
  unfold slotChildren at hc
  split at hc
  · exact (mem_listed.mp hc).1
  · exact congrArg Prod.fst (mem_child.mp hc).1

/-- A slot of a kind stands in the table. -/
theorem exists_entry_of_slot {kind : String} {slot : String × Slot} (h : slot ∈ slotsOf kind) :
    ∃ slots, (kind, slots) ∈ syntaxTable ∧ slot ∈ slots := by
  unfold slotsOf at h
  cases hentry : syntaxTable.lookup kind with
  | none => simp [hentry] at h
  | some slots =>
    rw [hentry] at h
    obtain ⟨before, after, hfields, -⟩ := List.lookup_eq_some_iff.mp hentry
    refine ⟨slots, ?_, h⟩
    rw [hfields]
    exact List.mem_append_right _ List.mem_cons_self

/-- Slots are none of the fields that hold places in the text, and no slot is for programs. -/
theorem slots_not_skipped {kind : String} {slot : String × Slot} (h : slot ∈ slotsOf kind) :
    Text.ofString slot.1 ≠ Text.ofString "range" ∧ Text.ofString slot.1 ≠ Text.ofString "loc" ∧
      "Program" ∉ slot.2.kinds := by
  have htable : ∀ entry ∈ syntaxTable, ∀ slot ∈ entry.2,
      Text.ofString slot.1 ≠ Text.ofString "range" ∧ Text.ofString slot.1 ≠ Text.ofString "loc" ∧
        "Program" ∉ slot.2.kinds := by
    decide
  obtain ⟨slots, hentry, hslot⟩ := exists_entry_of_slot h
  exact htable (kind, slots) hentry slot hslot

theorem lookup_of_mem {fields : Entries Tree} (hsingle : fields.Single) {name : Text} {value : Tree}
    (h : (name, value) ∈ fields) : fields.lookup name = some value := by
  induction fields with
  | nil => cases h
  | cons field rest ih =>
    obtain ⟨hnew, hrest⟩ := List.nodup_cons.mp hsingle
    obtain rfl | htail := List.mem_cons.mp h
    · exact List.lookup_cons_self
    · have hne : (name == field.1) = false := by
        refine beq_eq_false_iff_ne.mpr fun heq => hnew ?_
        rw [← heq]
        exact List.mem_map_of_mem htail
      rw [List.lookup_cons, hne]
      exact ih hrest htail

namespace Fits

variable {t : Tree} (h : Fits t)
include h

theorem get?_of_mem {field : String} {value : Tree}
    (hvalue : (Text.ofString field, value) ∈ t.fields) : t.get? field = some value := by
  rw [get?_eq_lookup]
  exact lookup_of_mem h.once hvalue

/-- The children of a node that fits stand where its kind has nodes. -/
theorem mem_children_iff {c : Child} :
    c ∈ children t ↔ ∃ slot ∈ slotsOf t.kind, c.2.isOfKinds slot.2.kinds = true ∧
      c ∈ slotChildren t slot := by
  constructor
  · intro hc
    obtain ⟨-, -, value, hfield, hheld⟩ := mem_children.mp hc
    obtain ⟨slot, hslot, hname⟩ | hplain := h.bare _ hfield
    · change c.1.1 = _ at hname
      rw [hname] at hfield
      have hvalue := h.get?_of_mem hfield
      have hadmits := h.filled slot hslot
      rw [hvalue] at hadmits
      obtain ⟨hkinds, ⟨hone, hstep, rfl⟩ | ⟨hlist, items, rfl, hitem⟩⟩ :=
        isOfKinds_of_admits hadmits hheld
      · refine ⟨slot, hslot, hkinds, ?_⟩
        rw [slotChildren, hone]
        exact mem_child.mpr ⟨Prod.ext hname hstep, hvalue⟩
      · refine ⟨slot, hslot, hkinds, ?_⟩
        rw [slotChildren, hlist]
        exact mem_listed.mpr ⟨hname, items, hvalue, hitem⟩
    · rw [held_of_holdsNoNode hplain] at hheld
      cases hheld
  · rintro ⟨slot, hslot, hkinds, hc⟩
    have hnode : c.2.isNode = true := (Bool.and_eq_true_iff.mp hkinds).1
    obtain ⟨hrange, hloc, -⟩ := slots_not_skipped hslot
    unfold slotChildren at hc
    split at hc
    · obtain ⟨hname, items, hvalue, hitem⟩ := mem_listed.mp hc
      refine mem_children.mpr ⟨hname ▸ hrange, hname ▸ hloc, .list items, ?_, ?_⟩
      · rw [hname]
        exact mem_fields_of_get? hvalue
      · exact mem_held.mpr ⟨rfl, hnode, .inr ⟨items, rfl, hitem⟩⟩
    · obtain ⟨hstep, hvalue⟩ := mem_child.mp hc
      have hname : c.1.1 = Text.ofString slot.1 := congrArg Prod.fst hstep
      refine mem_children.mpr ⟨hname ▸ hrange, hname ▸ hloc, c.2, ?_, ?_⟩
      · rw [hname]
        exact mem_fields_of_get? hvalue
      · exact mem_held.mpr ⟨rfl, hnode, .inl ⟨congrArg Prod.snd hstep, rfl⟩⟩

/-- A field that must hold a node holds one. -/
theorem exists_of_one {field : String} {kinds : List String}
    (hslot : (field, Slot.one kinds) ∈ slotsOf t.kind) :
    ∃ node, t.get? field = some node ∧ Tree.isOfKinds kinds node = true := by
  have hadmits : (t.get? field).any (Tree.isOfKinds kinds) = true := h.filled _ hslot
  cases hvalue : t.get? field with
  | none => simp [hvalue] at hadmits
  | some node => exact ⟨node, rfl, by simpa [hvalue] using hadmits⟩

theorem of_child_one {field : String} {kinds : List String} {c : Child}
    (hslot : (field, Slot.one kinds) ∈ slotsOf t.kind) (hc : c ∈ child t field) :
    c.2.isOfKinds kinds = true ∧ c ∈ children t := by
  have hadmits := h.filled _ hslot
  rw [(mem_child.mp hc).2] at hadmits
  exact ⟨hadmits, h.mem_children_iff.mpr ⟨_, hslot, hadmits, hc⟩⟩

theorem of_child_optional {field : String} {kinds : List String} {c : Child}
    (hslot : (field, Slot.optional kinds) ∈ slotsOf t.kind) (hc : c ∈ child t field) :
    c.2 = .null ∨ (c.2.isOfKinds kinds = true ∧ c ∈ children t) := by
  have hadmits := h.filled _ hslot
  rw [(mem_child.mp hc).2] at hadmits
  refine (null_or_isOfKinds hadmits).imp_right fun hkinds => ⟨hkinds, ?_⟩
  exact h.mem_children_iff.mpr ⟨_, hslot, hkinds, hc⟩

theorem of_listed_many {field : String} {kinds : List String} {c : Child}
    (hslot : (field, Slot.many kinds) ∈ slotsOf t.kind) (hc : c ∈ listed t field) :
    c.2.isOfKinds kinds = true ∧ c ∈ children t := by
  obtain ⟨-, items, hvalue, hitem⟩ := mem_listed.mp hc
  have hadmits := h.filled _ hslot
  rw [hvalue] at hadmits
  have hkinds := List.all_eq_true.mp hadmits c.2 (List.mem_of_getElem? hitem)
  exact ⟨hkinds, h.mem_children_iff.mpr ⟨_, hslot, hkinds, hc⟩⟩

theorem of_listed_sparse {field : String} {kinds : List String} {c : Child}
    (hslot : (field, Slot.sparse kinds) ∈ slotsOf t.kind) (hc : c ∈ listed t field) :
    c.2 = .null ∨ (c.2.isOfKinds kinds = true ∧ c ∈ children t) := by
  obtain ⟨-, items, hvalue, hitem⟩ := mem_listed.mp hc
  have hadmits := h.filled _ hslot
  rw [hvalue] at hadmits
  have hitems := List.all_eq_true.mp hadmits c.2 (List.mem_of_getElem? hitem)
  refine (null_or_isOfKinds hitems).imp_right fun hkinds => ⟨hkinds, ?_⟩
  exact h.mem_children_iff.mpr ⟨_, hslot, hkinds, hc⟩

end Fits

/-! ## What a node shows -/

theorem kind_of_isOfKinds {kinds : List String} {t : Tree} (h : t.isOfKinds kinds = true) :
    t.kind ∈ kinds :=
  List.contains_iff_mem.mp (Bool.and_eq_true_iff.mp h).2

theorem isNode_of_kind {t : Tree} (h : t.kind ≠ "") : t.isNode = true := by
  unfold Tree.kind at h
  unfold Tree.isNode
  cases htype : t.get? "type" with
  | none => simp [htype] at h
  | some value => rfl

theorem isTruthy_of_isNode {t : Tree} (h : t.isNode = true) : t.isTruthy = true := by
  cases t with
  | object fields =>
    cases fields with
    | nil => exact absurd h Bool.false_ne_true
    | cons field rest => rfl
  | _ => exact absurd h Bool.false_ne_true

theorem ne_null_of_isNode {t : Tree} (h : t.isNode = true) : t ≠ .null := by
  rintro rfl
  exact absurd h Bool.false_ne_true

theorem kind_eq_of_isOfKinds {kind : String} {t : Tree} (h : t.isOfKinds [kind] = true) :
    t.kind = kind :=
  List.mem_singleton.mp (kind_of_isOfKinds h)

theorem Fits.kind_ne {t : Tree} (h : Fits t) : t.kind ≠ "" := by
  intro hkind
  have hknown := h.known
  rw [hkind] at hknown
  exact absurd hknown (by decide)

theorem Fits.isNode {t : Tree} (h : Fits t) : t.isNode = true :=
  isNode_of_kind h.kind_ne

theorem Fits.isTruthy {t : Tree} (h : Fits t) : t.isTruthy = true :=
  isTruthy_of_isNode h.isNode

theorem Fits.exists_name {t : Tree} (h : Fits t) (hkind : t.kind = "Identifier") :
    ∃ name, name ≠ [] ∧ t.name? = some name ∧ nameOf t = .ok name := by
  have hnamed := h.named hkind
  cases hname : t.name? with
  | none => simp [hname] at hnamed
  | some name =>
    refine ⟨name, ?_, rfl, ?_⟩
    · rintro rfl
      simp [hname] at hnamed
    · unfold Tree.name? at hname
      unfold nameOf
      cases hvalue : t.get? "name" with
      | none => simp [hvalue] at hname
      | some value =>
        rw [hvalue] at hname
        cases value with
        | text other =>
          cases hname
          rfl
        | _ => simp [Json.text?] at hname

instance (t : Tree) : Decidable (Fits t) :=
  decidable_of_iff
    ((syntaxTable.lookup t.kind).isSome = true ∧ (t.fields.map Prod.fst).Nodup ∧
      (∀ slot ∈ slotsOf t.kind, slot.2.admits (t.get? slot.1) = true) ∧
      (∀ field ∈ t.fields,
        (∃ slot ∈ slotsOf t.kind, field.1 = Text.ofString slot.1) ∨
          field.2.holdsNoNode = true) ∧
      (t.kind = "Identifier" → t.name?.any (!·.isEmpty) = true) ∧
      (t.kind = "Identifier" ∨ t.kind = "Literal" → (rangeOf t).isOk = true) ∧
      (t.kind = "Property" → (part? t "shorthand").isSome = true →
        (part? t "computed").isNone = true ∧ (t.get? "value").any isShorthandValue = true) ∧
      (t.kind = "ExpressionStatement" → (part? t "directive").isSome = true →
        (t.get? "expression").any (Tree.isKind · "Literal") = true) ∧
      (t.kind ∈ ["MemberExpression", "Property", "MethodDefinition"] →
        (part? t "computed").isNone = true →
        (t.get? (if t.kind = "MemberExpression" then "property" else "key")).any
          (Tree.isOfKinds ["Identifier", "Literal"]) = true))
    ⟨fun ⟨a, b, c, d, e, f, g, h, i⟩ => ⟨a, b, c, d, e, f, g, h, i⟩,
      fun ⟨a, b, c, d, e, f, g, h, i⟩ => ⟨a, b, c, d, e, f, g, h, i⟩⟩

/-! ## Well-formed trees -/

/-- Every node of a tree fits. -/
inductive WellFormed : Tree → Prop
  | intro {t : Tree} (fits : Fits t) (inside : ∀ c ∈ children t, WellFormed c.2) : WellFormed t

namespace WellFormed

variable {t : Tree} (h : WellFormed t)
include h

theorem fits : Fits t := by
  cases h with
  | intro fits _ => exact fits

theorem inside {c : Child} (hc : c ∈ children t) : WellFormed c.2 := by
  cases h with
  | intro _ inside => exact inside c hc

/-- The node in a field that must hold one. -/
theorem one (field : String) {kinds : List String}
    (hslot : (field, Slot.one kinds) ∈ slotsOf t.kind) :
    ∃ node, t.get? field = some node ∧ Tree.isOfKinds kinds node = true ∧ WellFormed node := by
  obtain ⟨node, hvalue, hkinds⟩ := h.fits.exists_of_one hslot
  have hchild : ((Text.ofString field, 0), node) ∈ child t field := mem_child.mpr ⟨rfl, hvalue⟩
  exact ⟨node, hvalue, hkinds, h.inside (h.fits.of_child_one hslot hchild).2⟩

/-- The node in a field that may hold one. -/
theorem optional {field : String} {kinds : List String} {node : Tree}
    (hslot : (field, Slot.optional kinds) ∈ slotsOf t.kind) (hnode : part? t field = some node) :
    node.isOfKinds kinds = true ∧ WellFormed node := by
  obtain ⟨hvalue, htruthy⟩ := Option.filter_eq_some_iff.mp hnode
  have hchild : ((Text.ofString field, 0), node) ∈ child t field := mem_child.mpr ⟨rfl, hvalue⟩
  obtain rfl | ⟨hkinds, hc⟩ := h.fits.of_child_optional hslot hchild
  · exact absurd htruthy Bool.false_ne_true
  · exact ⟨hkinds, h.inside hc⟩

/-- The nodes in a field that is a list. -/
theorem item {field : String} {kinds : List String} {node : Tree}
    (hslot : (field, Slot.many kinds) ∈ slotsOf t.kind) (hnode : node ∈ t.items field) :
    node.isOfKinds kinds = true ∧ WellFormed node := by
  obtain ⟨c, hc, rfl⟩ := exists_mem_listed hnode
  obtain ⟨hkinds, hc⟩ := h.fits.of_listed_many hslot hc
  exact ⟨hkinds, h.inside hc⟩

theorem sparseItem {field : String} {kinds : List String} {node : Tree}
    (hslot : (field, Slot.sparse kinds) ∈ slotsOf t.kind) (hnode : node ∈ t.items field) :
    node = .null ∨ (node.isOfKinds kinds = true ∧ WellFormed node) := by
  obtain ⟨c, hc, rfl⟩ := exists_mem_listed hnode
  refine (h.fits.of_listed_sparse hslot hc).imp_right fun ⟨hkinds, hc⟩ => ?_
  exact ⟨hkinds, h.inside hc⟩

end WellFormed

/-- The tree of a whole script. -/
structure IsProgram (t : Tree) : Prop where
  wellFormed : WellFormed t
  kind : t.kind = "Program"

/-- Look whether every node fits, so many levels deep. -/
def fitsWithin : Nat → Tree → Bool
  | 0, _ => false
  | fuel + 1, t => decide (Fits t) && (children t).all fun c => fitsWithin fuel c.2

theorem wellFormed_of_fitsWithin {fuel : Nat} {t : Tree} (h : fitsWithin fuel t = true) :
    WellFormed t := by
  induction fuel generalizing t with
  | zero => cases h
  | succ fuel ih =>
    obtain ⟨hfits, hinside⟩ := Bool.and_eq_true_iff.mp h
    exact .intro (of_decide_eq_true hfits) fun c hc => ih (List.all_eq_true.mp hinside c hc)

/-- An identifier of a source. -/
def nameAt (name : Text) (start stop : Nat) : Tree :=
  Tree.mk "Identifier" start stop [("name", some (.text name))]

end VeiledGateway.Script
