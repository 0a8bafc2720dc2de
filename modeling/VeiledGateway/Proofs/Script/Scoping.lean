/-
  The scoping rules of the language.

  A name refers to the declaration that the language finds for it: the innermost one that can be seen
  from where the name stands.  The rules here are those of the language and not those by which the
  names of a script are gathered.  Scopes are told by the nodes to which they belong, so that the
  scopes which the language opens for the parameters, the body and the own name of one function count
  as one.  Scripts that change scopes while they run are left out.

  Classic scripts may, and hosts with web pages do, let a function that is declared in a block be
  seen in the whole function around it; `hoists` says for which functions that is so.
-/
import VeiledGateway.Proofs.Script.Gathering

set_option autoImplicit false

namespace VeiledGateway.Script

/-! ## Where declarations belong -/

/-- Variables belong to functions and to the script. -/
def isVariableScope (kind : String) : Bool :=
  functionKinds.contains kind || kind == "Program"

/-- The innermost node of some kind around a place. -/
def around (isScope : String → Bool) (outer : List Outer) : Option Path :=
  (outer.find? fun o => !o.namesFunction && isScope o.node.kind).map Outer.path

/-- Where the declaration of a function stands. -/
inductive Standing where
  /-- At the top of a script or of the body of a function. -/
  | top
  /-- Among the statements of a block or of a switch. -/
  | block
  /-- In place of a statement, as if in a block of its own. -/
  | alone
deriving DecidableEq

def standingOf : List Outer → Standing
  | [] => .top
  | o :: outer =>
    match o.node.kind with
    | "Program" => .top
    | "BlockStatement" =>
      if outer.head?.any fun o => functionKinds.contains o.node.kind then .top else .block
    | "SwitchCase" => .block
    | "LabeledStatement" => standingOf outer
    | "ExportNamedDeclaration" => standingOf outer
    | "ExportDefaultDeclaration" => standingOf outer
    | _ => .alone

/-- The nodes to whose scopes a declaration at a place belongs, its own scope first. -/
def Place.homes (hoists : Place → Bool) (r : Place) : Form → List Path
  | .parameter => [r.path]
  | .ownName => [r.path]
  | .caught => [r.path]
  | .variable => (around isVariableScope r.outer).toList
  | .lexical => (around isScopeKind r.outer).toList
  | .imported => (around isScopeKind r.outer).toList
  | .function =>
    let whole := (around isVariableScope r.outer).toList
    match standingOf r.outer with
    | .top => whole
    | .block => (around isScopeKind r.outer).toList ++ if hoists r then whole else []
    | .alone => r.path :: if hoists r then whole else []

/-! ## What can be seen -/

/-- The step leads to what is calculated before the body of a node is entered. -/
def Outer.isEarly (o : Outer) : Bool :=
  (functionKinds.contains o.node.kind && Text.eqString o.step.1 "params")
    || (o.node.isKind "SwitchStatement" && Text.eqString o.step.1 "discriminant")

/-- What belongs to the scope of a node around a name, and is declared at `r`, can be seen from where
the name stands.  From the parameters of a function only the parameters and its own name are. -/
def Outer.sees (o : Outer) (r : Place) : Bool :=
  !o.namesFunction && (!o.isEarly || decide (r.path = o.path))

/-- Functions other than arrows have a name for the list of their arguments. -/
def Outer.impliesArguments (o : Outer) (name : Text) : Bool :=
  !o.namesFunction && ["FunctionDeclaration", "FunctionExpression"].contains o.node.kind
    && name == ("arguments" : Text)

/-- A node around a name has a scope in which the name is bound and can be seen. -/
def Outer.Binds (hoists : Place → Bool) (t : Tree) (name : Text) (o : Outer) : Prop :=
  o.impliesArguments name = true ∨
    ∃ r ∈ places t, ∃ d ∈ declaredBy r.node,
      d.2 = name ∧ o.path ∈ r.homes hoists d.1 ∧ o.sees r = true

instance (hoists : Place → Bool) (t : Tree) (name : Text) (o : Outer) :
    Decidable (o.Binds hoists t name) :=
  inferInstanceAs (Decidable (_ ∨ _))

/-! ## What a name belongs to -/

/-- The step leads to a part of a pattern that is a pattern itself. -/
def Outer.isPattern (o : Outer) : Bool :=
  match o.node.kind with
  | "ObjectPattern" => true
  | "ArrayPattern" => true
  | "RestElement" => true
  | "Property" => Text.eqString o.step.1 "value"
  | "AssignmentPattern" => Text.eqString o.step.1 "left"
  | _ => false

/-- The declaration, with its form, of which a pattern with these nodes around it is a part, if it is
part of one. -/
def declarationOf : List Outer → Option (Place × Form)
  | [] => none
  | o :: outer =>
    let here : Place := ⟨o.path, o.node, outer⟩
    if o.isPattern then declarationOf outer
    else if Text.eqString o.step.1 "id" then
      match o.node.kind with
      | "FunctionDeclaration" => some (here, .function)
      | "FunctionExpression" => some (here, .ownName)
      | "ClassDeclaration" => some (here, .lexical)
      | "ClassExpression" => some (here, .ownName)
      | "VariableDeclarator" =>
        match outer with
        | [] => none
        | o :: outer => some (⟨o.path, o.node, outer⟩, if isVar o.node then .variable else .lexical)
      | _ => none
    else if functionKinds.contains o.node.kind && Text.eqString o.step.1 "params" then
      some (here, .parameter)
    else if o.node.isKind "CatchClause" && Text.eqString o.step.1 "param" then some (here, .caught)
    else if Text.eqString o.step.1 "local" then
      match outer with
      | [] => none
      | o :: outer =>
        if o.node.isKind "ImportDeclaration" then some (⟨o.path, o.node, outer⟩, .imported) else none
    else none

/-- The language finds the declaration of a name in the scope of a node around it.  A name that is
declared where it stands belongs to its own declaration. -/
def Place.FoundIn (hoists : Place → Bool) (t : Tree) (p : Place) (name : Text) (o : Outer) : Prop :=
  match declarationOf p.outer with
  | some (r, form) => (r.homes hoists form).head? = some o.path
  | none => o.Binds hoists t name

instance (hoists : Place → Bool) (t : Tree) (p : Place) (name : Text) (o : Outer) :
    Decidable (p.FoundIn hoists t name o) := by
  unfold Place.FoundIn
  split <;> infer_instance

/-- The node to whose scope the declaration of a name belongs, if it has one. -/
def Place.owner (hoists : Place → Bool) (t : Tree) (p : Place) (name : Text) : Option Path :=
  (p.outer.find? fun o => decide (p.FoundIn hoists t name o)).map Outer.path

end VeiledGateway.Script
