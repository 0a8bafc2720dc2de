/-
  The grammar of scripts, ECMAScript 2017 with rest and spread properties and dynamic imports.

  Each construct is a reader over the readers of the constructs inside it, which `Grammar` holds;
  `grammar n` ties the knot `n` levels deep, and `program` takes as many levels as the text can
  use.  An expression that turns out to be a pattern is turned into one by `toPattern`.
-/
import VeiledGateway.Script.State

set_option autoImplicit false

namespace VeiledGateway.Script

open Parse

/-- The kinds of declarations that bind the names of a pattern; parameters are of no kind. -/
inductive Declarator where
  | parameter
  | variable
  | lexical (isConst : Bool)
deriving DecidableEq

/-- The readers of the constructs that stand inside others. -/
structure Grammar where
  validPattern : Text → Text → Bool
  assignment : Parse Tree
  unary : Parse Tree
  exponentiation : Parse Tree
  leftHandSide : Parse Tree
  callee : Parse Tree
  statement : Parse Tree
  listItem : Parse Tree
  pattern : Declarator → Parse (Tree × List Lexeme)

/-! ## Patterns -/

def arrowParameters : String := "ArrowParameterPlaceHolder"

/-- A place holder for the parameters of an arrow function whose arrow comes next. -/
def placeHolder (params : List Tree) (isAsync : Bool) : Tree :=
  .object [("type", .text arrowParameters), ("params", .list params), ("async", .bool isAsync)]

mutual

/-- The pattern that an expression writes when it is assigned to. -/
def toPattern : Nat → Tree → Tree
  | 0, t => t
  | fuel + 1, t =>
    match t.kind with
    | "SpreadElement" =>
      let t := t.setKind "RestElement"
      match t.field? "argument" with
      | some a => t.setField "argument" (toPattern fuel a)
      | none => t
    | "ArrayExpression" =>
      (t.setKind "ArrayPattern").setField "elements" (.list (toPatterns fuel (t.items "elements")))
    | "ObjectExpression" =>
      (t.setKind "ObjectPattern").setField "properties"
        (.list (toProperties fuel (t.items "properties")))
    | "AssignmentExpression" =>
      let t := (t.setKind "AssignmentPattern").eraseField "operator"
      match t.field? "left" with
      | some l => t.setField "left" (toPattern fuel l)
      | none => t
    | _ => t

def toPatterns : Nat → List Tree → List Tree
  | _, [] => []
  | 0, ts => ts
  | fuel + 1, t :: ts => toPattern fuel t :: toPatterns fuel ts

def toProperties : Nat → List Tree → List Tree
  | _, [] => []
  | 0, ts => ts
  | fuel + 1, t :: ts =>
    (if t.isKind "SpreadElement" then toPattern fuel t
     else
      match t.field? "value" with
      | some v => t.setField "value" (toPattern fuel v)
      | none => t) :: toProperties fuel ts

end

/-- The pattern of an expression of the script that is being read. -/
def asPattern (t : Tree) : Parse Tree := do
  return toPattern (4 * ((← get).cursor.index + 2)) t

/-! ## Names -/

def isName (lexeme : Lexeme) : Bool :=
  lexeme.kind = .identifier || lexeme.kind = .keyword || lexeme.kind = .boolean
    || lexeme.kind = .null

def identifier (start : Nat) (name : Text) : Parse Tree :=
  finish start "Identifier" [("name", some (.text name))]

/-- Any name, reserved or not. -/
def anyName : Parse Tree := do
  let start ← here
  let lexeme ← next
  unless isName lexeme do unexpected lexeme
  identifier start lexeme.value

/-- A name that can be bound. -/
def bindingName (declarator : Declarator) : Parse Tree := do
  let start ← here
  let lexeme ← next
  let s ← get
  if lexeme.kind = .keyword && lexeme.word == "yield" then
    if s.strict then failAt lexeme .strictReserved
    else if !s.allowYield then unexpected lexeme
  else if lexeme.kind != .identifier then
    if s.strict && lexeme.kind = .keyword && isStrictReserved lexeme.word then
      failAt lexeme .strictReserved
    else if s.strict || lexeme.word != "let" || declarator != .variable then unexpected lexeme
  else if (s.isModule || s.allowAwait) && lexeme.word == "await" then unexpected lexeme
  identifier start lexeme.value

/-! ## Literals -/

def stringLiteral (start : Nat) (lexeme : Lexeme) : Parse Tree :=
  finish start "Literal" [("value", some (.text lexeme.value)), ("raw", some (.text lexeme.raw))]

def numberLiteral (start : Nat) (lexeme : Lexeme) : Parse Tree :=
  finish start "Literal" [("raw", some (.text lexeme.raw))]

/-- A string or a number, as its lexeme says. -/
def literal (start : Nat) (lexeme : Lexeme) : Parse Tree :=
  if lexeme.kind = .string then stringLiteral start lexeme else numberLiteral start lexeme

def wordLiteral (start : Nat) (value : Json) (lexeme : Lexeme) : Parse Tree :=
  finish start "Literal" [("value", some value), ("raw", some (.text lexeme.raw))]

def templateElement : Parse (Tree × Bool) := do
  let start ← here
  let lexeme ← next
  let t ← finish start "TemplateElement"
    [("value", some (.object [("raw", .text lexeme.value)])), ("tail", some (.bool lexeme.closesTemplate))]
  return (t, lexeme.closesTemplate)

/-! ## Expressions -/

/-- Expressions with commas between them, each on its own. -/
def sequence (g : Grammar) : Parse Tree := do
  let start ← here
  let first ← isolate g.assignment
  if ← isSign "," then
    let others ← collect do
      if ← isSign "," then
        let _ ← next
        return some (← isolate g.assignment)
      else return none
    finish start "SequenceExpression" [("expressions", some (.list (first :: others)))]
  else return first

def templateLiteral (g : Grammar) : Parse Tree := do
  let start ← here
  unless (← ahead).opensTemplate do throw .headlessTemplate
  let (head, closed) ← templateElement
  if closed then
    finish start "TemplateLiteral" [("quasis", some (.list [head])), ("expressions", some (.list []))]
  else
    let rec parts : Nat → Parse (List Tree × List Tree)
      | 0 => return ([], [])
      | fuel + 1 => do
        let e ← sequence g
        unless (← ahead).kind = .template do fail .illegal
        let (quasi, closed) ← templateElement
        if closed then return ([quasi], [e])
        else
          let (quasis, expressions) ← parts fuel
          return (quasi :: quasis, e :: expressions)
    let (quasis, expressions) ← parts ((← get).cursor.size + 2)
    finish start "TemplateLiteral"
      [("quasis", some (.list (head :: quasis))), ("expressions", some (.list expressions))]

def spread (g : Grammar) : Parse Tree := do
  let start ← here
  expect "..."
  let argument ← inherit g.assignment
  finish start "SpreadElement" [("argument", some argument)]

def arrayLiteral (g : Grammar) : Parse Tree := do
  let start ← here
  expect "["
  let elements ← collect do
    if ← isSign "]" then return none
    else if ← isSign "," then
      let _ ← next
      return some Json.null
    else if ← isSign "..." then
      let element ← spread g
      unless ← isSign "]" do
        isNoTarget
        expect ","
      return some element
    else
      let element ← inherit g.assignment
      unless ← isSign "]" do expect ","
      return some element
  expect "]"
  finish start "ArrayExpression" [("elements", some (.list elements))]

/-! ### Functions -/

/-- What has been found about parameters: whether all are plain names, and the first ones that
strict code refuses. -/
structure Parameters where
  simple : Bool
  params : List Tree
  names : List Text
  /-- A lexeme or, where only a node is known, none. -/
  stricted : Option (Option Lexeme)
  firstRestricted : Option (Option Lexeme)
  problem : Option Problem

def Parameters.none : Parameters :=
  ⟨true, [], [], Option.none, Option.none, Option.none⟩

/-- Refuse the script at a lexeme, or at the last one read. -/
def failAt? {α : Type} (lexeme : Option Lexeme) (problem : Problem) : Parse α :=
  match lexeme with
  | some lexeme => failAt lexeme problem
  | none => fail problem

/-- Take note of a parameter's name. -/
def Parameters.check (ps : Parameters) (strict : Bool) (at' : Option Lexeme) (name : Text) :
    Parameters :=
  let word := Text.toString name
  let repeated := ps.names.contains name
  let ps' :=
    if strict then
      let ps' := if isRestricted word then
          { ps with stricted := some at', problem := some .strictParameter } else ps
      if repeated then { ps' with stricted := some at', problem := some .strictDuplicate } else ps'
    else if ps.firstRestricted.isNone then
      if isRestricted word then
        { ps with firstRestricted := some at', problem := some .strictParameter }
      else if isStrictReserved word then
        { ps with firstRestricted := some at', problem := some .strictReserved }
      else if repeated then { ps with stricted := some at', problem := some .strictDuplicate }
      else ps
    else ps
  { ps' with names := name :: ps'.names }

def withDefault (g : Grammar) (declarator : Declarator) : Parse (Tree × List Lexeme) := do
  let start ← here
  let (pattern, names) ← g.pattern declarator
  if ← isSign "=" then
    let _ ← next
    let right ← within (fun s => { s with allowYield := true }) (isolate g.assignment)
      (fun before after => { after with allowYield := before.allowYield })
    let t ← finish start "AssignmentPattern" [("left", some pattern), ("right", some right)]
    return (t, names)
  else return (pattern, names)

/-- The rest of the parameters. -/
def restParameter (g : Grammar) : Parse (Tree × List Lexeme) := do
  let start ← here
  expect "..."
  let (argument, names) ← g.pattern .parameter
  if ← isSign "=" then fail .restDefault
  unless ← isSign ")" do fail .restNotLast
  let t ← finish start "RestElement" [("argument", some argument)]
  return (t, names)

def formalParameter (g : Grammar) (ps : Parameters) : Parse Parameters := do
  let (param, names) ← if ← isSign "..." then restParameter g else withDefault g .parameter
  let strict := (← get).strict
  let ps := names.foldl (fun ps lexeme => ps.check strict (some lexeme) lexeme.value) ps
  return { ps with simple := ps.simple && param.isKind "Identifier", params := ps.params ++ [param] }

def formalParameters (g : Grammar) (firstRestricted : Option Lexeme) : Parse Parameters := do
  expect "("
  let ps := { Parameters.none with firstRestricted := firstRestricted.map some }
  let rec more : Nat → Parameters → Parse Parameters
    | 0, ps => return ps
    | fuel + 1, ps => do
      if ← isEnd then return ps
      else
        let ps ← formalParameter g ps
        if ← isSign ")" then return ps
        else
          expect ","
          if ← isSign ")" then return ps else more fuel ps
  let ps ← if ← isSign ")" then pure ps else more ((← get).cursor.size + 2) ps
  expect ")"
  return ps

def directive (g : Grammar) : Parse (Tree × Option Text) := do
  let start ← here
  let lexeme ← ahead
  let e ← sequence g
  semicolon
  let text := (lexeme.raw.drop 1).dropLast
  if e.isKind "Literal" && !text.isEmpty then
    let t ← finish start "ExpressionStatement"
      [("expression", some e), ("directive", some (.text text))]
    return (t, some text)
  else
    let t ← finish start "ExpressionStatement" [("expression", some e)]
    return (t, none)

/-- The string statements at the head of a body, which may make it strict. -/
def directives (g : Grammar) : Parse (List Tree) := do
  go ((← get).cursor.size + 2) none
where
  go : Nat → Option Lexeme → Parse (List Tree)
    | 0, _ => return []
    | fuel + 1, octal => do
      let lexeme ← ahead
      if lexeme.kind != .string then return []
      else
        let (t, text) ← directive g
        match text with
        | none => return [t]
        | some text =>
          if Text.eqString text "use strict" then
            modify fun s => { s with strict := true }
            match octal with
            | some lexeme => failAt lexeme .strictOctal
            | none => pure ()
            unless (← get).allowStrictDirective do failAt lexeme .strictDirective
            return t :: (← go fuel octal)
          else
            let octal := if octal.isNone && lexeme.octal then some lexeme else octal
            return t :: (← go fuel octal)

/-- The body of a function, in braces. -/
def functionBody (g : Grammar) : Parse Tree := do
  let start ← here
  expect "\x7b"
  let head ← directives g
  let body ← within
    (fun s => { s with labels := [], inIteration := false, inSwitch := false, inFunctionBody := true })
    (do
      let items ← collect do
        if (← isEnd) || (← isSign "\x7d") then return none
        else return some (← g.listItem)
      expect "\x7d"
      return items)
    (fun before after => { after with
      labels := before.labels
      inIteration := before.inIteration
      inSwitch := before.inSwitch
      inFunctionBody := before.inFunctionBody })
  finish start "BlockStatement" [("body", some (.list (head ++ body)))]

/-- The body of a method, checked against its parameters. -/
def methodBody (g : Grammar) (ps : Parameters) : Parse Tree := do
  isNoTarget
  within (fun s => { s with allowStrictDirective := ps.simple })
    (do
      let body ← isolate (functionBody g)
      if (← get).strict then
        match ps.firstRestricted with
        | some lexeme => failAt? lexeme (ps.problem.getD .strictReserved)
        | none => pure ()
        match ps.stricted with
        | some lexeme => failAt? lexeme (ps.problem.getD .strictReserved)
        | none => pure ()
      return body)
    (fun before after => { after with
      strict := before.strict, allowStrictDirective := before.allowStrictDirective })

def functionNode (start : Nat) (kind : String) (id : Option Tree) (params : List Tree) (body : Tree)
    (isGenerator isExpression isAsync : Bool) : Parse Tree :=
  finish start kind
    [("id", id), ("params", some (.list params)), ("body", some body),
      ("generator", some (.bool isGenerator)), ("expression", some (.bool isExpression)),
      ("async", some (.bool isAsync))]

/-- A method: its parameters, a check on them, and its body. -/
def method (g : Grammar) (isGenerator isAsync : Bool) (check : Parameters → Parse Unit) :
    Parse Tree := do
  let start ← here
  within (fun s => { s with allowYield := !isAsync, allowAwait := isAsync || s.allowAwait })
    (do
      let ps ← formalParameters g none
      check ps
      if isGenerator then modify fun s => { s with allowYield := false }
      let body ← methodBody g ps
      functionNode start "FunctionExpression" none ps.params body isGenerator false isAsync)
    (fun before after => { after with
      allowYield := before.allowYield, allowAwait := before.allowAwait })

def plainMethod (g : Grammar) (isAsync : Bool) : Parse Tree :=
  method g false isAsync fun _ => pure ()

def generatorMethod (g : Grammar) : Parse Tree :=
  method g true false fun _ => pure ()

def getter (g : Grammar) : Parse Tree :=
  method g false false fun ps => do
    unless ps.params.isEmpty do fail .getterArity

def setter (g : Grammar) : Parse Tree :=
  method g false false fun ps => do
    match ps.params with
    | [p] => if p.isKind "RestElement" then fail .setterRest
    | _ => fail .setterArity

/-- The next lexemes are `async` and `function` on one line. -/
def isAsyncFunction : Parse Bool := do
  if ← isContextual "async" then
    let line := (← get).cursor.line
    let lexeme ← glance
    return line == lexeme.line && lexeme.kind = .keyword && lexeme.word == "function"
  else return false

/-- The name of a function as strict code sees it: refused there, and else kept in mind. -/
def functionName (lexeme : Lexeme) : Parse (Option Lexeme × Option Problem) := do
  if (← get).strict then
    if isRestricted lexeme.word then failAt lexeme .strictFunctionName
    return (none, none)
  else if isRestricted lexeme.word then return (some lexeme, some .strictFunctionName)
  else if isStrictReserved lexeme.word then return (some lexeme, some .strictReserved)
  else return (none, none)

/-- The parameters and the body of a function. -/
def functionRest (g : Grammar) (firstRestricted : Option Lexeme) (problem : Option Problem) :
    Parse (List Tree × Tree) := do
  let ps ← formalParameters g firstRestricted
  let problem := ps.problem <|> problem
  within (fun s => { s with allowStrictDirective := ps.simple })
    (do
      let body ← functionBody g
      if (← get).strict then
        match ps.firstRestricted with
        | some lexeme => failAt? lexeme (problem.getD .strictReserved)
        | none => pure ()
        match ps.stricted with
        | some lexeme => failAt? lexeme (problem.getD .strictReserved)
        | none => pure ()
      return (ps.params, body))
    (fun before after => { after with
      strict := before.strict, allowStrictDirective := before.allowStrictDirective })

/-- The words and marks before a function's name: whether it is asynchronous or a generator. -/
def functionHead : Parse (Bool × Bool) := do
  let isAsync ← isContextual "async"
  if isAsync then
    let _ ← next
  expectWord "function"
  let isGenerator ← if isAsync then pure false else isSign "*"
  if isGenerator then
    let _ ← next
  return (isAsync, isGenerator)

def restoreModes (before after : State) : State :=
  { after with allowAwait := before.allowAwait, allowYield := before.allowYield }

def functionDeclaration (g : Grammar) (nameIsOptional : Bool) : Parse Tree := do
  let start ← here
  let (isAsync, isGenerator) ← functionHead
  let (id, restricted, problem) ←
    if !nameIsOptional || !(← isSign "(") then do
      let lexeme ← ahead
      let id ← bindingName .parameter
      let (restricted, problem) ← functionName lexeme
      pure (some id, restricted, problem)
    else pure (none, none, none)
  within (fun s => { s with allowAwait := isAsync, allowYield := !isGenerator })
    (do
      let (params, body) ← functionRest g restricted problem
      functionNode start "FunctionDeclaration" id params body isGenerator false isAsync)
    restoreModes

def functionExpression (g : Grammar) : Parse Tree := do
  let start ← here
  let (isAsync, isGenerator) ← functionHead
  within (fun s => { s with allowAwait := isAsync, allowYield := !isGenerator })
    (do
      let (id, restricted, problem) ←
        if ← isSign "(" then pure (none, none, none)
        else do
          let lexeme ← ahead
          let plainYield := !(← get).strict && !isGenerator && (← isWord "yield")
          let id ← if plainYield then anyName else bindingName .parameter
          let (restricted, problem) ← functionName lexeme
          pure (some id, restricted, problem)
      let (params, body) ← functionRest g restricted problem
      functionNode start "FunctionExpression" id params body isGenerator false isAsync)
    restoreModes

/-! ### Objects and classes -/

/-- A key of a property: a string, a number, a name, or an expression in brackets. -/
def propertyKey (g : Grammar) : Parse Tree := do
  let start ← here
  let lexeme ← next
  match lexeme.kind with
  | .string | .number =>
    if (← get).strict && lexeme.octal then failAt lexeme .strictOctal
    literal start lexeme
  | .identifier | .boolean | .null | .keyword => identifier start lexeme.value
  | .punctuator =>
    if lexeme.word == "[" then
      let key ← isolate g.assignment
      expect "]"
      return key
    else unexpected lexeme
  | _ => unexpected lexeme

/-- The key is this name, written as a name or a string. -/
def isPropertyKey (key : Tree) (name : String) : Bool :=
  (key.isKind "Identifier" && key.name? == some (Text.ofString name))
    || (key.isKind "Literal" && key.textField? "value" == some (Text.ofString name))

/-- The lexeme can begin the key of a property. -/
def beginsKey (lexeme : Lexeme) : Bool :=
  match lexeme.kind with
  | .identifier | .string | .boolean | .null | .number | .keyword => true
  | .punctuator => lexeme.word == "["
  | _ => false

def property (start : Nat) (kind : String) (key : Tree) (computed : Bool) (value : Tree)
    (isMethod shorthand : Bool) : Parse Tree :=
  finish start "Property"
    [("key", some key), ("computed", some (.bool computed)), ("value", some value),
      ("kind", some (.text kind)), ("method", some (.bool isMethod)),
      ("shorthand", some (.bool shorthand))]

/-- A property of an object; the flag says whether one has set its prototype, before and after. -/
def objectProperty (g : Grammar) (hasProto : Bool) : Parse (Tree × Bool) := do
  let start ← here
  let lexeme ← ahead
  let isIdentifier := lexeme.kind = .identifier
  let (key, computed, isAsync) ←
    if isIdentifier then do
      let _ ← next
      let computed ← isSign "["
      let other := (← isSign ":") || (← isSign "(") || (← isSign "*") || (← isSign ",")
      let isAsync := !(← get).newline && lexeme.word == "async" && !other
      let key ← if isAsync then propertyKey g else identifier start lexeme.value
      pure (some key, computed, isAsync)
    else if ← isSign "*" then do
      let _ ← next
      pure (none, false, false)
    else do
      let computed ← isSign "["
      let key ← propertyKey g
      pure (some key, computed, false)
  let keyAhead := beginsKey (← ahead)
  if isIdentifier && !isAsync && lexeme.word == "get" && keyAhead then
    let computed ← isSign "["
    let key ← propertyKey g
    modify fun s => { s with allowYield := false }
    let value ← getter g
    return (← property start "get" key computed value false false, hasProto)
  else if isIdentifier && !isAsync && lexeme.word == "set" && keyAhead then
    let computed ← isSign "["
    let key ← propertyKey g
    let value ← setter g
    return (← property start "set" key computed value false false, hasProto)
  else if lexeme.kind = .punctuator && lexeme.word == "*" && keyAhead then
    let computed ← isSign "["
    let key ← propertyKey g
    let value ← generatorMethod g
    return (← property start "init" key computed value true false, hasProto)
  else
    match key with
    | none => unexpected (← ahead)
    | some key =>
      if (← isSign ":") && !isAsync then
        let isProto := !computed && isPropertyKey key "__proto__"
        if isProto && hasProto then fail .duplicateProto
        let _ ← next
        let value ← inherit g.assignment
        return (← property start "init" key computed value false false, hasProto || isProto)
      else if ← isSign "(" then
        let value ← plainMethod g isAsync
        return (← property start "init" key computed value true false, hasProto)
      else if isIdentifier then
        let id ← identifier start lexeme.value
        if ← isSign "=" then
          let sign ← ahead
          modify fun s => { s with coverFault := some sign }
          let _ ← next
          let init ← isolate g.assignment
          let value ← finish start "AssignmentPattern" [("left", some id), ("right", some init)]
          return (← property start "init" key computed value false true, hasProto)
        else return (← property start "init" key computed id false true, hasProto)
      else
        let lexeme ← next
        unexpected lexeme

def objectLiteral (g : Grammar) : Parse Tree := do
  let start ← here
  expect "\x7b"
  let rec properties : Nat → Bool → Parse (List Tree)
    | 0, _ => return []
    | fuel + 1, hasProto => do
      if ← isSign "\x7d" then return []
      else
        let (p, hasProto) ←
          if ← isSign "..." then do pure (← spread g, hasProto) else objectProperty g hasProto
        unless ← isSign "\x7d" do expect ","
        return p :: (← properties fuel hasProto)
  let ps ← properties ((← get).cursor.size + 2) false
  expect "\x7d"
  finish start "ObjectExpression" [("properties", some (.list ps))]

/-- What has been read of a class element before its parameters. -/
structure ElementHead where
  lexeme : Lexeme
  key : Option Tree
  computed : Bool
  isStatic : Bool
  isAsync : Bool

def elementHead (g : Grammar) : Parse ElementHead := do
  let lexeme ← ahead
  if ← isSign "*" then
    let _ ← next
    return ⟨lexeme, none, false, false, false⟩
  else
    let computed ← isSign "["
    let key ← propertyKey g
    let isStatic := key.name? == some (Text.ofString "static")
      && (beginsKey (← ahead) || (← isSign "*"))
    let (lexeme, key, computed) ←
      if isStatic then do
        let lexeme ← ahead
        let computed ← isSign "["
        if ← isSign "*" then
          let _ ← next
          pure (lexeme, key, computed)
        else pure (lexeme, ← propertyKey g, computed)
      else pure (lexeme, key, computed)
    if lexeme.kind = .identifier && !(← get).newline && lexeme.word == "async" then
      let sign := (← ahead).word
      if sign != ":" && sign != "(" && sign != "*" then
        let lexeme ← ahead
        let key ← propertyKey g
        if lexeme.kind = .identifier && lexeme.word == "constructor" then
          failAt lexeme .asyncConstructor
        return ⟨lexeme, some key, computed, isStatic, true⟩
    return ⟨lexeme, some key, computed, isStatic, false⟩

/-- The kind of a class element, its key and value, and whether it is a method. -/
def elementBody (g : Grammar) (head : ElementHead) :
    Parse (String × Tree × Bool × Tree × Bool × Bool) := do
  let keyAhead := beginsKey (← ahead)
  let lexeme := head.lexeme
  if lexeme.kind = .identifier && lexeme.word == "get" && keyAhead then
    let computed ← isSign "["
    let key ← propertyKey g
    modify fun s => { s with allowYield := false }
    let value ← getter g
    return ("get", key, computed, value, false, false)
  else if lexeme.kind = .identifier && lexeme.word == "set" && keyAhead then
    let computed ← isSign "["
    let key ← propertyKey g
    let value ← setter g
    return ("set", key, computed, value, false, false)
  else if lexeme.kind = .punctuator && lexeme.word == "*" && keyAhead then
    let computed ← isSign "["
    let key ← propertyKey g
    let value ← generatorMethod g
    return ("method", key, computed, value, true, true)
  else
    match head.key with
    | some key =>
      if ← isSign "(" then
        let value ← plainMethod g head.isAsync
        return ("method", key, head.computed, value, true, false)
      else unexpected (← ahead)
    | none => unexpected (← ahead)

def classElement (g : Grammar) (hasConstructor : Bool) : Parse (Tree × Bool) := do
  let start ← here
  let head ← elementHead g
  let (kind, key, computed, value, isMethod, isGenerator) ← elementBody g head
  if !computed && head.isStatic && isPropertyKey key "prototype" then
    failAt head.lexeme .staticPrototype
  let isConstructor := !computed && !head.isStatic && isPropertyKey key "constructor"
  if isConstructor then
    if kind != "method" || !isMethod || isGenerator then failAt head.lexeme .specialConstructor
    if hasConstructor then failAt head.lexeme .duplicateConstructor
  let kind := if isConstructor then "constructor" else kind
  let t ← finish start "MethodDefinition"
    [("key", some key), ("computed", some (.bool computed)), ("value", some value),
      ("kind", some (.text kind)), ("static", some (.bool head.isStatic))]
  return (t, hasConstructor || isConstructor)

def classBody (g : Grammar) : Parse Tree := do
  let start ← here
  expect "\x7b"
  let rec elements : Nat → Bool → Parse (List Tree)
    | 0, _ => return []
    | fuel + 1, hasConstructor => do
      if ← isSign "\x7d" then return []
      else if ← isSign ";" then
        let _ ← next
        elements fuel hasConstructor
      else
        let (t, hasConstructor) ← classElement g hasConstructor
        return t :: (← elements fuel hasConstructor)
  let body ← elements ((← get).cursor.size + 2) false
  expect "\x7d"
  finish start "ClassBody" [("body", some (.list body))]

/-- A class, with a reader for its name. -/
def classRest (g : Grammar) (kind : String) (name : Parse (Option Tree)) : Parse Tree := do
  let start ← here
  within (fun s => { s with strict := true })
    (do
      expectWord "class"
      let id ← name
      let superClass ←
        if ← isWord "extends" then do
          let _ ← next
          pure (some (← isolate g.leftHandSide))
        else pure none
      let body ← classBody g
      return (id, superClass, body))
    (fun before after => { after with strict := before.strict })
  >>= fun (id, superClass, body) =>
    finish start kind [("id", id), ("superClass", superClass), ("body", some body)]

/-! ### Parentheses and arrows -/

def sequenceItems (t : Tree) : List Tree :=
  if t.isKind "SequenceExpression" then t.items "expressions" else [t]

/-- What is in parentheses: an expression, or the parameters of an arrow function. -/
def group (g : Grammar) : Parse Tree := do
  expect "("
  if ← isSign ")" then
    let _ ← next
    unless ← isSign "=>" do expect "=>"
    return placeHolder [] false
  else
    let start ← here
    if ← isSign "..." then
      let (rest, _) ← restParameter g
      expect ")"
      unless ← isSign "=>" do expect "=>"
      return placeHolder [rest] false
    else
      modify fun s => { s with isBindingElement := true }
      let first ← inherit g.assignment
      let rec more : Nat → List Tree → Parse (Tree ⊕ List Tree)
        | 0, es => return .inr es
        | fuel + 1, es => do
          unless ← isSign "," do return .inr es
          let _ ← next
          if ← isSign ")" then
            let _ ← next
            return .inl (placeHolder (← es.mapM asPattern) false)
          else if ← isSign "..." then
            unless (← get).isBindingElement do unexpected (← ahead)
            let (rest, _) ← restParameter g
            expect ")"
            unless ← isSign "=>" do expect "=>"
            modify fun s => { s with isBindingElement := false }
            return .inl (placeHolder (← (es ++ [rest]).mapM asPattern) false)
          else
            let e ← inherit g.assignment
            more fuel (es ++ [e])
      let read ←
        if ← isSign "," then do
          modify fun s => { s with isAssignmentTarget := false }
          more ((← get).cursor.size + 2) [first]
        else pure (.inr [first])
      match read with
      | .inl arrow => return arrow
      | .inr es =>
        let e ← match es with
          | [e] => pure e
          | _ => finish start "SequenceExpression" [("expressions", some (.list es))]
        expect ")"
        let result ←
          if ← isSign "=>" then
            if e.isKind "Identifier" && e.name? == some (Text.ofString "yield") then
              pure (placeHolder [e] false)
            else do
              unless (← get).isBindingElement do unexpected (← ahead)
              pure (placeHolder (← (sequenceItems e).mapM asPattern) false)
          else pure e
        modify fun s => { s with isBindingElement := false }
        return result

/-- The arguments of a call; `argument` reads one. -/
def arguments (g : Grammar) (argument : Parse Tree) : Parse (List Tree) := do
  expect "("
  let rec more : Nat → Parse (List Tree)
    | 0 => return []
    | fuel + 1 => do
      let a ← if ← isSign "..." then spread g else isolate argument
      if ← isSign ")" then return [a]
      else
        expect ","
        if ← isSign ")" then return [a] else return a :: (← more fuel)
  let args ← if ← isSign ")" then pure [] else more ((← get).cursor.size + 2)
  expect ")"
  return args

/-- An argument of what may be the parameters of an asynchronous arrow function. -/
def asyncArgument (g : Grammar) : Parse Tree := do
  let a ← g.assignment
  modify fun s => { s with coverFault := none }
  return a

def isImportCall : Parse Bool := do
  if ← isWord "import" then
    let lexeme ← glance
    return lexeme.kind = .punctuator && lexeme.word == "("
  else return false

def newExpression (g : Grammar) : Parse Tree := do
  let start ← here
  let id ← anyName
  if ← isSign "." then
    let _ ← next
    let s ← get
    if s.ahead.kind = .identifier && s.inFunctionBody && s.ahead.word == "target" then
      let p ← anyName
      finish start "MetaProperty" [("meta", some id), ("property", some p)]
    else unexpected s.ahead
  else if ← isWord "import" then unexpected (← ahead)
  else
    let callee ← isolate g.callee
    let args ← if ← isSign "(" then arguments g g.assignment else pure []
    isNoTarget
    finish start "NewExpression" [("callee", some callee), ("arguments", some (.list args))]

def member (start : Nat) (computed : Bool) (object property : Tree) : Parse Tree :=
  finish start "MemberExpression"
    [("computed", some (.bool computed)), ("object", some object), ("property", some property)]

/-- A member by name, after the object. -/
def namedMember (start : Nat) (object : Tree) : Parse Tree := do
  modify fun s => { s with isBindingElement := false, isAssignmentTarget := true }
  expect "."
  let p ← anyName
  member start false object p

/-- A member by an expression, after the object. -/
def computedMember (g : Grammar) (start : Nat) (object : Tree) : Parse Tree := do
  modify fun s => { s with isBindingElement := false, isAssignmentTarget := true }
  expect "["
  let p ← isolate (sequence g)
  expect "]"
  member start true object p

def taggedTemplate (g : Grammar) (start : Nat) (tag : Tree) : Parse Tree := do
  let quasi ← templateLiteral g
  finish start "TaggedTemplateExpression" [("tag", some tag), ("quasi", some quasi)]

def classExpression (g : Grammar) : Parse Tree :=
  classRest g "ClassExpression" do
    if (← ahead).kind = .identifier then return some (← bindingName .parameter) else return none

def primary (g : Grammar) : Parse Tree := do
  let start ← here
  let s ← get
  let lexeme := s.ahead
  match lexeme.kind with
  | .identifier =>
    if (s.isModule || s.allowAwait) && lexeme.word == "await" then unexpected lexeme
    if ← isAsyncFunction then functionExpression g
    else
      let _ ← next
      identifier start lexeme.value
  | .number | .string =>
    if s.strict && lexeme.octal then failAt lexeme .strictOctal
    isNoTarget
    let _ ← next
    literal start lexeme
  | .boolean =>
    isNoTarget
    let _ ← next
    wordLiteral start (.bool (lexeme.word == "true")) lexeme
  | .null =>
    isNoTarget
    let _ ← next
    wordLiteral start .null lexeme
  | .template => templateLiteral g
  | .punctuator =>
    match lexeme.word with
    | "(" =>
      modify fun s => { s with isBindingElement := false }
      inherit (group g)
    | "[" => inherit (arrayLiteral g)
    | "\x7b" => inherit (objectLiteral g)
    | "/" | "/=" =>
      isNoTarget
      let regex ← nextRegex g.validPattern
      finish start "Literal"
        [("raw", some (.text regex.raw)), ("regex", some (.object [("pattern", .text regex.raw)]))]
    | _ =>
      let lexeme ← next
      unexpected lexeme
  | .keyword =>
    if !s.strict && s.allowYield && lexeme.word == "yield" then anyName
    else if !s.strict && lexeme.word == "let" then
      let _ ← next
      identifier start lexeme.value
    else
      isNoTarget
      match lexeme.word with
      | "function" => functionExpression g
      | "this" =>
        let _ ← next
        finish start "ThisExpression" []
      | "class" => classExpression g
      | _ =>
        if ← isImportCall then
          let _ ← next
          finish start "Import" []
        else
          let lexeme ← next
          unexpected lexeme
  | _ =>
    let lexeme ← next
    unexpected lexeme

/-- An expression that may be called, with the calls, members and templates after it. -/
def callChain (g : Grammar) (start : Nat) (maybeAsync : Option Nat) : Nat → Tree → Parse Tree
  | 0, e => return e
  | fuel + 1, e => do
    if ← isSign "." then callChain g start maybeAsync fuel (← namedMember start e)
    else if ← isSign "(" then
      let asyncArrow := maybeAsync == some (← ahead).line
      isNoTarget
      let args ← arguments g (if asyncArrow then asyncArgument g else g.assignment)
      if e.isKind "Import" && args.length != 1 then fail .misplaced
      let call ← finish start "CallExpression" [("callee", some e), ("arguments", some (.list args))]
      if asyncArrow && (← isSign "=>") then
        callChain g start maybeAsync fuel (placeHolder (← args.mapM asPattern) true)
      else callChain g start maybeAsync fuel call
    else if ← isSign "[" then callChain g start maybeAsync fuel (← computedMember g start e)
    else
      let lexeme ← ahead
      if lexeme.kind = .template && lexeme.opensTemplate then
        callChain g start maybeAsync fuel (← taggedTemplate g start e)
      else return e

/-- What a call or a member begins with. -/
def chainHead (g : Grammar) : Parse Tree := do
  if ← isWord "new" then inherit (newExpression g) else inherit (primary g)

def superNode : Parse Tree := do
  let start ← here
  expectWord "super"
  finish start "Super" []

/-- An expression on the left of an operator: members, templates and calls. -/
def leftHandSide (g : Grammar) : Parse Tree := do
  let lexeme ← ahead
  let start ← here
  let maybeAsync := if ← isContextual "async" then some lexeme.line else none
  withIn true do
    let e ←
      if (← isWord "super") && (← get).inFunctionBody then do
        let e ← superNode
        unless (← isSign "(") || (← isSign ".") || (← isSign "[") do unexpected (← ahead)
        pure e
      else chainHead g
    callChain g start maybeAsync ((← get).cursor.size + 2) e

/-- An expression after `new`: members and templates, but no calls. -/
def calleeChain (g : Grammar) (start : Nat) : Nat → Tree → Parse Tree
  | 0, e => return e
  | fuel + 1, e => do
    if ← isSign "[" then calleeChain g start fuel (← computedMember g start e)
    else if ← isSign "." then calleeChain g start fuel (← namedMember start e)
    else
      let lexeme ← ahead
      if lexeme.kind = .template && lexeme.opensTemplate then
        calleeChain g start fuel (← taggedTemplate g start e)
      else return e

def callee (g : Grammar) : Parse Tree := do
  let start ← here
  let e ←
    if (← isWord "super") && (← get).inFunctionBody then do
      let e ← superNode
      unless (← isSign "[") || (← isSign ".") do unexpected (← ahead)
      pure e
    else chainHead g
  calleeChain g start ((← get).cursor.size + 2) e

/-! ### Operators -/

def isRestrictedName (t : Tree) : Bool :=
  t.isKind "Identifier" && isRestricted (Text.toString (t.name?.getD []))

def update (start : Nat) (operator : Text) (argument : Tree) (isBefore : Bool) : Parse Tree :=
  finish start "UpdateExpression"
    [("operator", some (.text operator)), ("argument", some argument),
      ("prefix", some (.bool isBefore))]

/-- An operand of an increment or decrement must be assignable. -/
def checkUpdate (t : Tree) (problem : Problem) : Parse Unit := do
  let s ← get
  if s.strict && isRestrictedName t then fail problem
  unless s.isAssignmentTarget do fail .invalidTarget

def updateExpression (g : Grammar) : Parse Tree := do
  let start ← here
  if (← isSign "++") || (← isSign "--") then
    let lexeme ← next
    let e ← inherit g.unary
    checkUpdate e .strictPrefix
    let t ← update start lexeme.value e true
    isNoTarget
    return t
  else
    let e ← inherit (leftHandSide g)
    if !(← get).newline && ((← isSign "++") || (← isSign "--")) then
      checkUpdate e .strictPostfix
      isNoTarget
      let lexeme ← next
      update start lexeme.value e false
    else return e

def isUnarySign : Parse Bool := do
  return (← isSign "+") || (← isSign "-") || (← isSign "~") || (← isSign "!")
    || (← isWord "delete") || (← isWord "void") || (← isWord "typeof")

def unary (g : Grammar) : Parse Tree := do
  let start ← here
  if ← isUnarySign then
    let lexeme ← next
    let e ← inherit g.unary
    let t ← finish start "UnaryExpression"
      [("operator", some (.text lexeme.value)), ("argument", some e), ("prefix", some (.bool true))]
    if (← get).strict && lexeme.word == "delete" && e.isKind "Identifier" then fail .strictDelete
    isNoTarget
    return t
  else if (← get).allowAwait && (← isContextual "await") then
    let _ ← next
    let e ← g.unary
    finish start "AwaitExpression" [("argument", some e)]
  else updateExpression g

def binary (start : Nat) (operator : Text) (left right : Tree) : Parse Tree :=
  let logical := Text.eqString operator "||" || Text.eqString operator "&&"
  finish start (if logical then "LogicalExpression" else "BinaryExpression")
    [("operator", some (.text operator)), ("left", some left), ("right", some right)]

def exponentiation (g : Grammar) : Parse Tree := do
  let start ← here
  let e ← inherit g.unary
  if !(e.isKind "UnaryExpression") && (← isSign "**") then
    let lexeme ← next
    isNoTarget
    let right ← isolate g.exponentiation
    binary start lexeme.value e right
  else return e

/-- How tightly a binary operator binds; zero for what is none. -/
def precedence (allowIn : Bool) (lexeme : Lexeme) : Nat :=
  match lexeme.kind with
  | .punctuator =>
    match lexeme.word with
    | "||" => 1
    | "&&" => 2
    | "|" => 3
    | "^" => 4
    | "&" => 5
    | "==" | "!=" | "===" | "!==" => 6
    | "<" | ">" | "<=" | ">=" => 7
    | "<<" | ">>" | ">>>" => 8
    | "+" | "-" => 9
    | "*" | "/" | "%" => 11
    | _ => 0
  | .keyword =>
    if lexeme.word == "instanceof" || (allowIn && lexeme.word == "in") then 7 else 0
  | _ => 0

/-- An operand that waits for its right side: where it begins, itself, and the operator. -/
structure Pending where
  start : Nat
  left : Tree
  operator : Text
  strength : Nat

/-- Close the pending operands whose operators bind at least as tightly as `strength`. -/
def reduce (strength : Nat) : List Pending → Tree → Parse (List Pending × Tree)
  | [], e => return ([], e)
  | p :: ps, e => do
    if strength ≤ p.strength then reduce strength ps (← binary p.start p.operator p.left e)
    else return (p :: ps, e)

/-- Where the operand that now ends began: that of the first operand that was closed. -/
def reducedStart (strength : Nat) (ps : List Pending) (start : Nat) : Nat :=
  match ps with
  | [] => start
  | p :: rest => if strength ≤ p.strength then reducedStart strength rest p.start else start

def binaryChain (g : Grammar) : Nat → List Pending → Nat → Tree → Parse Tree
  | 0, _, _, e => return e
  | fuel + 1, ps, start, e => do
    let s ← get
    let strength := precedence s.allowIn s.ahead
    if strength = 0 then
      let (_, t) ← reduce 0 ps e
      return t
    else
      let begun := reducedStart strength ps start
      let (ps, e) ← reduce strength ps e
      let lexeme ← next
      isNoTarget
      let start ← here
      let right ← isolate g.exponentiation
      binaryChain g fuel (⟨begun, e, lexeme.value, strength⟩ :: ps) start right

def binaryExpression (g : Grammar) : Parse Tree := do
  let start ← here
  let e ← inherit (exponentiation g)
  binaryChain g ((← get).cursor.size + 2) [] start e

def conditional (g : Grammar) : Parse Tree := do
  let start ← here
  let test ← inherit (binaryExpression g)
  if ← isSign "?" then
    let _ ← next
    let consequent ← withIn true (isolate g.assignment)
    expect ":"
    let alternate ← isolate g.assignment
    let t ← finish start "ConditionalExpression"
      [("test", some test), ("consequent", some consequent), ("alternate", some alternate)]
    isNoTarget
    return t
  else return test

/-- An expression can begin with the next lexeme, for the argument of `yield`. -/
def beginsExpression (lexeme : Lexeme) : Bool :=
  match lexeme.kind with
  | .punctuator =>
    ["[", "(", "\x7b", "+", "-", "!", "~", "++", "--", "/", "/="].contains lexeme.word
  | .keyword =>
    ["class", "delete", "function", "let", "new", "super", "this", "typeof", "void",
      "yield"].contains lexeme.word
  | _ => true

def yieldExpression (g : Grammar) : Parse Tree := do
  let start ← here
  expectWord "yield"
  if (← get).newline then
    finish start "YieldExpression" [("delegate", some (.bool false))]
  else
    let (argument, delegate) ← within (fun s => { s with allowYield := false })
      (do
        if ← isSign "*" then
          let _ ← next
          return (some (← g.assignment), true)
        else if beginsExpression (← ahead) then return (some (← g.assignment), false)
        else return (none, false))
      (fun before after => { after with allowYield := before.allowYield })
    finish start "YieldExpression" [("argument", argument), ("delegate", some (.bool delegate))]

mutual

/-- The names of a parameter that is a pattern, in order. -/
def parameterNames : Nat → Tree → List Text
  | 0, _ => []
  | fuel + 1, t =>
    match t.kind with
    | "Identifier" => [t.name?.getD []]
    | "RestElement" => parameterNamesOf fuel (t.field? "argument")
    | "AssignmentPattern" => parameterNamesOf fuel (t.field? "left")
    | "ArrayPattern" => parameterNamesList fuel (t.items "elements")
    | "ObjectPattern" => parameterNamesProperties fuel (t.items "properties")
    | _ => []

def parameterNamesOf : Nat → Option Tree → List Text
  | 0, _ => []
  | _, none => []
  | fuel + 1, some t => parameterNames fuel t

def parameterNamesList : Nat → List Tree → List Text
  | 0, _ => []
  | _, [] => []
  | fuel + 1, t :: ts => parameterNames fuel t ++ parameterNamesList fuel ts

def parameterNamesProperties : Nat → List Tree → List Text
  | 0, _ => []
  | _, [] => []
  | fuel + 1, t :: ts =>
    (if t.isKind "RestElement" then parameterNames fuel t
     else parameterNamesOf fuel (t.field? "value")) ++ parameterNamesProperties fuel ts

end

/-- A parameter's default that is a bare `yield` is read as that name. -/
def yieldAsName (param : Tree) : Parse Tree := do
  if param.isKind "AssignmentPattern" then
    match param.field? "right" with
    | some right =>
      if right.isKind "YieldExpression" then
        if (right.field? "argument").isSome then unexpected (← ahead)
        else
          let right := ((right.setKind "Identifier").setField "name" (.text "yield"))
          return param.setField "right" ((right.eraseField "argument").eraseField "delegate")
      else return param
    | none => return param
  else return param

/-- The parameters that an expression before an arrow writes, if it can write any. -/
def arrowFormals (e : Tree) : Parse (Option Parameters) := do
  let isHolder := e.isKind arrowParameters
  unless isHolder || e.isKind "Identifier" do return none
  let isAsync := e.field? "async" matches some (.bool true)
  let params := if isHolder then e.items "params" else [e]
  let fuel := 4 * ((← get).cursor.index + 2)
  let rec checkAll : List Tree → Parameters → Parse Parameters
    | [], ps => return ps
    | param :: rest, ps => do
      let param' ← yieldAsName param
      if !(param.isKind "AssignmentPattern") && isAsync && param.isKind "Identifier"
          && param.name? == some (Text.ofString "await") then
        unexpected (← ahead)
      let strict := (← get).strict
      let ps := (parameterNames fuel param').foldl (fun ps name => ps.check strict none name) ps
      checkAll rest { ps with
        simple := ps.simple && param'.isKind "Identifier"
        params := ps.params ++ [param'] }
  let ps ← checkAll params Parameters.none
  let s ← get
  if (s.strict || !s.allowYield) && ps.params.any (·.isKind "YieldExpression") then
    unexpected s.ahead
  if ps.problem == some .strictDuplicate then fail .strictDuplicate
  return some ps

/-- An arrow function after its parameters. -/
def arrowRest (g : Grammar) (start : Nat) (ps : Parameters) (isAsync : Bool) : Parse Tree := do
  if (← get).newline then unexpected (← ahead)
  modify fun s => { s with coverFault := none }
  within
    (fun s => { s with allowStrictDirective := ps.simple, allowYield := true, allowAwait := isAsync })
    (do
      expect "=>"
      let body ←
        if ← isSign "\x7b" then withIn true (functionBody g) else isolate g.assignment
      if (← get).strict then
        match ps.firstRestricted with
        | some lexeme => failAt? lexeme (ps.problem.getD .strictReserved)
        | none => pure ()
        match ps.stricted with
        | some lexeme => failAt? lexeme (ps.problem.getD .strictReserved)
        | none => pure ()
      functionNode start "ArrowFunctionExpression" none ps.params body false
        (!(body.isKind "BlockStatement")) isAsync)
    (fun before after => { after with
      strict := before.strict
      allowStrictDirective := before.allowStrictDirective
      allowYield := before.allowYield
      allowAwait := before.allowAwait })

/-- An assignment after its left side, which began with `lexeme`. -/
def assignmentRest (g : Grammar) (start : Nat) (lexeme : Lexeme) (left : Tree) : Parse Tree := do
  let s ← get
  unless s.isAssignmentTarget do fail .invalidTarget
  if s.strict && left.isKind "Identifier" then
    let name := Text.toString (left.name?.getD [])
    if isRestricted name then failAt lexeme .strictAssignment
    if isStrictReserved name then failAt lexeme .strictReserved
  let left ←
    if ← isSign "=" then asPattern left
    else do
      isNoTarget
      pure left
  let sign ← next
  let right ← isolate g.assignment
  let t ← finish start "AssignmentExpression"
    [("operator", some (.text sign.value)), ("left", some left), ("right", some right)]
  modify fun s => { s with coverFault := none }
  return t

def assignment (g : Grammar) : Parse Tree := do
  if !(← get).allowYield && (← isWord "yield") then yieldExpression g
  else
    let lexeme ← ahead
    let start ← here
    let e ← conditional g
    let s ← get
    let asyncParameter := lexeme.kind = .identifier && lexeme.line == s.ahead.line
      && lexeme.word == "async" && (s.ahead.kind = .identifier || (← isWord "yield"))
    let e ←
      if asyncParameter then do
        let argument ← primary g
        pure (placeHolder [← asPattern argument] true)
      else pure e
    if e.isKind arrowParameters || (← isSign "=>") then
      isNoTarget
      let isAsync := e.field? "async" matches some (.bool true)
      match ← arrowFormals e with
      | some ps => arrowRest g start ps isAsync
      | none => return e
    else if ← isAssignment then assignmentRest g start lexeme e
    else return e

/-! ## Declarations -/

def arrayPattern (g : Grammar) (declarator : Declarator) : Parse (Tree × List Lexeme) := do
  let start ← here
  expect "["
  let rec elements : Nat → Parse (List Tree × List Lexeme)
    | 0 => return ([], [])
    | fuel + 1 => do
      if ← isSign "]" then return ([], [])
      else if ← isSign "," then
        let _ ← next
        let (ts, names) ← elements fuel
        return (Json.null :: ts, names)
      else if ← isSign "..." then
        let start ← here
        expect "..."
        let (argument, names) ← g.pattern declarator
        let t ← finish start "RestElement" [("argument", some argument)]
        return ([t], names)
      else
        let (t, names) ← withDefault g declarator
        unless ← isSign "]" do expect ","
        let (ts, others) ← elements fuel
        return (t :: ts, names ++ others)
  let (ts, names) ← elements ((← get).cursor.size + 2)
  expect "]"
  let t ← finish start "ArrayPattern" [("elements", some (.list ts))]
  return (t, names)

def propertyPattern (g : Grammar) (declarator : Declarator) : Parse (Tree × List Lexeme) := do
  let start ← here
  let lexeme ← ahead
  if lexeme.kind = .identifier then
    let key ← bindingName .parameter
    let init ← identifier start lexeme.value
    if ← isSign "=" then
      let _ ← next
      let e ← g.assignment
      let value ← finish start "AssignmentPattern" [("left", some init), ("right", some e)]
      return (← property start "init" key false value false true, [lexeme])
    else if ← isSign ":" then
      let _ ← next
      let (value, names) ← withDefault g declarator
      return (← property start "init" key false value false false, names)
    else return (← property start "init" key false init false true, [lexeme])
  else
    let computed ← isSign "["
    let key ← propertyKey g
    expect ":"
    let (value, names) ← withDefault g declarator
    return (← property start "init" key computed value false false, names)

def restProperty (g : Grammar) (declarator : Declarator) : Parse (Tree × List Lexeme) := do
  let start ← here
  expect "..."
  let (argument, names) ← g.pattern declarator
  if ← isSign "=" then fail .restDefault
  unless ← isSign "\x7d" do fail .misplaced
  let t ← finish start "RestElement" [("argument", some argument)]
  return (t, names)

def objectPattern (g : Grammar) (declarator : Declarator) : Parse (Tree × List Lexeme) := do
  let start ← here
  expect "\x7b"
  let parts ← collect do
    if ← isSign "\x7d" then return none
    else
      let part ← if ← isSign "..." then restProperty g declarator else propertyPattern g declarator
      unless ← isSign "\x7d" do expect ","
      return some part
  expect "\x7d"
  let t ← finish start "ObjectPattern" [("properties", some (.list (parts.map (·.1))))]
  return (t, parts.flatMap (·.2))

def pattern (g : Grammar) (declarator : Declarator) : Parse (Tree × List Lexeme) := do
  if ← isSign "[" then arrayPattern g declarator
  else if ← isSign "\x7b" then objectPattern g declarator
  else
    let lexeme ← ahead
    match declarator with
    | .lexical _ => if ← isWord "let" then failAt lexeme .lexicalLet
    | _ => pure ()
    let t ← bindingName declarator
    return (t, [lexeme])

def declaratorNode (start : Nat) (id : Tree) (init : Option Tree) : Parse Tree :=
  finish start "VariableDeclarator" [("id", some id), ("init", init)]

def checkVariableName (id : Tree) : Parse Unit := do
  if (← get).strict && isRestrictedName id then fail .strictVariable

def lexicalBinding (g : Grammar) (isConst inFor : Bool) : Parse Tree := do
  let start ← here
  let (id, _) ← pattern g (.lexical isConst)
  checkVariableName id
  let init ←
    if isConst then
      if (← isWord "in") || (← isContextual "of") then pure none
      else if ← isSign "=" then do
        let _ ← next
        pure (some (← isolate g.assignment))
      else fail .constInitializer
    else if (!inFor && !(id.isKind "Identifier")) || (← isSign "=") then do
      expect "="
      pure (some (← isolate g.assignment))
    else pure none
  declaratorNode start id init

def variableBinding (g : Grammar) (inFor : Bool) : Parse Tree := do
  let start ← here
  let (id, _) ← pattern g .variable
  checkVariableName id
  let init ←
    if ← isSign "=" then do
      let _ ← next
      pure (some (← isolate g.assignment))
    else do
      if !(id.isKind "Identifier") && !inFor then expect "="
      pure none
  declaratorNode start id init

/-- Items with commas between them, at least one. -/
def commaList (item : Parse Tree) : Parse (List Tree) := do
  let first ← item
  let others ← collect do
    if ← isSign "," then
      let _ ← next
      return some (← item)
    else return none
  return first :: others

def declarationNode (start : Nat) (declarations : List Tree) (kind : Text) : Parse Tree :=
  finish start "VariableDeclaration"
    [("declarations", some (.list declarations)), ("kind", some (.text kind))]

def lexicalDeclaration (g : Grammar) : Parse Tree := do
  let start ← here
  let lexeme ← next
  let declarations ← commaList (lexicalBinding g (lexeme.word == "const") false)
  semicolon
  declarationNode start declarations lexeme.value

def variableStatement (g : Grammar) : Parse Tree := do
  let start ← here
  expectWord "var"
  let declarations ← commaList (variableBinding g false)
  semicolon
  declarationNode start declarations "var"

/-- What follows `let` begins a binding. -/
def isLexicalDeclaration : Parse Bool := do
  let lexeme ← glance
  return lexeme.kind = .identifier
    || (lexeme.kind = .punctuator && (lexeme.word == "[" || lexeme.word == "\x7b"))
    || (lexeme.kind = .keyword && (lexeme.word == "let" || lexeme.word == "yield"))

def classDeclaration (g : Grammar) (nameIsOptional : Bool) : Parse Tree :=
  classRest g "ClassDeclaration" do
    if nameIsOptional && (← ahead).kind != .identifier then return none
    else return some (← bindingName .parameter)

/-! ## Statements -/

def block (g : Grammar) : Parse Tree := do
  let start ← here
  expect "\x7b"
  let items ← collect do
    if ← isSign "\x7d" then return none else return some (← g.listItem)
  expect "\x7d"
  finish start "BlockStatement" [("body", some (.list items))]

def expressionStatement (g : Grammar) : Parse Tree := do
  let start ← here
  let e ← sequence g
  semicolon
  finish start "ExpressionStatement" [("expression", some e)]

/-- A condition in parentheses. -/
def inParentheses (g : Grammar) : Parse Tree := do
  expect "("
  let e ← sequence g
  expect ")"
  return e

def ifClause (g : Grammar) : Parse Tree := do
  if (← get).strict && (← isWord "function") then fail .strictFunction
  g.statement

def ifStatement (g : Grammar) : Parse Tree := do
  let start ← here
  expectWord "if"
  let test ← inParentheses g
  let consequent ← ifClause g
  let alternate ←
    if ← isWord "else" then do
      let _ ← next
      pure (some (← ifClause g))
    else pure none
  finish start "IfStatement"
    [("test", some test), ("consequent", some consequent), ("alternate", alternate)]

def doWhileStatement (g : Grammar) : Parse Tree := do
  let start ← here
  expectWord "do"
  let body ← inLoop g.statement
  expectWord "while"
  let test ← inParentheses g
  if ← isSign ";" then
    let _ ← next
  finish start "DoWhileStatement" [("body", some body), ("test", some test)]

def whileStatement (g : Grammar) : Parse Tree := do
  let start ← here
  expectWord "while"
  let test ← inParentheses g
  let body ← inLoop g.statement
  finish start "WhileStatement" [("test", some test), ("body", some body)]

/-- The head of a loop: its three parts, or the two sides of an iteration. -/
inductive LoopHead where
  | steps (init : Option Tree)
  | over (kind : String) (left right : Tree)

/-- An iteration after its left side. -/
def iterateIn (g : Grammar) (left : Tree) : Parse LoopHead := do
  let _ ← next
  return .over "ForInStatement" left (← sequence g)

def iterateOf (g : Grammar) (left : Tree) : Parse LoopHead := do
  let _ ← next
  return .over "ForOfStatement" left (← g.assignment)

def hasInit (declaration : Tree) : Bool :=
  (declaration.field? "init").isSome

def isPatternNode (t : Tree) : Bool :=
  t.isKind "ArrayPattern" || t.isKind "ObjectPattern"

def loopVariables (g : Grammar) : Parse LoopHead := do
  let start ← here
  let _ ← next
  let declarations ← withIn false (commaList (variableBinding g true))
  match declarations with
  | [d] =>
    if ← isWord "in" then
      let isPattern := (d.field? "id").any isPatternNode
      if hasInit d && (isPattern || (← get).strict) then fail .loopInitializer
      iterateIn g (← declarationNode start declarations "var")
    else if !hasInit d && (← isContextual "of") then
      iterateOf g (← declarationNode start declarations "var")
    else
      let t ← declarationNode start declarations "var"
      expect ";"
      return .steps (some t)
  | _ =>
    let t ← declarationNode start declarations "var"
    expect ";"
    return .steps (some t)

def loopLexicals (g : Grammar) : Parse LoopHead := do
  let start ← here
  let lexeme ← next
  let s ← get
  if !s.strict && s.ahead.word == "in" then
    iterateIn g (← identifier start lexeme.value)
  else
    let declarations ←
      withIn false (commaList (lexicalBinding g (lexeme.word == "const") true))
    let single := declarations.length == 1 && !(declarations.any hasInit)
    if single && (← isWord "in") then
      iterateIn g (← declarationNode start declarations lexeme.value)
    else if single && (← isContextual "of") then
      iterateOf g (← declarationNode start declarations lexeme.value)
    else
      semicolon
      return .steps (some (← declarationNode start declarations lexeme.value))

def loopExpression (g : Grammar) : Parse LoopHead := do
  let start ← here
  let init ← withIn false (inherit g.assignment)
  let assignable := (← get).isAssignmentTarget && !(init.isKind "AssignmentExpression")
  if ← isWord "in" then
    unless assignable do fail .invalidForIn
    iterateIn g (← asPattern init)
  else if ← isContextual "of" then
    unless assignable do fail .invalidForLoop
    iterateOf g (← asPattern init)
  else
    let others ← collect do
      if ← isSign "," then
        let _ ← next
        return some (← isolate g.assignment)
      else return none
    let init ←
      if others.isEmpty then pure init
      else finish start "SequenceExpression" [("expressions", some (.list (init :: others)))]
    expect ";"
    return .steps (some init)

def forStatement (g : Grammar) : Parse Tree := do
  let start ← here
  expectWord "for"
  expect "("
  let head ←
    if ← isSign ";" then do
      let _ ← next
      pure (LoopHead.steps none)
    else if ← isWord "var" then loopVariables g
    else if (← isWord "const") || (← isWord "let") then loopLexicals g
    else loopExpression g
  match head with
  | .steps init =>
    let test ← if ← isSign ";" then pure none else do pure (some (← sequence g))
    expect ";"
    let change ← if ← isSign ")" then pure none else do pure (some (← sequence g))
    expect ")"
    let body ← inLoop (isolate g.statement)
    finish start "ForStatement"
      [("init", init), ("test", test), ("update", change), ("body", some body)]
  | .over kind left right =>
    expect ")"
    let body ← inLoop (isolate g.statement)
    finish start kind [("left", some left), ("right", some right), ("body", some body)]

/-- The label after `break` or `continue`. -/
def jumpLabel : Parse (Option Tree) := do
  let s ← get
  if s.ahead.kind = .identifier && !s.newline then
    let id ← bindingName .parameter
    let name := id.name?.getD []
    unless (← get).labels.contains name do fail (.labelUnknown name)
    return some id
  else return none

def continueStatement : Parse Tree := do
  let start ← here
  expectWord "continue"
  let label ← jumpLabel
  semicolon
  if label.isNone && !(← get).inIteration then fail .illegalContinue
  finish start "ContinueStatement" [("label", label)]

def breakStatement : Parse Tree := do
  let start ← here
  expectWord "break"
  let label ← jumpLabel
  semicolon
  let s ← get
  if label.isNone && !s.inIteration && !s.inSwitch then fail .illegalBreak
  finish start "BreakStatement" [("label", label)]

def returnStatement (g : Grammar) : Parse Tree := do
  unless (← get).inFunctionBody do fail .illegalReturn
  let start ← here
  expectWord "return"
  let s ← get
  let ends := (← isSign ";") || (← isSign "\x7d") || s.newline || s.ahead.kind = .endOfInput
  let hasArgument := !ends || s.ahead.kind = .string || s.ahead.kind = .template
  let argument ← if hasArgument then do pure (some (← sequence g)) else pure none
  semicolon
  finish start "ReturnStatement" [("argument", argument)]

def withStatement (g : Grammar) : Parse Tree := do
  if (← get).strict then fail .strictWith
  let start ← here
  expectWord "with"
  let object ← inParentheses g
  let body ← g.statement
  finish start "WithStatement" [("object", some object), ("body", some body)]

/-- A case of a switch, and whether it is the default. -/
def switchCase (g : Grammar) : Parse (Tree × Bool) := do
  let start ← here
  let test ←
    if ← isWord "default" then do
      let _ ← next
      pure none
    else do
      expectWord "case"
      pure (some (← sequence g))
  expect ":"
  let consequent ← collect do
    if (← isSign "\x7d") || (← isWord "default") || (← isWord "case") then return none
    else return some (← g.listItem)
  let t ← finish start "SwitchCase" [("test", test), ("consequent", some (.list consequent))]
  return (t, test.isNone)

def switchStatement (g : Grammar) : Parse Tree := do
  let start ← here
  expectWord "switch"
  let discriminant ← inParentheses g
  let rec cases : Nat → Bool → Parse (List Tree)
    | 0, _ => return []
    | fuel + 1, hasDefault => do
      if ← isSign "\x7d" then return []
      else
        let (t, isDefault) ← switchCase g
        if isDefault && hasDefault then fail .twoDefaults
        return t :: (← cases fuel (hasDefault || isDefault))
  let clauses ← within (fun s => { s with inSwitch := true })
    (do
      expect "\x7b"
      let clauses ← cases ((← get).cursor.size + 2) false
      expect "\x7d"
      return clauses)
    (fun before after => { after with inSwitch := before.inSwitch })
  finish start "SwitchStatement"
    [("discriminant", some discriminant), ("cases", some (.list clauses))]

/-- The statement after a label. -/
def labelledBody (g : Grammar) : Parse Tree := do
  let lexeme ← ahead
  if ← isWord "class" then unexpected lexeme
  else if ← isWord "function" then
    let t ← functionDeclaration g false
    if (← get).strict then failAt lexeme .strictFunction
    if t.field? "generator" matches some (.bool true) then failAt lexeme .legacyGenerator
    return t
  else g.statement

/-- A statement that begins with a name: it may be a label. -/
def labelledStatement (g : Grammar) : Parse Tree := do
  let start ← here
  let e ← sequence g
  if e.isKind "Identifier" && (← isSign ":") then
    let _ ← next
    let name := e.name?.getD []
    if (← get).labels.contains name then fail (.labelDeclared name)
    modify fun s => { s with labels := name :: s.labels }
    let body ← labelledBody g
    modify fun s => { s with labels := s.labels.erase name }
    finish start "LabeledStatement" [("label", some e), ("body", some body)]
  else
    semicolon
    finish start "ExpressionStatement" [("expression", some e)]

def throwStatement (g : Grammar) : Parse Tree := do
  let start ← here
  expectWord "throw"
  if (← get).newline then fail .throwNewline
  let argument ← sequence g
  semicolon
  finish start "ThrowStatement" [("argument", some argument)]

/-- The first name that stands twice, as it is met. -/
def firstRepeated : List Text → List Text → Option Text
  | _, [] => none
  | seen, t :: ts => if seen.contains t then some t else firstRepeated (t :: seen) ts

def catchClause (g : Grammar) : Parse Tree := do
  let start ← here
  expectWord "catch"
  expect "("
  if ← isSign ")" then unexpected (← ahead)
  let (param, names) ← pattern g .parameter
  match firstRepeated [] (names.map (·.value)) with
  | some name => fail (.duplicateBinding name)
  | none => pure ()
  if (← get).strict && isRestrictedName param then fail .strictCatch
  expect ")"
  let body ← block g
  finish start "CatchClause" [("param", some param), ("body", some body)]

def tryStatement (g : Grammar) : Parse Tree := do
  let start ← here
  expectWord "try"
  let body ← block g
  let handler ← if ← isWord "catch" then do pure (some (← catchClause g)) else pure none
  let finalizer ←
    if ← isWord "finally" then do
      let _ ← next
      pure (some (← block g))
    else pure none
  if handler.isNone && finalizer.isNone then fail .noCatch
  finish start "TryStatement"
    [("block", some body), ("handler", handler), ("finalizer", finalizer)]

def statement (g : Grammar) : Parse Tree := do
  let lexeme ← ahead
  match lexeme.kind with
  | .punctuator =>
    match lexeme.word with
    | "\x7b" => block g
    | ";" =>
      let start ← here
      expect ";"
      finish start "EmptyStatement" []
    | _ => expressionStatement g
  | .identifier =>
    if ← isAsyncFunction then functionDeclaration g false else labelledStatement g
  | .keyword =>
    match lexeme.word with
    | "break" => breakStatement
    | "continue" => continueStatement
    | "debugger" =>
      let start ← here
      let _ ← next
      semicolon
      finish start "DebuggerStatement" []
    | "do" => doWhileStatement g
    | "for" => forStatement g
    | "function" => functionDeclaration g false
    | "if" => ifStatement g
    | "return" => returnStatement g
    | "switch" => switchStatement g
    | "throw" => throwStatement g
    | "try" => tryStatement g
    | "var" => variableStatement g
    | "while" => whileStatement g
    | "with" => withStatement g
    | _ => expressionStatement g
  | .endOfInput => unexpected lexeme
  | _ => expressionStatement g

/-! ## Modules -/

def moduleSource : Parse Tree := do
  let start ← here
  let lexeme ← ahead
  if lexeme.kind != .string then fail .misplaced
  let _ ← next
  stringLiteral start lexeme

/-- What is wrong where the word `from` should stand. -/
def missingFrom {α : Type} : Parse α := do
  let lexeme ← ahead
  if lexeme.value.isEmpty then fail .misplaced else fail (.unexpectedToken lexeme.value)

def importSpecifier : Parse Tree := do
  let start ← here
  let bound := (← ahead).kind = .identifier
  let imported ← if bound then bindingName .parameter else anyName
  let local' ←
    if ← isContextual "as" then do
      let _ ← next
      bindingName .parameter
    else if bound then pure imported
    else do
      let lexeme ← next
      unexpected lexeme
  finish start "ImportSpecifier" [("local", some local'), ("imported", some imported)]

def namedImports : Parse (List Tree) := do
  expect "\x7b"
  let specifiers ← collect do
    if ← isSign "\x7d" then return none
    else
      let t ← importSpecifier
      unless ← isSign "\x7d" do expect ","
      return some t
  expect "\x7d"
  return specifiers

def namespaceImport : Parse Tree := do
  let start ← here
  expect "*"
  unless ← isContextual "as" do fail .misplaced
  let _ ← next
  let local' ← anyName
  finish start "ImportNamespaceSpecifier" [("local", some local')]

def defaultImport : Parse Tree := do
  let start ← here
  let local' ← anyName
  finish start "ImportDefaultSpecifier" [("local", some local')]

def importClause : Parse (List Tree) := do
  if ← isSign "\x7b" then namedImports
  else if ← isSign "*" then return [← namespaceImport]
  else if isName (← ahead) && !(← isWord "default") then
    let first ← defaultImport
    if ← isSign "," then
      let _ ← next
      if ← isSign "*" then return [first, ← namespaceImport]
      else if ← isSign "\x7b" then return first :: (← namedImports)
      else unexpected (← ahead)
    else return [first]
  else
    let lexeme ← next
    unexpected lexeme

def importDeclaration : Parse Tree := do
  if (← get).inFunctionBody then fail .misplaced
  let start ← here
  expectWord "import"
  let specifiers ←
    if (← ahead).kind = .string then pure []
    else do
      let specifiers ← importClause
      unless ← isContextual "from" do missingFrom
      let _ ← next
      pure specifiers
  let source ← moduleSource
  semicolon
  finish start "ImportDeclaration" [("specifiers", some (.list specifiers)), ("source", some source)]

def exportSpecifier : Parse Tree := do
  let start ← here
  let local' ← anyName
  let exported ←
    if ← isContextual "as" then do
      let _ ← next
      anyName
    else pure local'
  finish start "ExportSpecifier" [("exported", some exported), ("local", some local')]

def exportDefault (g : Grammar) (start : Nat) : Parse Tree := do
  let _ ← next
  let declaration ←
    if ← isWord "function" then functionDeclaration g true
    else if ← isWord "class" then classDeclaration g true
    else if ← isContextual "async" then do
      if ← isAsyncFunction then functionDeclaration g true else g.assignment
    else do
      if ← isContextual "from" then fail (.unexpectedToken "from")
      let e ←
        if ← isSign "\x7b" then objectLiteral g
        else if ← isSign "[" then arrayLiteral g
        else g.assignment
      semicolon
      pure e
  finish start "ExportDefaultDeclaration" [("declaration", some declaration)]

def exportAll (start : Nat) : Parse Tree := do
  let _ ← next
  unless ← isContextual "from" do missingFrom
  let _ ← next
  let source ← moduleSource
  semicolon
  finish start "ExportAllDeclaration" [("source", some source)]

def exportNamed (start : Nat) (declaration : Option Tree) (specifiers : List Tree)
    (source : Option Tree) : Parse Tree :=
  finish start "ExportNamedDeclaration"
    [("declaration", declaration), ("specifiers", some (.list specifiers)), ("source", source)]

def exportList (start : Nat) : Parse Tree := do
  expect "\x7b"
  let specifiers ← collect do
    if ← isSign "\x7d" then return none
    else
      let isDefault ← isWord "default"
      let t ← exportSpecifier
      unless ← isSign "\x7d" do expect ","
      return some (t, isDefault)
  expect "\x7d"
  let source ←
    if ← isContextual "from" then do
      let _ ← next
      let source ← moduleSource
      semicolon
      pure (some source)
    else if specifiers.any (·.2) then missingFrom
    else do
      semicolon
      pure none
  exportNamed start none (specifiers.map (·.1)) source

def exportDeclaration (g : Grammar) : Parse Tree := do
  if (← get).inFunctionBody then fail .misplaced
  let start ← here
  expectWord "export"
  let lexeme ← ahead
  if ← isWord "default" then exportDefault g start
  else if ← isSign "*" then exportAll start
  else if lexeme.kind = .keyword then
    match lexeme.word with
    | "let" | "const" => exportNamed start (some (← lexicalDeclaration g)) [] none
    | "var" | "class" | "function" => exportNamed start (some (← g.listItem)) [] none
    | _ => unexpected lexeme
  else if ← isAsyncFunction then exportNamed start (some (← functionDeclaration g false)) [] none
  else if lexeme.kind = .identifier then
    let specifier ← exportSpecifier
    semicolon
    exportNamed start none [specifier] none
  else exportList start

/-- A statement or a declaration. -/
def listItem (g : Grammar) : Parse Tree := do
  modify fun s => { s with isAssignmentTarget := true, isBindingElement := true }
  let s ← get
  if s.ahead.kind = .keyword then
    match s.ahead.word with
    | "export" =>
      unless s.isModule do failAt s.ahead .misplaced
      exportDeclaration g
    | "import" =>
      if ← isImportCall then expressionStatement g
      else
        unless s.isModule do failAt s.ahead .misplaced
        importDeclaration
    | "const" => lexicalDeclaration g
    | "function" => functionDeclaration g false
    | "class" => classDeclaration g false
    | "let" => if ← isLexicalDeclaration then lexicalDeclaration g else statement g
    | _ => statement g
  else statement g

/-! ## Programs -/

/-- The readers one level further out. -/
def deeper (g : Grammar) : Grammar where
  validPattern := g.validPattern
  assignment := assignment g
  unary := unary g
  exponentiation := exponentiation g
  leftHandSide := leftHandSide g
  callee := callee g
  statement := statement g
  listItem := listItem g
  pattern := pattern g

/-- Readers that refuse everything. -/
def Grammar.empty (validPattern : Text → Text → Bool) : Grammar where
  validPattern
  assignment := fail .illegal
  unary := fail .illegal
  exponentiation := fail .illegal
  leftHandSide := fail .illegal
  callee := fail .illegal
  statement := fail .illegal
  listItem := fail .illegal
  pattern := fun _ => fail .illegal

def Grammar.deepenBy (g : Grammar) : Nat → Grammar
  | 0 => g
  | n + 1 => (deeper g).deepenBy n

def grammar (validPattern : Text → Text → Bool) (levels : Nat) : Grammar :=
  (Grammar.empty validPattern).deepenBy levels

/-- The state at the beginning of a script, before its first lexeme. -/
def State.initial (source : Text) : State :=
  let cursor : Cursor := ⟨source, 0, if source.isEmpty then 0 else 1, [], false, source.length⟩
  { cursor
    ahead := Cursor.lexeme cursor cursor .endOfInput []
    newline := false
    start := cursor
    lastIndex := 0
    lastLine := cursor.line
    isModule := false
    allowAwait := false
    allowIn := true
    allowStrictDirective := true
    allowYield := true
    coverFault := none
    isAssignmentTarget := false
    isBindingElement := false
    inFunctionBody := false
    inIteration := false
    inSwitch := false
    labels := []
    strict := false }

def programBody (g : Grammar) : Parse Tree := do
  let start ← here
  let head ← directives g
  let body ← collect do
    if ← isEnd then return none else return some (← g.listItem)
  finish start "Program" [("body", some (.list (head ++ body)))]

/-- The tree of a script or a module. -/
def parse (validPattern : Text → Text → Bool) (isModule : Bool) (source : Text) :
    Except SyntaxFault Tree :=
  let read : Parse Tree := do
    let s ← get
    advance s.ahead.line s.cursor
    modify fun s => { s with
      lastIndex := s.cursor.index
      lastLine := s.cursor.line
      isModule
      strict := isModule
      cursor := { s.cursor with isModule } }
    programBody (grammar validPattern (8 * (source.length + 2)))
  (read (State.initial source)).map (·.1)

end VeiledGateway.Script
