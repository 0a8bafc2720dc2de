/-
  What can be wrong with the text of a script, and the words for it.
-/
import VeiledGateway.Text.CodePoint

set_option autoImplicit false

namespace VeiledGateway.Script

/-- A reason for which a script is refused. -/
inductive Problem where
  | illegal
  | unexpectedToken (value : Text)
  | unexpectedTemplate (value : Text)
  | unexpectedEnd
  | unexpectedIdentifier
  | unexpectedNumber
  | unexpectedString
  | unexpectedReserved
  | strictReserved
  | misplaced
  | escapedKeyword
  | hexEscape
  | templateOctal
  | strictOctal
  | regexUnterminated
  | regexInvalid
  | getterArity
  | setterArity
  | setterRest
  | asyncConstructor
  | specialConstructor
  | duplicateConstructor
  | staticPrototype
  | duplicateProto
  | constInitializer
  | restDefault
  | restNotLast
  | duplicateBinding (name : Text)
  | loopInitializer
  | legacyGenerator
  | illegalBreak
  | illegalContinue
  | illegalReturn
  | strictDirective
  | invalidTarget
  | invalidForIn
  | invalidForLoop
  | lexicalLet
  | twoDefaults
  | throwNewline
  | noCatch
  | labelDeclared (name : Text)
  | labelUnknown (name : Text)
  | strictCatch
  | strictDelete
  | strictFunction
  | strictFunctionName
  | strictAssignment
  | strictPostfix
  | strictPrefix
  | strictWith
  | strictDuplicate
  | strictParameter
  | strictVariable
deriving DecidableEq

def Problem.message : Problem → Text
  | .illegal => "Unexpected token ILLEGAL"
  | .unexpectedToken value => ("Unexpected token " : Text) ++ value
  | .unexpectedTemplate value => ("Unexpected quasi " : Text) ++ value
  | .unexpectedEnd => "Unexpected end of input"
  | .unexpectedIdentifier => "Unexpected identifier"
  | .unexpectedNumber => "Unexpected number"
  | .unexpectedString => "Unexpected string"
  | .unexpectedReserved => "Unexpected reserved word"
  | .strictReserved => "Use of future reserved word in strict mode"
  | .misplaced => "Unexpected token"
  | .escapedKeyword => "Keyword must not contain escaped characters"
  | .hexEscape => "Invalid hexadecimal escape sequence"
  | .templateOctal => "Octal literals are not allowed in template strings."
  | .strictOctal => "Octal literals are not allowed in strict mode."
  | .regexUnterminated => "Invalid regular expression: missing /"
  | .regexInvalid => "Invalid regular expression"
  | .getterArity => "Getter must not have any formal parameters"
  | .setterArity => "Setter must have exactly one formal parameter"
  | .setterRest => "Setter function argument must not be a rest parameter"
  | .asyncConstructor => "Class constructor may not be an async method"
  | .specialConstructor => "Class constructor may not be an accessor"
  | .duplicateConstructor => "A class may only have one constructor"
  | .staticPrototype => "Classes may not have static property named prototype"
  | .duplicateProto => "Duplicate __proto__ fields are not allowed in object literals"
  | .constInitializer => "Missing initializer in const declaration"
  | .restDefault => "Unexpected token ="
  | .restNotLast => "Rest parameter must be last formal parameter"
  | .duplicateBinding name => ("Duplicate binding " : Text) ++ name
  | .loopInitializer => "for-in loop variable declaration may not have an initializer"
  | .legacyGenerator => "Generator declarations are not allowed in legacy contexts"
  | .illegalBreak => "Illegal break statement"
  | .illegalContinue => "Illegal continue statement"
  | .illegalReturn => "Illegal return statement"
  | .strictDirective =>
    "Illegal 'use strict' directive in function with non-simple parameter list"
  | .invalidTarget => "Invalid left-hand side in assignment"
  | .invalidForIn => "Invalid left-hand side in for-in"
  | .invalidForLoop => "Invalid left-hand side in for-loop"
  | .lexicalLet => "let is disallowed as a lexically bound name"
  | .twoDefaults => "More than one default clause in switch statement"
  | .throwNewline => "Illegal newline after throw"
  | .noCatch => "Missing catch or finally after try"
  | .labelDeclared name =>
    ("Label '" : Text) ++ name ++ ("' has already been declared" : Text)
  | .labelUnknown name => ("Undefined label '" : Text) ++ name ++ ("'" : Text)
  | .strictCatch => "Catch variable may not be eval or arguments in strict mode"
  | .strictDelete => "Delete of an unqualified identifier in strict mode."
  | .strictFunction =>
    "In strict mode code, functions can only be declared at top level or inside a block"
  | .strictFunctionName => "Function name may not be eval or arguments in strict mode"
  | .strictAssignment => "Assignment to eval or arguments is not allowed in strict mode"
  | .strictPostfix =>
    "Postfix increment/decrement may not have eval or arguments operand in strict mode"
  | .strictPrefix =>
    "Prefix increment/decrement may not have eval or arguments operand in strict mode"
  | .strictWith => "Strict mode code may not include a with statement"
  | .strictDuplicate => "Strict mode function may not have duplicate parameter names"
  | .strictParameter => "Parameter name eval or arguments is not allowed in strict mode"
  | .strictVariable => "Variable name may not be eval or arguments in strict mode"

/-- A refused script: the problem and its line, or a template that goes on where none began. -/
inductive SyntaxFault where
  | at (line : Nat) (problem : Problem)
  | headlessTemplate
deriving DecidableEq

def SyntaxFault.message : SyntaxFault → Text
  | .at line problem =>
    ("Line " : Text) ++ Text.ofNat line ++ (": " : Text) ++ problem.message
  | .headlessTemplate => "Template literal must start with a template head"

end VeiledGateway.Script
