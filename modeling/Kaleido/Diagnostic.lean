import Kaleido.Position
import Kaleido.Text

/-!
# Diagnostics

What can be wrong with a source, as a cause and the place that it is reported at. The wording of
a cause is its message, and most causes have a tip that goes with the excerpt of the source.
-/
namespace Kaleido

/-- The stage of the work at which a cause arises. -/
inductive Stage where
  | lexical
  | grammatical
  | semantic
  | resolution
  | generation
deriving Repr, DecidableEq

/-- What is wrong. Texts are those of the tokens and names involved. -/
inductive Cause where
  /-- A character that begins no token. -/
  | unrecognisedToken (token : String)
  /-- A token that begins no expression. -/
  | unexpectedToken (token : String)
  /-- A token that has no place where it stands, with what could stand there. -/
  | misplacedToken (token message : String)
  /-- One certain token is missing. -/
  | expectedToken (expected found : String)
  /-- A numeral that is no number. -/
  | malformedNumber (token : String)
  /-- The left side of an assignment is not a name. -/
  | invalidAssignmentTarget
  /-- A precedence outside the range of precedences. -/
  | invalidPrecedence (value : String)
  /-- An operator declared with a number of operands that it cannot have. -/
  | invalidOperandCount (operator : String) (expected received : Nat)
  /-- A name declared again with another number of parameters. -/
  | conflictingPrototype (function : String) (expected received : Nat)
  /-- An operator declared again with another precedence. -/
  | conflictingPrecedence (operator : String) (expected received : Int)
  /-- A declaration of an operator that the language has already. -/
  | builtinOperator (operator : String)
  /-- A use of a name that no enclosing scope binds. -/
  | variableNotDeclared (name : String)
  /-- A call of a function without a declaration. -/
  | unknownFunction (function : String)
  /-- A call with another number of arguments than the declaration has parameters. -/
  | unexpectedArguments (function : String) (expected received : Nat)
  /-- A second body for a function. -/
  | functionRedefined (function : String)
  /-- A failure while code is generated. -/
  | generationFailed (message : String)
deriving Repr, DecidableEq

namespace Cause

/-- The stage at which the cause arises. -/
def stage : Cause → Stage
  | .unrecognisedToken .. => .lexical
  | .unexpectedToken .. | .misplacedToken .. | .expectedToken .. | .malformedNumber .. =>
    .grammatical
  | .invalidAssignmentTarget | .invalidPrecedence .. | .invalidOperandCount ..
  | .conflictingPrototype .. | .conflictingPrecedence .. | .builtinOperator .. => .semantic
  | .variableNotDeclared .. | .unknownFunction .. | .unexpectedArguments ..
  | .functionRedefined .. => .resolution
  | .generationFailed .. => .generation

/-- The name under which a cause is reported. -/
def name : Cause → String
  | .unrecognisedToken .. => "UnrecognisedToken"
  | .unexpectedToken .. => "UnexpectedToken"
  | .misplacedToken .. => "UnexpectedTokenDetailed"
  | .expectedToken .. => "ExpectedToken"
  | .malformedNumber .. => "NumberParseError"
  | .invalidAssignmentTarget => "InvalidAssignmentTarget"
  | .invalidPrecedence .. => "InvalidPrecedence"
  | .invalidOperandCount .. => "InvalidOperandCount"
  | .conflictingPrototype .. => "ConflictingPrototype"
  | .conflictingPrecedence .. => "ConflictingPrecedence"
  | .builtinOperator .. => "BuiltinOperator"
  | .variableNotDeclared .. => "VariableNotDeclared"
  | .unknownFunction .. => "UnknownFunction"
  | .unexpectedArguments .. => "UnexpectedArguments"
  | .functionRedefined .. => "FunctionRedefined"
  | .generationFailed .. => "CodegenError"

/-- The cause in words. -/
def message : Cause → String
  | .unrecognisedToken token => "unrecognised character: " ++ Text.quoted token
  | .unexpectedToken token =>
    "unknown token when expecting an expression: " ++ Text.quoted token
  | .misplacedToken token message => message ++ ": " ++ Text.quoted token
  | .expectedToken expected found =>
    "expected '" ++ expected ++ "', found " ++ Text.quoted found
  | .malformedNumber token => "error parsing number: " ++ Text.quoted token
  | .invalidAssignmentTarget => "destination of '=' must be a variable"
  | .invalidPrecedence value =>
    "invalid precedence " ++ Text.quoted value ++ ": must be 1..100"
  | .invalidOperandCount operator expected received =>
    "invalid number of operands for operator " ++ Text.quoted operator ++ ": expected " ++
      expected.repr ++ ", received " ++ received.repr
  | .conflictingPrototype function expected received =>
    "function " ++ Text.quoted function ++ " redeclared with " ++ received.repr ++
      " parameters, previously " ++ expected.repr
  | .conflictingPrecedence operator expected received =>
    "operator " ++ Text.quoted operator ++ " redeclared with precedence " ++ received.repr ++
      ", previously " ++ expected.repr
  | .builtinOperator operator =>
    "built-in operator " ++ Text.quoted operator ++ " cannot be redeclared"
  | .variableNotDeclared name => "variable " ++ Text.quoted name ++ " not declared"
  | .unknownFunction function => "unknown function referenced: " ++ Text.quoted function
  | .unexpectedArguments function expected received =>
    "incorrect number of arguments passed to " ++ Text.quoted function ++ ": expected " ++
      expected.repr ++ ", received " ++ received.repr
  | .functionRedefined function => "function " ++ Text.quoted function ++ " cannot be redefined"
  | .generationFailed message => message

/-- What to do about the cause, if there is anything to say. -/
def tip? : Cause → Option String
  | .unrecognisedToken _ => none
  | .unexpectedToken token =>
    some ("Unexpected token: `" ++ token ++ "`, expected the start of an expression")
  | .misplacedToken token message => some ("Unexpected token: `" ++ token ++ "`, " ++ message)
  | .expectedToken expected found =>
    some ("expected '" ++ expected ++ "', found `" ++ found ++ "`")
  | .malformedNumber token =>
    some ("Invalid number: `" ++ token ++ "`, a number may contain at most one decimal point")
  | .invalidAssignmentTarget => some "The left side of `=` must be a variable"
  | .invalidPrecedence value =>
    some ("Precedence `" ++ value ++ "` is invalid, it must be an integer between 1 and 100")
  | .invalidOperandCount operator expected received =>
    some ("Operator `" ++ operator ++ "` takes " ++ expected.repr ++ " operands, received " ++
      received.repr)
  | .conflictingPrototype function expected received =>
    some ("Function `" ++ function ++ "` was declared with " ++ expected.repr ++
      " parameters, redeclared with " ++ received.repr)
  | .conflictingPrecedence operator expected received =>
    some ("Operator `" ++ operator ++ "` already binds with precedence " ++ expected.repr ++
      ", redeclared with " ++ received.repr)
  | .builtinOperator operator =>
    some ("`" ++ operator ++ "` is a built-in binary operator and cannot be redeclared")
  | .variableNotDeclared name => some ("Variable `" ++ name ++ "` not declared")
  | .unknownFunction function =>
    some ("Function `" ++ function ++ "` is neither defined nor declared with `extern`")
  | .unexpectedArguments function expected received =>
    some ("`" ++ function ++ "` expects " ++ expected.repr ++ " arguments, received " ++
      received.repr)
  | .functionRedefined function => some ("Function `" ++ function ++ "` already has a body")
  | .generationFailed message => some message

end Cause

/-- A cause and the place that it is reported at. -/
structure Diagnostic where
  cause : Cause
  position : Position
deriving Repr, DecidableEq

/-- The cause in words, after the number of its line. -/
def Diagnostic.message (diagnostic : Diagnostic) : String :=
  "line " ++ diagnostic.position.line.toNat.repr ++ ": " ++ diagnostic.cause.message

end Kaleido
