import Showrunner.Expression.Reader

namespace Showrunner

inductive EvalError where
  | expression (text : String) (failure : Expression.Failure)
  | formula (text : String) (reason : String)

def EvalError.message : EvalError → String
  | .expression text (.malformed reason) =>
    "syntax error in '" ++ text ++ "': " ++ reason.message
  | .expression text .divisionByZero => "division by zero in '" ++ text ++ "'"
  | .expression text (.illTyped fault) => "type error in '" ++ text ++ "': " ++ fault.message
  | .formula text reason => "evaluation of '" ++ text ++ "' failed: " ++ reason

/-- A language for the expressions of a script: from the text of one to the text of its value. -/
abbrev Evaluator := String → Except EvalError String

namespace Expression

/-- The value of a list of tokens. Tokens left over are reported after all failures before them. -/
def valueOf (ts : List Token) : Except Failure Value := do
  let (e, extra) := readTree ts
  let v ← e.eval
  match extra with
  | some t => throw (.malformed (.unexpected t))
  | none => return v

def evaluateTokens (text : String) : Except Failure String :=
  match lex text with
  | .error e => .error (.malformed (.lexical e))
  | .ok [] => .ok ""
  | .ok ts => (valueOf ts).map Value.text

/-- The restricted language: numbers, texts and truth values, without access to anything else. -/
def evaluate : Evaluator := fun text => (evaluateTokens text).mapError (.expression text)

end Expression
end Showrunner
