import Showrunner.Text.Split
import Showrunner.Text.Words

namespace Showrunner.Pattern

/-- One step of a pattern. The name of a choice is its first alternative. -/
inductive Token where
  | required (name : String)
  | optional (name : String)
  | literal (word : String)
  | choice (name : String) (others : List String)
  | flag (word : String)
  | flagBound (name : String)
  | restText (name : String)
  | restList (name : String)
  | number (name : String)
  | divider
deriving DecidableEq, Repr

inductive SpecError where
  | empty
  | malformedToken (token : String)
  | unknownMarker (marker token : String)
  | restNotLast (token : String)
deriving DecidableEq, Repr

def SpecError.message : SpecError → String
  | .empty => "pattern is empty"
  | .malformedToken token => "malformed pattern token '" ++ token ++ "' (expected <marker>/<value>)"
  | .unknownMarker marker token =>
    "unknown pattern marker '" ++ marker ++ "' in token '" ++ token ++ "'"
  | .restNotLast token => "rest token '" ++ token ++ "' must be the last token of a pattern"

namespace Token

def isRest : Token → Bool
  | .restText _ | .restList _ => true
  | _ => false

def alternatives (value : String) : Token :=
  let (name, others) := Text.splitOn '|' value
  .choice name others

/-- A token is written as a marker, a slash and a value that is not empty. The divider stands
alone. -/
def read (token : String) : Except SpecError Token :=
  if token == ":" then .ok .divider
  else match Text.splitFirst (· == '/') token.toList with
    | none | some ([], _) | some (_, []) => .error (.malformedToken token)
    | some (marker, value) =>
      let value := String.ofList value
      match marker with
      | ['+'] => .ok (.required value)
      | ['?'] => .ok (.optional value)
      | ['='] => .ok (.literal value)
      | ['|'] => .ok (alternatives value)
      | ['~'] => .ok (.flag value)
      | ['&'] => .ok (.flagBound value)
      | ['*'] => .ok (.restText value)
      | ['>'] => .ok (.restList value)
      | ['#'] => .ok (.number value)
      | _ => .error (.unknownMarker (.ofList marker) token)

def render : Token → String
  | .required name => "+/" ++ name
  | .optional name => "?/" ++ name
  | .literal word => "=/" ++ word
  | .choice name others => "|/" ++ Text.joinWith "|" (name :: others)
  | .flag word => "~/" ++ word
  | .flagBound name => "&/" ++ name
  | .restText name => "*/" ++ name
  | .restList name => ">/" ++ name
  | .number name => "#/" ++ name
  | .divider => ":"

end Token
end Showrunner.Pattern
