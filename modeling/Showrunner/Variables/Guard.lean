import Showrunner.Text.Lowercase
import Showrunner.Text.Split
import Showrunner.Text.Words

namespace Showrunner.Guard

/-- A word counts as true unless it is empty, `false`, `none`, `no`, or begins with a zero. -/
def isTruthy (word : String) : Bool :=
  match (Text.lowercase word).toList with
  | [] => false
  | '0' :: _ => false
  | w => !(["false".toList, "none".toList, "no".toList].contains w)

/-- The text behind `if` and a space, in any case. -/
def guarded? : List Char → Option (List Char)
  | i :: f :: ' ' :: rest => if i.toLower == 'i' && f.toLower == 'f' then some rest else none
  | _ => none

/-- The text to run. A guard leaves the text behind its condition if that is true and leaves
anything. A text without a guard is left as it is. -/
def body? (text : String) : Option String :=
  match guarded? (Text.trimStart text.toList) with
  | none => some text
  | some rest =>
    let (condition, body) :=
      (Text.splitFirst Text.isBlank (Text.trimStart rest)).getD (Text.trimStart rest, [])
    let body := Text.trimStart body
    if isTruthy (.ofList condition) && !body.isEmpty then some (.ofList body) else none

end Showrunner.Guard
