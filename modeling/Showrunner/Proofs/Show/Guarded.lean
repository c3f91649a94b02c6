import Showrunner.Proofs.Command.Builtin
import Showrunner.Proofs.Variables.Literal
import Showrunner.Show.Start

namespace Showrunner.Show

open Variables

/-- Runs the line if the guard before it lets it through. Otherwise nothing is done. -/
def dispatchIf (start : Show → String → Show) (s : Show) (holds : Bool)
    (line text scene : String) : Performance × Show :=
  if holds then (⟨some line, (dispatch start s line scene).1⟩, (dispatch start s line scene).2)
  else (⟨some text, false⟩, s)

variable {start : Show → String → Show} {s : Show} {text line scene : String}

/-- Looking up names that have values and do not draw leaves the show as it is. -/
theorem expand_of_safe {expanded : String}
    (he : s.vars.expand text scene s.stage s.dice = ⟨expanded, [], s.dice⟩) :
    s.expand text scene = (⟨expanded, [], s.dice⟩, s) := by
  simp [expand, he, Expansion.diagnostics, reportAll]

theorem perform_of_evaluate (start : Show → String → Show) {expanded : String}
    (he : s.vars.expand text scene s.stage s.dice = ⟨expanded, [], s.dice⟩)
    (hv : Span.evaluate s.evaluator expanded = .ok line) :
    perform start s text scene = runGuarded start s line scene := by
  unfold perform
  rw [expand_of_safe he]
  simp [Expansion.isSafe, hv]

theorem perform_of_expand (start : Show → String → Show)
    (he : s.vars.expand text scene s.stage s.dice = ⟨line, [], s.dice⟩)
    (hl : Literal line.toList) :
    perform start s text scene = runGuarded start s line scene :=
  perform_of_evaluate start he (Span.evaluate_literal s.evaluator hl)

theorem runGuarded_if (start : Show → String → Show) (s : Show) (rest scene : String) :
    runGuarded start s ("if " ++ rest) scene =
      dispatchIf start s
        (Guard.isTruthy (.ofList (Text.firstWord rest.toList)) &&
          !(Text.afterWord rest.toList).isEmpty)
        (Text.trim (.ofList (Text.afterWord rest.toList))) ("if " ++ rest) scene := by
  have ht : "if " ++ rest = .ofList ('i' :: 'f' :: ' ' :: rest.toList) := by
    rw [← String.toList_inj, String.toList_ofList, String.toList_append]
    rfl
  have hbody := Guard.body?_if rest.toList
  rw [← ht] at hbody
  unfold runGuarded dispatchIf
  rw [hbody]
  cases Guard.isTruthy (.ofList (Text.firstWord rest.toList)) &&
    !(Text.afterWord rest.toList).isEmpty with
  | true => simp only [if_true]
  | false => simp only [Bool.false_eq_true, if_false]

theorem get?_announce_of_ne {name : String} (hn : Ownable name) (hne : name ≠ "TRIGGER")
    (kind : Trigger.Kind) :
    (s.announce kind).vars.get? name scene = s.vars.get? name scene := by
  have hq : Variables.qualify "TRIGGER" topLevel = "TRIGGER" := rfl
  have hcolon : ∀ top, name.toList ≠ ':' :: top := by
    intro top h
    exact absurd (hn.chars ':' (by simp [h])) (by decide)
  have hkey : Variables.qualify name scene ≠ "TRIGGER" := by
    unfold Variables.qualify
    split
    · next h => exact absurd h (hcolon _)
    · split
      · exact hne
      · intro h
        have hm : ':' ∈ "TRIGGER".toList := by
          rw [← h]
          simp [String.toList_append]
        exact absurd hm (by decide)
  unfold announce setVar Variables.get? Variables.set
  rw [hq]
  dsimp only
  split
  · next h => exact absurd h (hcolon _)
  · rw [Table.get?_insert, Table.get?_insert, if_neg hkey, if_neg hne]

theorem literal_if {value line : String} (hv : Literal value.toList) (hl : Literal line.toList) :
    Literal ("if " ++ value ++ " " ++ line).toList := by
  have hif : Literal "if ".toList := by decide
  have hs : Literal " ".toList := by decide
  rw [String.toList_append, String.toList_append, String.toList_append]
  exact ((hif.append hv).append hs).append hl

section

variable {name value : String}

theorem perform_if (start : Show → String → Show) (hn : Ownable name)
    (hv : s.vars.get? name scene = some value) (hvl : Literal value.toList)
    (hl : Literal line.toList) :
    perform start s ("if $" ++ name ++ " " ++ line) scene =
      runGuarded start s ("if " ++ value ++ " " ++ line) scene := by
  have hif : Literal "if ".toList := by decide
  have he := expand_reference hn hv s.stage s.dice hif hl
  have ht : "if " ++ "$" = "if $" := by decide
  rw [ht] at he
  exact perform_of_expand start he (literal_if hvl hl)

/-- With an empty value, the first word of the line is taken for the condition. -/
theorem perform_if_empty (start : Show → String → Show) (hn : Ownable name)
    (hv : s.vars.get? name scene = some "") (hl : Literal line.toList) :
    perform start s ("if $" ++ name ++ " " ++ line) scene =
      dispatchIf start s
        (Guard.isTruthy (.ofList (Text.firstWord line.toList)) &&
          !(Text.afterWord line.toList).isEmpty)
        (Text.trim (.ofList (Text.afterWord line.toList))) ("if  " ++ line) scene := by
  have hs : Text.isBlank ' ' := by decide
  have hrest : (" " ++ line).toList = ' ' :: line.toList := by
    rw [String.toList_append]
    rfl
  have hword : Text.firstWord (' ' :: line.toList) = Text.firstWord line.toList := by
    simp [Text.firstWord, Text.trimStart, hs]
  have hafter : Text.afterWord (' ' :: line.toList) = Text.afterWord line.toList := by
    simp [Text.afterWord, Text.trimStart, hs]
  have ht : "if " ++ "" ++ " " ++ line = "if " ++ (" " ++ line) := by
    rw [String.append_empty, String.append_assoc]
  have ht' : "if " ++ (" " ++ line) = "if  " ++ line := by
    rw [← String.append_assoc]
    rfl
  rw [perform_if start hn hv (by decide) hl, ht, runGuarded_if, hrest, hword, hafter, ht']

theorem perform_if_value (start : Show → String → Show) (hn : Ownable name)
    (hv : s.vars.get? name scene = some value) (hne : value ≠ "") (hvl : Literal value.toList)
    (hvb : Text.Solid value.toList) (hl : Literal line.toList) (hb : Text.trim line ≠ "") :
    perform start s ("if $" ++ name ++ " " ++ line) scene =
      dispatchIf start s (Guard.isTruthy value) (Text.trim line)
        ("if " ++ value ++ " " ++ line) scene := by
  have hne' : value.toList ≠ [] := fun h => hne (String.toList_eq_nil_iff.mp h)
  have hrest : (value ++ (" " ++ line)).toList = value.toList ++ ' ' :: line.toList := by
    rw [String.toList_append, String.toList_append]
    rfl
  have ht : "if " ++ value ++ " " ++ line = "if " ++ (value ++ (" " ++ line)) := by
    rw [String.append_assoc, String.append_assoc]
  have hbody : (Text.trimStart line.toList).isEmpty = false :=
    List.isEmpty_eq_false_iff.mpr fun h => hb (Text.trim_eq_empty.mpr h)
  rw [perform_if start hn hv hvl hl, ht, runGuarded_if, hrest, Text.firstWord_append hvb hne',
    Text.afterWord_append hvb hne', Text.trim_trimStart, String.ofList_toList,
    String.ofList_toList, hbody, Bool.not_false, Bool.and_true]

/-- An action guarded by a variable runs its line if the value counts as true, and does nothing
otherwise. An empty value is no condition: then the first word of the line takes its place. -/
theorem perform_guarded (start : Show → String → Show) (hn : Ownable name) (ht : name ≠ "TRIGGER")
    (hv : s.vars.get? name scene = some value) (hvl : Literal value.toList)
    (hvb : Text.Solid value.toList) (hl : Literal line.toList) (hb : Text.trim line ≠ "")
    (kind : Trigger.Kind) :
    (Guard.isTruthy value ↔ value ≠ "" ∧ value.toList.head? ≠ some '0' ∧
      Text.lowercase value ∉ ["false", "none", "no"]) ∧
    (value ≠ "" → perform start (s.announce kind) ("if $" ++ name ++ " " ++ line) scene =
      dispatchIf start (s.announce kind) (Guard.isTruthy value) (Text.trim line)
        ("if " ++ value ++ " " ++ line) scene) ∧
    (value = "" → perform start (s.announce kind) ("if $" ++ name ++ " " ++ line) scene =
      dispatchIf start (s.announce kind)
        (Guard.isTruthy (.ofList (Text.firstWord line.toList)) &&
          !(Text.afterWord line.toList).isEmpty)
        (Text.trim (.ofList (Text.afterWord line.toList))) ("if  " ++ line) scene) := by
  have hv' : (s.announce kind).vars.get? name scene = some value :=
    (get?_announce_of_ne hn ht kind).trans hv
  refine ⟨Guard.isTruthy_iff value,
    fun hne => perform_if_value start hn hv' hne hvl hvb hl hb, ?_⟩
  rintro rfl
  exact perform_if_empty start hn hv' hl

end

def withVariable (name value : String) : Show :=
  (Show.start (640, 480) 30 Expression.evaluate .still .empty).setVar name value topLevel

theorem perform_guarded_yes :
    ((withVariable "x" "yes").announce .start).act "if $x echo hi" topLevel =
      (⟨some "echo hi", (((withVariable "x" "yes").announce .start).command "echo hi" topLevel).1⟩,
        (((withVariable "x" "yes").announce .start).command "echo hi" topLevel).2) := by
  have hn : Ownable "x" := ⟨by decide, List.all_eq_true.mp (by decide), by decide⟩
  have hv : (withVariable "x" "yes").vars.get? "x" topLevel = some "yes" := by decide +kernel
  have hl : Literal "echo hi".toList := by decide
  obtain ⟨htruthy, hact, _⟩ := perform_guarded (fun s name => (s.startScene name).2) hn (by decide)
    hv (by decide) (by decide) hl (by decide) .start
  have hs : "if $" ++ "x" ++ " " ++ "echo hi" = "if $x echo hi" := by decide
  have htrim : Text.trim "echo hi" = "echo hi" := by decide
  have hact := hact (by decide)
  rw [hs, htrim, dispatchIf, if_pos (htruthy.mpr (by decide))] at hact
  exact hact

theorem exitRequested_dispatch (start : Show → String → Show) (hb : s.registry = .builtin)
    (scene : String) : (dispatch start s "exit" scene).2.exitRequested := by
  have hw : Text.words "exit" = ["exit"] := by decide
  obtain ⟨c, found, hf, hh⟩ := exists_find? ["exit"] (fun handler _ => handler = .exit)
    (by decide +kernel)
  rw [← hb] at hf
  unfold dispatch
  simp only [hw, hf, hh]
  rfl

theorem exitRequested_perform_if_empty (start : Show → String → Show)
    (hb : s.registry = .builtin) (hv : s.vars.get? "x" topLevel = some "") :
    (perform start s "if $x echo exit" topLevel).2.exitRequested := by
  have hn : Ownable "x" := ⟨by decide, List.all_eq_true.mp (by decide), by decide⟩
  have hl : Literal "echo exit".toList := by decide
  have hrun := perform_if_empty start hn hv hl
  have hs : "if $" ++ "x" ++ " " ++ "echo exit" = "if $x echo exit" := by decide
  have hholds : (Guard.isTruthy (.ofList (Text.firstWord "echo exit".toList)) &&
      !(Text.afterWord "echo exit".toList).isEmpty) = true := by decide
  have hline : Text.trim (.ofList (Text.afterWord "echo exit".toList)) = "exit" := by decide
  rw [hs, hholds, hline, dispatchIf, if_pos rfl] at hrun
  rw [hrun]
  exact exitRequested_dispatch start hb topLevel

/-- An empty value does not count as true, and yet the exit behind it is run. -/
theorem perform_guarded_empty :
    Guard.isTruthy "" = false ∧ (withVariable "x" "").vars.get? "x" topLevel = some "" ∧
    (withVariable "x" "").exitRequested = false ∧
    (((withVariable "x" "").announce .start).act "if $x echo exit" topLevel).2.exitRequested := by
  have hn : Ownable "x" := ⟨by decide, List.all_eq_true.mp (by decide), by decide⟩
  have hv : (withVariable "x" "").vars.get? "x" topLevel = some "" := by decide +kernel
  have hv' : ((withVariable "x" "").announce .start).vars.get? "x" topLevel = some "" :=
    (get?_announce_of_ne hn (by decide) .start).trans hv
  have hb : ((withVariable "x" "").announce .start).registry = .builtin := by
    simp only [announce, setVar, withVariable, Show.start]
  have hexit := exitRequested_perform_if_empty (fun s name => (s.startScene name).2) hb hv'
  rw [← act] at hexit
  exact ⟨by decide, hv, rfl, hexit⟩

end Showrunner.Show
