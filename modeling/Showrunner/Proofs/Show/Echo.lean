import Showrunner.Proofs.Show.Guarded
import Showrunner.Proofs.Text.Words
import Showrunner.Proofs.Variables.Escape

namespace Showrunner

def echoMatch (ws : List String) : Pattern.Match :=
  (((Pattern.Progress.start ("echo" :: ws)).advance.bind "echo" (.text "echo")).restText
    "rest").found

theorem find?_echo (ws : List String) :
    ∃ c, Registry.builtin.find? ("echo" :: ws) = some (c, echoMatch ws) ∧ c.handler = .echo :=
  find?_of_table rfl

theorem text?_echoMatch (ws : List String) :
    ((echoMatch ws).text? "rest").getD "" = Text.unwords ws :=
  Pattern.Progress.getD_restText _ "rest"

namespace Show

open Variables

variable {s : Show}

theorem dispatch_echo (start : Show → String → Show) (hb : s.registry = .builtin)
    {line : String} {ws : List String} (hw : Text.words line = "echo" :: ws) (scene : String) :
    dispatch start s line scene = (false, s.send (.echo (Text.unwords ws))) := by
  obtain ⟨c, hf, hh⟩ := find?_echo ws
  have hr : s.reportAll [] = s := by simp [reportAll]
  have hm : (echoMatch ws).mismatches = [] := rfl
  unfold dispatch
  rw [hw, hb]
  simp only [hf, hh, hm, List.map_nil, hr, List.isEmpty_cons, Bool.false_eq_true, if_false]
  rw [← text?_echoMatch ws]
  rfl

theorem words_echo (text : String) :
    Text.words ("echo " ++ text) = "echo" :: Text.words text := by
  have hl : ("echo " ++ text).toList = ['e', 'c', 'h', 'o'] ++ ' ' :: text.toList := by
    rw [String.toList_append]
    rfl
  unfold Text.words
  rw [hl, Text.wordLists_append (by decide) (by decide) (by decide)]
  rfl

theorem runGuarded_echo (start : Show → String → Show) (hb : s.registry = .builtin)
    (text scene : String) :
    runGuarded start s ("echo " ++ text) scene =
      (⟨some (Text.trim ("echo " ++ text)), false⟩,
        s.send (.echo (Text.unwords (Text.words text)))) := by
  have hg : Guard.body? ("echo " ++ text) = some ("echo " ++ text) := by
    have hl : ("echo " ++ text).toList = 'e' :: 'c' :: 'h' :: 'o' :: ' ' :: text.toList := by
      rw [String.toList_append]
      rfl
    unfold Guard.body?
    rw [hl, Text.trimStart_cons (by decide)]
    rfl
  have hw : Text.words (Text.trim ("echo " ++ text)) = "echo" :: Text.words text := by
    rw [Text.words_trim, words_echo]
  unfold runGuarded
  rw [hg]
  dsimp only
  rw [dispatch_echo start hb hw]

theorem escape_echo (text : String) : escape ("echo " ++ text) = "echo " ++ escape text := by
  have he : Text.escaped isSpecial "echo ".toList = "echo ".toList := by decide
  unfold escape
  rw [String.toList_append, Text.escaped_append, he, String.ofList_append, String.ofList_toList]

/-- A text whose special characters are escaped is echoed word for word. No value is asked for, and
nothing is reported. -/
theorem perform_echo_escape (start : Show → String → Show) (hb : s.registry = .builtin)
    (text scene : String) :
    perform start s ("echo " ++ escape text) scene =
      (⟨some (Text.trim ("echo " ++ text)), false⟩,
        s.send (.echo (Text.unwords (Text.words text)))) ∧
    (perform start s ("echo " ++ escape text) scene).2.stage.journal =
      s.stage.journal.push (.echo (Text.unwords (Text.words text))) ∧
    (perform start s ("echo " ++ escape text) scene).2.diagnostics = s.diagnostics ∧
    Span.asked (s.expand ("echo " ++ escape text) scene).1.text = [] := by
  have he := expand_escape s.vars ("echo " ++ text) scene s.stage s.dice
  have hv := Span.evaluate_escaped s.evaluator ("echo " ++ text).toList
  rw [escape_echo] at he
  rw [String.ofList_toList] at hv
  have hp : perform start s ("echo " ++ escape text) scene = _ :=
    (perform_of_evaluate start he hv).trans (runGuarded_echo start hb text scene)
  have ha := Span.asked_escaped ("echo " ++ text).toList
  refine ⟨hp, ?_, ?_, ?_⟩
  · rw [hp]
    rfl
  · rw [hp]
    rfl
  · unfold expand
    rw [he]
    exact ha

/-- Backslashes that were in the text before are left where they were. -/
theorem perform_echo_escape_backslashes :
    (Show.start (640, 480) 30 Expression.evaluate .still .empty).act
        "echo \\\\$x  \\(\\\\)y" topLevel =
      (⟨some "echo \\$x  (\\)y", false⟩,
        (Show.start (640, 480) 30 Expression.evaluate .still .empty).send
          (.echo "\\$x (\\)y")) := by
  have hp := (perform_echo_escape (s := .start (640, 480) 30 Expression.evaluate .still .empty)
    (fun s name => (s.startScene name).2) rfl "\\$x  (\\)y" topLevel).1
  have he : "echo " ++ escape "\\$x  (\\)y" = "echo \\\\$x  \\(\\\\)y" := by decide
  have ht : Text.trim ("echo " ++ "\\$x  (\\)y") = "echo \\$x  (\\)y" := by decide
  have hw : Text.unwords (Text.words "\\$x  (\\)y") = "\\$x (\\)y" := by decide
  rwa [he, ht, hw] at hp

end Show

end Showrunner
