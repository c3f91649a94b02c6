import Showrunner.Proofs.Show.Course
import Showrunner.Proofs.Show.Guarded
import Showrunner.Proofs.Text.Words

namespace Showrunner

def startMatch (ws : List String) : Pattern.Match :=
  (((Pattern.Progress.start ("start" :: ws)).advance.bind "start" (.text "start")).bind
    "list" (.list ws)).found

theorem find?_start (ws : List String) :
    ∃ c, Registry.builtin.find? ("start" :: ws) = some (c, startMatch ws) ∧ c.handler = .start :=
  find?_of_table rfl

theorem list_startMatch (ws : List String) : (startMatch ws).list "list" = ws := by
  have hr : (startMatch ws).bindings.get? "list" = some (.list ws) := Table.get?_insert ..
  unfold Pattern.Match.list
  rw [hr]

namespace Show

open Variables

variable {s : Show} {start : Show → String → Show} {events : Show → String → List Event}
  {line name : String}

theorem words_start (hs : Text.Solid name.toList) (hne : name ≠ "") :
    Text.words ("start " ++ name) = ["start", name] := by
  have hl : ("start " ++ name).toList = ['s', 't', 'a', 'r', 't'] ++ ' ' :: name.toList := by
    rw [String.toList_append]
    rfl
  have hcut := Text.cutWord_solid_append hs []
  rw [List.append_nil] at hcut
  have hname : Text.wordLists name.toList = [name.toList] := by
    simp [Text.wordLists, hcut, Text.cutWord, hne]
  unfold Text.words
  rw [hl, Text.wordLists_append (by decide) (by decide) (by decide), hname]
  simp

theorem dispatch_start (hb : s.registry = .builtin) (hw : Text.words line = ["start", name])
    (scene : String) : dispatch start s line scene = (false, start s name) := by
  obtain ⟨c, hf, hh⟩ := find?_start [name]
  have hr : s.reportAll [] = s := by simp [reportAll]
  have hm : (startMatch [name]).mismatches = [] := rfl
  have hn : Invocation.list ⟨scene, startMatch [name]⟩ "list" = [name] := list_startMatch [name]
  unfold dispatch
  rw [hw, hb]
  simp only [hf, hh, hm, List.map_nil, hr, List.isEmpty_cons, Bool.false_eq_true, if_false,
    Handler.run, Command.run_startScenes, hn]
  rfl

theorem lineEvents_start (hb : s.registry = .builtin) (hw : Text.words line = ["start", name])
    (scene : String) : lineEvents start events s line scene = events s name := by
  obtain ⟨c, hf, hh⟩ := find?_start [name]
  have hr : s.reportAll [] = s := by simp [reportAll]
  have hm : (startMatch [name]).mismatches = [] := rfl
  have hn : Invocation.list ⟨scene, startMatch [name]⟩ "list" = [name] := list_startMatch [name]
  unfold lineEvents
  rw [hw, hb]
  simp only [hf, hh, hm, List.map_nil, hr, handlerEvents, if_true, hn, along, List.append_nil]

theorem literal_start (hl : Literal name.toList) : Literal ("start " ++ name).toList := by
  have hstart : Literal "start ".toList := by decide
  rw [String.toList_append]
  exact hstart.append hl

theorem lineOf?_literal {text : String} (hl : Literal text.toList)
    (hg : Guard.body? text = some text) (s : Show) (scene : String) :
    s.lineOf? text scene = some (Text.trim text) := by
  unfold lineOf?
  rw [expand_of_safe (expand_literal hl s.vars scene s.stage s.dice)]
  simp [Expansion.isSafe, Span.evaluate_literal s.evaluator hl, Except.toOption, hg]

theorem lineOf?_start (hl : Literal name.toList) (s : Show) (scene : String) :
    s.lineOf? ("start " ++ name) scene = some (Text.trim ("start " ++ name)) := by
  have ht : ("start " ++ name).toList = 's' :: 't' :: 'a' :: 'r' :: 't' :: ' ' :: name.toList := by
    rw [String.toList_append]
    rfl
  refine lineOf?_literal (literal_start hl) ?_ s scene
  unfold Guard.body?
  rw [ht, Text.trimStart_cons (by decide)]
  rfl

section

variable (hb : s.registry = .builtin) (hs : Text.Solid name.toList) (hne : name ≠ "")
  (hl : Literal name.toList) (scene : String)
include hb hs hne hl

theorem act_start : s.act ("start " ++ name) scene =
    (⟨some (Text.trim ("start " ++ name)), false⟩, (s.startScene name).2) := by
  have he := expand_of_safe (expand_literal (literal_start hl) s.vars scene s.stage s.dice)
  have hw : Text.words (Text.trim ("start " ++ name)) = ["start", name] := by
    rw [Text.words_trim, words_start hs hne]
  unfold act
  rw [perform_of_lineOf?_eq_some (lineOf?_start hl s scene), he, dispatch_start hb hw]

theorem actEvents_start : s.actEvents ("start " ++ name) scene =
    .performs s ("start " ++ name) scene :: s.startSceneEvents name := by
  have he := expand_of_safe (expand_literal (literal_start hl) s.vars scene s.stage s.dice)
  have hw : Text.words (Text.trim ("start " ++ name)) = ["start", name] := by
    rw [Text.words_trim, words_start hs hne]
  unfold actEvents performEvents
  rw [lineOf?_start hl s scene, he]
  dsimp only
  rw [lineEvents_start hb hw]

end

theorem startScene_of_none (hc : s.scene? name = none) :
    s.startScene name = (false, s.report (Problem.noScene name).anywhere) :=
  (startWithin_of_none hc _).1

theorem startScene_of_some {c : Scene} (hc : s.scene? name = some c)
    (hroom : s.startDepth < maxStartDepth) :
    (s.startScene name).1 ∧ ∃ es, s.startSceneEvents name = .starts c.name :: es := by
  obtain ⟨index, hi⟩ := exists_sceneIndex? hc
  obtain ⟨room, hr⟩ := exists_room hroom
  unfold startScene startSceneEvents
  rw [hr]
  unfold startWithin startEvents
  rw [hi, hc]
  exact ⟨rfl, _, rfl⟩

end Show

end Showrunner
