import Showrunner.Proofs.Script.Unstarted
import Showrunner.Show.Frame

namespace Showrunner

/-- What a host can ask of a show. -/
inductive Call where
  | install (script : Script)
  | begin (clock : FrameClock)
  | startScene (name : String)
  | stopScene (name : String)
  | command (line scene : String)
  | frame (clock : FrameClock) (input : Input)
  | assign (name value scene : String)
  | send (effect : Effect)
  | setImageSize (tag : String) (width height : Float)
  | readDuration (text : Option String)
  | resolveTag (kind : TagKind) (scene tag : String)
  | report (d : Diagnostic)
  | takeDiagnostics
  | requestExit

namespace Call

def run (s : Show) : Call → Show
  | install script => s.install script
  | begin clock => (s.begin clock).2
  | startScene name => (s.startScene name).2
  | stopScene name => (s.stopScene name).2
  | command line scene => (s.command line scene).2
  | frame clock input => (s.frame clock input).1
  | assign name value scene => s.setVar name value scene
  | send effect => s.send effect
  | setImageSize tag width height => { s with stage := s.stage.setImageSize tag width height }
  | readDuration text => (s.readDuration text).2
  | resolveTag kind scene tag => (s.resolveTag kind scene tag).2
  | report d => s.report d
  | takeDiagnostics => s.takeDiagnostics.2
  | requestExit => { s with exitRequested := true }

/-- Only scripts that were read are installed. -/
def Proper : Call → Prop
  | install script => script.Loaded
  | _ => True

end Call

namespace Show

/-- A show that a host has come to by allowed calls, in any order. -/
inductive Reachable (allowed : Call → Prop) : Show → Prop
  | start (display : Nat × Nat) (framerate : Nat) (evaluator : Evaluator) (dice : Dice)
    (disk : Disk) : Reachable allowed (.start display framerate evaluator dice disk)
  | call {s : Show} (h : Reachable allowed s) {c : Call} (hc : allowed c) :
    Reachable allowed (c.run s)

namespace Reachable

variable {allowed : Call → Prop} {s : Show}

theorem invariant {P : Show → Prop}
    (hstart : ∀ display framerate evaluator dice disk,
      P (.start display framerate evaluator dice disk))
    (hcall : ∀ s c, P s → allowed c → P (c.run s)) (h : Reachable allowed s) : P s := by
  induction h with
  | start display framerate evaluator dice disk =>
    exact hstart display framerate evaluator dice disk
  | call _ hc ih => exact hcall _ _ ih hc

theorem mono {allowed' : Call → Prop} (hi : ∀ c, allowed c → allowed' c)
    (h : Reachable allowed s) : Reachable allowed' s :=
  h.invariant .start fun _ _ ih hc => ih.call (hi _ hc)

theorem calls {cs : List Call} (h : Reachable allowed s) (hc : ∀ c ∈ cs, allowed c) :
    Reachable allowed (cs.foldl Call.run s) := by
  induction cs generalizing s with
  | nil => exact h
  | cons c cs ih =>
    exact ih (h.call (hc c List.mem_cons_self)) fun d hd => hc d (List.mem_cons_of_mem _ hd)

end Reachable

def clickScript : Script := ⟨[.ofContent topLevel ⟨""⟩ ["on click", "echo hi"]], []⟩

def clickShow : Show :=
  [.install clickScript, .begin ⟨0, .midnight⟩, .frame ⟨40, .midnight⟩ {}].foldl Call.run
    (.start (640, 480) 30 Expression.evaluate .still .empty)

theorem loaded_clickScript : clickScript.Loaded :=
  ⟨.empty, .inr ⟨"on click\necho hi", ⟨""⟩, rfl⟩⟩

theorem reachable_of_loaded {script : Script} (h : script.Loaded) {s : Show}
    (hs : Reachable Call.Proper s) (clock clock' : FrameClock) : Reachable Call.Proper
      ([.install script, .begin clock, .frame clock' {}].foldl Call.run s) := by
  apply hs.calls
  intro c hc
  simp only [List.mem_cons, List.not_mem_nil, or_false] at hc
  rcases hc with rfl | rfl | rfl
  · exact h
  · trivial
  · trivial

theorem reachable_clickShow : Reachable Call.Proper clickShow :=
  reachable_of_loaded loaded_clickScript (.start ..) _ _

end Show
end Showrunner
