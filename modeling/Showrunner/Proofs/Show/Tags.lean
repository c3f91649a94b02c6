import Showrunner.Proofs.Scene.Tags
import Showrunner.Proofs.Show.Coherence
import Showrunner.Proofs.Show.Guarded
import Showrunner.Proofs.Variables.Property

namespace Showrunner.Show

variable {s : Show} {c : Scene} {tag : String} {sprite : Sprite}

/-- Another sprite comes before the one that a scene placed under a tag. This happens at the top
level alone, to plain tags, when a sprite has the name of the top level, a colon and the tag. -/
def Shadows (s : Show) (c : Scene) (tag : String) : Prop :=
  c.isTopLevel ∧ ':' ∉ tag.toList ∧ s.stage.hasSprite (topLevel ++ ":" ++ tag)

instance (s : Show) (c : Scene) (tag : String) : Decidable (s.Shadows c tag) :=
  inferInstanceAs (Decidable (_ ∧ _ ∧ _))

theorem resolveTag_of_hasSprite (hc : s.scene? c.name = some c) (ht : tag ≠ "")
    (hq : s.stage.hasSprite (c.qualifyTag tag)) :
    s.resolveTag .sprite c.name tag =
      (some (if s.Shadows c tag then topLevel ++ ":" ++ tag else c.qualifyTag tag), s) := by
  have hq' : holds s.stage .sprite (c.qualifyTag tag) := hq
  unfold resolveTag
  simp only [hc, Option.bind_some, Scene.resolveTag_of_holds ht hq']
  rfl

/-- What a scene places under a tag, the tag means in the scene from then on, in commands as in
references to its properties. In commands there is one exception: at the top level, a sprite that
is named after the top level comes before it. -/
theorem resolve_placed (h : Reachable Call.Proper s) (hc : c ∈ s.scenes) (ht : tag ≠ "")
    (hp : s.stage.sprites.get? (s.qualifyTag c.name tag) = some sprite) :
    (¬ s.Shadows c tag →
      s.resolveTag .sprite c.name tag = (some (s.qualifyTag c.name tag), s)) ∧
    (s.Shadows c tag →
      s.resolveTag .sprite c.name tag = (some (topLevel ++ ":" ++ tag), s)) ∧
    ('\x7d' ∉ tag.toList → ∀ suffix p, SpriteProperty.ofSuffix? suffix = some p →
      s.expand ("$\x7b" ++ tag ++ "." ++ suffix ++ "\x7d") c.name =
        (⟨Decimal.numberText (sprite.property p), [], s.dice⟩, s)) := by
  have hn := h.coherent.scene?_name hc
  have hq : s.qualifyTag c.name tag = c.qualifyTag tag := by simp [qualifyTag, hn]
  rw [hq] at hp ⊢
  have hs : s.stage.hasSprite (c.qualifyTag tag) := by
    simp [Stage.hasSprite, Table.contains, hp]
  have hr := resolveTag_of_hasSprite hn ht hs
  refine ⟨fun hn => ?_, fun hy => ?_, fun hb suffix p hsuffix => expand_of_safe ?_⟩
  · rw [hr, if_neg hn]
  · rw [hr, if_pos hy]
  · rw [Scene.qualifyTag_eq] at hp
    exact Variables.expand_property hb hsuffix (by simp [Stage.property?, hp]) s.vars s.dice

def introScript : Script :=
  ⟨[.ofContent "intro" ⟨""⟩ ["begin", "echo hi"],
    .ofContent topLevel ⟨""⟩ ["begin", "start intro"]], []⟩

theorem loaded_introScript : introScript.Loaded :=
  ⟨.empty, .inr ⟨"scene intro\nbegin\necho hi\nend scene\nbegin\nstart intro", ⟨""⟩, rfl⟩⟩

def catShow : Show :=
  [.install introScript, .send (.placeSprite "cat" "intro:cat" "intro" { x := 1, y := 2 }),
    .send (.placeSprite "cat" "cat" topLevel { x := 3, y := 4 }),
    .send (.placeSprite "cat" "main:cat" topLevel { x := 5, y := 6 })].foldl Call.run
    (.start (640, 480) 30 Expression.evaluate .still .empty)

theorem reachable_catShow : Reachable Call.Proper catShow := by
  refine (Reachable.start ..).calls fun c hc => ?_
  simp only [List.mem_cons, List.not_mem_nil, or_false] at hc
  rcases hc with rfl | rfl | rfl | rfl
  · exact loaded_introScript
  · trivial
  · trivial
  · trivial

theorem resolve_placed_intro :
    catShow.resolveTag .sprite "intro" "cat" = (some "intro:cat", catShow) ∧
    ∃ sprite, catShow.stage.sprites.get? "intro:cat" = some sprite ∧
      catShow.expand "$\x7bcat.Width\x7d" "intro" =
        (⟨Decimal.numberText sprite.width, [], catShow.dice⟩, catShow) := by
  obtain ⟨c, hc, hn⟩ : ∃ c ∈ catShow.scenes, c.name = "intro" := by decide +kernel
  have hq : catShow.qualifyTag "intro" "cat" = "intro:cat" := by decide +kernel
  have hs : (catShow.stage.sprites.get? "intro:cat").isSome := by decide +kernel
  obtain ⟨sprite, hs⟩ := Option.isSome_iff_exists.mp hs
  have hp : catShow.stage.sprites.get? (catShow.qualifyTag c.name "cat") = some sprite := by
    rw [hn, hq, hs]
  have hr := resolve_placed reachable_catShow hc (by decide) hp
  have ht : c.isTopLevel = false := by
    unfold Scene.isTopLevel
    rw [hn]
    rfl
  rw [hn, hq] at hr
  exact ⟨hr.1 fun h => by simp [h.1] at ht, sprite, hs, hr.2.2 (by decide) "Width" .width rfl⟩

/-- At the top level the tag of a cat that is placed there means another one in commands. In a
reference it does mean that cat. -/
theorem resolve_placed_shadowed :
    (catShow.stage.sprites.get? (catShow.qualifyTag topLevel "cat")).isSome ∧
    catShow.qualifyTag topLevel "cat" = "cat" ∧
    (catShow.resolveTag .sprite topLevel "cat").1 = some "main:cat" := by
  decide +kernel

end Showrunner.Show
