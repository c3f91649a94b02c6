import Showrunner.Stage.Basic

namespace Showrunner.Stage

def owner? (s : Stage) (tag : String) : Option String := (s.sprites.get? tag).map (·.scene)

variable (s : Stage)

theorem journal_track (e : Effect) : (s.track e).journal = s.journal := by
  cases e with
  | loadResource tag path kind =>
    unfold track load
    dsimp only
    split
    · rfl
    · split <;> rfl
  | _ => rfl

theorem journal_apply (e : Effect) : (s.apply e).journal.toList = s.journal.toList ++ [e] := by
  simp [apply, journal_track]

theorem owner?_modifySprite (sprite tag : String) {f : Sprite → Sprite}
    (hf : ∀ p, (f p).scene = p.scene) : (s.modifySprite sprite f).owner? tag = s.owner? tag := by
  unfold owner? modifySprite
  rw [Table.get?_modify]
  split
  · rw [Option.map_map]
    exact Option.map_congr fun p _ => hf p
  · rfl

theorem owner?_place (image sprite scene tag : String) (p : Placement) :
    (s.place image sprite scene p).owner? tag =
      if tag = sprite then some scene else s.owner? tag := by
  unfold owner? place
  dsimp only
  rw [Table.get?_insert]
  split <;> rfl

theorem owner?_removeScene (scene tag : String) :
    (s.removeScene scene).owner? tag = (s.owner? tag).filter (· != scene) := by
  unfold owner? removeScene
  dsimp only
  rw [Table.get?_filter, Option.filter_map]
  rfl

/-- A sprite on the stage was there before the effect, under the same scene, or the effect placed
it. -/
theorem owner?_apply {e : Effect} {tag name : String} (h : (s.apply e).owner? tag = some name) :
    s.owner? tag = some name ∨ ∃ image placement, e = .placeSprite image tag name placement := by
  replace h : (s.track e).owner? tag = some name := h
  cases e with
  | placeSprite image sprite scene placement =>
    rw [track, owner?_place] at h
    split at h
    · next ht =>
      cases h
      exact .inr ⟨image, placement, by rw [ht]⟩
    · exact .inl h
  | removeSprite sprite =>
    unfold track owner? at h
    dsimp only at h
    rw [Table.get?_erase] at h
    split at h
    · cases h
    · exact .inl h
  | setSpeed | resize | changeDepth | setDepth =>
    rw [track, owner?_modifySprite] at h
    · exact .inl h
    · exact fun _ => rfl
  | moveSprite sprite x y relative motion =>
    rw [track, owner?_modifySprite] at h
    · exact .inl h
    · intro p
      split <;> rfl
  | rescale sprite xPercent yPercent relative seconds =>
    rw [track, Stage.rescale, owner?_modifySprite] at h
    · exact .inl h
    · intro p
      split
      · rfl
      · split <;> rfl
  | loadResource tag path kind =>
    unfold track load at h
    dsimp only at h
    split at h
    · exact .inl h
    · split at h <;> exact .inl h
  | _ => exact .inl h

end Showrunner.Stage
