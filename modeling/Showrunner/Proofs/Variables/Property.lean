import Showrunner.Proofs.Variables.Literal

namespace Showrunner

namespace SpriteProperty

variable {suffix : String} {p : SpriteProperty}

theorem lowerAscii_mem (h : ofSuffix? suffix = some p) :
    Text.lowerAscii suffix ∈ ["x", "y", "w", "width", "h", "height", "speed"] := by
  unfold ofSuffix? at h
  split at h <;> simp_all

theorem not_mem_suffix (h : ofSuffix? suffix = some p) {c : Char}
    (hc : ∀ w ∈ ["x", "y", "w", "width", "h", "height", "speed"], c.toLower ∉ w.toList) :
    c ∉ suffix.toList := by
  intro hm
  refine hc _ (lowerAscii_mem h) ?_
  rw [Text.lowerAscii, String.toList_ofList]
  exact List.mem_map_of_mem hm

end SpriteProperty

namespace Variables

theorem not_mem_reserved {name : String} (hn : '.' ∈ name.toList) : name ∉ reserved := by
  have hr : ∀ r ∈ reserved, '.' ∉ r.toList := by decide
  exact fun h => hr name h hn

/-- A tag and a property in braces stand for the property of the sprite that is placed under the
name that a variable of the scene would have. -/
theorem expand_property {tag suffix scene : String} {p : SpriteProperty} {x : Float}
    {stage : Stage} (ht : '\x7d' ∉ tag.toList) (hp : SpriteProperty.ofSuffix? suffix = some p)
    (hx : stage.property? (qualify tag scene) p = some x) (v : Variables) (d : Dice) :
    v.expand ("$\x7b" ++ tag ++ "." ++ suffix ++ "\x7d") scene stage d =
      ⟨Decimal.numberText x, [], d⟩ := by
  have hdot : '.' ∉ suffix.toList := SpriteProperty.not_mem_suffix hp (by decide)
  have hbrace : '\x7d' ∉ suffix.toList := SpriteProperty.not_mem_suffix hp (by decide)
  let name := tag.toList ++ '.' :: suffix.toList
  have hl : ("$\x7b" ++ tag ++ "." ++ suffix ++ "\x7d").toList =
      '$' :: '\x7b' :: (name ++ ['\x7d']) := by
    simp [name, String.toList_append]
  have hname : '\x7d' ∉ name := by simp [name, ht, hbrace]
  have hfree : String.ofList name ∉ reserved := not_mem_reserved (by simp [name])
  have hsplit : Text.splitLast (· == '.') name = some (tag.toList, suffix.toList) :=
    Text.splitLast_append rfl
      (fun c hc => beq_false_of_ne fun (h : c = '.') => hdot (h ▸ hc)) _
  have hs : spriteValue? (.ofList name) scene stage = some (Decimal.numberText x) := by
    simp [spriteValue?, hsplit, hp, hx]
  have hr : v.resolve? name true scene stage d = (some (Decimal.numberText x), d) := by
    rw [resolve?_settled (not_mem_drawing hfree) true (by simp)]
    simp [settled?, fixed?_of_not_mem hfree, hs]
  rw [expand, pieces, hl, piecesFrom_braced (by simp [name]) hname, expandPieces, hr]
  simp [piecesFrom, expandPieces]

end Variables
end Showrunner
