import Showrunner.Stage.Effect
import Showrunner.Table

namespace Showrunner

structure Sprite where
  image : String
  scene : String
  x : Float
  y : Float
  z : Float
  width : Float
  height : Float
  speed : Float

def Sprite.property (s : Sprite) : SpriteProperty → Float
  | .x => s.x
  | .y => s.y
  | .width => s.width
  | .height => s.height
  | .speed => s.speed

/-- The resources and sprites of a show and the effects sent to it so far. An image may have a
known size. -/
structure Stage where
  images : Table (Option (Float × Float))
  sounds : Table Float
  sprites : Table Sprite
  journal : Array Effect

namespace Stage

def empty : Stage := ⟨.empty, .empty, .empty, #[]⟩

instance : Inhabited Stage := ⟨empty⟩

def hasImage (s : Stage) (tag : String) : Bool := s.images.contains tag

def hasSound (s : Stage) (tag : String) : Bool := s.sounds.contains tag

def hasSprite (s : Stage) (tag : String) : Bool := s.sprites.contains tag

def imageSize? (s : Stage) (tag : String) : Option (Float × Float) := (s.images.get? tag).join

def property? (s : Stage) (tag : String) (p : SpriteProperty) : Option Float :=
  (s.sprites.get? tag).map (·.property p)

def setImageSize (s : Stage) (tag : String) (width height : Float) : Stage :=
  { s with images := s.images.insert tag (some (width, height)) }

def modifySprite (s : Stage) (tag : String) (f : Sprite → Sprite) : Stage :=
  { s with sprites := s.sprites.modify tag f }

/-- An explicit size wins over a scale, and that over the image's own size. -/
def placedSize (natural : Float × Float) (p : Placement) : Float × Float :=
  match p.width, p.height, p.scale with
  | some w, some h, _ => (w, h)
  | _, _, some (sx, sy) => (natural.1 * sx / 100, natural.2 * sy / 100)
  | _, _, none => natural

def place (s : Stage) (image sprite scene : String) (p : Placement) : Stage :=
  let (width, height) := placedSize ((s.imageSize? image).getD (0, 0)) p
  { s with sprites := s.sprites.insert sprite ⟨image, scene, p.x, p.y, p.z, width, height, 0⟩ }

/-- Changes a sprite by percentages of its present size, or of its image's own size if that is
known. -/
def rescale (s : Stage) (tag : String) (xPercent yPercent : Float) (relative : Bool) : Stage :=
  let natural := (s.sprites.get? tag).bind fun sprite => s.imageSize? sprite.image
  s.modifySprite tag fun sprite =>
    if relative then
      { sprite with
        width := sprite.width * (xPercent / 100), height := sprite.height * (yPercent / 100) }
    else match natural with
      | some (w, h) => { sprite with width := w * xPercent / 100, height := h * yPercent / 100 }
      | none => sprite

/-- A sound starts at half volume. An image that is registered already keeps its size. -/
def load (s : Stage) (tag : String) (kind : ResourceKind) : Stage :=
  if kind = .sound then { s with sounds := s.sounds.insert tag 0.5 }
  else if s.hasImage tag then s
  else { s with images := s.images.insert tag none }

/-- The registries after an effect. What takes time is taken as done. -/
def track (s : Stage) : Effect → Stage
  | .loadResource tag _ kind => s.load tag kind
  | .unloadResource tag => { s with images := s.images.erase tag, sounds := s.sounds.erase tag }
  | .setVolume tag volume => { s with sounds := s.sounds.modify tag fun _ => volume }
  | .placeSprite image sprite scene placement => s.place image sprite scene placement
  | .removeSprite sprite => { s with sprites := s.sprites.erase sprite }
  | .moveSprite sprite x y relative _ =>
    s.modifySprite sprite fun p =>
      if relative then { p with x := p.x + x, y := p.y + y } else { p with x := x, y := y }
  | .setSpeed sprite speed _ => s.modifySprite sprite fun p => { p with speed := speed }
  | .resize sprite width height _ =>
    s.modifySprite sprite fun p => { p with width := width, height := height }
  | .rescale sprite xPercent yPercent relative _ => s.rescale sprite xPercent yPercent relative
  | .changeDepth sprite step => s.modifySprite sprite fun p => { p with z := p.z + step }
  | .setDepth sprite depth => s.modifySprite sprite fun p => { p with z := depth }
  | .createGroup tag size => { s with images := s.images.insert tag size }
  | .createText tag _ => { s with images := s.images.insert tag none }
  | _ => s

def apply (s : Stage) (e : Effect) : Stage :=
  let s := s.track e
  { s with journal := s.journal.push e }

def removeScene (s : Stage) (scene : String) : Stage :=
  { s with sprites := s.sprites.filter fun _ sprite => sprite.scene != scene }

def echoes (s : Stage) : List String :=
  s.journal.toList.filterMap fun
    | .echo text => some text
    | _ => none

end Stage
end Showrunner
