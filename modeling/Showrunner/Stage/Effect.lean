import Showrunner.Disk.Path
import Showrunner.Text.Character

namespace Showrunner

inductive ResourceKind where
  | image
  | imageGrid (columns rows : Nat)
  | imageFolder
  | movie
  | sound
deriving DecidableEq, Repr

/-- How a move is spread over time: at once, over some seconds, or at some pixels per second. -/
inductive Motion where
  | instant
  | lasting (seconds : Float)
  | speed (pixels : Float)

/-- Where and how large a new sprite is. A scale is in percent of the image's own size. -/
structure Placement where
  x : Float
  y : Float
  z : Float := 0
  width : Option Float := none
  height : Option Float := none
  scale : Option (Float × Float) := none

inductive FontStyle where
  | bold
  | italic
  | underline
deriving DecidableEq, Repr

inductive FontFeature where
  | color (name : String)
  | background (name : String)
  | style (style : FontStyle)
  | size (points : Nat)
deriving DecidableEq, Repr

/-- A change to the presentation. Changes that take time say over how many seconds. -/
inductive Effect where
  | echo (text : String)
  | loadResource (tag : String) (path : Path) (kind : ResourceKind)
  | unloadResource (tag : String)
  | playSound (tag : String)
  | setVolume (tag : String) (volume : Float)
  | placeSprite (image sprite scene : String) (placement : Placement)
  | setWindow (sprite : String) (x y width height : Float)
  | zoomWindow (sprite : String) (width height seconds : Float)
  | scrollWindow (sprite : String) (x y seconds : Float)
  | removeSprite (sprite : String)
  | moveSprite (sprite : String) (x y : Float) (relative : Bool) (motion : Motion)
  | setSpeed (sprite : String) (speed seconds : Float)
  | setBlur (sprite : String) (blur seconds : Float)
  | resize (sprite : String) (width height seconds : Float)
  | rescale (sprite : String) (xPercent yPercent : Float) (relative : Bool) (seconds : Float)
  | rotate (sprite : String) (degrees : Float) (relative : Bool) (seconds : Float)
  | changeDepth (sprite : String) (step : Float)
  | setDepth (sprite : String) (depth : Float)
  | stepFrame (sprite : String) (step : Int)
  | seekFrame (sprite : String) (frame : Int)
  | setAnimationRate (sprite : String) (rate seconds : Float)
  | setBrightness (sprite : String) (amount : Float) (darken : Bool) (seconds : Float)
  | setTransparency (sprite : String) (amount seconds : Float)
  | setVisibility (sprite : String) (visible : Bool) (duration : Option Float)
  | setPaused (sprite : String) (paused : Bool)
  | createGroup (tag : String) (size : Option (Float × Float))
  | createText (tag content : String)
  | setText (tag content : String)
  | setFont (tag : String) (feature : FontFeature)
  | addToGroup (group sprite : String)

inductive SpriteProperty where
  | x
  | y
  | width
  | height
  | speed
deriving DecidableEq, Repr

/-- The property that a reference such as `cat.x` ends in. -/
def SpriteProperty.ofSuffix? (suffix : String) : Option SpriteProperty :=
  match Text.lowerAscii suffix with
  | "x" => some .x
  | "y" => some .y
  | "w" | "width" => some .width
  | "h" | "height" => some .height
  | "speed" => some .speed
  | _ => none

end Showrunner
