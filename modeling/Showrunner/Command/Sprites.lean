import Showrunner.Command.Resources

namespace Showrunner.Command

/-- The name of a new sprite: its own, or that of its image. -/
def newSpriteTag (s : Show) (inv : Invocation) (imageTag : String) : String :=
  s.qualifyTag inv.scene ((inv.text? "stag").getD imageTag)

def placement (inv : Invocation) (x y : Float) (z : Option Float) : Placement :=
  let first := inv.number? "w"
  let second := inv.number? "h"
  let base : Placement := { x := x, y := y, z := z.getD 0 }
  if inv.chose "size" "size" then { base with width := first, height := second }
  else if inv.chose "size" "scale" then
    { base with scale := first.map fun sx => (sx, second.getD sx) }
  else base

/-- Places an image as a sprite, or moves the sprite if it is placed already. -/
def place (inv : Invocation) : Act Outcome := do
  let imageTag ← inv.required "itag" "an image tag"
  let x ← inv.number "x" "an x position"
  let y ← inv.number "y" "a y position"
  let z := inv.number? "z"
  let sprite := newSpriteTag (← get) inv imageTag
  if (← get).stage.hasSprite sprite then
    Act.send (.moveSprite sprite x y false .instant)
    match z with
    | some depth => Act.send (.setDepth sprite depth)
    | none => pure ()
  else
    Act.sendTo inv .image imageTag fun image =>
      .placeSprite image sprite inv.scene (placement inv x y z)
  return .again

def anchored (anchor : String) (display image : Float × Float) (z : Float) : Placement :=
  let centreX := (display.1 - image.1) / 2
  let centreY := (display.2 - image.2) / 2
  match anchor with
  | "background" =>
    { x := 0, y := 0, z := z, width := some display.1, height := some display.2 }
  | "top" => { x := centreX, y := 0, z := z }
  | "bottom" => { x := centreX, y := display.2 - image.2, z := z }
  | "left" => { x := 0, y := centreY, z := z }
  | "right" => { x := display.1 - image.1, y := centreY, z := z }
  | "sky" => { x := 0, y := 0, z := z, width := some display.1, height := some image.2 }
  | "ground" =>
    { x := 0, y := display.2 - image.2, z := z, width := some display.1, height := some image.2 }
  | _ => { x := centreX, y := centreY, z := z }

/-- Places an image against an edge of the display, in the place of a sprite of the same name. -/
def put (inv : Invocation) : Act Outcome := do
  let imageTag ← inv.required "itag" "an image tag"
  match ← Act.resolve inv .image imageTag with
  | none => return .again
  | some image =>
    let s ← get
    let sprite := newSpriteTag s inv imageTag
    let display := (s.vars.display.1.toFloat, s.vars.display.2.toFloat)
    let anchor := Text.lowerAscii ((inv.text? "background").getD "")
    let size := (s.stage.imageSize? image).getD (0, 0)
    if s.stage.hasSprite sprite then Act.send (.removeSprite sprite)
    Act.send (.placeSprite image sprite inv.scene
      (anchored anchor display size ((inv.number? "depth").getD 0)))
    return .again

def window (inv : Invocation) : Act Outcome := do
  let x ← inv.number "ix" "a window x"
  let y ← inv.number "iy" "a window y"
  let width ← inv.number "iw" "a window width"
  let height ← inv.number "ih" "a window height"
  Act.toSprite inv "stag" fun sprite => .setWindow sprite x y width height

def zoomWindow (inv : Invocation) : Act Outcome := do
  let width ← inv.number "iw" "a window width"
  let height ← inv.number "ih" "a window height"
  let seconds ← Act.seconds inv
  Act.toSprite inv "tag" fun sprite => .zoomWindow sprite width height seconds

def moveWindow (inv : Invocation) : Act Outcome := do
  let x ← inv.number "ix" "a window x"
  let y ← inv.number "iy" "a window y"
  let seconds ← Act.seconds inv
  Act.toSprite inv "tag" fun sprite => .scrollWindow sprite x y seconds

def remove (inv : Invocation) : Act Outcome := do
  Act.toEach inv .sprite .removeSprite (inv.list "tags")
  return .again

def motion (inv : Invocation) : Act Motion := do
  let rest := inv.text? "rest"
  if inv.chose "in" "in" then return .lasting (← Act.duration rest)
  else if inv.chose "in" "at" then
    match rest.bind Duration.speed? with
    | some speed => return .speed speed
    | none => throw (.expected "a speed after 'at'")
  else return .instant

def move (inv : Invocation) : Act Outcome := do
  let x ← inv.number "x" "an x position"
  let y ← inv.number "y" "a y position"
  let motion ← motion inv
  Act.toSprite inv "tag" fun sprite => .moveSprite sprite x y (inv.chose "to" "by") motion

def speed (inv : Invocation) : Act Outcome := do
  let speed ← inv.number "speed" "a speed"
  let seconds ← Act.seconds inv
  Act.toSprite inv "tag" fun sprite => .setSpeed sprite speed seconds

def blur (inv : Invocation) : Act Outcome := do
  let blur ← inv.number "blur" "a blur amount"
  let seconds ← Act.seconds inv
  Act.toSprite inv "tag" fun sprite => .setBlur sprite blur seconds

def resize (inv : Invocation) : Act Outcome := do
  let width ← inv.number "width" "a width"
  let height ← inv.number "height" "a height"
  let seconds ← Act.seconds inv
  Act.toSprite inv "tag" fun sprite => .resize sprite width height seconds

/-- One percentage counts for both sides. -/
def rescale (inv : Invocation) : Act Outcome := do
  let xPercent ← inv.number "xpct" "a percentage"
  let yPercent := (inv.number? "ypct").getD xPercent
  let seconds ← Act.seconds inv
  Act.toSprite inv "tag" fun sprite =>
    .rescale sprite xPercent yPercent (!inv.chose "by" "to") seconds

def rotate (inv : Invocation) : Act Outcome := do
  let degrees ← inv.number "degrees" "an angle in degrees"
  let seconds ← Act.seconds inv
  Act.toSprite inv "tag" fun sprite => .rotate sprite degrees (inv.chose "to" "by") seconds

def depth (inv : Invocation) : Act Outcome := do
  let amount ← inv.number "num" "a depth"
  Act.toSprite inv "tag" fun sprite =>
    if inv.chose "by" "to" then .setDepth sprite amount
    else .changeDepth sprite (if inv.hasHeadWord "lower" then -amount else amount)

/-- Steps by some frames, one if none or zero is given, or goes to a frame. -/
def frame (inv : Invocation) : Act Outcome := do
  if inv.chose "by" "to" then
    let x ← inv.number "num" "a frame number"
    Act.toSprite inv "tag" fun sprite => .seekFrame sprite (Decimal.nearest 0 Decimal.greatestInt x)
  else
    let count := match inv.number? "num" with
      | some x => if x != 0 then Decimal.nearest Decimal.leastInt Decimal.greatestInt x else 1
      | none => 1
    Act.toSprite inv "tag" fun sprite =>
      .stepFrame sprite (if inv.hasHeadWord "reverse" then Decimal.opposite count else count)

def rate (inv : Invocation) : Act Outcome := do
  let rate ← inv.number "value" "a frame rate"
  let seconds ← Act.seconds inv
  Act.toSprite inv "tag" fun sprite => .setAnimationRate sprite rate seconds

def brightness (inv : Invocation) : Act Outcome := do
  let amount ← inv.number "value" "an amount"
  let darken := inv.hasHeadWord "darken" || inv.hasHeadWord "darkness"
  let seconds ← Act.seconds inv
  Act.toSprite inv "tag" fun sprite => .setBrightness sprite amount darken seconds

def transparency (inv : Invocation) : Act Outcome := do
  let amount ← inv.number "value" "a transparency from 0 to 100"
  let seconds ← Act.seconds inv
  Act.toSprite inv "tag" fun sprite => .setTransparency sprite (clamp 0 100 amount) seconds

def visibility (inv : Invocation) : Act Outcome := do
  let duration ← match inv.text? "time" with
    | some time => some <$> Act.duration (some time)
    | none => pure none
  Act.toSprite inv "tag" fun sprite =>
    .setVisibility sprite (!inv.hasHeadWord "hide") duration

def setPaused (paused : Bool) (inv : Invocation) : Act Outcome := do
  Act.toEach inv .sprite (.setPaused · paused) (inv.list "list")
  return .again

def twoNumbers? (text : String) : Option (Float × Float) :=
  match (Text.words text).filterMap Decimal.read? with
  | width :: height :: _ => some (width, height)
  | _ => none

def create (inv : Invocation) : Act Outcome := do
  let name ← inv.required "item_name" "a name"
  let s ← get
  let tag := s.qualifyTag inv.scene name
  if s.stage.hasImage tag then return .complete
  else
    let content := (inv.text? "content").getD ""
    Act.send (if inv.hasHeadWord "group" then .createGroup tag (twoNumbers? content)
      else .createText tag content)
    return .complete

def setText (inv : Invocation) : Act Outcome := do
  let item ← inv.required "text_item" "a text tag"
  let content := (inv.text? "rest").getD ""
  Act.sendTo inv .image item fun tag => .setText tag content
  return .again

def fontFeature (feature value : String) : Except CommandError FontFeature :=
  match Text.lowerAscii feature with
  | "color" | "colour" => .ok (.color value)
  | "background" => .ok (.background value)
  | "style" =>
    match Text.lowerAscii value with
    | "bold" => .ok (.style .bold)
    | "italic" => .ok (.style .italic)
    | "underline" => .ok (.style .underline)
    | other => .error (.unknownFontStyle other)
  | "size" =>
    match Decimal.readBelow? (Decimal.twoTo 32) value with
    | some size => .ok (.size size)
    | none => .error (.unsuitable "a font size" value)
  | other => .error (.unknownFontFeature other)

def setFont (inv : Invocation) : Act Outcome := do
  let item ← inv.required "text_item" "a text tag"
  let name ← inv.required "feature" "a font feature"
  let feature ← fontFeature name ((inv.text? "rest").getD "")
  Act.sendTo inv .image item fun tag => .setFont tag feature
  return .again

def addToGroup (inv : Invocation) : Act Outcome := do
  let groupTag ← inv.required "group" "a group tag"
  match ← Act.resolve inv .image groupTag with
  | none => return .again
  | some group =>
    Act.toEach inv .sprite (.addToGroup group) (inv.list "list")
    return .again

end Showrunner.Command
