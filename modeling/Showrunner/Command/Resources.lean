import Showrunner.Command.Act

namespace Showrunner.Command

def useFolder (inv : Invocation) : Act Outcome := do
  let folder := (inv.text? "rest").getD ""
  match (← get).sceneIndex? inv.scene with
  | none => throw (.noScene inv.scene)
  | some index =>
    modify (·.modifyScene index fun scene => { scene with fromFolder := folder })
    return .complete

def resourceKind? (d : Disk) (path : Path) (grid : Option (Nat × Nat)) : Option ResourceKind :=
  if d.isFolder path then some .imageFolder
  else match path.extension?.map Text.lowerAscii with
    | none => none
    | some extension =>
      if ["png", "jpg", "jpeg", "bmp", "svg"].contains extension then
        match grid with
        | some (columns, rows) => some (.imageGrid columns rows)
        | none => some .image
      else if ["gif", "mov", "mp4", "avi"].contains extension then some .movie
      else if ["wav", "ogg", "mp3"].contains extension then some .sound
      else none

def gridSize? (inv : Invocation) : Option (Nat × Nat) := do
  let columns ← inv.number? "cols"
  let rows := (inv.number? "rows").getD 1
  if columns < 1 || rows < 1 then none
  else
    let whole x := (Decimal.truncated 0 (Decimal.twoTo 32 - 1) x).toNat
    some (whole columns, whole rows)

/-- Registers a file under its own name or a given one, unless the tag is taken. -/
def load (inv : Invocation) : Act Outcome := do
  let file ← inv.required "filename" "a file name"
  let s ← get
  match s.scene? inv.scene with
  | none => throw (.noScene inv.scene)
  | some scene =>
    let path := scene.resourceFolder.join ⟨file⟩
    let tag := s.qualifyTag inv.scene ((inv.text? "tag").getD (path.stem?.getD file))
    if s.stage.hasImage tag || s.stage.hasSound tag then pure ()
    else if !s.disk.holds path then Act.report inv (.noFile path.text)
    else match resourceKind? s.disk path (gridSize? inv) with
      | none => Act.report inv (.unknownFileKind path.text)
      | some kind => Act.send (.loadResource tag path kind)
    return .complete

def unload (inv : Invocation) : Act Outcome := do
  Act.toEach inv .resource .unloadResource (inv.list "tags")
  return .complete

def play (inv : Invocation) : Act Outcome := do
  Act.toEach inv .sound .playSound (inv.list "tags")
  return .complete

/-- The number, held between two bounds. What is not a number passes. -/
def clamp (least greatest x : Float) : Float :=
  if x < least then least else if greatest < x then greatest else x

/-- Volumes are given from 0 to 100. -/
def volume (inv : Invocation) : Act Outcome := do
  let tag ← inv.required "tag" "a sound tag"
  let value ← inv.number "value" "a volume from 0 to 100"
  Act.sendTo inv .sound tag fun tag => .setVolume tag (clamp 0 100 value / 100)
  return .complete

end Showrunner.Command
