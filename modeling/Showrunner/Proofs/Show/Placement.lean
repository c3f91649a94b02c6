import Mathlib.Logic.Function.Iterate
import Showrunner.Proofs.Show.Calls
import Showrunner.Proofs.Show.Performance
import Showrunner.Proofs.Table

/-!
Lines that place images, carried out again and again. Main statement: `dispatch_again`.
-/

namespace Showrunner

def Stage.placed (s : Stage) (image scene : String) (p : Placement) : Sprite :=
  let (width, height) := placedSize ((s.imageSize? image).getD (0, 0)) p
  ⟨image, scene, p.x, p.y, p.z, width, height, 0⟩

def Sprite.movedTo (p : Sprite) (x y : Float) (z : Option Float) : Sprite :=
  { p with x := x, y := y, z := z.getD p.z }

theorem Sprite.movedTo_movedTo (p : Sprite) (x y : Float) (z : Option Float) :
    (p.movedTo x y z).movedTo x y z = p.movedTo x y z := by
  cases z <;> rfl

namespace Show

/-- Two shows have the same scenes, variables and commands, and the same things on the stage. What
was reported, and by which effects the things came there, may differ. -/
structure Coincides (s t : Show) : Prop where
  scenes : t.scenes = s.scenes
  vars : t.vars = s.vars
  registry : t.registry = s.registry
  images : t.stage.images = s.stage.images
  sounds : t.stage.sounds = s.stage.sounds
  sprites : t.stage.sprites = s.stage.sprites

def imageMeant? (s : Show) (scene tag : String) : Option String :=
  (s.scene? scene).bind fun owner => owner.resolveTag tag s.stage.hasImage

def withSprites (s : Show) (sprites : Table Sprite) : Show :=
  { s with stage := { s.stage with sprites := sprites } }

def sendTo (s : Show) (sprite : String) (x y : Float) : Option Float → Show
  | none => s.send (.moveSprite sprite x y false .instant)
  | some depth => (s.send (.moveSprite sprite x y false .instant)).send (.setDepth sprite depth)

def replace (s : Show) (image sprite scene : String) (p : Placement) : Show :=
  (if s.stage.hasSprite sprite then s.send (.removeSprite sprite) else s).send
    (.placeSprite image sprite scene p)

variable {s t u : Show}

@[simp]
theorem sprites_withSprites (s : Show) (sprites : Table Sprite) :
    (s.withSprites sprites).stage.sprites = sprites :=
  rfl

@[simp]
theorem newSpriteTag_withSprites (s : Show) (sprites : Table Sprite) (inv : Invocation)
    (tag : String) :
    Command.newSpriteTag (s.withSprites sprites) inv tag = Command.newSpriteTag s inv tag :=
  rfl

namespace Coincides

theorem refl (s : Show) : Coincides s s := ⟨rfl, rfl, rfl, rfl, rfl, rfl⟩

theorem trans (h : Coincides s t) (k : Coincides t u) : Coincides s u :=
  ⟨k.scenes.trans h.scenes, k.vars.trans h.vars, k.registry.trans h.registry,
    k.images.trans h.images, k.sounds.trans h.sounds, k.sprites.trans h.sprites⟩

theorem of_afterReading (h : AfterReading s t) : Coincides s t := by
  obtain ⟨_, _, _, rfl⟩ := h
  exact ⟨rfl, rfl, rfl, rfl, rfl, rfl⟩

theorem sendTo (s : Show) (sprite : String) (x y : Float) (z : Option Float) :
    Coincides (s.withSprites (s.stage.sprites.modify sprite (·.movedTo x y z)))
      (s.sendTo sprite x y z) := by
  cases z with
  | none => exact ⟨rfl, rfl, rfl, rfl, rfl, rfl⟩
  | some depth =>
    -- the two effects change the sprite one after the other, which is one change
    refine ⟨rfl, rfl, rfl, rfl, rfl, ?_⟩
    change (s.stage.sprites.modify sprite fun p => { p with x := x, y := y }).modify sprite
      (fun p => { p with z := depth }) = _
    rw [Table.modify_modify]
    rfl

theorem place (s : Show) (image sprite scene : String) (p : Placement) :
    Coincides (s.withSprites (s.stage.sprites.insert sprite (s.stage.placed image scene p)))
      (s.send (.placeSprite image sprite scene p)) :=
  ⟨rfl, rfl, rfl, rfl, rfl, rfl⟩

theorem replace (s : Show) (image sprite scene : String) (p : Placement) :
    Coincides (s.withSprites (s.stage.sprites.insert sprite (s.stage.placed image scene p)))
      (s.replace image sprite scene p) := by
  unfold Show.replace
  split
  · exact ⟨rfl, rfl, rfl, rfl, rfl, Table.insert_erase s.stage.sprites sprite _⟩
  · exact place s image sprite scene p

variable (h : Coincides s t)
include h

theorem imageMeant? (scene tag : String) : t.imageMeant? scene tag = s.imageMeant? scene tag := by
  have hi : t.stage.hasImage = s.stage.hasImage := by
    funext name
    simp only [Stage.hasImage, h.images]
  simp only [Show.imageMeant?, scene?, h.scenes, hi]

theorem newSpriteTag (inv : Invocation) (tag : String) :
    Command.newSpriteTag t inv tag = Command.newSpriteTag s inv tag := by
  simp only [Command.newSpriteTag, qualifyTag, scene?, h.scenes]

theorem imageSize? (image : String) : t.stage.imageSize? image = s.stage.imageSize? image := by
  rw [Stage.imageSize?, Stage.imageSize?, h.images]

theorem placed (image scene : String) (p : Placement) :
    t.stage.placed image scene p = s.stage.placed image scene p := by
  rw [Stage.placed, Stage.placed, h.imageSize?]

end Coincides

end Show

namespace Command

open Show

variable {inv : Invocation} {tag : String} {x y : Float} {s t : Show}

theorem run_resolve_image (inv : Invocation) (tag : String) (s : Show) :
    (Act.resolve inv .image tag).run.run s =
      (.ok (s.imageMeant? inv.scene tag),
        if (s.imageMeant? inv.scene tag).isSome then s
        else s.report ((Problem.noTag .image tag).within inv.scene)) := by
  have hrun : (Act.resolve inv .image tag).run.run s =
      (.ok (s.resolveTag .image inv.scene tag).1, (s.resolveTag .image inv.scene tag).2) := rfl
  rw [hrun]
  unfold resolveTag
  split
  · next name hm =>
    replace hm : s.imageMeant? inv.scene tag = some name := hm
    simp [hm]
  · next hm =>
    replace hm : s.imageMeant? inv.scene tag = none := hm
    simp [hm]

/-- The words of a line name an image and a place for it. -/
structure Asks (inv : Invocation) (tag : String) (x y : Float) : Prop where
  tag : inv.required "itag" "an image tag" = .ok tag
  x : inv.number "x" "an x position" = .ok x
  y : inv.number "y" "a y position" = .ok y

theorem asks_or_fails (inv : Invocation) :
    (∃ tag x y, Asks inv tag x y) ∨ ∃ e, ∀ s, (place inv).run.run s = (.error e, s) := by
  unfold place
  cases ht : inv.required "itag" "an image tag" with
  | error e => exact .inr ⟨e, fun s => run_bind_error (run_lift _ s)⟩
  | ok tag =>
    cases hx : inv.number "x" "an x position" with
    | error e =>
      exact .inr ⟨e, fun s => (run_bind_ok (run_lift _ s)).trans (run_bind_error (run_lift _ s))⟩
    | ok x =>
      cases hy : inv.number "y" "a y position" with
      | error e =>
        exact .inr ⟨e, fun s => (run_bind_ok (run_lift _ s)).trans
          ((run_bind_ok (run_lift _ s)).trans (run_bind_error (run_lift _ s)))⟩
      | ok y => exact .inl ⟨tag, x, y, ht, hx, hy⟩

theorem Asks.run_place (h : Asks inv tag x y) (s : Show) : ((place inv).run.run s).2 =
    if s.stage.hasSprite (newSpriteTag s inv tag) then
      s.sendTo (newSpriteTag s inv tag) x y (inv.number? "z")
    else match s.imageMeant? inv.scene tag with
      | some image => s.send (.placeSprite image (newSpriteTag s inv tag) inv.scene
          (placement inv x y (inv.number? "z")))
      | none => s.report ((Problem.noTag .image tag).within inv.scene) := by
  unfold place
  rw [h.tag, h.x, h.y, run_bind_ok (run_lift _ s), run_bind_ok (run_lift _ s),
    run_bind_ok (run_lift _ s), run_bind_ok (m := get) (a := s) (t := s) rfl,
    run_bind_ok (m := get) (a := s) (t := s) rfl]
  split
  · cases inv.number? "z" <;> rfl
  · unfold Act.sendTo
    rw [bind_assoc, run_bind_ok (run_resolve_image inv tag s)]
    cases s.imageMeant? inv.scene tag <;> rfl

/-- What `place` is to bring about: the sprite is where the line sends it, or there is none and the
tag means no image. -/
structure Placed (inv : Invocation) (tag : String) (x y : Float) (s : Show) : Prop where
  settled : ∀ p, s.stage.sprites.get? (newSpriteTag s inv tag) = some p →
    p.movedTo x y (inv.number? "z") = p
  missing : ¬ s.stage.hasSprite (newSpriteTag s inv tag) → s.imageMeant? inv.scene tag = none

namespace Placed

theorem of_get? {p : Sprite} (hp : s.stage.sprites.get? (newSpriteTag s inv tag) = some p)
    (hm : p.movedTo x y (inv.number? "z") = p) : Placed inv tag x y s := by
  constructor
  · rw [hp]
    rintro q ⟨⟩
    exact hm
  · intro hs
    simp [Stage.hasSprite, Table.contains, hp] at hs

theorem congr (h : Coincides s t) (hp : Placed inv tag x y s) : Placed inv tag x y t := by
  constructor
  · rw [h.newSpriteTag, h.sprites]
    exact hp.settled
  · rw [h.newSpriteTag, h.imageMeant?, Stage.hasSprite, h.sprites]
    exact hp.missing

end Placed

theorem movedTo_placement (stage : Stage) (image scene : String) (inv : Invocation) (x y : Float)
    (z : Option Float) : (stage.placed image scene (placement inv x y z)).movedTo x y z =
      stage.placed image scene (placement inv x y z) := by
  have hp : (placement inv x y z).x = x ∧ (placement inv x y z).y = y ∧
      (placement inv x y z).z = z.getD 0 := by
    unfold placement
    dsimp only
    split
    · exact ⟨rfl, rfl, rfl⟩
    · split <;> exact ⟨rfl, rfl, rfl⟩
  unfold Stage.placed Sprite.movedTo
  simp only [hp]
  cases z <;> rfl

theorem Asks.placed_run (h : Asks inv tag x y) (s : Show) :
    Placed inv tag x y ((place inv).run.run s).2 := by
  rw [h.run_place]
  split
  · next hs =>
    obtain ⟨p, hp⟩ := Option.isSome_iff_exists.mp hs
    apply Placed.congr (Coincides.sendTo s (newSpriteTag s inv tag) x y (inv.number? "z"))
    apply Placed.of_get? (p := p.movedTo x y (inv.number? "z"))
    · rw [newSpriteTag_withSprites, sprites_withSprites, Table.get?_modify, if_pos rfl, hp,
        Option.map_some]
    · exact p.movedTo_movedTo x y _
  · next hs =>
    cases hm : s.imageMeant? inv.scene tag with
    | some image =>
      apply Placed.of_get?
      · exact (Table.get?_insert ..).trans (if_pos rfl)
      · exact movedTo_placement s.stage image inv.scene inv x y _
    | none =>
      constructor
      · intro p hp
        exact absurd (Option.isSome_iff_exists.mpr ⟨p, hp⟩) hs
      · exact fun _ => hm

theorem Asks.hasSprite_run (h : Asks inv tag x y) {image : String}
    (hm : s.imageMeant? inv.scene tag = some image) :
    ((place inv).run.run s).2.stage.hasSprite (newSpriteTag s inv tag) := by
  rw [h.run_place, hm, Stage.hasSprite]
  split
  · next hs =>
    rw [(Coincides.sendTo s (newSpriteTag s inv tag) x y (inv.number? "z")).sprites,
      sprites_withSprites, Table.contains_modify]
    exact hs
  · dsimp only
    rw [(Coincides.place ..).sprites, sprites_withSprites, Table.contains, Table.get?_insert,
      if_pos rfl]
    rfl

theorem Asks.coincides_run (h : Asks inv tag x y) (hp : Placed inv tag x y s) :
    Coincides s ((place inv).run.run s).2 := by
  rw [h.run_place]
  split
  · have ha := Coincides.sendTo s (newSpriteTag s inv tag) x y (inv.number? "z")
    rw [Table.modify_eq_self hp.settled] at ha
    exact ha
  · next hs =>
    rw [hp.missing hs]
    exact .of_afterReading (.report s _)

def edgePlacement (s : Show) (inv : Invocation) (image : String) : Placement :=
  anchored (Text.lowerAscii ((inv.text? "background").getD ""))
    (s.vars.display.1.toFloat, s.vars.display.2.toFloat)
    ((s.stage.imageSize? image).getD (0, 0)) ((inv.number? "depth").getD 0)

theorem run_put (h : inv.required "itag" "an image tag" = .ok tag) (s : Show) :
    ((put inv).run.run s).2 = match s.imageMeant? inv.scene tag with
      | some image => s.replace image (newSpriteTag s inv tag) inv.scene
          (edgePlacement s inv image)
      | none => s.report ((Problem.noTag .image tag).within inv.scene) := by
  unfold put
  rw [h, run_bind_ok (run_lift _ s), run_bind_ok (run_resolve_image inv tag s)]
  cases s.imageMeant? inv.scene tag with
  | none => rfl
  | some image =>
    dsimp only [Option.isSome_some]
    rw [if_pos rfl, run_bind_ok (m := get) (a := s) (t := s) rfl]
    unfold replace
    split <;> rfl

/-- What `put` is to bring about: the sprite is as a new one at the edge, or the tag means no
image. -/
def PutUp (inv : Invocation) (tag : String) (s : Show) : Prop :=
  ∀ image, s.imageMeant? inv.scene tag = some image →
    s.stage.sprites.get? (newSpriteTag s inv tag) =
      some (s.stage.placed image inv.scene (edgePlacement s inv image))

theorem PutUp.congr (h : Coincides s t) (hp : PutUp inv tag s) : PutUp inv tag t := by
  intro image hm
  rw [h.imageMeant?] at hm
  have he : edgePlacement t inv image = edgePlacement s inv image := by
    rw [edgePlacement, edgePlacement, h.imageSize?, h.vars]
  rw [h.sprites, h.newSpriteTag, h.placed, he]
  exact hp image hm

theorem putUp_run (h : inv.required "itag" "an image tag" = .ok tag) (s : Show) :
    PutUp inv tag ((put inv).run.run s).2 := by
  rw [run_put h]
  cases hm : s.imageMeant? inv.scene tag with
  | none =>
    intro image hi
    rw [Coincides.imageMeant? (s := s) (.of_afterReading (.report s _)), hm] at hi
    cases hi
  | some image =>
    apply PutUp.congr (Coincides.replace ..)
    intro other ho
    cases hm.symm.trans ho
    rw [newSpriteTag_withSprites, sprites_withSprites, Table.get?_insert, if_pos rfl]
    rfl

theorem coincides_run_put (h : inv.required "itag" "an image tag" = .ok tag)
    (hp : PutUp inv tag s) : Coincides s ((put inv).run.run s).2 := by
  rw [run_put h]
  cases hm : s.imageMeant? inv.scene tag with
  | none => exact .of_afterReading (.report s _)
  | some image =>
    have ha := Coincides.replace s image (newSpriteTag s inv tag) inv.scene
      (edgePlacement s inv image)
    rw [Table.insert_eq_self (hp image hm)] at ha
    exact ha

/-- Carried out again after it was carried out once, the step leaves all things as they are. Between
the two there may be reports. -/
def Settles {α : Type} (m : Act α) : Prop :=
  ∀ s t, Coincides (m.run.run s).2 t → Coincides t (m.run.run t).2

theorem settles_place (inv : Invocation) : Settles (place inv) := by
  intro s t h
  -- the second time the sprite is moved that was placed the first time, so that the two runs are
  -- compared by what they bring about and not by their effects
  obtain ⟨tag, x, y, ha⟩ | ⟨e, he⟩ := asks_or_fails inv
  · exact ha.coincides_run ((ha.placed_run s).congr h)
  · rw [he]
    exact .refl t

theorem settles_put (inv : Invocation) : Settles (put inv) := by
  intro s t h
  cases ht : inv.required "itag" "an image tag" with
  | ok tag => exact coincides_run_put ht ((putUp_run ht s).congr h)
  | error e =>
    unfold put
    rw [ht, run_bind_error (run_lift _ t)]
    exact .refl t

end Command

namespace Show

variable {line scene : String} {c : Command} {found : Pattern.Match}
  {start : Show → String → Show}

theorem find?_again (hf : s.registry.find? (Text.words line) = some (c, found))
    (hc : c.handler = .place ∨ c.handler = .put)
    (h : Coincides (dispatch start s line scene).2 t) :
    t.registry.find? (Text.words line) = some (c, found) := by
  have hne : c.handler ≠ .start ∧ c.handler ≠ .stop ∧ c.handler ≠ .assign := by
    obtain hc | hc := hc <;> rw [hc] <;> decide
  have hm : Act.LeadsAt (Touch (Invocation.scene ⟨scene, found⟩))
      (c.handler.run start ⟨scene, found⟩) (s.received scene found) :=
    c.handler.leads_touches start hne.1 hne.2.1 hne.2.2
  rw [h.registry, (dispatch_found start hf scene).registry, Touch.registry_eq hm,
    (AfterReading.received s scene found).registry, hf]

theorem Coincides.dispatch (hf : s.registry.find? (Text.words line) = some (c, found))
    (hc : c.handler = .place ∨ c.handler = .put)
    (h : Coincides (dispatch start s line scene).2 t) :
    Coincides t (dispatch start t line scene).2 := by
  have hs : Command.Settles (c.handler.run start ⟨scene, found⟩) := by
    obtain hc | hc := hc
    · rw [hc]
      exact Command.settles_place _
    · rw [hc]
      exact Command.settles_put _
  have hreceived : Coincides t (t.received scene found) :=
    .of_afterReading (.received t scene found)
  have honce :
      Coincides ((c.handler.run start ⟨scene, found⟩).run.run (s.received scene found)).2 t :=
    (Coincides.of_afterReading (dispatch_found start hf scene)).trans h
  have hagain := dispatch_found start (find?_again hf hc h) scene
  exact hreceived.trans ((hs _ _ (honce.trans hreceived)).trans (.of_afterReading hagain))

/-- To carry out a line of `place` or `put` again, however often, leaves the images, the sounds and
the sprites as they are after the first time. This holds in any show, and within a start, too. -/
theorem dispatch_again (start : Show → String → Show) (s : Show) {line : String} {c : Command}
    {found : Pattern.Match}
    (hf : s.registry.find? (Text.words line) = some (c, found))
    (hc : c.handler = .place ∨ c.handler = .put) (scene : String) (n : Nat) :
    let once := (dispatch start s line scene).2
    let again := (fun t => (dispatch start t line scene).2)^[n] once
    again.stage.images = once.stage.images ∧ again.stage.sounds = once.stage.sounds ∧
      again.stage.sprites = once.stage.sprites := by
  intro once again
  have ha : Coincides once again := by
    induction n with
    | zero => exact .refl once
    | succ n ih =>
      dsimp only [again]
      rw [Function.iterate_succ_apply']
      exact ih.trans (ih.dispatch hf hc)
  exact ⟨ha.images, ha.sounds, ha.sprites⟩

def pictureShow : Show :=
  [.install clickScript, .setImageSize "cat" 100 50].foldl Call.run
    (.start (640, 480) 30 Expression.evaluate .still .empty)

/-- The first time the cat is placed, and then it is moved to where it is. -/
theorem dispatch_again_pictureShow :
    let once := (pictureShow.command "place cat at 10 20 depth 3" topLevel).2
    let twice := (once.command "place cat at 10 20 depth 3" topLevel).2
    pictureShow.stage.hasSprite "cat" = false ∧ once.stage.hasSprite "cat" ∧
      twice.stage.images = once.stage.images ∧ twice.stage.sounds = once.stage.sounds ∧
      twice.stage.sprites = once.stage.sprites := by
  have hb : pictureShow.registry = .builtin := rfl
  obtain ⟨hs, hq, hm⟩ : pictureShow.stage.hasSprite "cat" = false ∧
      pictureShow.qualifyTag topLevel "cat" = "cat" ∧
      pictureShow.imageMeant? topLevel "cat" = some "cat" := by decide +kernel
  -- from here on, what the show is made of does not matter and must not be run
  obtain ⟨s, he⟩ : ∃ s, s = pictureShow := ⟨_, rfl⟩
  rw [← he] at hb hs hq hm ⊢
  have hw : Text.words "place cat at 10 20 depth 3" =
      ["place", "cat", "at", "10", "20", "depth", "3"] := by decide +kernel
  obtain ⟨c, found, hf, hc, hi, ht, hx, hy⟩ := exists_find?
    ["place", "cat", "at", "10", "20", "depth", "3"]
    (fun handler found => handler = .place ∧ found.text? "itag" = some "cat" ∧
      found.text? "stag" = none ∧ found.text? "x" = some "10" ∧ found.text? "y" = some "20")
    (by decide +kernel)
  obtain ⟨⟨x, hx'⟩, y, hy'⟩ : (∃ x, Decimal.read? "10" = some x) ∧
      ∃ y, Decimal.read? "20" = some y := by
    simp only [← Option.isSome_iff_exists]
    decide +kernel
  rw [← hb, ← hw] at hf
  have ha : Command.Asks ⟨topLevel, found⟩ "cat" x y := by
    constructor
    · simp [Invocation.required, Invocation.text?, hi]
    · simp [Invocation.number, Invocation.text?, hx, hx']
    · simp [Invocation.number, Invocation.text?, hy, hy']
  have hn : Command.newSpriteTag (s.received topLevel found) ⟨topLevel, found⟩ "cat" = "cat" := by
    simp only [Command.newSpriteTag, Invocation.text?, ht]
    exact hq
  have hplaced := ha.hasSprite_run (s := s.received topLevel found) hm
  have honce := dispatch_found (fun s name => (s.startScene name).2) hf topLevel
  rw [hc, Handler.run] at honce
  rw [hn, ← honce.stage] at hplaced
  exact ⟨hs, hplaced, dispatch_again _ s hf (.inl hc) topLevel 1⟩

end Show

end Showrunner
