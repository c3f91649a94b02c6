namespace Showrunner

/-- A way to draw numbers that look random. A draw decides the next state by the one before it. -/
structure Generator where
  below : Nat → Nat → Nat × Nat
  fraction : Nat → Float × Nat

/-- A source of random numbers, which a show is given at its start. -/
structure Dice where
  generator : Generator
  state : Nat

namespace Dice

def still : Dice := ⟨⟨fun _ s => (0, s), fun s => (0, s)⟩, 0⟩

def below (d : Dice) (bound : Nat) : Nat × Dice :=
  let (n, state) := d.generator.below bound d.state
  (n, { d with state := state })

def fraction (d : Dice) : Float × Dice :=
  let (x, state) := d.generator.fraction d.state
  (x, { d with state := state })

end Dice
end Showrunner
