import NewsCentral.EventLoop.System

/-
  Animations that are awaited.

  A controller plays forward or in reverse.  It stops
  whatever it plays when it is told to play again, and the
  continuation that awaited that never runs.  One that is at
  its end already completes at once.

  Key definitions include:
    * `EventLoop.Animation`
    * `EventLoop.Animation.play`
    * `EventLoop.Animation.frame`

  Key theorems include:
    * `EventLoop.Animation.play_of_end`
    * `EventLoop.Animation.play_of_ne_end`
-/

------------------------------------------------------------
-- Controllers
------------------------------------------------------------

namespace EventLoop

/- The two ends, and all that is between them. -/
inductive Place where
  | start
  | between
  | finish
deriving DecidableEq

inductive Direction where
  | forward
  | reverse
deriving DecidableEq

/- The end that is played to. -/
def Direction.goal : Direction → Place
  | .forward => .finish
  | .reverse => .start

/- Where it is, and what it plays with who awaits that. -/
structure Animation (κ : Type) where
  place : Place := .start
  playing : Option (Direction × κ) := none
deriving DecidableEq

namespace Animation

variable {κ : Type}

/- Play to an end; given back is who need not wait. -/
def play
    (direction : Direction)
    (k : κ)
    (a : Animation κ) : Animation κ × List κ :=
  if a.place = direction.goal then
    ({ a with playing := none }, [k])
  else
    ({ a with playing := some (direction, k) }, [])

/- A frame goes some way, or the rest of it. -/
def frame
    (completes : Bool)
    (a : Animation κ) : Option (Animation κ × List κ) :=
  match a.playing with
  | none => none
  | some (direction, k) =>
      if completes then
        some (⟨direction.goal, none⟩, [k])
      else
        some ({ a with place := .between }, [])

variable {a : Animation κ} {direction : Direction} {k : κ}

/- Nothing is left to play. -/
theorem play_of_end
    (hEnd : a.place = direction.goal) :
    a.play direction k = (⟨a.place, none⟩, [k]) := by
  rw [play, if_pos hEnd]

/- What was played before is given up. -/
theorem play_of_ne_end
    (hNotEnd : a.place ≠ direction.goal) :
    a.play direction k =
      (⟨a.place, some (direction, k)⟩, []) := by
  rw [play, if_neg hNotEnd]

/- A frame comes while something is played. -/
theorem frame_of_playing
    (completes : Bool)
    (hPlaying : a.playing = some (direction, k)) :
    a.frame completes =
      if completes then
        some (⟨direction.goal, none⟩, [k])
      else
        some (⟨.between, some (direction, k)⟩, []) := by
  cases completes <;> simp [frame, hPlaying]

end Animation

end EventLoop
