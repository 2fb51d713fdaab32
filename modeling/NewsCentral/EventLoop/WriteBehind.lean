import Mathlib.Data.List.Basic

/-
  Stores that are written behind a value in memory.

  An operation sets a value in memory and writes it to a
  store later, at one of its suspended points.  Meanwhile
  the store may differ from memory, but then some suspended
  point must still be going to write the value: the store
  follows memory.  Once nothing is suspended, it agrees.

  Key definitions include:
    * `EventLoop.Follows`
    * `EventLoop.MayWrite`

  Key theorems include:
    * `EventLoop.Follows.quiescent`
    * `EventLoop.Follows.keep`
    * `EventLoop.Follows.write`
    * `EventLoop.Follows.announce`
-/

------------------------------------------------------------
-- Following A Value
------------------------------------------------------------

namespace EventLoop

variable {κ β : Type}

/-
  The store holds the value, or a suspended continuation is
  still going to write it.
-/
def Follows
    (ahead : κ → β → Prop)
    (value stored : β)
    (pending : List κ) : Prop :=
  stored = value ∨ ∃ k ∈ pending, ahead k value

/-
  A write of `written` is in order when it is the value, or
  when the value is written again behind it.
-/
def MayWrite
    (ahead : κ → β → Prop)
    (value written : β)
    (rest : List κ) : Prop :=
  written = value ∨ ∃ k ∈ rest, ahead k value

instance
    (ahead : κ → β → Prop)
    (value written : β)
    (rest : List κ)
    [DecidableEq β]
    [∀ k b, Decidable (ahead k b)] :
    Decidable (MayWrite ahead value written rest) := by
  unfold MayWrite
  infer_instance

variable {ahead : κ → β → Prop}
variable {value stored : β}
variable {earlier later next : List κ} {k : κ}

/- With nothing suspended the store holds the value. -/
theorem Follows.quiescent
    (hFollows : Follows ahead value stored []) :
    stored = value := by
  rcases hFollows with hEq | ⟨k, hMem, _⟩
  · exact hEq
  · simp at hMem

/- New continuations change nothing. -/
theorem Follows.call
    {pending : List κ}
    (hFollows : Follows ahead value stored pending) :
    Follows ahead value stored (pending ++ next) := by
  rcases hFollows with hEq | ⟨k, hMem, hAhead⟩
  · exact .inl hEq
  · exact .inr ⟨k, List.mem_append_left _ hMem, hAhead⟩

/-
  A turn that writes nothing hands the writes it has ahead
  on to what it leaves suspended.
-/
theorem Follows.keep
    (hFollows :
      Follows ahead value stored (earlier ++ k :: later))
    (hNext :
      ∀ b, ahead k b → ∃ j ∈ next, ahead j b) :
    Follows ahead value stored
      (earlier ++ later ++ next) := by
  rcases hFollows with hEq | ⟨j, hMem, hAhead⟩
  · exact .inl hEq
  · right
    rw [List.mem_append, List.mem_cons] at hMem
    rcases hMem with hLeft | hHere | hRight
    · exact ⟨j, by simp [hLeft], hAhead⟩
    · rw [hHere] at hAhead
      rcases hNext value hAhead with ⟨i, hNew, hLater⟩
      exact ⟨i, by simp [hNew], hLater⟩
    · exact ⟨j, by simp [hRight], hAhead⟩

/- A write in order keeps following. -/
theorem Follows.write
    {written : β}
    (hWrite :
      MayWrite ahead value written (earlier ++ later)) :
    Follows ahead value written
      (earlier ++ later ++ next) := by
  rcases hWrite with hEq | ⟨j, hMem, hAhead⟩
  · exact .inl hEq
  · exact .inr ⟨j, List.mem_append_left _ hMem, hAhead⟩

/- A new value is followed once its write is suspended. -/
theorem Follows.announce
    {rest : List κ}
    (hNext : ∃ j ∈ next, ahead j value) :
    Follows ahead value stored (rest ++ next) := by
  rcases hNext with ⟨j, hMem, hAhead⟩
  exact .inr ⟨j, List.mem_append_right _ hMem, hAhead⟩

end EventLoop
