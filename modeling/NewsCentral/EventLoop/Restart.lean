import NewsCentral.EventLoop.Program

/-
  Programs that are ended and started anew.

  The event loop may stop at any moment; what is suspended
  then never resumes.  A restart boots the program from the
  shared state that the last life left behind, and leaves
  the first continuations of the new life suspended.

  Key definitions include:
    * `EventLoop.Life`
    * `EventLoop.Program.restarting`
    * `EventLoop.Program.whenRestarting`

  Key theorems include:
    * `EventLoop.Program.restarting_invariant`
    * `EventLoop.Program.restarting_always_iff`
-/

------------------------------------------------------------
-- Lives Of A Program
------------------------------------------------------------

namespace EventLoop

/- A turn of the current life, or the start of the next. -/
inductive Life (ι α : Type) where
  | turn (e : Event ι α)
  | restart

namespace Program

variable {σ ι κ α : Type}

/- The event loop, which can also be started anew. -/
def restarting
    (P : Program σ ι κ α)
    (boot : σ → σ × List κ) :
    System (Pool σ κ) (Life ι α) where
  step p life :=
    match life with
    | .turn e => P.step p e
    | .restart =>
        some ⟨(boot p.shared).1, (boot p.shared).2⟩

/- A condition on turns, and on the state a restart meets. -/
def whenRestarting
    (onRestart : σ → Prop)
    (onCall : σ → List κ → ι → Prop)
    (onResume : σ → List κ → κ → α → Prop)
    (p : Pool σ κ) :
    Life ι α → Prop
  | .turn e => when onCall onResume p e
  | .restart => onRestart p.shared

instance
    (onRestart : σ → Prop)
    (onCall : σ → List κ → ι → Prop)
    (onResume : σ → List κ → κ → α → Prop)
    [∀ s, Decidable (onRestart s)]
    [∀ s ks i, Decidable (onCall s ks i)]
    [∀ s ks k a, Decidable (onResume s ks k a)]
    (p : Pool σ κ)
    (life : Life ι α) :
    Decidable
      (whenRestarting onRestart onCall onResume p life) :=
  match life with
  | .turn e =>
      inferInstanceAs (Decidable (when onCall onResume p e))
  | .restart =>
      inferInstanceAs (Decidable (onRestart p.shared))

end Program

end EventLoop

------------------------------------------------------------
-- Rules
------------------------------------------------------------

namespace EventLoop

namespace Program

variable {σ ι κ α : Type}
variable {P : Program σ ι κ α}
variable {boot : σ → σ × List κ}
variable {onRestart : σ → Prop}
variable {onCall : σ → List κ → ι → Prop}
variable {onResume : σ → List κ → κ → α → Prop}

/- Any run meets the condition that asks for nothing. -/
theorem run_whenRestarting_true
    {p q : Pool σ κ}
    {es : List (Life ι α)}
    (hRun :
      (P.restarting boot).Run System.anyStep p es q) :
    (P.restarting boot).Run
      (whenRestarting (fun _ => True) (fun _ _ _ => True)
        fun _ _ _ _ => True)
      p es q := by
  refine hRun.weaken fun t life _ => ?_
  cases life with
  | turn e => exact when_true t e
  | restart => trivial

/-
  An invariant of all lives: restarts establish it, and the
  admitted turns of a life keep it.
-/
theorem restarting_invariant
    {I : σ → List κ → Prop}
    {p q : Pool σ κ}
    {es : List (Life ι α)}
    (hRun :
      (P.restarting boot).Run
        (whenRestarting onRestart onCall onResume) p es q)
    (hStart : I p.shared p.pending)
    (hRestart :
      ∀ s pending,
        I s pending →
        onRestart s →
        I (boot s).1 (boot s).2)
    (hCall :
      ∀ s pending i s' ks,
        I s pending →
        onCall s pending i →
        P.call i s = some (s', ks) →
        I s' (pending ++ ks))
    (hResume :
      ∀ s earlier k later answer,
        I s (earlier ++ k :: later) →
        onResume s (earlier ++ later) k answer →
        I (P.resume k answer s).1
          (earlier ++ later ++ (P.resume k answer s).2)) :
    I q.shared q.pending := by
  refine hRun.historyInvariant
    (I := fun _ p => I p.shared p.pending) hStart ?_
  intro _ t life u hI hOk hNext
  cases life with
  | turn e =>
      exact turn_invariant hNext hOk hI hCall hResume
  | restart =>
      cases Option.some.inj hNext
      exact hRestart t.shared t.pending hI hOk

/-
  A property that the invariant gives, and that no turn
  outside the condition leaves standing, holds throughout
  all lives exactly if all turns meet the condition.
-/
theorem restarting_always_iff
    {I G : σ → List κ → Prop}
    {p q : Pool σ κ}
    {es : List (Life ι α)}
    (hStart : I p.shared p.pending)
    (hRestart :
      ∀ s pending, I s pending → I (boot s).1 (boot s).2)
    (hKeepCall :
      ∀ s pending i s' ks,
        I s pending →
        onCall s pending i →
        P.call i s = some (s', ks) →
        I s' (pending ++ ks))
    (hKeepResume :
      ∀ s earlier k later answer,
        I s (earlier ++ k :: later) →
        onResume s (earlier ++ later) k answer →
        I (P.resume k answer s).1
          (earlier ++ later ++ (P.resume k answer s).2))
    (hGood : ∀ s pending, I s pending → G s pending)
    (hCall :
      ∀ s pending i s' ks,
        I s pending →
        ¬ onCall s pending i →
        P.call i s = some (s', ks) →
        ¬ G s' (pending ++ ks))
    (hResume :
      ∀ s earlier k later answer,
        I s (earlier ++ k :: later) →
        ¬ onResume s (earlier ++ later) k answer →
        ¬ G (P.resume k answer s).1
          (earlier ++ later ++ (P.resume k answer s).2))
    (hRun :
      (P.restarting boot).Run System.anyStep p es q) :
    (P.restarting boot).Always
        (fun _ u => G u.shared u.pending) p es ↔
      (P.restarting boot).Run
        (whenRestarting (fun _ => True) onCall onResume)
        p es q := by
  refine System.always_iff_run
    (I := fun u => I u.shared u.pending)
    (G := fun u => G u.shared u.pending)
    hStart ?_ ?_ ?_ hRun
  · intro u life v hI hOk hNext
    cases life with
    | turn e =>
        exact turn_invariant hNext hOk hI hKeepCall
          hKeepResume
    | restart =>
        cases Option.some.inj hNext
        exact hRestart u.shared u.pending hI
  · intro u hI
    exact hGood u.shared u.pending hI
  · intro u life v hI hBroken hNext
    cases life with
    | turn e =>
        exact turn_breaks hNext hBroken hI hCall hResume
    | restart => exact absurd trivial hBroken

end Program

end EventLoop
