import NewsCentral.EventLoop.Program

/-
  Whether a program that is left alone does a finite amount
  of work.

  After the last call only continuations run.  The work is a
  number that the shared state counts up; it stays bounded
  if each turn is paid by the ranks of the points it takes
  and leaves, and it does not if there is always a run that
  does some more.

  Key definitions include:
    * `EventLoop.Program.LeftAlone`
    * `EventLoop.Program.Bounded`

  Key theorems include:
    * `EventLoop.Program.bounded_of_rank`
    * `EventLoop.Program.not_bounded`
-/

------------------------------------------------------------
-- Bounded Work
------------------------------------------------------------

namespace EventLoop

namespace Program

variable {σ ι κ α : Type}

/- Continuations run with any answers, and nothing calls. -/
def LeftAlone
    (p : Pool σ κ)
    (e : Event ι α) : Prop :=
  when (fun _ _ _ => False) (fun _ _ _ _ => True) p e

/- No run of a program left alone counts beyond a bound. -/
def Bounded
    (P : Program σ ι κ α)
    (count : σ → Nat)
    (p : Pool σ κ) : Prop :=
  ∃ bound, ∀ es q,
    P.system.Run LeftAlone p es q → count q.shared ≤ bound

variable {P : Program σ ι κ α} {count : σ → Nat}
variable {p : Pool σ κ}

/- What a turn counts up has to be paid by ranks. -/
theorem bounded_of_rank
    {I : σ → Prop}
    (rank : κ → Nat)
    (hStart : I p.shared)
    (hTurn :
      ∀ s k answer, I s →
        I (P.resume k answer s).1 ∧
          count (P.resume k answer s).1 +
              ((P.resume k answer s).2.map rank).sum ≤
            count s + rank k) :
    P.Bounded count p := by
  refine ⟨count p.shared + (p.pending.map rank).sum, ?_⟩
  intro es q hRun
  have hAlone :
      P.system.Run
        (when (fun _ _ _ => False) fun _ _ _ _ => True)
        p es q := hRun
  have hBoth :
      I q.shared ∧
        count q.shared + (q.pending.map rank).sum ≤
          count p.shared + (p.pending.map rank).sum := by
    refine run_invariant
      (I := fun _ s pending =>
        I s ∧
          count s + (pending.map rank).sum ≤
            count p.shared + (p.pending.map rank).sum)
      hAlone ⟨hStart, Nat.le_refl _⟩ ?_ ?_
    · intro _ s pending i s' ks _ hNone _
      exact hNone.elim
    · intro _ s earlier k later answer hInv _ _
      rcases hTurn s k answer hInv.1 with ⟨hStill, hPaid⟩
      have hSum := hInv.2
      refine ⟨hStill, ?_⟩
      simp only [List.map_append, List.map_cons,
        List.sum_append, List.sum_cons] at hSum ⊢
      omega
  omega

/- Nothing is counted up when nothing is pending. -/
theorem bounded_of_quiescent
    (hRest : p.Quiescent) :
    P.Bounded count p := by
  refine ⟨count p.shared, ?_⟩
  intro es q hRun
  have hAlone :
      P.system.Run
        (when (fun _ _ _ => False) fun _ _ _ _ => True)
        p es q := hRun
  have hBoth :
      q.pending = [] ∧ count q.shared ≤ count p.shared := by
    refine run_invariant
      (I := fun _ s pending =>
        pending = [] ∧ count s ≤ count p.shared)
      hAlone ⟨hRest, Nat.le_refl _⟩ ?_ ?_
    · intro _ s pending i s' ks _ hNone _
      exact hNone.elim
    · intro _ s earlier k later answer hInv _ _
      simp at hInv
  exact hBoth.2

/- What can always be counted up is not bounded. -/
theorem not_bounded
    {I : Pool σ κ → Prop}
    (hStart : I p)
    (hMore :
      ∀ q, I q →
        ∃ es r, P.system.Run LeftAlone q es r ∧ I r ∧
          count q.shared < count r.shared) :
    ¬ P.Bounded count p := by
  rintro ⟨bound, hBound⟩
  have hReach :
      ∀ n, ∃ es q, P.system.Run LeftAlone p es q ∧ I q ∧
        n ≤ count q.shared := by
    intro n
    induction n with
    | zero => exact ⟨[], p, .nil, hStart, Nat.zero_le _⟩
    | succ n ih =>
        rcases ih with ⟨es, q, hRun, hI, hLe⟩
        rcases hMore q hI with ⟨fs, r, hNext, hStill, hLt⟩
        exact ⟨es ++ fs, r, hRun.trans hNext, hStill,
          Nat.succ_le_of_lt (hLe.trans_lt hLt)⟩
  rcases hReach (bound + 1) with ⟨es, q, hRun, _, hLe⟩
  exact absurd (hBound es q hRun) (by omega)

/- A waiting continuation may run next. -/
theorem run_resume
    {earlier later : List κ}
    {k : κ}
    {s : σ}
    (answer : α)
    (hFree :
      P.queued k = true → ∀ j ∈ earlier, P.queued j = false) :
    P.system.Run LeftAlone ⟨s, earlier ++ k :: later⟩
      [.resume earlier.length answer]
      ⟨(P.resume k answer s).1,
        earlier ++ later ++ (P.resume k answer s).2⟩ :=
  .single ((when_resume _ _ _ _ _).mpr trivial)
    (step_resume_iff.mpr
      ⟨earlier, k, later, rfl, rfl, hFree, rfl⟩)

end Program

end EventLoop
