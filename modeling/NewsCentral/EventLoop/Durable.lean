import NewsCentral.EventLoop.Restart

/-
  Programs whose stores are written to a disk behind them.

  A write changes the shared state when it is issued and
  reaches the disk at some later moment, at the latest when
  the continuation that awaits it resumes.  The process may
  be killed at any moment; only the disk is left then, and
  the next life boots from it.

  Key definitions include:
    * `EventLoop.OnDisk`
    * `EventLoop.Program.durable`
    * `EventLoop.Program.crashing`

  Key theorems include:
    * `EventLoop.Program.crashing_invariant`
-/

------------------------------------------------------------
-- Programs With A Disk
------------------------------------------------------------

namespace EventLoop

/- The state in memory, and what has reached the disk. -/
structure OnDisk (σ δ : Type) where
  memory : σ
  disk : δ

/-
  How writes reach the disk: a flush copies one medium from
  memory, and a continuation that resumes without an error
  knows that the medium it awaited has been flushed.
-/
structure Flushing (σ κ α μ δ : Type) where
  flush : μ → σ → δ → δ
  awaited : κ → α → Option μ

namespace Program

variable {σ ι κ α μ δ : Type}

/- The disk at the resumption of a continuation. -/
def settled
    (F : Flushing σ κ α μ δ)
    (k : κ)
    (answer : α)
    (s : OnDisk σ δ) : δ :=
  match F.awaited k answer with
  | some medium => F.flush medium s.memory s.disk
  | none => s.disk

/- A program and its disk; a flush may happen any time. -/
def durable
    (P : Program σ ι κ α)
    (F : Flushing σ κ α μ δ) :
    Program (OnDisk σ δ) (ι ⊕ μ) κ α where
  call i s :=
    match i with
    | .inl i =>
        (P.call i s.memory).map
          fun r => (⟨r.1, s.disk⟩, r.2)
    | .inr medium =>
        some (⟨s.memory, F.flush medium s.memory s.disk⟩, [])
  resume k answer s :=
    (⟨(P.resume k answer s.memory).1, settled F k answer s⟩,
      (P.resume k answer s.memory).2)
  queued := P.queued

/- Lives that may be killed at any moment. -/
def crashing
    (P : Program σ ι κ α)
    (F : Flushing σ κ α μ δ)
    (boot : δ → σ × List κ) :
    System (Pool (OnDisk σ δ) κ) (Life (ι ⊕ μ) α) :=
  (P.durable F).restarting
    fun s => (⟨(boot s.disk).1, s.disk⟩, (boot s.disk).2)

/- A condition on calls alone; flushes are free. -/
def ofCalls
    (onCall : σ → List κ → ι → Prop)
    (s : OnDisk σ δ)
    (pending : List κ) :
    ι ⊕ μ → Prop
  | .inl i => onCall s.memory pending i
  | .inr _ => True

/- A condition on the resumptions in memory. -/
def ofResumes
    (onResume : σ → List κ → κ → α → Prop)
    (s : OnDisk σ δ) :
    List κ → κ → α → Prop :=
  onResume s.memory

/- What a life may do; it may end at any moment. -/
def whileCrashing
    (onCall : σ → List κ → ι → Prop)
    (onResume : σ → List κ → κ → α → Prop) :
    Pool (OnDisk σ δ) κ → Life (ι ⊕ μ) α → Prop :=
  whenRestarting (fun _ => True)
    (ofCalls onCall) (ofResumes onResume)

instance
    (onCall : σ → List κ → ι → Prop)
    [∀ s ks i, Decidable (onCall s ks i)]
    (s : OnDisk σ δ)
    (pending : List κ)
    (i : ι ⊕ μ) :
    Decidable (ofCalls onCall s pending i) :=
  match i with
  | .inl i =>
      inferInstanceAs (Decidable (onCall s.memory pending i))
  | .inr _ => isTrue trivial

instance
    (onResume : σ → List κ → κ → α → Prop)
    [∀ s ks k a, Decidable (onResume s ks k a)]
    (s : OnDisk σ δ)
    (rest : List κ)
    (k : κ)
    (answer : α) :
    Decidable (ofResumes onResume s rest k answer) :=
  inferInstanceAs
    (Decidable (onResume s.memory rest k answer))

instance
    (onCall : σ → List κ → ι → Prop)
    (onResume : σ → List κ → κ → α → Prop)
    [∀ s ks i, Decidable (onCall s ks i)]
    [∀ s ks k a, Decidable (onResume s ks k a)]
    (p : Pool (OnDisk σ δ) κ)
    (life : Life (ι ⊕ μ) α) :
    Decidable (whileCrashing onCall onResume p life) := by
  unfold whileCrashing
  infer_instance

end Program

end EventLoop

------------------------------------------------------------
-- The Invariant Rule
------------------------------------------------------------

namespace EventLoop

namespace Program

variable {σ ι κ α μ δ : Type}
variable {P : Program σ ι κ α} {F : Flushing σ κ α μ δ}
variable {boot : δ → σ × List κ}
variable {onCall : σ → List κ → ι → Prop}
variable {onResume : σ → List κ → κ → α → Prop}

/-
  An invariant of memory and disk over all lives.  Flushes
  keep it, so a turn may start from a disk on which the
  write it awaited already is.
-/
theorem crashing_invariant
    {I : σ → δ → List κ → Prop}
    {p q : Pool (OnDisk σ δ) κ}
    {es : List (Life (ι ⊕ μ) α)}
    (hRun :
      (P.crashing F boot).Run
        (whileCrashing onCall onResume) p es q)
    (hStart : I p.shared.memory p.shared.disk p.pending)
    (hBoot :
      ∀ s d pending,
        I s d pending →
        I (boot d).1 d (boot d).2)
    (hFlush :
      ∀ medium s d pending,
        I s d pending →
        I s (F.flush medium s d) pending)
    (hAgain :
      ∀ medium s d,
        F.flush medium s (F.flush medium s d) =
          F.flush medium s d)
    (hCall :
      ∀ s d pending i s' ks,
        I s d pending →
        onCall s pending i →
        P.call i s = some (s', ks) →
        I s' d (pending ++ ks))
    (hResume :
      ∀ s d earlier k later answer,
        I s d (earlier ++ k :: later) →
        onResume s (earlier ++ later) k answer →
        (∀ medium,
          F.awaited k answer = some medium →
          F.flush medium s d = d) →
        I (P.resume k answer s).1 d
          (earlier ++ later ++ (P.resume k answer s).2)) :
    I q.shared.memory q.shared.disk q.pending := by
  refine restarting_invariant
    (I := fun s pending => I s.memory s.disk pending)
    hRun hStart ?_ ?_ ?_
  · intro s pending hI _
    exact hBoot s.memory s.disk pending hI
  · intro s pending i s' ks hI hOk hNext
    cases i with
    | inl i =>
        simp only [durable, Option.map_eq_some_iff] at hNext
        rcases hNext with ⟨⟨t, points⟩, hCalled, hEq⟩
        cases hEq
        exact hCall s.memory s.disk pending i t points hI hOk
          hCalled
    | inr medium =>
        cases hNext
        rw [List.append_nil]
        exact hFlush medium s.memory s.disk pending hI
  · intro s earlier k later answer hI hOk
    have hSettled :
        I s.memory (settled F k answer s)
          (earlier ++ k :: later) := by
      unfold settled
      cases hAwaited : F.awaited k answer with
      | none => exact hI
      | some medium => exact hFlush medium _ _ _ hI
    refine hResume s.memory (settled F k answer s) earlier k
      later answer hSettled hOk ?_
    intro medium hAwaited
    have hDisk :
        settled F k answer s =
          F.flush medium s.memory s.disk := by
      simp only [settled, hAwaited]
    rw [hDisk]
    exact hAgain medium s.memory s.disk

end Program

end EventLoop
