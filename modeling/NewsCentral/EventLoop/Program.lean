import NewsCentral.EventLoop.System

/-
  Programs of a single-threaded event loop.

  A call runs synchronously up to its first await and leaves
  continuations behind; the loop later resumes a pending
  continuation with the answer of the awaited future, which
  again runs synchronously up to the next await.  The shared
  state is touched only inside these stretches, so they are
  the atomic steps of every interleaving.

  A continuation may be queued: all queued continuations
  await one and the same future, whose waiters resume in the
  order in which they began waiting.

  Key definitions include:
    * `EventLoop.Program`
    * `EventLoop.Pool`
    * `EventLoop.Program.system`
    * `EventLoop.calls`
    * `EventLoop.Program.when`
    * `EventLoop.Program.sight`
    * `EventLoop.Program.drain`

  Key theorems include:
    * `EventLoop.Program.step_call_iff`
    * `EventLoop.Program.step_resume_iff`
    * `EventLoop.Program.run_invariant`
    * `EventLoop.Program.trace_invariant`
    * `EventLoop.Program.always_iff_run`
    * `EventLoop.Program.admitted_or_broken`
    * `EventLoop.Program.length_add_rank_le`
    * `EventLoop.Program.drain_quiescent`
-/

------------------------------------------------------------
-- Programs And Pools
------------------------------------------------------------

namespace EventLoop

/-
  A program over shared state `σ` with calls `ι`,
  continuations `κ` and answers `α`.  A call may be refused;
  a resumed continuation always runs.
-/
structure Program (σ ι κ α : Type) where
  call : ι → σ → Option (σ × List κ)
  resume : κ → α → σ → σ × List κ
  queued : κ → Bool

/- The shared state and the suspended continuations. -/
structure Pool (σ κ : Type) where
  shared : σ
  pending : List κ

/- What the loop does next. -/
inductive Event (ι α : Type) where
  | call (i : ι)
  | resume (n : Nat) (answer : α)

/- The calls among some events, in their order. -/
def calls
    {ι α : Type} : List (Event ι α) → List ι
  | [] => []
  | .call i :: es => i :: calls es
  | .resume .. :: es => calls es

@[simp] theorem calls_nil
    {ι α : Type} :
    calls ([] : List (Event ι α)) = [] := rfl

@[simp] theorem calls_append
    {ι α : Type}
    (es fs : List (Event ι α)) :
    calls (es ++ fs) = calls es ++ calls fs := by
  induction es with
  | nil => rfl
  | cons e es ih => cases e <;> simp [calls, ih]

@[simp] theorem calls_call
    {ι α : Type}
    (i : ι) :
    calls [(.call i : Event ι α)] = [i] := rfl

@[simp] theorem calls_resume
    {ι α : Type}
    (n : Nat)
    (answer : α) :
    calls [(.resume n answer : Event ι α)] = [] := rfl

/- The first continuation resumes, time after time. -/
def turns
    {ι α : Type}
    (n : Nat)
    (answer : α) : List (Event ι α) :=
  List.replicate n (.resume 0 answer)

/- What stays suspended was suspended before. -/
theorem mem_of_mem_rest
    {κ : Type}
    {earlier later : List κ}
    {k j : κ}
    (hMem : j ∈ earlier ++ later) :
    j ∈ earlier ++ k :: later := by
  rcases List.mem_append.mp hMem with hLeft | hRight
  · exact List.mem_append_left _ hLeft
  · exact List.mem_append_right _ (by simp [hRight])

namespace Pool

variable {σ κ : Type}

/- Nothing is suspended. -/
def Quiescent (p : Pool σ κ) : Prop :=
  p.pending = []

end Pool

namespace Program

variable {σ ι κ α : Type}

/-
  The `n`th continuation is held back by an earlier waiter
  on the queue.
-/
def blocked
    (P : Program σ ι κ α)
    (pending : List κ)
    (n : Nat)
    (k : κ) : Bool :=
  P.queued k && (pending.take n).any P.queued

/- One turn of the event loop. -/
def step
    (P : Program σ ι κ α)
    (p : Pool σ κ) :
    Event ι α → Option (Pool σ κ)
  | .call i =>
      match P.call i p.shared with
      | none => none
      | some (s, ks) => some ⟨s, p.pending ++ ks⟩
  | .resume n answer =>
      match p.pending[n]? with
      | none => none
      | some k =>
          if P.blocked p.pending n k then
            none
          else
            let r := P.resume k answer p.shared
            some ⟨r.1, p.pending.eraseIdx n ++ r.2⟩

/- The event loop of a program as a step system. -/
def system
    (P : Program σ ι κ α) :
    System (Pool σ κ) (Event ι α) where
  step := P.step

end Program

end EventLoop

------------------------------------------------------------
-- What One Turn Can Do
------------------------------------------------------------

namespace EventLoop

namespace Program

variable {σ ι κ α : Type}
variable {P : Program σ ι κ α}

/- A call appends what it leaves suspended. -/
theorem step_call_iff
    {p q : Pool σ κ}
    {i : ι} :
    P.system.step p (.call i) = some q ↔
      ∃ s ks, P.call i p.shared = some (s, ks) ∧
        q = ⟨s, p.pending ++ ks⟩ := by
  simp only [system, step]
  cases hCall : P.call i p.shared with
  | none => simp
  | some r =>
      rcases r with ⟨s, ks⟩
      constructor
      · intro hNext
        exact ⟨s, ks, rfl, (Option.some.inj hNext).symm⟩
      · rintro ⟨s', ks', hEq, rfl⟩
        cases hEq
        rfl

/-
  A resumption takes one continuation out of the pool, no
  earlier waiter standing before a queued one, and appends
  what that continuation leaves suspended.
-/
theorem step_resume_iff
    {p q : Pool σ κ}
    {n : Nat}
    {answer : α} :
    P.system.step p (.resume n answer) = some q ↔
      ∃ earlier k later,
        p.pending = earlier ++ k :: later ∧
        earlier.length = n ∧
        (P.queued k = true →
          ∀ j ∈ earlier, P.queued j = false) ∧
        q =
          ⟨(P.resume k answer p.shared).1,
            earlier ++ later ++
              (P.resume k answer p.shared).2⟩ := by
  simp only [system, step]
  constructor
  · intro hNext
    cases hAt : p.pending[n]? with
    | none => simp [hAt] at hNext
    | some k =>
        rcases List.getElem?_eq_some_iff.mp hAt with
          ⟨hLt, hGet⟩
        have hSplit :
            p.pending =
              p.pending.take n ++
                k :: p.pending.drop (n + 1) := by
          rw [← hGet, ← List.drop_eq_getElem_cons hLt,
            List.take_append_drop]
        have hErase :
            p.pending.eraseIdx n =
              p.pending.take n ++
                p.pending.drop (n + 1) :=
          List.eraseIdx_eq_take_drop_succ _ _
        cases hHeld : P.blocked p.pending n k with
        | true => simp [hAt, hHeld] at hNext
        | false =>
            refine
              ⟨p.pending.take n, k,
                p.pending.drop (n + 1), hSplit,
                by simp; omega, ?_, ?_⟩
            · intro hQueued
              simpa [blocked, hQueued] using hHeld
            · rw [← hErase]
              simpa [hAt, hHeld] using hNext.symm
  · rintro ⟨earlier, k, later, hSplit, rfl, hFree, rfl⟩
    have hAt :
        p.pending[earlier.length]? = some k := by
      simp [hSplit]
    have hErase :
        p.pending.eraseIdx earlier.length =
          earlier ++ later := by
      simp [hSplit, List.eraseIdx_append_of_length_le]
    have hTake :
        p.pending.take earlier.length = earlier := by
      simp [hSplit]
    have hNotBlocked :
        P.blocked p.pending earlier.length k = false := by
      unfold blocked
      rw [hTake]
      cases hQueued : P.queued k with
      | false => rfl
      | true =>
          simpa using hFree hQueued
    simp [hAt, hNotBlocked, hErase]

end Program

end EventLoop

------------------------------------------------------------
-- The Invariant Rule
------------------------------------------------------------

namespace EventLoop

namespace Program

variable {σ ι κ α : Type}

/-
  A condition on single steps: `onCall` speaks of a call and
  the pool it meets, `onResume` of the continuation that is
  resumed, the others that stay suspended and the answer.
-/
def when
    (onCall : σ → List κ → ι → Prop)
    (onResume : σ → List κ → κ → α → Prop)
    (p : Pool σ κ) :
    Event ι α → Prop
  | .call i => onCall p.shared p.pending i
  | .resume n answer =>
      match p.pending[n]? with
      | none => True
      | some k =>
          onResume p.shared (p.pending.eraseIdx n) k answer

instance
    (onCall : σ → List κ → ι → Prop)
    (onResume : σ → List κ → κ → α → Prop)
    [∀ s ks i, Decidable (onCall s ks i)]
    [∀ s ks k a, Decidable (onResume s ks k a)]
    (p : Pool σ κ)
    (e : Event ι α) :
    Decidable (when onCall onResume p e) :=
  match e with
  | .call i =>
      inferInstanceAs
        (Decidable (onCall p.shared p.pending i))
  | .resume n answer =>
      match hAt : p.pending[n]? with
      | none => isTrue (by simp [when, hAt])
      | some k =>
          decidable_of_iff
            (onResume p.shared (p.pending.eraseIdx n) k
              answer)
            (by simp [when, hAt])

variable {onCall : σ → List κ → ι → Prop}
variable {onResume : σ → List κ → κ → α → Prop}

/- The condition on a resumption, with the pool split. -/
@[simp] theorem when_resume
    (s : σ)
    (earlier later : List κ)
    (k : κ)
    (answer : α) :
    when onCall onResume ⟨s, earlier ++ k :: later⟩
        (.resume earlier.length answer) ↔
      onResume s (earlier ++ later) k answer := by
  have hErase :
      (earlier ++ k :: later).eraseIdx earlier.length =
        earlier ++ later := by
    simp [List.eraseIdx_append_of_length_le]
  simp [when, hErase]

variable {P : Program σ ι κ α}

/-
  What holds of admitted calls and resumptions holds of an
  admitted turn: `J` speaks of the turn, and of the shared
  state and the pool after it.
-/
theorem turn_cases
    {J : Event ι α → σ → List κ → Prop}
    {p q : Pool σ κ}
    {e : Event ι α}
    (hNext : P.system.step p e = some q)
    (hCall :
      ∀ i s ks,
        P.call i p.shared = some (s, ks) →
        J (.call i) s (p.pending ++ ks))
    (hResume :
      ∀ earlier k later answer,
        p = ⟨p.shared, earlier ++ k :: later⟩ →
        (P.queued k = true →
          ∀ j ∈ earlier, P.queued j = false) →
        J (.resume earlier.length answer)
          (P.resume k answer p.shared).1
          (earlier ++ later ++
            (P.resume k answer p.shared).2)) :
    J e q.shared q.pending := by
  cases e with
  | call i =>
      rcases step_call_iff.mp hNext with ⟨s, ks, hEq, rfl⟩
      exact hCall i s ks hEq
  | resume n answer =>
      rcases step_resume_iff.mp hNext with
        ⟨earlier, k, later, hSplit, rfl, hFree, rfl⟩
      refine hResume earlier k later answer ?_ hFree
      rw [← hSplit]

/- An admitted turn keeps an invariant. -/
theorem turn_invariant
    {I : σ → List κ → Prop}
    {p q : Pool σ κ}
    {e : Event ι α}
    (hNext : P.system.step p e = some q)
    (hOk : when onCall onResume p e)
    (hI : I p.shared p.pending)
    (hCall :
      ∀ s pending i s' ks,
        I s pending →
        onCall s pending i →
        P.call i s = some (s', ks) →
        I s' (pending ++ ks))
    (hResume :
      ∀ s earlier k later answer,
        I s (earlier ++ k :: later) →
        onResume s (earlier ++ later) k answer →
        I (P.resume k answer s).1
          (earlier ++ later ++
            (P.resume k answer s).2)) :
    I q.shared q.pending := by
  refine turn_cases
    (J := fun e s ks =>
      when onCall onResume p e → I s ks) hNext ?_ ?_ hOk
  · intro i s ks hEq hOk
    exact hCall p.shared p.pending i s ks hI hOk hEq
  · intro earlier k later answer hSplit _ hOk
    rw [hSplit] at hI hOk
    exact hResume p.shared earlier k later answer hI
      ((when_resume _ _ _ _ _).mp hOk)

/- A turn outside the condition breaks a property. -/
theorem turn_breaks
    {I G : σ → List κ → Prop}
    {p q : Pool σ κ}
    {e : Event ι α}
    (hNext : P.system.step p e = some q)
    (hBroken : ¬ when onCall onResume p e)
    (hI : I p.shared p.pending)
    (hCall :
      ∀ s pending i s' ks,
        I s pending →
        ¬ onCall s pending i →
        P.call i s = some (s', ks) →
        ¬ G s' (pending ++ ks))
    (hResume :
      ∀ s earlier k later answer,
        I s (earlier ++ k :: later) →
        ¬ onResume s (earlier ++ later) k answer →
        ¬ G (P.resume k answer s).1
          (earlier ++ later ++
            (P.resume k answer s).2)) :
    ¬ G q.shared q.pending := by
  refine turn_cases
    (J := fun e s ks =>
      ¬ when onCall onResume p e → ¬ G s ks)
    hNext ?_ ?_ hBroken
  · intro i s ks hEq hBroken
    exact hCall p.shared p.pending i s ks hI hBroken hEq
  · intro earlier k later answer hSplit _ hBroken
    rw [hSplit] at hI hBroken
    rw [when_resume] at hBroken
    exact hResume p.shared earlier k later answer hI hBroken

/-
  An invariant of the labels seen so far, the shared state
  and the pool: it is enough that admitted calls and
  resumptions keep it.
-/
theorem run_invariant
    {I : List (Event ι α) → σ → List κ → Prop}
    {p q : Pool σ κ}
    {es : List (Event ι α)}
    (hRun : P.system.Run (when onCall onResume) p es q)
    (hStart : I [] p.shared p.pending)
    (hCall :
      ∀ hist s pending i s' ks,
        I hist s pending →
        onCall s pending i →
        P.call i s = some (s', ks) →
        I (hist ++ [.call i]) s' (pending ++ ks))
    (hResume :
      ∀ hist s earlier k later answer,
        I hist s (earlier ++ k :: later) →
        onResume s (earlier ++ later) k answer →
        (P.queued k = true →
          ∀ j ∈ earlier, P.queued j = false) →
        I (hist ++ [.resume earlier.length answer])
          (P.resume k answer s).1
          (earlier ++ later ++
            (P.resume k answer s).2)) :
    I es q.shared q.pending := by
  refine hRun.historyInvariant
    (I := fun hist p => I hist p.shared p.pending)
    hStart ?_
  intro hist t e u hI hOk hNext
  refine turn_cases
    (J := fun e s ks =>
      when onCall onResume t e → I (hist ++ [e]) s ks)
    hNext ?_ ?_ hOk
  · intro i s ks hEq hOk
    exact hCall hist t.shared t.pending i s ks hI hOk hEq
  · intro earlier k later answer hSplit hFree hOk
    rw [hSplit] at hI hOk
    exact hResume hist t.shared earlier k later answer hI
      ((when_resume _ _ _ _ _).mp hOk) hFree

/-
  A property that an invariant of the admitted turns gives,
  and that no other turn leaves standing, holds throughout a
  run exactly if all its turns are admitted.
-/
theorem always_iff_run
    {I G : σ → List κ → Prop}
    {p q : Pool σ κ}
    {es : List (Event ι α)}
    (hStart : I p.shared p.pending)
    (hKeepCall :
      ∀ s pending i s' ks,
        I s pending →
        onCall s pending i →
        P.call i s = some (s', ks) →
        I s' (pending ++ ks))
    (hKeepResume :
      ∀ s earlier k later answer,
        I s (earlier ++ k :: later) →
        onResume s (earlier ++ later) k answer →
        I (P.resume k answer s).1
          (earlier ++ later ++ (P.resume k answer s).2))
    (hGood : ∀ s pending, I s pending → G s pending)
    (hCall :
      ∀ s pending i s' ks,
        I s pending →
        ¬ onCall s pending i →
        P.call i s = some (s', ks) →
        ¬ G s' (pending ++ ks))
    (hResume :
      ∀ s earlier k later answer,
        I s (earlier ++ k :: later) →
        ¬ onResume s (earlier ++ later) k answer →
        ¬ G (P.resume k answer s).1
          (earlier ++ later ++
            (P.resume k answer s).2))
    (hRun : P.system.Run System.anyStep p es q) :
    P.system.Always (fun _ u => G u.shared u.pending) p es ↔
      P.system.Run (when onCall onResume) p es q := by
  refine System.always_iff_run
    (I := fun u => I u.shared u.pending)
    (G := fun u => G u.shared u.pending)
    hStart ?_ ?_ ?_ hRun
  · intro u e v hI hOk hNext
    exact turn_invariant hNext hOk hI hKeepCall hKeepResume
  · intro u hI
    exact hGood u.shared u.pending hI
  · intro u e v hI hBroken hNext
    exact turn_breaks hNext hBroken hI hCall hResume

/-
  Admitted turns keep one property, the others bring about
  another one for good: a run is either admitted, with the
  first, or ends with the second.
-/
theorem admitted_or_broken
    {I B : σ → List κ → Prop}
    {p q : Pool σ κ}
    {es : List (Event ι α)}
    (hRun : P.system.Run System.anyStep p es q)
    (hStart : I p.shared p.pending)
    (hCall :
      ∀ s pending i s' ks,
        I s pending →
        P.call i s = some (s', ks) →
        (onCall s pending i → I s' (pending ++ ks)) ∧
          (¬ onCall s pending i → B s' (pending ++ ks)))
    (hResume :
      ∀ s earlier k later answer,
        I s (earlier ++ k :: later) →
        let r := P.resume k answer s
        let rest := earlier ++ later
        (onResume s rest k answer → I r.1 (rest ++ r.2)) ∧
          (¬ onResume s rest k answer → B r.1 (rest ++ r.2)))
    (hStayCall :
      ∀ s pending i s' ks,
        B s pending →
        P.call i s = some (s', ks) →
        B s' (pending ++ ks))
    (hStayResume :
      ∀ s earlier k later answer,
        B s (earlier ++ k :: later) →
        B (P.resume k answer s).1
          (earlier ++ later ++ (P.resume k answer s).2)) :
    (P.system.Run (when onCall onResume) p es q ∧
        I q.shared q.pending) ∨
      B q.shared q.pending := by
  induction hRun with
  | nil => exact .inl ⟨.nil, hStart⟩
  | @snoc es t e u _ _ hNext ih =>
      cases e with
      | call i =>
          rcases step_call_iff.mp hNext with
            ⟨s, ks, hEq, rfl⟩
          rcases ih with ⟨hRun, hI⟩ | hB
          · have hBoth := hCall _ _ _ _ _ hI hEq
            by_cases hOk : onCall t.shared t.pending i
            · exact .inl
                ⟨.snoc hRun hOk hNext, hBoth.1 hOk⟩
            · exact .inr (hBoth.2 hOk)
          · exact .inr (hStayCall _ _ _ _ _ hB hEq)
      | resume n answer =>
          rcases step_resume_iff.mp hNext with
            ⟨earlier, k, later, hSplit, rfl, _, rfl⟩
          rcases t with ⟨shared, pending⟩
          simp only at hSplit
          subst hSplit
          rcases ih with ⟨hRun, hI⟩ | hB
          · have hBoth :=
              hResume shared earlier k later answer hI
            by_cases hOk :
                onResume shared (earlier ++ later) k answer
            · exact .inl
                ⟨.snoc hRun ((when_resume _ _ _ _ _).mpr hOk)
                  hNext, hBoth.1 hOk⟩
            · exact .inr (hBoth.2 hOk)
          · exact .inr (hStayResume _ _ _ _ _ hB)

/- The condition that asks for nothing. -/
theorem when_true
    (p : Pool σ κ)
    (e : Event ι α) :
    when (fun _ _ _ => True) (fun _ _ _ _ => True) p e := by
  cases e with
  | call i => trivial
  | resume n answer =>
      cases hAt : p.pending[n]? <;> simp [when, hAt]

/- Any run meets the condition that asks for nothing. -/
theorem run_when_true
    {p q : Pool σ κ}
    {es : List (Event ι α)}
    (hRun : P.system.Run System.anyStep p es q) :
    P.system.Run
      (when (fun _ _ _ => True) fun _ _ _ _ => True)
      p es q :=
  hRun.weaken fun t e _ => when_true t e

end Program

end EventLoop

------------------------------------------------------------
-- What Is Seen Of Turns
------------------------------------------------------------

namespace EventLoop

namespace Program

variable {σ ι κ α β : Type}

/-
  What is seen of a turn: of a call, or of the continuation
  that is resumed and its answer.
-/
def sight
    (ofCall : σ → ι → List β)
    (ofResume : σ → κ → α → List β)
    (p : Pool σ κ) :
    Event ι α → List β
  | .call i => ofCall p.shared i
  | .resume n answer =>
      match p.pending[n]? with
      | none => []
      | some k => ofResume p.shared k answer

variable {ofCall : σ → ι → List β}
variable {ofResume : σ → κ → α → List β}

/- What is seen of a resumption, with the pool split. -/
@[simp] theorem sight_resume
    (s : σ)
    (earlier later : List κ)
    (k : κ)
    (answer : α) :
    sight ofCall ofResume ⟨s, earlier ++ k :: later⟩
        (.resume earlier.length answer) =
      ofResume s k answer := by
  simp [sight]

variable {P : Program σ ι κ α}
variable {onCall : σ → List κ → ι → Prop}
variable {onResume : σ → List κ → κ → α → Prop}

/-
  An invariant of the shared state, the pool and what was
  seen so far: it is enough that admitted calls and
  resumptions keep it.
-/
theorem trace_invariant
    {I : List β → σ → List κ → Prop}
    {p q : Pool σ κ}
    {es : List (Event ι α)}
    (hRun : P.system.Run (when onCall onResume) p es q)
    (hStart : I [] p.shared p.pending)
    (hCall :
      ∀ seen s pending i s' ks,
        I seen s pending →
        onCall s pending i →
        P.call i s = some (s', ks) →
        I (seen ++ ofCall s i) s' (pending ++ ks))
    (hResume :
      ∀ seen s earlier k later answer,
        I seen s (earlier ++ k :: later) →
        onResume s (earlier ++ later) k answer →
        I (seen ++ ofResume s k answer)
          (P.resume k answer s).1
          (earlier ++ later ++
            (P.resume k answer s).2)) :
    I (P.system.trace (sight ofCall ofResume) p es)
      q.shared q.pending := by
  refine hRun.traceInvariant
    (I := fun seen p => I seen p.shared p.pending)
    hStart ?_
  intro seen t e u hI hOk hNext
  cases e with
  | call i =>
      rcases step_call_iff.mp hNext with ⟨s, ks, hEq, rfl⟩
      exact hCall seen t.shared t.pending i s ks
        hI hOk hEq
  | resume n answer =>
      rcases step_resume_iff.mp hNext with
        ⟨earlier, k, later, hSplit, rfl, _, rfl⟩
      rcases t with ⟨shared, pending⟩
      simp only at hSplit
      subst hSplit
      rw [sight_resume]
      exact hResume seen shared earlier k later answer
        hI ((when_resume _ _ _ _ _).mp hOk)

end Program

end EventLoop

------------------------------------------------------------
-- Undisturbed Operations
------------------------------------------------------------

namespace EventLoop

namespace Program

variable {σ ι κ α : Type}

/-
  Resume the first continuation up to `fuel` times, each
  with the answer `respond` gives its point.
-/
def drain
    (P : Program σ ι κ α)
    (respond : κ → α) : Nat → Pool σ κ → Pool σ κ
  | 0, p => p
  | fuel + 1, p =>
      match p.pending with
      | [] => p
      | k :: later =>
          let r := P.resume k (respond k) p.shared
          P.drain respond fuel ⟨r.1, later ++ r.2⟩

variable {P : Program σ ι κ α}
variable {respond : κ → α}

/- Nothing happens to a pool without continuations. -/
@[simp] theorem drain_nil
    (fuel : Nat)
    (s : σ) :
    P.drain respond fuel ⟨s, []⟩ = ⟨s, []⟩ := by
  cases fuel <;> rfl

/- A lone continuation is resumed first. -/
theorem drain_singleton
    (fuel : Nat)
    (s : σ)
    (k : κ) :
    P.drain respond (fuel + 1) ⟨s, [k]⟩ =
      P.drain respond fuel
        ⟨(P.resume k (respond k) s).1,
          (P.resume k (respond k) s).2⟩ := rfl

/- Draining keeps what every resumption keeps. -/
theorem drain_invariant
    {I : σ → List κ → Prop}
    (hResume :
      ∀ s k later, I s (k :: later) →
        I (P.resume k (respond k) s).1
          (later ++ (P.resume k (respond k) s).2))
    (fuel : Nat)
    {p : Pool σ κ}
    (hStart : I p.shared p.pending) :
    I (P.drain respond fuel p).shared
      (P.drain respond fuel p).pending := by
  induction fuel generalizing p with
  | zero => exact hStart
  | succ fuel ih =>
      rcases p with ⟨s, pending⟩
      cases pending with
      | nil => exact hStart
      | cons k later => exact ih (hResume s k later hStart)

/-
  Without calls there are no more turns than the pool has
  rank, if each point leaves points of less rank behind.
-/
theorem length_add_rank_le
    {P : Program σ ι κ α}
    {ok : Pool σ κ → Event ι α → Prop}
    {p q : Pool σ κ}
    {es : List (Event ι α)}
    (rank : κ → Nat)
    (hRank :
      ∀ k a s,
        ((P.resume k a s).2.map rank).sum < rank k)
    (hAlone : ∀ i s, P.call i s = none)
    (hRun : P.system.Run ok p es q) :
    es.length + (q.pending.map rank).sum ≤
      (p.pending.map rank).sum := by
  induction hRun with
  | nil => simp
  | @snoc es t e u _ _ hNext ih =>
      cases e with
      | call i =>
          rcases step_call_iff.mp hNext with ⟨s, ks, hEq, _⟩
          rw [hAlone] at hEq
          cases hEq
      | resume n answer =>
          rcases step_resume_iff.mp hNext with
            ⟨earlier, k, later, hSplit, _, _, rfl⟩
          have hLess := hRank k answer t.shared
          rw [hSplit] at ih
          simp only [List.map_append, List.map_cons,
            List.sum_append, List.sum_cons,
            List.length_append, List.length_cons,
            List.length_nil] at ih ⊢
          omega

/-
  An operation ends when each of its points leaves at most
  one point of smaller rank behind.
-/
theorem drain_quiescent
    (rank : κ → Nat)
    (hRank :
      ∀ k a s, (P.resume k a s).2 = [] ∨
        ∃ k', (P.resume k a s).2 = [k'] ∧
          rank k' < rank k)
    {fuel : Nat}
    {s : σ}
    {k : κ}
    (hFuel : rank k < fuel) :
    (P.drain respond fuel ⟨s, [k]⟩).Quiescent := by
  induction fuel generalizing s k with
  | zero => omega
  | succ fuel ih =>
      simp only [drain, List.nil_append]
      rcases hRank k (respond k) s with hNone | hOne
      · rw [hNone]
        simp [Pool.Quiescent]
      · rcases hOne with ⟨k', hNext, hLess⟩
        rw [hNext]
        exact ih (by omega)

end Program

end EventLoop
