import NewsCentral.EventLoop.Program

/-
  Programs put together.

  A program over a part of a state is a program over the
  whole, and two programs over one state run side by side on
  one event loop.  A program that takes over another's
  turns drains as that one does.

  Key definitions include:
    * `EventLoop.Program.zoom`
    * `EventLoop.Program.beside`

  Key theorems include:
    * `EventLoop.Program.beside_invariant`
    * `EventLoop.Program.drain_view`
-/

------------------------------------------------------------
-- Zooming And Running Side By Side
------------------------------------------------------------

namespace EventLoop

namespace Program

variable {σ τ ι ι' κ κ' α α' : Type}

/- A program over the part `get` shows and `put` replaces. -/
def zoom
    (P : Program σ ι κ α)
    (get : τ → σ)
    (put : σ → τ → τ) : Program τ ι κ α where
  call i t :=
    (P.call i (get t)).map fun r => (put r.1 t, r.2)
  resume k answer t :=
    let r := P.resume k answer (get t)
    (put r.1 t, r.2)
  queued := P.queued

/-
  Two programs over one state.  Either is answered its own
  part of an answer; no order is imposed on the waiters.
-/
def beside
    (P : Program σ ι κ α)
    (Q : Program σ ι' κ' α') :
    Program σ (ι ⊕ ι') (κ ⊕ κ') (α × α') where
  call
    | .inl i, s =>
        (P.call i s).map fun r => (r.1, r.2.map Sum.inl)
    | .inr i, s =>
        (Q.call i s).map fun r => (r.1, r.2.map Sum.inr)
  resume
    | .inl k, answer, s =>
        let r := P.resume k answer.1 s
        (r.1, r.2.map Sum.inl)
    | .inr k, answer, s =>
        let r := Q.resume k answer.2 s
        (r.1, r.2.map Sum.inr)
  queued := fun _ => false

variable {P : Program σ ι κ α} {Q : Program σ ι' κ' α'}

/-
  An invariant of two programs side by side, each of whose
  calls and turns keeps it.
-/
theorem beside_invariant
    {I :
      List (Event (ι ⊕ ι') (α × α')) → σ →
        List (κ ⊕ κ') → Prop}
    {p q : Pool σ (κ ⊕ κ')}
    {es : List (Event (ι ⊕ ι') (α × α'))}
    (hRun : (P.beside Q).system.Run System.anyStep p es q)
    (hStart : I [] p.shared p.pending)
    (hCallLeft :
      ∀ (hist : List (Event (ι ⊕ ι') (α × α'))) (s : σ)
        (pending : List (κ ⊕ κ')) (i : ι) (s' : σ)
        (ks : List κ),
        I hist s pending →
        P.call i s = some (s', ks) →
        I (hist ++ [.call (.inl i)]) s'
          (pending ++ ks.map Sum.inl))
    (hCallRight :
      ∀ (hist : List (Event (ι ⊕ ι') (α × α'))) (s : σ)
        (pending : List (κ ⊕ κ')) (i : ι') (s' : σ)
        (ks : List κ'),
        I hist s pending →
        Q.call i s = some (s', ks) →
        I (hist ++ [.call (.inr i)]) s'
          (pending ++ ks.map Sum.inr))
    (hResumeLeft :
      ∀ (hist : List (Event (ι ⊕ ι') (α × α'))) (s : σ)
        (earlier : List (κ ⊕ κ')) (k : κ)
        (later : List (κ ⊕ κ')) (answer : α × α'),
        I hist s (earlier ++ .inl k :: later) →
        I (hist ++ [.resume earlier.length answer])
          (P.resume k answer.1 s).1
          (earlier ++ later ++
            (P.resume k answer.1 s).2.map Sum.inl))
    (hResumeRight :
      ∀ (hist : List (Event (ι ⊕ ι') (α × α'))) (s : σ)
        (earlier : List (κ ⊕ κ')) (k : κ')
        (later : List (κ ⊕ κ')) (answer : α × α'),
        I hist s (earlier ++ .inr k :: later) →
        I (hist ++ [.resume earlier.length answer])
          (Q.resume k answer.2 s).1
          (earlier ++ later ++
            (Q.resume k answer.2 s).2.map Sum.inr)) :
    I es q.shared q.pending := by
  refine run_invariant (I := I) (run_when_true hRun) hStart
    ?_ ?_
  · intro hist s pending i s' ks hI _ hCall
    cases i with
    | inl i =>
        simp only [beside, Option.map_eq_some_iff,
          Prod.mk.injEq] at hCall
        rcases hCall with ⟨r, hLeft, rfl, rfl⟩
        exact hCallLeft hist s pending i r.1 r.2 hI hLeft
    | inr i =>
        simp only [beside, Option.map_eq_some_iff,
          Prod.mk.injEq] at hCall
        rcases hCall with ⟨r, hRight, rfl, rfl⟩
        exact hCallRight hist s pending i r.1 r.2 hI hRight
  · intro hist s earlier k later answer hI _ _
    cases k with
    | inl k =>
        exact hResumeLeft hist s earlier k later answer hI
    | inr k =>
        exact hResumeRight hist s earlier k later answer hI

end Program

end EventLoop

------------------------------------------------------------
-- Taking Over Turns
------------------------------------------------------------

namespace EventLoop

namespace Program

variable {σ τ ι ι' κ κ' α α' : Type}
variable {P : Program σ ι κ α} {Q : Program τ ι' κ' α'}

/-
  A program whose turns at some points are, in a view, the
  turns of another one drains these points as it does.
-/
theorem drain_view
    (respond : κ' → α')
    (view : τ → σ)
    (inject : κ → κ')
    (part : α' → α)
    (hResume :
      ∀ k a t,
        view (Q.resume (inject k) a t).1 =
            (P.resume k (part a) (view t)).1 ∧
          (Q.resume (inject k) a t).2 =
            (P.resume k (part a) (view t)).2.map inject)
    (fuel : Nat)
    (t : τ)
    (ks : List κ) :
    view (Q.drain respond fuel ⟨t, ks.map inject⟩).shared =
        (P.drain (fun k => part (respond (inject k))) fuel
          ⟨view t, ks⟩).shared ∧
      (Q.drain respond fuel ⟨t, ks.map inject⟩).pending =
        (P.drain (fun k => part (respond (inject k))) fuel
          ⟨view t, ks⟩).pending.map inject := by
  induction fuel generalizing t ks with
  | zero => exact ⟨rfl, rfl⟩
  | succ fuel ih =>
      cases ks with
      | nil => exact ⟨rfl, rfl⟩
      | cons k later =>
          rcases hResume k (respond (inject k)) t with
            ⟨hState, hPoints⟩
          simp only [drain, List.map_cons, hPoints,
            ← List.map_append]
          rw [← hState]
          exact ih _ _

end Program

end EventLoop
