import Mathlib

/-
  Labelled step systems and their finite runs.

  A system is a partial step function: a label is either not
  enabled or leads to exactly one state, so all choice lies
  in the labels.  `Run ok` collects the runs each of whose
  steps meets the condition `ok` on the state before the
  step and on its label.

  Key definitions include:
    * `EventLoop.System`
    * `EventLoop.System.Run`
    * `EventLoop.System.exec`
    * `EventLoop.System.Admits`
    * `EventLoop.System.Always`
    * `EventLoop.System.trace`

  Key theorems include:
    * `EventLoop.System.Run.historyInvariant`
    * `EventLoop.System.Run.traceInvariant`
    * `EventLoop.System.run_iff_exec`
    * `EventLoop.System.always_iff_run`
-/

------------------------------------------------------------
-- Systems And Runs
------------------------------------------------------------

namespace EventLoop

/- A deterministic labelled system with partial steps. -/
structure System (σ ε : Type) where
  step : σ → ε → Option σ

namespace System

variable {σ ε : Type}

/-
  Runs from `s`, given by their labels and their last state,
  in which every step meets `ok`.  The last step comes
  outermost, so induction follows the run forwards.
-/
inductive Run
    (sys : System σ ε)
    (ok : σ → ε → Prop)
    (s : σ) : List ε → σ → Prop
  | nil : Run sys ok s [] s
  | snoc {es : List ε} {t : σ} {e : ε} {u : σ} :
      Run sys ok s es t →
      ok t e →
      sys.step t e = some u →
      Run sys ok s (es ++ [e]) u

/- The condition that every step meets. -/
def anyStep (_ : σ) (_ : ε) : Prop := True

variable {sys : System σ ε}
variable {ok ok' : σ → ε → Prop}

/-
  An invariant of admitted steps, which may also speak of
  the labels seen so far, holds in the last state of every
  admitted run.
-/
theorem Run.historyInvariant
    {I : List ε → σ → Prop}
    {s t : σ}
    {es : List ε}
    (hRun : sys.Run ok s es t)
    (hStart : I [] s)
    (hStep :
      ∀ hist t e u, I hist t → ok t e →
        sys.step t e = some u → I (hist ++ [e]) u) :
    I es t := by
  induction hRun with
  | nil => exact hStart
  | snoc _ hOk hNext ih =>
      exact hStep _ _ _ _ ih hOk hNext

/- A weaker condition admits more runs. -/
theorem Run.weaken
    {s t : σ}
    {es : List ε}
    (hRun : sys.Run ok s es t)
    (hWeaker : ∀ t e, ok t e → ok' t e) :
    sys.Run ok' s es t := by
  induction hRun with
  | nil => exact .nil
  | snoc _ hOk hNext ih =>
      exact .snoc ih (hWeaker _ _ hOk) hNext

/- Admitted runs are runs. -/
theorem Run.any
    {s t : σ}
    {es : List ε}
    (hRun : sys.Run ok s es t) :
    sys.Run anyStep s es t :=
  hRun.weaken fun _ _ _ => trivial

/- What all labels meet may be asked of each step. -/
theorem Run.ofLabels
    {P : ε → Prop}
    {s t : σ}
    {es : List ε}
    (hRun : sys.Run ok s es t)
    (hLabels : ∀ e ∈ es, P e) :
    sys.Run (fun _ e => P e) s es t := by
  induction hRun with
  | nil => exact .nil
  | snoc _ _ hNext ih =>
      exact .snoc
        (ih fun e hMem =>
          hLabels e (List.mem_append_left _ hMem))
        (hLabels _ (by simp)) hNext

/- Runs compose. -/
theorem Run.trans
    {s t u : σ}
    {es fs : List ε}
    (hFirst : sys.Run ok s es t)
    (hSecond : sys.Run ok t fs u) :
    sys.Run ok s (es ++ fs) u := by
  induction hSecond with
  | nil => simpa using hFirst
  | snoc _ hOk hNext ih =>
      rw [← List.append_assoc]
      exact .snoc ih hOk hNext

/- A single admitted step is a run. -/
theorem Run.single
    {s t : σ}
    {e : ε}
    (hOk : ok s e)
    (hNext : sys.step s e = some t) :
    sys.Run ok s [e] t := by
  simpa using Run.snoc Run.nil hOk hNext

end System

end EventLoop

------------------------------------------------------------
-- Executable Runs
------------------------------------------------------------

namespace EventLoop

namespace System

variable {σ ε : Type}

/- Follow a list of labels, failing at a disabled one. -/
def exec (sys : System σ ε) : σ → List ε → Option σ
  | s, [] => some s
  | s, e :: es =>
      match sys.step s e with
      | none => none
      | some t => sys.exec t es

/-
  Every step taken along the labels meets `ok`; the labels
  after a disabled one are not looked at.
-/
def Admits
    (sys : System σ ε)
    (ok : σ → ε → Prop) : σ → List ε → Prop
  | _, [] => True
  | s, e :: es =>
      ok s e ∧
        match sys.step s e with
        | none => True
        | some t => sys.Admits ok t es

instance decidableAdmits
    (sys : System σ ε)
    (ok : σ → ε → Prop)
    [∀ s e, Decidable (ok s e)] :
    ∀ s es, Decidable (sys.Admits ok s es)
  | _, [] => isTrue trivial
  | s, e :: es =>
      match hNext : sys.step s e with
      | none =>
          decidable_of_iff (ok s e)
            (by simp [Admits, hNext])
      | some t =>
          have := decidableAdmits sys ok t es
          decidable_of_iff (ok s e ∧ sys.Admits ok t es)
            (by simp [Admits, hNext])

variable {sys : System σ ε}
variable {ok : σ → ε → Prop}

/- Prepending an admitted step to a run. -/
theorem Run.cons
    {s t u : σ}
    {e : ε}
    {es : List ε}
    (hOk : ok s e)
    (hNext : sys.step s e = some t)
    (hRun : sys.Run ok t es u) :
    sys.Run ok s (e :: es) u :=
  Run.trans (Run.single hOk hNext) hRun

/- A nonempty run starts with an admitted step. -/
theorem Run.exists_of_cons
    {s u : σ}
    {e : ε}
    {es : List ε}
    (hRun : sys.Run ok s (e :: es) u) :
    ∃ t, ok s e ∧ sys.step s e = some t ∧
      sys.Run ok t es u := by
  generalize hLabels : e :: es = labels at hRun
  induction hRun generalizing es with
  | nil => simp at hLabels
  | @snoc prior t last u hPrior hOk hNext ih =>
      cases prior with
      | nil =>
          have hLast : e = last ∧ es = [] := by
            simpa using hLabels
          rcases hLast with ⟨rfl, rfl⟩
          have hStart : t = s := by
            generalize hNil : ([] : List ε) = labels
              at hPrior
            cases hPrior with
            | nil => rfl
            | snoc => simp at hNil
          subst hStart
          exact ⟨u, hOk, hNext, .nil⟩
      | cons first prior =>
          have hFirstLabel :
              e = first ∧ es = prior ++ [last] := by
            simpa using hLabels
          rcases hFirstLabel with ⟨rfl, rfl⟩
          rcases ih rfl with ⟨v, hFirst, hStep, hRest⟩
          exact ⟨v, hFirst, hStep,
            .snoc hRest hOk hNext⟩

/-
  Relational runs are the executable runs whose steps are
  all admitted.
-/
theorem run_iff_exec
    {s u : σ}
    {es : List ε} :
    sys.Run ok s es u ↔
      sys.Admits ok s es ∧ sys.exec s es = some u := by
  induction es generalizing s with
  | nil =>
      constructor
      · intro hRun
        generalize hLabels : ([] : List ε) = labels at hRun
        cases hRun with
        | nil => exact ⟨trivial, rfl⟩
        | snoc => simp at hLabels
      · rintro ⟨_, hExec⟩
        cases Option.some.inj hExec
        exact .nil
  | cons e es ih =>
      constructor
      · intro hRun
        rcases hRun.exists_of_cons with
          ⟨t, hOk, hNext, hRest⟩
        have hTail := ih.mp hRest
        simpa [Admits, exec, hNext] using
          ⟨⟨hOk, hTail.1⟩, hTail.2⟩
      · rintro ⟨hAdmits, hExec⟩
        cases hNext : sys.step s e with
        | none => simp [exec, hNext] at hExec
        | some t =>
            simp only [Admits, hNext] at hAdmits
            simp only [exec, hNext] at hExec
            exact .cons hAdmits.1 hNext
              (ih.mpr ⟨hAdmits.2, hExec⟩)

/- The labels of a run determine its last state. -/
theorem Run.deterministic
    {ok' : σ → ε → Prop}
    {s t u : σ}
    {es : List ε}
    (hLeft : sys.Run ok s es t)
    (hRight : sys.Run ok' s es u) :
    t = u :=
  Option.some.inj
    ((run_iff_exec.mp hLeft).2.symm.trans
      (run_iff_exec.mp hRight).2)

/- A run over joined labels passes through a middle state. -/
theorem Run.exists_of_append
    {s u : σ}
    {es fs : List ε}
    (hRun : sys.Run ok s (es ++ fs) u) :
    ∃ t, sys.Run ok s es t ∧ sys.Run ok t fs u := by
  induction es generalizing s with
  | nil => exact ⟨s, .nil, hRun⟩
  | cons e es ih =>
      rcases hRun.exists_of_cons with
        ⟨v, hOk, hNext, hRest⟩
      rcases ih hRest with ⟨t, hFirst, hSecond⟩
      exact ⟨t, .cons hOk hNext hFirst, hSecond⟩

/- Every label list is admitted by the trivial condition. -/
theorem admits_anyStep
    (s : σ)
    (es : List ε) :
    sys.Admits anyStep s es := by
  induction es generalizing s with
  | nil => trivial
  | cons e es ih =>
      refine ⟨trivial, ?_⟩
      cases sys.step s e with
      | none => trivial
      | some t => exact ih t

/- Unconditioned runs are exactly the executable ones. -/
theorem run_of_exec
    {s u : σ}
    {es : List ε}
    (hExec : sys.exec s es = some u) :
    sys.Run anyStep s es u :=
  run_iff_exec.mpr ⟨admits_anyStep s es, hExec⟩

end System

end EventLoop

------------------------------------------------------------
-- Exact Conditions
------------------------------------------------------------

namespace EventLoop

namespace System

variable {σ ε : Type}

/-
  `G` holds in every state visited along the labels, each
  taken with the labels that led to it.
-/
def Always
    (sys : System σ ε)
    (G : List ε → σ → Prop)
    (s : σ)
    (es : List ε) : Prop :=
  ∀ es₁ es₂ u, es = es₁ ++ es₂ →
    sys.Run anyStep s es₁ u → G es₁ u

variable {sys : System σ ε}
variable {ok : σ → ε → Prop}
/-
  When admitted steps keep an invariant that gives `G`, and
  any other step breaks `G` at once, a run keeps `G`
  throughout exactly if all its steps are admitted.
-/
theorem always_iff_run
    {I G : σ → Prop}
    {s t : σ}
    {es : List ε}
    (hStart : I s)
    (hKeep :
      ∀ u e v, I u → ok u e → sys.step u e = some v → I v)
    (hGood : ∀ u, I u → G u)
    (hBreak :
      ∀ u e v, I u → ¬ ok u e → sys.step u e = some v →
        ¬ G v)
    (hRun : sys.Run anyStep s es t) :
    sys.Always (fun _ u => G u) s es ↔
      sys.Run ok s es t := by
  have hKept {fs : List ε} {u : σ}
      (hAdmitted : sys.Run ok s fs u) :
      I u :=
    hAdmitted.historyInvariant (I := fun _ u => I u) hStart
      fun _ u e v hI hOk hNext => hKeep u e v hI hOk hNext
  constructor
  · intro hAlways
    induction hRun with
    | nil => exact .nil
    | @snoc es u e v hPrior _ hNext ih =>
        have hPriorOk : sys.Run ok s es u := by
          apply ih
          intro es₁ es₂ w hSplit hVisit
          exact hAlways es₁ (es₂ ++ [e]) w
            (by simp [hSplit]) hVisit
        by_cases hOk : ok u e
        · exact .snoc hPriorOk hOk hNext
        · have hVisit :=
            Run.snoc hPrior trivial hNext
          exact absurd
            (hAlways (es ++ [e]) [] v (by simp) hVisit)
            (hBreak u e v (hKept hPriorOk) hOk hNext)
  · intro hRunOk es₁ es₂ u hSplit hVisit
    subst hSplit
    rcases hRunOk.exists_of_append with ⟨w, hFirst, _⟩
    cases hVisit.deterministic hFirst
    exact hGood _ (hKept hFirst)

end System

end EventLoop

------------------------------------------------------------
-- Traces
------------------------------------------------------------

namespace EventLoop

namespace System

variable {σ ε β : Type}

/-
  What is seen of the steps along the labels, where `see`
  looks at a label and the state before it.
-/
def trace
    (sys : System σ ε)
    (see : σ → ε → List β) : σ → List ε → List β
  | _, [] => []
  | s, e :: es =>
      see s e ++
        match sys.step s e with
        | none => []
        | some t => sys.trace see t es

variable {sys : System σ ε}
variable {ok : σ → ε → Prop}
variable {see : σ → ε → List β}

/- A label after a run adds what is seen in its last state. -/
theorem trace_append_of_exec
    {s t : σ}
    {es : List ε}
    {e : ε}
    (hExec : sys.exec s es = some t) :
    sys.trace see s (es ++ [e]) =
      sys.trace see s es ++ see t e := by
  induction es generalizing s with
  | nil =>
      cases Option.some.inj hExec
      simp only [List.nil_append, trace]
      cases sys.step t e <;> simp
  | cons first es ih =>
      simp only [List.cons_append, trace]
      cases hNext : sys.step s first with
      | none => simp [exec, hNext] at hExec
      | some u =>
          simp only [exec, hNext] at hExec
          simp only [ih hExec, List.append_assoc]

/-
  An invariant of the state and of what was seen so far
  holds in the last state of every admitted run.
-/
theorem Run.traceInvariant
    {I : List β → σ → Prop}
    {s t : σ}
    {es : List ε}
    (hRun : sys.Run ok s es t)
    (hStart : I [] s)
    (hStep :
      ∀ seen t e u, I seen t → ok t e →
        sys.step t e = some u → I (seen ++ see t e) u) :
    I (sys.trace see s es) t := by
  induction hRun with
  | nil => exact hStart
  | snoc hPrior hOk hNext ih =>
      have hExec := (run_iff_exec.mp hPrior).2
      rw [trace_append_of_exec hExec]
      exact hStep _ _ _ _ ih hOk hNext

end System

end EventLoop
