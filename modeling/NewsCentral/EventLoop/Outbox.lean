import Mathlib.Data.List.Basic

/-
  Writes on their way.

  A client issues writes and does not wait for them.  They
  take effect one by one in the order in which the client
  issued them, while those of different clients interleave
  in any way.

  Key definitions include:
    * `EventLoop.Outbox`
    * `EventLoop.Outbox.issue`
    * `EventLoop.Outbox.rest`
    * `EventLoop.Outbox.Carries`
    * `EventLoop.Outbox.picked`

  Key theorems include:
    * `EventLoop.Outbox.Carries.issue`
    * `EventLoop.Outbox.Carries.rest`
    * `EventLoop.Outbox.All.issue`
    * `EventLoop.Outbox.All.rest`
    * `EventLoop.Outbox.picked_issue`
    * `EventLoop.Outbox.picked_of_first`
-/

------------------------------------------------------------
-- Outboxes
------------------------------------------------------------

namespace EventLoop

/- The writes of each client that are still to be applied. -/
abbrev Outbox (χ ω : Type) :=
  χ → List ω

namespace Outbox

variable {χ ω : Type} [DecidableEq χ]

/- Nothing is on its way. -/
def empty : Outbox χ ω :=
  fun _ => []

/- A client issues further writes. -/
def issue
    (o : Outbox χ ω)
    (c : χ)
    (ws : List ω) : Outbox χ ω :=
  fun d => if d = c then o d ++ ws else o d

/- The first write of a client has taken effect. -/
def rest
    (o : Outbox χ ω)
    (c : χ) : Outbox χ ω :=
  fun d => if d = c then (o d).tail else o d

variable {o : Outbox χ ω} {c d : χ} {w : ω} {ws : List ω}

@[simp] theorem issue_same :
    o.issue c ws c = o c ++ ws := by
  simp [issue]

theorem issue_of_ne
    (hNe : d ≠ c) :
    o.issue c ws d = o d := by
  simp [issue, hNe]

@[simp] theorem rest_same :
    o.rest c c = (o c).tail := by
  simp [rest]

theorem rest_of_ne
    (hNe : d ≠ c) :
    o.rest c d = o d := by
  simp [rest, hNe]

/- Some of the clients has a write of the kind underway. -/
def Carries
    (o : Outbox χ ω)
    (cs : List χ)
    (kind : ω → Prop) : Prop :=
  ∃ c ∈ cs, ∃ w ∈ o c, kind w

instance
    (o : Outbox χ ω)
    (cs : List χ)
    (kind : ω → Prop)
    [DecidablePred kind] :
    Decidable (o.Carries cs kind) := by
  unfold Carries
  infer_instance

/- Every write on its way is of the kind. -/
def All
    (o : Outbox χ ω)
    (kind : χ → ω → Prop) : Prop :=
  ∀ c, ∀ w ∈ o c, kind c w

variable {cs : List χ} {kind : ω → Prop}

/- What is underway stays so when more is issued. -/
theorem Carries.issue
    (hCarries : o.Carries cs kind) :
    (o.issue c ws).Carries cs kind := by
  rcases hCarries with ⟨d, hClient, w, hMem, hKind⟩
  refine ⟨d, hClient, w, ?_, hKind⟩
  by_cases hSame : d = c
  · subst hSame
    simp [hMem]
  · rwa [issue_of_ne hSame]

/- What is underway is applied next or still is. -/
theorem Carries.rest
    (hFirst : o c = w :: ws)
    (hCarries : o.Carries cs kind) :
    kind w ∨ (o.rest c).Carries cs kind := by
  rcases hCarries with ⟨d, hClient, v, hMem, hKind⟩
  by_cases hSame : d = c
  · subst hSame
    rw [hFirst, List.mem_cons] at hMem
    rcases hMem with rfl | hLater
    · exact .inl hKind
    · exact .inr
        ⟨d, hClient, v, by simpa [hFirst] using hLater, hKind⟩
  · exact .inr
      ⟨d, hClient, v, by rwa [rest_of_ne hSame], hKind⟩

/- What a client has behind its first write is underway. -/
theorem carries_rest_of_mem
    (hFirst : o c = w :: ws)
    (hClient : c ∈ cs)
    {v : ω}
    (hMem : v ∈ ws)
    (hKind : kind v) :
    (o.rest c).Carries cs kind :=
  ⟨c, hClient, v, by simpa [hFirst] using hMem, hKind⟩

variable {kind : χ → ω → Prop}

omit [DecidableEq χ] in
theorem all_empty :
    (empty : Outbox χ ω).All kind := by
  intro c w hMem
  cases hMem

theorem All.issue
    (hAll : o.All kind)
    (hNew : ∀ w ∈ ws, kind c w) :
    (o.issue c ws).All kind := by
  intro d w hMem
  by_cases hSame : d = c
  · subst hSame
    rw [issue_same, List.mem_append] at hMem
    rcases hMem with hOld | hIssued
    · exact hAll d w hOld
    · exact hNew w hIssued
  · rw [issue_of_ne hSame] at hMem
    exact hAll d w hMem

theorem All.rest
    (hAll : o.All kind) :
    (o.rest c).All kind := by
  intro d w hMem
  by_cases hSame : d = c
  · subst hSame
    rw [rest_same] at hMem
    exact hAll d w (List.mem_of_mem_tail hMem)
  · rw [rest_of_ne hSame] at hMem
    exact hAll d w hMem

variable {β : Type} {pick : ω → Option β}

/- What is picked from the writes of a client, in order. -/
def picked
    (o : Outbox χ ω)
    (pick : ω → Option β)
    (c : χ) : List β :=
  (o c).filterMap pick

omit [DecidableEq χ] in
@[simp] theorem picked_empty :
    (empty : Outbox χ ω).picked pick c = [] := rfl

/- What is issued is picked behind what is underway. -/
theorem picked_issue :
    (o.issue c ws).picked pick d =
      o.picked pick d ++
        if d = c then ws.filterMap pick else [] := by
  unfold picked
  by_cases hSame : d = c
  · subst hSame
    rw [issue_same, List.filterMap_append, if_pos rfl]
  · rw [issue_of_ne hSame, if_neg hSame, List.append_nil]

/- The write that takes effect was picked first. -/
theorem picked_of_first
    (pick : ω → Option β)
    (d : χ)
    (hFirst : o c = w :: ws) :
    o.picked pick d =
      (if d = c then (pick w).toList else []) ++
        (o.rest c).picked pick d := by
  unfold picked
  by_cases hSame : d = c
  · subst hSame
    rw [rest_same, hFirst, if_pos rfl, List.tail_cons,
      List.filterMap_cons]
    cases pick w <;> rfl
  · rw [rest_of_ne hSame, if_neg hSame, List.nil_append]

end Outbox

end EventLoop
