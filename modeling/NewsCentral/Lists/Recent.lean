import Mathlib.Data.List.Nodup

/-
  Lists of recently used items.

  Using an item moves it to the front of the list, and the
  list can be cleared.  The list is then the distinct items
  used since it was cleared, the last one first, and behind
  them, if it never was, the others it started with.

  Key definitions include:
    * `Recent.promote`
    * `Recent.Use`
    * `Recent.recent`

  Key theorems include:
    * `Recent.recent_used`
    * `Recent.recent_cleared`
    * `Recent.nodup_recent`
-/

------------------------------------------------------------
-- Uses
------------------------------------------------------------

namespace Recent

variable {α : Type} [DecidableEq α]

/- Move an item to the front, or put it there. -/
def promote (x : α) (xs : List α) : List α :=
  x :: xs.erase x

/- What happens to a list of recent items. -/
inductive Use (α : Type) where
  | used (x : α)
  | cleared
deriving DecidableEq

/- The items used since the list was cleared, last first. -/
def sinceCleared (uses : List (Use α)) : List α :=
  uses.foldl
    (fun seen use =>
      match use with
      | .used x => x :: seen
      | .cleared => [])
    []

/- The recent items of a list that started with others. -/
def recent
    (start : List α)
    (uses : List (Use α)) : List α :=
  let since := sinceCleared uses
  since.eraseDups ++
    if .cleared ∈ uses then
      []
    else
      start.filter fun x => x ∉ since

end Recent

------------------------------------------------------------
-- Moving To The Front
------------------------------------------------------------

namespace Recent

variable {α : Type} [DecidableEq α]
variable {x : α} {start : List α} {uses : List (Use α)}

/- Without repeats the list is as it was behind the item. -/
theorem promote_eq_filter
    {xs : List α}
    (hNodup : xs.Nodup) :
    promote x xs = x :: xs.filter fun y => y ≠ x := by
  unfold promote
  rw [hNodup.erase_eq_filter]
  congr 1
  exact List.filter_congr fun y _ => by simp [bne, beq_eq_decide]

/- An item that was alone is alone. -/
theorem promote_of_forall_eq
    {xs : List α}
    (hNodup : xs.Nodup)
    (hAlone : ∀ y ∈ xs, y = x) :
    promote x xs = [x] := by
  rw [promote_eq_filter hNodup]
  simpa using hAlone

/- Dropping items and dropping repeats commute. -/
theorem eraseDups_filter
    (keep : α → Bool)
    (xs : List α) :
    (xs.filter keep).eraseDups =
      xs.eraseDups.filter keep := by
  induction xs generalizing keep with
  | nil => rfl
  | cons x xs ih =>
      rw [List.eraseDups_cons, ih]
      by_cases hKeep : keep x = true
      · rw [List.filter_cons_of_pos hKeep,
          List.filter_cons_of_pos hKeep,
          List.eraseDups_cons, List.filter_filter, ih,
          List.filter_filter]
        simp only [Bool.and_comm]
      · rw [List.filter_cons_of_neg hKeep,
          List.filter_cons_of_neg hKeep, ih,
          List.filter_filter]
        -- what is kept is not the dropped item
        refine List.filter_congr fun y _ => ?_
        by_cases hSame : y = x
        · simp [hSame, hKeep]
        · simp [hSame]

theorem nodup_eraseDups
    (xs : List α) :
    xs.eraseDups.Nodup := by
  induction xs with
  | nil => exact List.nodup_nil
  | cons x xs ih =>
      rw [List.eraseDups_cons, eraseDups_filter,
        List.nodup_cons]
      exact ⟨by simp, ih.filter _⟩

omit [DecidableEq α] in
@[simp] theorem sinceCleared_used :
    sinceCleared (uses ++ [.used x]) =
      x :: sinceCleared uses := by
  simp [sinceCleared]

omit [DecidableEq α] in
@[simp] theorem sinceCleared_cleared :
    sinceCleared (uses ++ [(.cleared : Use α)]) = [] := by
  simp [sinceCleared]

end Recent

------------------------------------------------------------
-- The Recent Items
------------------------------------------------------------

namespace Recent

variable {α : Type} [DecidableEq α]
variable {x : α} {start : List α} {uses : List (Use α)}

/- Without uses the list is as it started. -/
@[simp] theorem recent_nil :
    recent start [] = start := by
  simp [recent, sinceCleared]

/- No item is repeated. -/
theorem nodup_recent
    (hStart : start.Nodup) :
    (recent start uses).Nodup := by
  unfold recent
  simp only
  by_cases hCleared : .cleared ∈ uses
  · rw [if_pos hCleared, List.append_nil]
    exact nodup_eraseDups _
  · rw [if_neg hCleared]
    refine (nodup_eraseDups _).append (hStart.filter _) ?_
    intro y hSince hOther
    rw [List.mem_eraseDups] at hSince
    simp [hSince] at hOther

/- A used item moves to the front. -/
theorem recent_used
    (hStart : start.Nodup) :
    recent start (uses ++ [.used x]) =
      promote x (recent start uses) := by
  rw [promote_eq_filter (nodup_recent hStart)]
  unfold recent
  simp only [sinceCleared_used, List.eraseDups_cons,
    List.filter_append, List.cons_append,
    eraseDups_filter]
  have hDifferent :
      (fun y : α => !(y == x)) = fun y => decide (y ≠ x) := by
    funext y
    simp [beq_eq_decide]
  rw [hDifferent]
  by_cases hMem : .cleared ∈ uses
  · simp [hMem]
  · simp only [List.mem_append, hMem, false_or,
      List.mem_singleton, reduceCtorEq, if_false,
      List.filter_filter]
    congr 2
    refine List.filter_congr fun y _ => ?_
    simp [not_or]

/- Clearing empties the list. -/
@[simp] theorem recent_cleared :
    recent start (uses ++ [.cleared]) = [] := by
  simp [recent]

end Recent
