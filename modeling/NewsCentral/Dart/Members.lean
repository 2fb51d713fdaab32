import NewsCentral.Dart.Json

/-
  Members of decoded maps that a typed variable takes, and
  how sequences of statements that may throw are taken
  apart.

  Key definitions include:
    * `Dart.Json.mapAt` and `intAt`
    * `Dart.elementAt`

  Key theorems include:
    * `Dart.bind_eq_ok_iff`
    * `Dart.exists_mapM_iff`
    * `Dart.foldlM_append_pair`
    * `Dart.Json.field_cons`
-/

------------------------------------------------------------
-- Sequences That May Throw
------------------------------------------------------------

namespace Dart

/- A sequence ends well exactly if both of its parts do. -/
theorem bind_eq_ok_iff
    {ε α β : Type}
    {x : Except ε α}
    {f : α → Except ε β}
    {b : β} :
    (x >>= f) = .ok b ↔ ∃ a, x = .ok a ∧ f a = .ok b := by
  cases x with
  | error e => simp [bind, Except.bind]
  | ok a => simp [bind, Except.bind]

/- What a sequence does after a part that ended well. -/
theorem ok_bind_eq
    {ε α β : Type}
    (a : α)
    (f : α → Except ε β) :
    ((.ok a : Except ε α) >>= f) = f a := rfl

/- A result exists exactly if the parts have one in turn. -/
theorem exists_bind_iff
    {ε α β : Type}
    {x : Except ε α}
    {f : α → Except ε β} :
    (∃ b, (x >>= f) = .ok b) ↔
      ∃ a, x = .ok a ∧ ∃ b, f a = .ok b := by
  simp only [bind_eq_ok_iff]
  constructor
  · rintro ⟨b, a, hFirst, hRest⟩
    exact ⟨a, hFirst, b, hRest⟩
  · rintro ⟨a, hFirst, b, hRest⟩
    exact ⟨b, a, hFirst, hRest⟩

/- An encoding that follows one part needs only that part. -/
theorem exists_bind_pure_iff
    {ε α β : Type}
    {x : Except ε α}
    {f : α → β} :
    (∃ b, (x >>= fun a => pure (f a)) = .ok b) ↔
      ∃ a, x = .ok a := by
  simp [exists_bind_iff, pure, Except.pure]

/- A loop ends well exactly if each of its turns does. -/
theorem exists_mapM_iff
    {α β : Type}
    {f : α → Except Thrown β}
    {xs : List α} :
    (∃ ys, xs.mapM f = .ok ys) ↔
      ∀ x ∈ xs, ∃ y, f x = .ok y := by
  induction xs with
  | nil => simp [pure, Except.pure]
  | cons x xs ih =>
      rw [List.forall_mem_cons, ← ih, List.mapM_cons]
      constructor
      · rintro ⟨ys, hLoop⟩
        rcases bind_eq_ok_iff.mp hLoop with ⟨y, hHead, hRest⟩
        rcases bind_eq_ok_iff.mp hRest with ⟨zs, hTail, _⟩
        exact ⟨⟨y, hHead⟩, zs, hTail⟩
      · rintro ⟨⟨y, hHead⟩, zs, hTail⟩
        exact ⟨y :: zs, by rw [hHead, hTail]; rfl⟩

/- A loop that fills two lists makes a list of pairs. -/
theorem foldlM_append_pair
    {ε α β γ : Type}
    (f : α → Except ε (β × γ))
    (xs : List α)
    (bs : List β)
    (cs : List γ) :
    xs.foldlM
        (fun lists x => do
          let y ← f x
          return (lists.1 ++ [y.1], lists.2 ++ [y.2]))
        (bs, cs) =
      (xs.mapM f).map fun ys =>
        (bs ++ ys.map Prod.fst, cs ++ ys.map Prod.snd) := by
  induction xs generalizing bs cs with
  | nil =>
      simp [pure, Except.pure, Except.map]
  | cons x xs ih =>
      rw [List.foldlM_cons, List.mapM_cons]
      cases f x with
      | error e => rfl
      | ok y =>
          refine
            (ih (bs ++ [y.1]) (cs ++ [y.2])).trans ?_
          cases hRest : xs.mapM f with
          | error e => rfl
          | ok ys =>
              simp [Except.map, bind, Except.bind, pure,
                Except.pure]

end Dart

------------------------------------------------------------
-- Typed Members
------------------------------------------------------------

namespace Dart

namespace Json

/- `j[key]` assigned to a `Map`. -/
def mapAt
    (j : Json)
    (key : String) : Except Thrown Json := do
  (← j.index key).asMap

/- `j[key]` assigned to an `int`. -/
def intAt
    (j : Json)
    (key : String) : Except Thrown (Option Int) := do
  (← j.index key).asInt

variable {fields : List (String × Json)} {key : String}

theorem index_obj :
    (obj fields).index key = .ok (field fields key) := rfl

theorem asString_str
    (s : String) :
    (str s).asString = .ok (some s) := rfl

theorem asMap_obj :
    (obj fields).asMap = .ok (obj fields) := rfl

/- A downcast hands the value on. -/
theorem eq_of_asMap
    {j k : Json}
    (hMap : j.asMap = .ok k) :
    k = j := by
  cases j <;> cases hMap <;> rfl

theorem mapAt_obj :
    (obj fields).mapAt key = (field fields key).asMap := rfl

theorem intAt_obj :
    (obj fields).intAt key = (field fields key).asInt := rfl

/- The entry of the key, or an entry behind the first. -/
theorem field_cons
    (first : String)
    (j : Json) :
    field ((first, j) :: fields) key =
      if key = first then j else field fields key := by
  unfold field
  by_cases hKey : key = first
  · simp [hKey]
  · simp [hKey, List.lookup_cons, beq_false_of_ne hKey]

end Json

end Dart

------------------------------------------------------------
-- Items Of Lists
------------------------------------------------------------

namespace Dart

variable {α : Type} {list : List α} {i : Nat} {x : α}

/- `list[i]` of a Dart list. -/
def elementAt
    (list : List α)
    (i : Nat) : Except Thrown α :=
  match list[i]? with
  | none => .error (.error "RangeError" (toString i))
  | some x => .ok x

theorem elementAt_eq_ok_iff :
    elementAt list i = .ok x ↔ list[i]? = some x := by
  unfold elementAt
  cases list[i]? with
  | none => simp
  | some y => simp

/- The index is in range or it throws. -/
theorem exists_elementAt_iff :
    (∃ x, elementAt list i = .ok x) ↔ i < list.length := by
  simp only [elementAt_eq_ok_iff]
  constructor
  · rintro ⟨x, hAt⟩
    exact (List.getElem?_eq_some_iff.mp hAt).1
  · intro hLt
    exact ⟨list[i], List.getElem?_eq_getElem hLt⟩

end Dart
