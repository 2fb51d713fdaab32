import NewsCentral.Text.Pattern

/-
  All matches of a regular expression, each of them searched
  for behind the one before it.

  The first way to match is computed for the patterns whose
  first way is as greedy as can be.

  Key definitions include:
    * `Text.Pattern.allMatches`

  Key theorems include:
    * `Text.Pattern.allMatches_eq`
    * `Text.Pattern.allMatches_skip`
    * `Text.Pattern.head_run_star`
    * `Text.Pattern.head_run_seq`
-/

------------------------------------------------------------
-- All Matches
------------------------------------------------------------

namespace Text

namespace Match

variable {α : Type}

/- `match.group(i)`, where 0 is the whole match. -/
def group
    (m : Match α) : Nat → Option (List α)
  | 0 => some m.text
  | i + 1 => m.groups[i]?.join

/- Where the search goes on: an empty match is passed by. -/
def next (m : Match α) : Option (List α) :=
  if m.text.isEmpty then m.rest.tail? else some m.rest

end Match

namespace Pattern

variable {α : Type}

/- At most a number of matches. -/
def allMatchesUpTo
    (a : Pattern α) : Nat → List α → List (Match α)
  | 0, _ => []
  | n + 1, s =>
      match a.firstMatch s with
      | none => []
      | some m =>
          m ::
            match m.next with
            | none => []
            | some rest => a.allMatchesUpTo n rest

/- There is one match at most at every place. -/
def allMatches
    (a : Pattern α)
    (s : List α) : List (Match α) :=
  a.allMatchesUpTo (s.length + 1) s

variable {a b : Pattern α} {s : List α} {m n : Match α}

theorem length_of_firstMatch
    (hFound : a.firstMatch s = some m) :
    m.text.length + m.rest.length ≤ s.length := by
  have hHere :
      ∀ s, (a.run s).head? = some m →
        m.text.length + m.rest.length = s.length := by
    intro s hHead
    rw [← List.length_append,
      (mem_run_iff.mp (List.mem_of_mem_head? hHead)).2]
  induction s with
  | nil => exact (hHere [] hFound).le
  | cons c s ih =>
      rw [firstMatch, Option.or_eq_some_iff] at hFound
      rcases hFound with hHead | ⟨_, hLater⟩
      · exact (hHere _ hHead).le
      · exact (ih hLater).trans (Nat.le_succ _)

/- The search goes on with less text. -/
theorem length_of_next
    {rest : List α}
    (hFound : a.firstMatch s = some m)
    (hNext : m.next = some rest) :
    rest.length < s.length := by
  have hLe := length_of_firstMatch hFound
  rcases m with ⟨text, groups, behind⟩
  unfold Match.next at hNext
  cases text with
  | nil =>
      cases behind with
      | nil => cases hNext
      | cons c behind =>
          cases hNext
          simp only [List.length_cons] at hLe
          change rest.length < s.length
          omega
  | cons c text =>
      cases hNext
      simp only [List.length_cons] at hLe
      change behind.length < s.length
      omega

/- Further turns find nothing more. -/
theorem allMatchesUpTo_eq
    {i j : Nat}
    (hI : s.length < i)
    (hJ : s.length < j) :
    a.allMatchesUpTo i s = a.allMatchesUpTo j s := by
  induction i generalizing s j with
  | zero => omega
  | succ i ih =>
      cases j with
      | zero => omega
      | succ j =>
          simp only [allMatchesUpTo]
          cases hFound : a.firstMatch s with
          | none => rfl
          | some m =>
              cases hNext : m.next with
              | none => simp [hNext]
              | some rest =>
                  have hLess := length_of_next hFound hNext
                  simp only [hNext, List.cons.injEq, true_and]
                  exact ih (by omega) (by omega)

/- The first match, and the ones behind it. -/
theorem allMatches_eq
    (a : Pattern α)
    (s : List α) :
    a.allMatches s =
      match a.firstMatch s with
      | none => []
      | some m =>
          m ::
            match m.next with
            | none => []
            | some rest => a.allMatches rest := by
  rw [allMatches, allMatchesUpTo]
  cases hFound : a.firstMatch s with
  | none => rfl
  | some m =>
      cases hNext : m.next with
      | none => simp [hNext]
      | some rest =>
          have hLess := length_of_next hFound hNext
          simp only [hNext, List.cons.injEq, true_and]
          exact allMatchesUpTo_eq hLess (Nat.lt_succ_self _)

/- A letter at which nothing starts is skipped. -/
theorem allMatches_skip
    {c : α}
    (hNone : a.run (c :: s) = []) :
    a.allMatches (c :: s) = a.allMatches s := by
  have hFirst : a.firstMatch (c :: s) = a.firstMatch s := by
    rw [firstMatch, hNone]
    rfl
  rw [allMatches_eq, hFirst, ← allMatches_eq]

/- A match at the beginning of a text. -/
theorem allMatches_of_head
    (hHead : (a.run s).head? = some m)
    (hSome : m.text ≠ []) :
    a.allMatches s = m :: a.allMatches m.rest := by
  have hFirst : a.firstMatch s = some m := by
    cases s with
    | nil => exact hHead
    | cons c s =>
        rw [firstMatch, hHead]
        rfl
  have hNext : m.next = some m.rest := by
    rw [Match.next, if_neg]
    simpa using hSome
  rw [allMatches_eq, hFirst]
  simp only [hNext]

/- Nothing is found in no text by a pattern that needs some. -/
theorem allMatches_nil
    (hNone : a.run [] = []) :
    a.allMatches [] = [] := by
  rw [allMatches_eq, firstMatch, hNone]
  rfl

end Pattern

end Text

------------------------------------------------------------
-- First Ways
------------------------------------------------------------

namespace Text

namespace Pattern

variable {α : Type} {a b : Pattern α} {s : List α}
variable {m n : Match α}

/- As many letters as there are. -/
theorem head_run_repeated
    {p : α → Bool}
    (hSome : s.takeWhile p ≠ []) :
    ((repeated p).run s).head? =
      some { text := s.takeWhile p, rest := s.dropWhile p } := by
  rw [run]
  induction s with
  | nil => exact absurd rfl hSome
  | cons c s ih =>
      by_cases hLetter : p c = true
      · rw [runRepeated, if_pos hLetter, List.takeWhile_cons,
          List.dropWhile_cons, if_pos hLetter, if_pos hLetter]
        by_cases hMore : s.takeWhile p = []
        · cases s with
          | nil => rfl
          | cons d s =>
              have hOther : p d ≠ true := by
                intro hD
                rw [List.takeWhile_cons, if_pos hD] at hMore
                cases hMore
              simp [runRepeated, hOther]
        · rw [List.head?_append, List.head?_map, ih hMore]
          rfl
      · rw [List.takeWhile_cons, if_neg hLetter] at hSome
        exact absurd rfl hSome

theorem run_repeated_eq_nil
    {p : α → Bool}
    (hNone : s.takeWhile p = []) :
    (repeated p).run s = [] := by
  rw [run]
  cases s with
  | nil => rfl
  | cons c s =>
      rw [runRepeated, if_neg]
      intro hLetter
      rw [List.takeWhile_cons, if_pos hLetter] at hNone
      cases hNone

/- `p*` -/
theorem head_run_star
    (p : α → Bool)
    (s : List α) :
    ((optional (repeated p)).run s).head? =
      some { text := s.takeWhile p, rest := s.dropWhile p } := by
  rw [run, List.head?_append]
  by_cases hSome : s.takeWhile p = []
  · have hRest : s.dropWhile p = s := by
      have hBoth := @List.takeWhile_append_dropWhile _ p s
      rwa [hSome, List.nil_append] at hBoth
    rw [run_repeated_eq_nil hSome, hSome, hRest]
    rfl
  · rw [head_run_repeated hSome]
    rfl

theorem head_run_group
    (hHead : (a.run s).head? = some m) :
    ((group a).run s).head? =
      some { m with groups := some m.text :: m.groups } := by
  rw [run, List.head?_map, hHead]
  rfl

/- The first way goes on with the first way behind it. -/
theorem head_run_seq
    (hLeft : (a.run s).head? = some m)
    (hRight : (b.run m.rest).head? = some n) :
    ((seq a b).run s).head? =
      some
        { text := m.text ++ n.text
          groups := m.groups ++ n.groups
          rest := n.rest } := by
  rw [run]
  cases hWays : a.run s with
  | nil =>
      rw [hWays] at hLeft
      cases hLeft
  | cons k ks =>
      rw [hWays, List.head?_cons, Option.some.injEq] at hLeft
      subst hLeft
      rw [List.flatMap_cons, List.head?_append, List.head?_map,
        hRight]
      rfl

/- An optional letter is taken if it is there. -/
theorem head_run_optional_letter
    {p : α → Bool}
    {c : α}
    (hLetter : p c = true)
    (s : List α) :
    ((optional (letter p)).run (c :: s)).head? =
      some { text := [c], rest := s } := by
  simp [run, hLetter]

theorem head_run_optional_none
    {p : α → Bool}
    (hNone : (letter p).run s = []) :
    ((optional (letter p)).run s).head? =
      some { text := [], rest := s } := by
  rw [run, hNone]
  rfl

theorem run_seq_eq_nil
    (hNone : a.run s = []) :
    (seq a b).run s = [] := by
  rw [run, hNone]
  rfl

end Pattern

end Text
