import Mathlib.Data.List.Forall2
import Mathlib.Data.List.Infix

/-
  Regular expressions that are matched by backtracking.

  `Pattern.run` lists the ways to match the beginning of a
  text in the order in which they are tried: the left
  alternative first, and as many letters as possible first.
  A search takes the first way at the leftmost place that
  has one.  Loops repeat one class of letters.

  What a pattern accepts is `Pattern.Matches`.  A search
  finds the longest text at the leftmost place if the ways
  of the pattern that succeed start with the longest.

  Key definitions include:
    * `Text.Pattern`
    * `Text.Pattern.Matches`
    * `Text.Pattern.run`
    * `Text.Pattern.firstMatch`
    * `Text.Pattern.Leftmost`

  Key theorems include:
    * `Text.Pattern.mem_run_iff`
    * `Text.Pattern.leftmost_of_firstMatch`
    * `Text.Pattern.firstMatch_eq_none_iff`
    * `Text.Pattern.longest_seq`
-/

------------------------------------------------------------
-- Patterns
------------------------------------------------------------

namespace Text

/- A pattern of letters; a group captures what it matches. -/
inductive Pattern (α : Type) where
  | empty
  | letter (p : α → Bool)
  | seq (a b : Pattern α)
  | either (a b : Pattern α)
  | optional (a : Pattern α)
  | repeated (p : α → Bool)
  | group (a : Pattern α)

/- What is matched, what groups captured, and what is left. -/
structure Match (α : Type) where
  text : List α
  groups : List (Option (List α)) := []
  rest : List α

namespace Pattern

variable {α : Type}

/- One letter after the other. -/
def literal : List (α → Bool) → Pattern α
  | [] => .empty
  | p :: ps => .seq (.letter p) (literal ps)

def groupCount : Pattern α → Nat
  | .empty => 0
  | .letter _ => 0
  | .seq a b => a.groupCount + b.groupCount
  | .either a b => a.groupCount + b.groupCount
  | .optional a => a.groupCount
  | .repeated _ => 0
  | .group a => a.groupCount + 1

/- The groups of what was not tried. -/
def unmatched (a : Pattern α) : List (Option (List α)) :=
  List.replicate a.groupCount none

/-
  The texts that a pattern accepts, with what its groups
  capture.
-/
inductive Matches :
    Pattern α → List α → List (Option (List α)) → Prop where
  | empty : Matches .empty [] []
  | letter
      {p : α → Bool}
      {c : α}
      (hLetter : p c = true) :
      Matches (.letter p) [c] []
  | seq
      {a b : Pattern α}
      {u v : List α}
      {g h : List (Option (List α))}
      (hLeft : Matches a u g)
      (hRight : Matches b v h) :
      Matches (.seq a b) (u ++ v) (g ++ h)
  | left
      {a b : Pattern α}
      {u : List α}
      {g : List (Option (List α))}
      (hLeft : Matches a u g) :
      Matches (.either a b) u (g ++ b.unmatched)
  | right
      {a b : Pattern α}
      {u : List α}
      {g : List (Option (List α))}
      (hRight : Matches b u g) :
      Matches (.either a b) u (a.unmatched ++ g)
  | taken
      {a : Pattern α}
      {u : List α}
      {g : List (Option (List α))}
      (hTaken : Matches a u g) :
      Matches (.optional a) u g
  | skipped
      {a : Pattern α} :
      Matches (.optional a) [] a.unmatched
  | repeated
      {p : α → Bool}
      {u : List α}
      (hSome : u ≠ [])
      (hLetters : ∀ c ∈ u, p c = true) :
      Matches (.repeated p) u []
  | group
      {a : Pattern α}
      {u : List α}
      {g : List (Option (List α))}
      (hInner : Matches a u g) :
      Matches (.group a) u (some u :: g)

/- Letters of a class, as many as possible first. -/
def runRepeated
    (p : α → Bool) : List α → List (Match α)
  | [] => []
  | c :: s =>
      if p c then
        (runRepeated p s).map
            (fun m => { m with text := c :: m.text }) ++
          [{ text := [c], rest := s }]
      else
        []

/- The ways to match the beginning of a text, in order. -/
def run : Pattern α → List α → List (Match α)
  | .empty, s => [{ text := [], rest := s }]
  | .letter _, [] => []
  | .letter p, c :: s =>
      if p c then [{ text := [c], rest := s }] else []
  | .seq a b, s =>
      (a.run s).flatMap fun m =>
        (b.run m.rest).map fun n =>
          { text := m.text ++ n.text
            groups := m.groups ++ n.groups
            rest := n.rest }
  | .either a b, s =>
      ((a.run s).map fun m =>
          { m with groups := m.groups ++ b.unmatched }) ++
        (b.run s).map fun m =>
          { m with groups := a.unmatched ++ m.groups }
  | .optional a, s =>
      a.run s ++
        [{ text := [], groups := a.unmatched, rest := s }]
  | .repeated p, s => runRepeated p s
  | .group a, s =>
      (a.run s).map
        (fun m => { m with groups := some m.text :: m.groups })

/- The first way at the leftmost place. -/
def firstMatch
    (a : Pattern α) : List α → Option (Match α)
  | [] => (a.run []).head?
  | c :: s => (a.run (c :: s)).head?.or (a.firstMatch s)

/- A match somewhere in a text. -/
structure Occurs
    (a : Pattern α)
    (s before : List α)
    (m : Match α) : Prop where
  accepted : a.Matches m.text m.groups
  place : before ++ (m.text ++ m.rest) = s

/- The longest match at the leftmost place. -/
structure Leftmost
    (a : Pattern α)
    (s before : List α)
    (m : Match α) : Prop where
  occurs : a.Occurs s before m
  first :
    ∀ b n, a.Occurs s b n → before.length ≤ b.length
  longest :
    ∀ n, a.Occurs s before n →
      n.text.length ≤ m.text.length

end Pattern

end Text

------------------------------------------------------------
-- Ways To Match
------------------------------------------------------------

namespace Text

namespace Pattern

variable {α : Type} {a b : Pattern α} {s : List α}
variable {m n : Match α}

theorem mem_runRepeated_iff
    {p : α → Bool} :
    m ∈ runRepeated p s ↔
      m.text ≠ [] ∧ (∀ c ∈ m.text, p c = true) ∧
        m.groups = [] ∧ m.text ++ m.rest = s := by
  induction s generalizing m with
  | nil =>
      simp only [runRepeated, List.not_mem_nil, false_iff]
      rintro ⟨hSome, _, _, hPlace⟩
      exact hSome (List.append_eq_nil_iff.mp hPlace).1
  | cons c s ih =>
      rcases m with ⟨text, groups, rest⟩
      by_cases hLetter : p c = true
      · simp only [runRepeated, hLetter, if_true,
          List.mem_append, List.mem_map, ih,
          List.mem_singleton, Match.mk.injEq]
        constructor
        · rintro (⟨n, ⟨hSome, hAll, hNone, rfl⟩, rfl, rfl, rfl⟩ |
            ⟨rfl, rfl, rfl⟩)
          · exact
              ⟨List.cons_ne_nil _ _,
                by simpa [hLetter] using hAll, hNone, rfl⟩
          · simp [hLetter]
        · rintro ⟨hSome, hAll, rfl, hPlace⟩
          cases text with
          | nil => exact absurd rfl hSome
          | cons d text =>
              rw [List.cons_append, List.cons.injEq] at hPlace
              rcases hPlace with ⟨rfl, hPlace⟩
              cases text with
              | nil => exact .inr ⟨rfl, rfl, hPlace⟩
              | cons e text =>
                  refine .inl
                    ⟨⟨e :: text, [], rest⟩, ?_, rfl, rfl, rfl⟩
                  exact
                    ⟨List.cons_ne_nil _ _,
                      fun x hMem =>
                        hAll x (List.mem_cons_of_mem _ hMem),
                      rfl, hPlace⟩
      · simp only [runRepeated, hLetter, Bool.false_eq_true,
          if_false, List.not_mem_nil, false_iff]
        rintro ⟨hSome, hAll, _, hPlace⟩
        cases text with
        | nil => exact hSome rfl
        | cons d text =>
            rw [List.cons_append, List.cons.injEq] at hPlace
            rcases hPlace with ⟨rfl, _⟩
            exact hLetter (hAll d (List.mem_cons_self ..))

/- The ways to match are the accepted beginnings. -/
theorem mem_run_iff :
    m ∈ a.run s ↔
      a.Matches m.text m.groups ∧ m.text ++ m.rest = s := by
  induction a generalizing s m with
  | empty =>
      rcases m with ⟨text, groups, rest⟩
      simp only [run, List.mem_singleton, Match.mk.injEq]
      constructor
      · rintro ⟨rfl, rfl, rfl⟩
        exact ⟨.empty, rfl⟩
      · rintro ⟨hMatch, hPlace⟩
        cases hMatch
        exact ⟨rfl, rfl, hPlace⟩
  | letter p =>
      rcases m with ⟨text, groups, rest⟩
      cases s with
      | nil =>
          simp only [run, List.not_mem_nil, false_iff]
          rintro ⟨hMatch, hPlace⟩
          cases hMatch
          cases hPlace
      | cons c s =>
          constructor
          · intro hMem
            by_cases hLetter : p c = true
            · simp only [run, hLetter, if_true,
                List.mem_singleton, Match.mk.injEq] at hMem
              rcases hMem with ⟨rfl, rfl, rfl⟩
              exact ⟨.letter hLetter, rfl⟩
            · simp [run, hLetter] at hMem
          · rintro ⟨hMatch, hPlace⟩
            cases hMatch with
            | letter hLetter =>
                cases hPlace
                simp [run, hLetter]
  | seq a b ihA ihB =>
      rcases m with ⟨text, groups, rest⟩
      simp only [run, List.mem_flatMap, List.mem_map,
        ihA, ihB, Match.mk.injEq]
      constructor
      · rintro ⟨m, ⟨hLeft, rfl⟩, n, ⟨hRight, hPlace⟩,
          rfl, rfl, rfl⟩
        refine ⟨.seq hLeft hRight, ?_⟩
        rw [← hPlace, List.append_assoc]
      · rintro ⟨hMatch, hPlace⟩
        cases hMatch with
        | @seq _ _ u v g h hLeft hRight =>
            rw [List.append_assoc] at hPlace
            exact
              ⟨⟨u, g, v ++ rest⟩, ⟨hLeft, hPlace⟩,
                ⟨v, h, rest⟩, ⟨hRight, rfl⟩, rfl, rfl, rfl⟩
  | either a b ihA ihB =>
      rcases m with ⟨text, groups, rest⟩
      simp only [run, List.mem_append, List.mem_map,
        ihA, ihB, Match.mk.injEq]
      constructor
      · rintro (⟨m, ⟨hLeft, hPlace⟩, rfl, rfl, rfl⟩ |
          ⟨m, ⟨hRight, hPlace⟩, rfl, rfl, rfl⟩)
        · exact ⟨.left hLeft, hPlace⟩
        · exact ⟨.right hRight, hPlace⟩
      · rintro ⟨hMatch, hPlace⟩
        cases hMatch with
        | @left _ _ _ g hLeft =>
            exact .inl
              ⟨⟨text, g, rest⟩, ⟨hLeft, hPlace⟩,
                rfl, rfl, rfl⟩
        | @right _ _ _ g hRight =>
            exact .inr
              ⟨⟨text, g, rest⟩, ⟨hRight, hPlace⟩,
                rfl, rfl, rfl⟩
  | optional a ih =>
      rcases m with ⟨text, groups, rest⟩
      simp only [run, List.mem_append, ih,
        List.mem_singleton, Match.mk.injEq]
      constructor
      · rintro (⟨hTaken, hPlace⟩ | ⟨rfl, rfl, rfl⟩)
        · exact ⟨.taken hTaken, hPlace⟩
        · exact ⟨.skipped, rfl⟩
      · rintro ⟨hMatch, hPlace⟩
        cases hMatch with
        | taken hTaken => exact .inl ⟨hTaken, hPlace⟩
        | skipped => exact .inr ⟨rfl, rfl, hPlace⟩
  | repeated p =>
      rw [run, mem_runRepeated_iff]
      constructor
      · rintro ⟨hSome, hAll, hNone, hPlace⟩
        rw [hNone]
        exact ⟨.repeated hSome hAll, hPlace⟩
      · rintro ⟨hMatch, hPlace⟩
        rcases m with ⟨text, groups, rest⟩
        cases hMatch with
        | repeated hSome hAll =>
            exact ⟨hSome, hAll, rfl, hPlace⟩
  | group a ih =>
      rcases m with ⟨text, groups, rest⟩
      simp only [run, List.mem_map, ih, Match.mk.injEq]
      constructor
      · rintro ⟨m, ⟨hInner, hPlace⟩, rfl, rfl, rfl⟩
        exact ⟨.group hInner, hPlace⟩
      · rintro ⟨hMatch, hPlace⟩
        cases hMatch with
        | @group _ _ g hInner =>
            exact
              ⟨⟨text, g, rest⟩, ⟨hInner, hPlace⟩,
                rfl, rfl, rfl⟩

/- Repeated letters have a first one. -/
theorem exists_of_repeated
    {p : α → Bool}
    {u : List α}
    {g : List (Option (List α))}
    (hMatch : (repeated p).Matches u g) :
    g = [] ∧ ∃ c v, u = c :: v ∧ p c = true ∧
      ∀ d ∈ v, p d = true := by
  cases hMatch with
  | repeated hSome hAll =>
      refine ⟨rfl, ?_⟩
      cases u with
      | nil => exact absurd rfl hSome
      | cons c v =>
          exact
            ⟨c, v, rfl, hAll c (List.mem_cons_self ..),
              fun d hMem => hAll d (List.mem_cons_of_mem _ hMem)⟩

theorem matches_literal_iff
    {ps : List (α → Bool)}
    {u : List α}
    {g : List (Option (List α))} :
    (literal ps).Matches u g ↔
      List.Forall₂ (fun p c => p c = true) ps u ∧ g = [] := by
  induction ps generalizing u g with
  | nil =>
      constructor
      · intro hMatch
        cases hMatch
        exact ⟨.nil, rfl⟩
      · rintro ⟨hEach, rfl⟩
        cases hEach
        exact .empty
  | cons p ps ih =>
      constructor
      · intro hMatch
        cases hMatch with
        | seq hLeft hRight =>
            cases hLeft with
            | letter hLetter =>
                rcases ih.mp hRight with ⟨hEach, rfl⟩
                exact ⟨.cons hLetter hEach, rfl⟩
      · rintro ⟨hEach, rfl⟩
        cases hEach with
        | cons hLetter hEach =>
            exact .seq (.letter hLetter) (ih.mpr ⟨hEach, rfl⟩)

end Pattern

end Text

------------------------------------------------------------
-- Searching
------------------------------------------------------------

namespace Text

namespace Pattern

variable {α : Type} {a b : Pattern α} {s before : List α}
variable {m n : Match α}

/- The first way that succeeds is the longest one. -/
def Longest (a : Pattern α) : Prop :=
  ∀ s m, (a.run s).head? = some m →
    ∀ n ∈ a.run s, n.text.length ≤ m.text.length

theorem occurs_nil_iff :
    a.Occurs s [] m ↔ m ∈ a.run s := by
  rw [mem_run_iff]
  exact ⟨fun h => ⟨h.accepted, h.place⟩, fun h => ⟨h.1, h.2⟩⟩

theorem occurs_cons_iff
    {c d : α} :
    a.Occurs (c :: s) (d :: before) m ↔
      d = c ∧ a.Occurs s before m := by
  constructor
  · intro hOccurs
    have hPlace := hOccurs.place
    rw [List.cons_append, List.cons.injEq] at hPlace
    exact ⟨hPlace.1, hOccurs.accepted, hPlace.2⟩
  · rintro ⟨rfl, hAccepted, hPlace⟩
    exact ⟨hAccepted, by rw [List.cons_append, hPlace]⟩

/- What a search finds is at the leftmost place. -/
theorem leftmost_of_firstMatch
    (hLongest : a.Longest)
    (hFound : a.firstMatch s = some m) :
    ∃ before, a.Leftmost s before m := by
  have hHere :
      ∀ s, (a.run s).head? = some m → a.Leftmost s [] m := by
    intro s hHead
    refine ⟨?_, fun _ _ _ => Nat.zero_le _, fun n hOccurs => ?_⟩
    · exact occurs_nil_iff.mpr (List.mem_of_mem_head? hHead)
    · exact hLongest s m hHead n (occurs_nil_iff.mp hOccurs)
  induction s with
  | nil => exact ⟨[], hHere [] hFound⟩
  | cons c s ih =>
      rw [firstMatch, Option.or_eq_some_iff] at hFound
      rcases hFound with hHead | ⟨hNone, hLater⟩
      · exact ⟨[], hHere _ hHead⟩
      · rcases ih hLater with ⟨before, hLeftmost⟩
        refine ⟨c :: before, ?_, ?_, ?_⟩
        · exact occurs_cons_iff.mpr ⟨rfl, hLeftmost.occurs⟩
        · intro b n hOccurs
          cases b with
          | nil =>
              rw [occurs_nil_iff,
                List.head?_eq_none_iff.mp hNone] at hOccurs
              cases hOccurs
          | cons d b =>
              have hFirst :=
                hLeftmost.first b n (occurs_cons_iff.mp hOccurs).2
              exact Nat.succ_le_succ hFirst
        · intro n hOccurs
          exact
            hLeftmost.longest n (occurs_cons_iff.mp hOccurs).2

/- A search fails if there is nothing to be found. -/
theorem firstMatch_eq_none_iff :
    a.firstMatch s = none ↔
      ∀ before m, ¬ a.Occurs s before m := by
  induction s with
  | nil =>
      rw [firstMatch, List.head?_eq_none_iff]
      constructor
      · intro hNone before m hOccurs
        have hNil := (List.append_eq_nil_iff.mp hOccurs.place).1
        rw [hNil, occurs_nil_iff, hNone] at hOccurs
        cases hOccurs
      · intro hNowhere
        rw [List.eq_nil_iff_forall_not_mem]
        exact fun m hMem =>
          hNowhere [] m (occurs_nil_iff.mpr hMem)
  | cons c s ih =>
      rw [firstMatch, Option.or_eq_none_iff,
        List.head?_eq_none_iff, ih]
      constructor
      · rintro ⟨hNone, hLater⟩ before m hOccurs
        cases before with
        | nil =>
            rw [occurs_nil_iff, hNone] at hOccurs
            cases hOccurs
        | cons d before =>
            exact hLater before m (occurs_cons_iff.mp hOccurs).2
      · intro hNowhere
        constructor
        · rw [List.eq_nil_iff_forall_not_mem]
          exact fun m hMem =>
            hNowhere [] m (occurs_nil_iff.mpr hMem)
        · intro before m hOccurs
          exact hNowhere (c :: before) m
            (occurs_cons_iff.mpr ⟨rfl, hOccurs⟩)

/- There is one leftmost place, and one longest text there. -/
theorem Leftmost.unique
    {other : List α}
    (hLeft : a.Leftmost s before m)
    (hRight : a.Leftmost s other n) :
    before = other ∧ m.text = n.text := by
  have hLe := hLeft.first other n hRight.occurs
  have hGe := hRight.first before m hLeft.occurs
  have hBoth :=
    hLeft.occurs.place.trans hRight.occurs.place.symm
  rcases List.append_inj hBoth (Nat.le_antisymm hLe hGe) with
    ⟨rfl, hRest⟩
  have hNe := hLeft.longest n hRight.occurs
  have hMe := hRight.longest m hLeft.occurs
  exact
    ⟨rfl, (List.append_inj hRest (Nat.le_antisymm hMe hNe)).1⟩

/-
  A pattern that accepts less has the same leftmost match if
  it accepts that one.
-/
theorem Leftmost.restrict
    (hLess : ∀ u g, b.Matches u g → a.Matches u g)
    (hLeft : a.Leftmost s before m)
    (hMatch : b.Matches m.text m.groups) :
    b.Leftmost s before m where
  occurs := ⟨hMatch, hLeft.occurs.place⟩
  first := fun c n hOccurs =>
    hLeft.first c n
      ⟨hLess _ _ hOccurs.accepted, hOccurs.place⟩
  longest := fun n hOccurs =>
    hLeft.longest n
      ⟨hLess _ _ hOccurs.accepted, hOccurs.place⟩

end Pattern

end Text

------------------------------------------------------------
-- The Longest Way First
------------------------------------------------------------

namespace Text

namespace Pattern

variable {α : Type} {a b : Pattern α} {s : List α}
variable {m n : Match α}

/- A text is split between two patterns in one way only. -/
def Separated (a b : Pattern α) : Prop :=
  ∀ {u v r u' v' r' : List α}
    {g h g' h' : List (Option (List α))},
    a.Matches u g → b.Matches v h →
    a.Matches u' g' → b.Matches v' h' →
    u ++ (v ++ r) = u' ++ (v' ++ r') → u = u'

theorem longest_repeated
    (p : α → Bool) :
    (repeated p).Longest := by
  intro s
  rw [run]
  induction s with
  | nil =>
      intro m hHead
      cases hHead
  | cons c s ih =>
      intro m hHead n hMem
      by_cases hLetter : p c = true
      · simp only [runRepeated, hLetter, if_true] at hHead hMem
        cases hMore : runRepeated p s with
        | nil =>
            simp only [hMore, List.map_nil, List.nil_append,
              List.head?_cons, Option.some.injEq,
              List.mem_singleton] at hHead hMem
            rw [hMem, hHead]
        | cons k ks =>
            simp only [hMore, List.map_cons, List.cons_append,
              List.head?_cons, Option.some.injEq] at hHead
            rw [List.mem_append, List.mem_map,
              List.mem_singleton] at hMem
            rw [← hHead]
            rcases hMem with ⟨j, hJ, rfl⟩ | rfl
            · have hLe := ih k (by rw [hMore]; rfl) j hJ
              exact Nat.succ_le_succ hLe
            · exact Nat.succ_le_succ (Nat.zero_le _)
      · simp [runRepeated, hLetter] at hHead

theorem longest_group
    (hLongest : a.Longest) :
    (group a).Longest := by
  intro s m hHead n hMem
  rw [run, List.head?_map, Option.map_eq_some_iff] at hHead
  rcases hHead with ⟨k, hK, rfl⟩
  rw [run, List.mem_map] at hMem
  rcases hMem with ⟨j, hJ, rfl⟩
  exact hLongest s k hK j hJ

/- The first way of a sequence starts the last pattern. -/
theorem exists_of_head_seq
    (hHead : ((seq a b).run s).head? = some m) :
    ∃ k ∈ a.run s, ∃ l,
      (b.run k.rest).head? = some l ∧
        m.text = k.text ++ l.text := by
  rw [run, List.head?_flatMap] at hHead
  rcases List.exists_of_findSome?_eq_some hHead with
    ⟨k, hK, hFirst⟩
  rw [List.head?_map, Option.map_eq_some_iff] at hFirst
  rcases hFirst with ⟨l, hL, rfl⟩
  exact ⟨k, hK, l, hL, rfl⟩

theorem exists_of_mem_seq
    (hMem : n ∈ (seq a b).run s) :
    ∃ k ∈ a.run s, ∃ l ∈ b.run k.rest,
      n.text = k.text ++ l.text := by
  rw [run, List.mem_flatMap] at hMem
  rcases hMem with ⟨k, hK, hMem⟩
  rw [List.mem_map] at hMem
  rcases hMem with ⟨l, hL, rfl⟩
  exact ⟨k, hK, l, hL, rfl⟩

theorem longest_seq
    (hSeparated : Separated a b)
    (hLongest : b.Longest) :
    (seq a b).Longest := by
  intro s m hHead n hMem
  rcases exists_of_head_seq hHead with
    ⟨k, hK, l, hL, hText⟩
  rcases exists_of_mem_seq hMem with
    ⟨k', hK', l', hL', hText'⟩
  have hLMem := List.mem_of_mem_head? hL
  rcases mem_run_iff.mp hK with ⟨hA, hPlace⟩
  rcases mem_run_iff.mp hK' with ⟨hA', hPlace'⟩
  rcases mem_run_iff.mp hLMem with ⟨hB, hRest⟩
  rcases mem_run_iff.mp hL' with ⟨hB', hRest'⟩
  have hPlaces :
      k.text ++ (l.text ++ l.rest) =
        k'.text ++ (l'.text ++ l'.rest) := by
    rw [hRest, hRest', hPlace, hPlace']
  have hSame := hSeparated hA hB hA' hB' hPlaces
  have hRests : k.rest = k'.rest := by
    rw [hSame, ← hPlace'] at hPlace
    exact List.append_cancel_left hPlace
  have hLe := hLongest k.rest l hL l' (by rw [hRests]; exact hL')
  rw [hText, hText', hSame, List.length_append,
    List.length_append]
  exact Nat.add_le_add_left hLe _

/- Taking an optional pattern has to be the longer way. -/
theorem longest_optional
    (hTaken : (seq a b).Longest)
    (hSkipped : b.Longest)
    (hLonger :
      ∀ {u v r r' : List α} {g h : List (Option (List α))},
        (seq a b).Matches u g → b.Matches v h →
        u ++ r = v ++ r' → v.length ≤ u.length) :
    (seq (optional a) b).Longest := by
  intro s m hHead n hMem
  have hRun :
      (seq (optional a) b).run s =
        (seq a b).run s ++
          (b.run s).map fun n =>
            { text := n.text
              groups := a.unmatched ++ n.groups
              rest := n.rest } := by
    simp [run]
  rw [hRun] at hHead hMem
  rw [List.mem_append, List.mem_map] at hMem
  cases hWays : (seq a b).run s with
  | nil =>
      rw [hWays, List.nil_append, List.head?_map,
        Option.map_eq_some_iff] at hHead
      rcases hHead with ⟨k, hK, rfl⟩
      rcases hMem with hNone | ⟨j, hJ, rfl⟩
      · rw [hWays] at hNone
        cases hNone
      · exact hSkipped s k hK j hJ
  | cons k ks =>
      rw [hWays, List.cons_append, List.head?_cons,
        Option.some.injEq] at hHead
      have hFirst : ((seq a b).run s).head? = some m := by
        rw [hWays, hHead, List.head?_cons]
      rcases hMem with hWay | ⟨j, hJ, rfl⟩
      · exact hTaken s m hFirst n hWay
      · rcases mem_run_iff.mp (List.mem_of_mem_head? hFirst) with
          ⟨hA, hPlace⟩
        rcases mem_run_iff.mp hJ with ⟨hB, hPlace'⟩
        exact hLonger hA hB (hPlace.trans hPlace'.symm)

/- A literal has one length. -/
theorem separated_literal
    (ps : List (α → Bool))
    (b : Pattern α) :
    Separated (literal ps) b := by
  intro u v r u' v' r' g h g' h' hLeft _ hLeft' _ hSame
  have hLength := (matches_literal_iff.mp hLeft).1.length_eq
  have hLength' := (matches_literal_iff.mp hLeft').1.length_eq
  exact (List.append_inj hSame (hLength.symm.trans hLength')).1

/- The letters of a class end where another letter is. -/
theorem eq_of_stops
    {p : α → Bool}
    {u v x y : List α}
    {c d : α}
    (hU : ∀ e ∈ u, p e = true)
    (hV : ∀ e ∈ v, p e = true)
    (hC : p c = false)
    (hD : p d = false)
    (hSame : u ++ c :: x = v ++ d :: y) :
    u = v ∧ c = d ∧ x = y := by
  induction u generalizing v with
  | nil =>
      cases v with
      | nil => simpa using hSame
      | cons e v =>
          rw [List.nil_append, List.cons_append,
            List.cons.injEq] at hSame
          rw [hSame.1, hV e (List.mem_cons_self ..)] at hC
          cases hC
  | cons e u ih =>
      cases v with
      | nil =>
          rw [List.nil_append, List.cons_append,
            List.cons.injEq] at hSame
          rw [← hSame.1, hU e (List.mem_cons_self ..)] at hD
          cases hD
      | cons f v =>
          rw [List.cons_append, List.cons_append,
            List.cons.injEq] at hSame
          rcases hSame with ⟨rfl, hSame⟩
          rcases ih
              (fun x hMem => hU x (List.mem_cons_of_mem _ hMem))
              (fun x hMem => hV x (List.mem_cons_of_mem _ hMem))
              hSame with
            ⟨rfl, hRest⟩
          exact ⟨rfl, hRest⟩

/- Letters are separated from a pattern that starts apart. -/
theorem separated_repeated
    {p : α → Bool}
    (hStarts :
      ∀ {v : List α} {h : List (Option (List α))},
        b.Matches v h → ∃ c w, v = c :: w ∧ p c = false) :
    Separated (repeated p) b := by
  intro u v r u' v' r' g h g' h' hLeft hRight hLeft' hRight'
    hSame
  rcases hStarts hRight with ⟨c, w, rfl, hC⟩
  rcases hStarts hRight' with ⟨c', w', rfl, hC'⟩
  cases hLeft with
  | repeated _ hU =>
      cases hLeft' with
      | repeated _ hU' =>
          exact (eq_of_stops hU hU' hC hC' hSame).1

end Pattern

end Text
