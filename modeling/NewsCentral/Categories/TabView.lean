import NewsCentral.Categories.Program
import NewsCentral.EventLoop.Program

/-
  The tabs of `lib/widgets/blog/vertical/menu_layout.dart`.

  A build starts a loop that loads one category after the
  other, as long as no posts are there; each answer shows
  the list that its loop has so far.  The tabs ask whether
  that list reaches them, the body below them does not.

  Key definitions include:
    * `NewsCentral.TabView` and its `program`
    * `NewsCentral.TabView.body`
    * `NewsCentral.TabView.InRange`
    * `NewsCentral.TabView.Reached` and `Reaching`

  Key theorems include:
    * `NewsCentral.TabView.exists_body_iff`
    * `NewsCentral.TabView.loaded_of_run`
    * `NewsCentral.TabView.inRange_iff`
-/

------------------------------------------------------------
-- The Tabs And Their Posts
------------------------------------------------------------

namespace NewsCentral

open Dart EventLoop

/- `_StateSelectLayout` -/
structure TabView where
  position : Nat := 0
  blogs : List (List BlogNews) := []
deriving DecidableEq

namespace TabView

/- What the body below the tabs shows. -/
inductive Body where
  | loading (key : Option Int)
  | noProduct
  | grid (key : Option Int) (blogs : List BlogNews)
deriving DecidableEq

variable (unescape : String → String)
variable (categories : List Category)

/- The builder of the body. -/
def body (s : TabView) : Except Thrown Body := do
  if s.blogs.isEmpty then
    return .loading (← elementAt categories s.position).id
  else
    let blogs ← elementAt s.blogs s.position
    if blogs.isEmpty then
      return .noProduct
    else
      let category ← elementAt categories s.position
      return .grid category.id blogs

/-
  A build, with the posts of all categories as its future,
  or a tap on a tab.
-/
inductive Op where
  | build
  | onTap (index : Nat)
deriving DecidableEq

/-
  A turn of the loop of `getAllListBlogs`, awaiting posts of
  the next category; `blogs` is the list of this loop.
-/
structure Turn where
  blogs : List (List BlogNews)
deriving DecidableEq

/- The loop goes on while there are categories left. -/
def next (blogs : List (List BlogNews)) : List Turn :=
  if blogs.length < categories.length then [⟨blogs⟩] else []

def getAllListBlogs (s : TabView) : List Turn :=
  if s.blogs.isEmpty then next categories [] else []

/- A tab whose posts are known to be none is not shown. -/
def check (s : TabView) (index : Nat) : Bool :=
  match s.blogs[index]? with
  | none => true
  | some blogs => !blogs.isEmpty

def call
    (op : Op)
    (s : TabView) : Option (TabView × List Turn) :=
  match op with
  | .build => some (s, s.getAllListBlogs categories)
  | .onTap index =>
      if index < categories.length && s.check index then
        some ({ s with position := index }, [])
      else
        none

/- The caller passes no language, and so `null`. -/
def fetchBlogs
    (http : Http)
    (category : Category) : Except Thrown (List BlogNews) :=
  newsService.fetchBlogsByCategory http unescape category.id
    1 (interpolate none)

/- The posts of the next category, if the request works. -/
def fetched
    (turn : Turn)
    (http : Http) : Option (List BlogNews) :=
  match categories[turn.blogs.length]? with
  | none => none
  | some category => (fetchBlogs unescape http category).toOption

/- A loop whose request fails ends. -/
def resume
    (turn : Turn)
    (http : Http)
    (s : TabView) : TabView × List Turn :=
  match fetched unescape categories turn http with
  | none => (s, [])
  | some blog =>
      let blogs := turn.blogs ++ [blog]
      ({ s with blogs := blogs }, next categories blogs)

/- The tabs as a program of the event loop. -/
def program : Program TabView Op Turn Http where
  call := call categories
  resume := resume unescape categories
  queued := fun _ => false

/- The state right after it was created. -/
def created : Pool TabView Turn where
  shared := {}
  pending := []

end TabView

end NewsCentral

------------------------------------------------------------
-- The Property And Its Condition
------------------------------------------------------------

namespace NewsCentral

open Dart EventLoop

namespace TabView

variable (unescape : String → String)
variable (categories : List Category)

/- With posts there, the selected tab is one of theirs. -/
def InRange (s : TabView) : Prop :=
  s.blogs ≠ [] → s.position < s.blogs.length

/-
  Each list is what the network gave, at some turn of the
  run, for the category of its tab.
-/
def Loaded
    (es : List (Event Op Http))
    (blogs : List (List BlogNews)) : Prop :=
  ∀ (i : Nat) (posts : List BlogNews),
    blogs[i]? = some posts →
      ∃ category n http,
        categories[i]? = some category ∧
          .resume n http ∈ es ∧
          fetchBlogs unescape http category = .ok posts

/- A tab behind the loaded ones is not tapped. -/
def Reached
    (s : TabView)
    (_ : List Turn)
    (op : Op) : Prop :=
  match op with
  | .build => True
  | .onTap index => s.blogs = [] ∨ index < s.blogs.length

/- An answer comes to a loop that has got to the position. -/
def Reaching
    (s : TabView)
    (_ : List Turn)
    (turn : Turn)
    (http : Http) : Prop :=
  s.position ≤ turn.blogs.length ∨
    fetched unescape categories turn http = none

instance
    (s : TabView)
    (pending : List Turn)
    (op : Op) :
    Decidable (Reached s pending op) := by
  cases op <;> unfold Reached <;> infer_instance

instance
    (s : TabView)
    (pending : List Turn)
    (turn : Turn)
    (http : Http) :
    Decidable
      (Reaching unescape categories s pending turn http) := by
  unfold Reaching
  infer_instance

end TabView

end NewsCentral

------------------------------------------------------------
-- Whose Posts They Are
------------------------------------------------------------

namespace NewsCentral

open Dart EventLoop

namespace TabView

variable {unescape : String → String}
variable {categories : List Category}
variable {es : List (Event Op Http)}
variable {s : TabView} {blogs : List (List BlogNews)}

/- No list is as good as any. -/
theorem loaded_nil :
    Loaded unescape categories es [] := by
  intro i posts hAt
  simp at hAt

/- What was loaded stays so. -/
theorem Loaded.append
    (hLoaded : Loaded unescape categories es blogs)
    (e : Event Op Http) :
    Loaded unescape categories (es ++ [e]) blogs := by
  intro i posts hAt
  rcases hLoaded i posts hAt with
    ⟨category, n, http, hCategory, hMem, hPosts⟩
  exact ⟨category, n, http, hCategory,
    List.mem_append_left _ hMem, hPosts⟩

/- There are no more lists than categories. -/
theorem Loaded.length_le
    (hLoaded : Loaded unescape categories es blogs) :
    blogs.length ≤ categories.length := by
  by_contra hMore
  have hLt : categories.length < blogs.length := by omega
  rcases hLoaded categories.length _
      (List.getElem?_eq_getElem hLt) with
    ⟨category, _, _, hCategory, _⟩
  simp at hCategory

/- The answer of a turn is that for the next category. -/
theorem Loaded.fetched
    {turn : Turn}
    {http : Http}
    {blog : List BlogNews}
    {n : Nat}
    (hLoaded : Loaded unescape categories es turn.blogs)
    (hFetched :
      fetched unescape categories turn http = some blog) :
    Loaded unescape categories (es ++ [.resume n http])
      (turn.blogs ++ [blog]) := by
  intro i posts hAt
  by_cases hOld : i < turn.blogs.length
  · rw [List.getElem?_append_left hOld] at hAt
    exact hLoaded.append _ i posts hAt
  · have hBound := (List.getElem?_eq_some_iff.mp hAt).1
    have hLast : i = turn.blogs.length := by
      rw [List.length_append, List.length_singleton] at hBound
      omega
    subst hLast
    rw [List.getElem?_concat_length, Option.some.injEq] at hAt
    subst hAt
    unfold TabView.fetched at hFetched
    cases hCategory : categories[turn.blogs.length]? with
    | none => simp [hCategory] at hFetched
    | some category =>
        simp only [hCategory] at hFetched
        refine ⟨category, n, http, rfl, by simp, ?_⟩
        cases hPosts : fetchBlogs unescape http category with
        | error e => simp [hPosts, Except.toOption] at hFetched
        | ok found =>
            rw [hPosts] at hFetched
            cases hFetched
            rfl

/- The turns that are pending after one hold its list. -/
theorem mem_next
    {turn : Turn}
    (hMem : turn ∈ next categories blogs) :
    turn.blogs = blogs := by
  unfold next at hMem
  split at hMem
  · rw [List.mem_singleton.mp hMem]
  · cases hMem

/- All lists of a run are loaded, published or not. -/
theorem loaded_of_run
    {p : Pool TabView Turn}
    (hRun :
      (program unescape categories).system.Run
        System.anyStep created es p) :
    Loaded unescape categories es p.shared.blogs ∧
      ∀ turn ∈ p.pending,
        Loaded unescape categories es turn.blogs := by
  refine Program.run_invariant
    (I := fun es s pending =>
      Loaded unescape categories es s.blogs ∧
        ∀ turn ∈ pending,
          Loaded unescape categories es turn.blogs)
    (Program.run_when_true hRun)
    ⟨loaded_nil, by simp [created]⟩ ?_ ?_
  · intro hist s pending op t ks hInv _ hCall
    rcases hInv with ⟨hShown, hPending⟩
    cases op with
    | build =>
        cases hCall
        refine ⟨hShown.append _, ?_⟩
        intro turn hMem
        rcases List.mem_append.mp hMem with hOld | hNew
        · exact (hPending turn hOld).append _
        · unfold getAllListBlogs at hNew
          split at hNew
          · rw [mem_next hNew]
            exact loaded_nil
          · cases hNew
    | onTap index =>
        simp only [program, call] at hCall
        split at hCall
        · cases hCall
          refine ⟨hShown.append _, ?_⟩
          intro turn hMem
          rw [List.append_nil] at hMem
          exact (hPending turn hMem).append _
        · cases hCall
  · intro hist s earlier turn later http hInv _ _
    rcases hInv with ⟨hShown, hPending⟩
    have hTurn := hPending turn (by simp)
    have hRest :
        ∀ other ∈ earlier ++ later,
          Loaded unescape categories
            (hist ++ [.resume earlier.length http])
            other.blogs := by
      intro other hMem
      exact (hPending other (mem_of_mem_rest hMem)).append _
    simp only [program, resume]
    cases hFetched : fetched unescape categories turn http with
    | none =>
        refine ⟨hShown.append _, ?_⟩
        rw [List.append_nil]
        exact hRest
    | some blog =>
        have hNow := hTurn.fetched (n := earlier.length) hFetched
        refine ⟨hNow, ?_⟩
        intro other hMem
        rcases List.mem_append.mp hMem with hOld | hNew
        · exact hRest other hOld
        · rw [mem_next hNew]
          exact hNow

end TabView

end NewsCentral

------------------------------------------------------------
-- When The Position Is In Range
------------------------------------------------------------

namespace NewsCentral

open Dart EventLoop

namespace TabView

variable {unescape : String → String}
variable {categories : List Category}
variable {es : List (Event Op Http)}
variable {s t : TabView} {next : List Turn}

/- With posts there, the body is built if in range. -/
theorem exists_body_iff
    (hPosts : s.blogs ≠ [])
    (hLoaded : Loaded unescape categories es s.blogs) :
    (∃ b, s.body categories = .ok b) ↔
      s.position < s.blogs.length := by
  have hEmpty : s.blogs.isEmpty = false := by
    simpa using hPosts
  unfold body
  simp only [hEmpty, Bool.false_eq_true, if_false]
  rw [← exists_elementAt_iff]
  constructor
  · rintro ⟨b, hBody⟩
    rcases bind_eq_ok_iff.mp hBody with ⟨blogs, hAt, _⟩
    exact ⟨blogs, hAt⟩
  · rintro ⟨blogs, hAt⟩
    have hLt := exists_elementAt_iff.mp ⟨blogs, hAt⟩
    rcases exists_elementAt_iff.mpr
        (Nat.lt_of_lt_of_le hLt hLoaded.length_le) with
      ⟨category, hCategory⟩
    rw [hAt, ok_bind_eq]
    cases blogs.isEmpty with
    | true => exact ⟨_, rfl⟩
    | false =>
        simp only [hCategory, Bool.false_eq_true, if_false]
        exact ⟨_, rfl⟩

/- A build changes nothing, a tap the position. -/
theorem inRange_call_iff
    {op : Op}
    {pending : List Turn}
    (hRange : InRange s)
    (hCall : call categories op s = some (t, next)) :
    InRange t ↔ Reached s pending op := by
  cases op with
  | build =>
      cases hCall
      exact iff_of_true hRange trivial
  | onTap index =>
      simp only [call] at hCall
      split at hCall
      · cases hCall
        exact or_iff_not_imp_left.symm
      · cases hCall

/- An answer shows the list of its loop. -/
theorem inRange_resume_iff
    {turn : Turn}
    {http : Http}
    {rest : List Turn}
    (hRange : InRange s) :
    InRange (resume unescape categories turn http s).1 ↔
      Reaching unescape categories s rest turn http := by
  unfold resume Reaching
  cases fetched unescape categories turn http with
  | none => simpa using hRange
  | some blog =>
      simp only [InRange, reduceCtorEq, or_false]
      rw [List.length_append, List.length_singleton,
        Nat.lt_succ_iff]
      exact forall_prop_of_true (by simp)

/-
  The lists are always those of their tabs; and the position
  stays in range throughout a run exactly if only reached
  tabs are tapped and only loops answer that have reached
  the position.
-/
theorem inRange_iff
    {p : Pool TabView Turn}
    (hRun :
      (program unescape categories).system.Run
        System.anyStep created es p) :
    (program unescape categories).system.Always
        (fun hist q =>
          Loaded unescape categories hist q.shared.blogs)
        created es ∧
      ((program unescape categories).system.Always
          (fun _ q => InRange q.shared) created es ↔
        (program unescape categories).system.Run
          (Program.when Reached
            (Reaching unescape categories))
          created es p) := by
  constructor
  · intro hist _ q _ hVisit
    exact (loaded_of_run hVisit).1
  · refine Program.always_iff_run
      (I := fun s _ => InRange s)
      (G := fun s _ => InRange s) ?_ ?_ ?_ ?_ ?_ ?_ hRun
    · intro hPosts
      exact absurd rfl hPosts
    · intro s pending op t next hRange hOk hCall
      exact (inRange_call_iff hRange hCall).mpr hOk
    · intro s earlier turn later http hRange hOk
      exact (inRange_resume_iff hRange).mpr hOk
    · intro s pending hRange
      exact hRange
    · intro s pending op t next hRange hBroken hCall hNext
      exact hBroken ((inRange_call_iff hRange hCall).mp hNext)
    · intro s earlier turn later http hRange hBroken hNext
      exact hBroken ((inRange_resume_iff hRange).mp hNext)

/- A network with one post for everything. -/
def onePost : Http := fun _ =>
  .ok
    { statusCode := 200
      decoded := some (.arr [.obj [("id", .int 1)]]) }

/- Two categories, of which the second one is selected. -/
theorem inRange_both_loaded :
    (program id
        [{ id := some 1 }, { id := some 2 }]).system.Always
      (fun _ q => InRange q.shared) created
      [ .call .build, .resume 0 onePost, .resume 0 onePost,
        .call (.onTap 1), .call .build ] := by
  have hRun :
      (program id
          [{ id := some 1 }, { id := some 2 }]).system.Run
        (Program.when Reached
          (Reaching id [{ id := some 1 }, { id := some 2 }]))
        created
        [ .call .build, .resume 0 onePost,
          .resume 0 onePost, .call (.onTap 1),
          .call .build ] _ :=
    System.run_iff_exec.mpr ⟨by decide, rfl⟩
  exact (inRange_iff hRun.any).2.mpr hRun

/- The second of two tabs is tapped before its posts come. -/
theorem tapped_too_early :
    ∃ p,
      (program id
            [{ id := some 1 }, { id := some 2 }]).system.Run
          System.anyStep created
          [ .call .build, .resume 0 onePost,
            .call (.onTap 1), .call .build ] p ∧
        p.shared.blogs ≠ [] ∧
        p.shared.body [{ id := some 1 }, { id := some 2 }] =
          .error (.error "RangeError" "1") ∧
        ¬ InRange p.shared := by
  refine ⟨_, System.run_of_exec rfl, by decide, rfl, ?_⟩
  unfold InRange
  decide

end TabView

end NewsCentral
