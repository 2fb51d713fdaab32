import NewsCentral.Lists.Keyed
import NewsCentral.Wishlist.Durability
import NewsCentral.Wishlist.Isolation

/-
  Hearts on the cards of list screens, and the placeholders
  that the cards show while posts are loading.

  `isEmptyBlog` asks for other texts than `BlogNews.empty`
  writes, so it never tells a placeholder, and other cards
  do not ask at all: a placeholder has a heart like a post.

  Key definitions include:
    * `NewsCentral.BlogNews.IsPlaceholder`
    * `NewsCentral.Card.hasHeart`
    * `NewsCentral.ListScreen` and its `program`
    * `NewsCentral.ListScreen.Untouched`

  Key theorems include:
    * `NewsCentral.BlogNews.isEmptyBlog_of_isPlaceholder`
    * `NewsCentral.ListScreen.untouched_iff`
-/

------------------------------------------------------------
-- Placeholders
------------------------------------------------------------

namespace NewsCentral

open Dart EventLoop

namespace BlogNews

/- The test that the staggered cards make. -/
def isEmptyBlog (blog : BlogNews) : Bool :=
  blog.date = some "" && blog.title = some "Loading..." &&
    blog.content = some "Loading..." &&
    blog.excerpt = some "Loading..." &&
    blog.imageFeature = some ""

/-
  What `BlogNews.empty` builds.  The author is not stored,
  so one that was stored has lost it.
-/
def IsPlaceholder (blog : BlogNews) : Prop :=
  ∃ id author, blog = { empty id with author := author }

instance (blog : BlogNews) : Decidable blog.IsPlaceholder :=
  match hId : blog.id with
  | none => isFalse (by
      rintro ⟨id, author, rfl⟩
      cases hId)
  | some id =>
      decidable_of_iff
        (blog = { empty id with author := blog.author }) (by
          constructor
          · intro hEq
            exact ⟨id, blog.author, hEq⟩
          · rintro ⟨other, author, rfl⟩
            cases hId
            rfl)

/- The test does not tell any placeholder. -/
theorem isEmptyBlog_of_isPlaceholder
    {blog : BlogNews}
    (hPlaceholder : blog.IsPlaceholder) :
    blog.isEmptyBlog = false := by
  rcases hPlaceholder with ⟨id, author, rfl⟩
  rfl

end BlogNews

end NewsCentral

------------------------------------------------------------
-- List Screens
------------------------------------------------------------

namespace NewsCentral

open Dart EventLoop

/-
  A card with a blog: a `StaggeredBlogCard`, which asks
  whether to show a heart, or one of the others, such as
  `BlogCard`, which always do.
-/
inductive Card where
  | staggered (showHeart : Bool) (blog : BlogNews)
  | plain (blog : BlogNews)
deriving DecidableEq

namespace Card

def blog : Card → BlogNews
  | .staggered _ blog => blog
  | .plain blog => blog

def hasHeart : Card → Bool
  | .staggered showHeart blog =>
      showHeart && !blog.isEmptyBlog
  | .plain _ => true

end Card

/-
  A heart as it was built last: filled, and then removing
  its blog, or not, and then adding it.
-/
structure HeartButton where
  blog : BlogNews
  isExist : Bool
deriving DecidableEq

/- `_HeartButtonState.build` -/
def HeartButton.build
    (wishlist : Wishlist)
    (blog : BlogNews) : HeartButton where
  blog := blog
  isExist := wishlist.isExist blog

/- The wishlist, and the hearts that are on the screen. -/
structure ListScreen where
  wishlist : Wishlist := {}
  hearts : List HeartButton := []

namespace ListScreen

/-
  A screen shows cards, those of a loading state or others;
  one heart is built again, or tapped; or an item of the
  wishlist screen is removed.
-/
inductive Op where
  | showCards (cards : List Card)
  | rebuild (n : Nat)
  | tapHeart (n : Nat)
  | onRemove (index : Nat)
deriving DecidableEq

/- The hearts of some cards. -/
def heartsOf
    (cards : List Card)
    (wishlist : Wishlist) : List HeartButton :=
  (cards.filter Card.hasHeart).map fun card =>
    HeartButton.build wishlist card.blog

/- `onPressed` of a heart; its `setState` builds it again. -/
def tapHeart
    (n : Nat)
    (heart : HeartButton)
    (s : ListScreen) : ListScreen × List Wishlist.Point :=
  let r :=
    if heart.isExist then
      s.wishlist.removeToWishlist heart.blog
    else
      s.wishlist.addToWishlist heart.blog
  ({ wishlist := r.1
     hearts :=
       s.hearts.set n (HeartButton.build r.1 heart.blog) },
    r.2)

def call
    (op : Op)
    (s : ListScreen) :
    Option (ListScreen × List Wishlist.Point) :=
  match op with
  | .showCards cards =>
      some
        ({ s with hearts := heartsOf cards s.wishlist }, [])
  | .rebuild n =>
      match s.hearts[n]? with
      | none => none
      | some heart =>
          some
            ({ s with
              hearts :=
                s.hearts.set n
                  (HeartButton.build s.wishlist heart.blog) },
              [])
  | .tapHeart n =>
      match s.hearts[n]? with
      | none => none
      | some heart => some (s.tapHeart n heart)
  | .onRemove index =>
      match s.wishlist.content[index]? with
      | none => none
      | some blog =>
          let r := s.wishlist.removeToWishlist blog
          some ({ s with wishlist := r.1 }, r.2)

def resume
    (point : Wishlist.Point)
    (ready : Ready)
    (s : ListScreen) : ListScreen × List Wishlist.Point :=
  let r := Wishlist.resume point ready s.wishlist
  ({ s with wishlist := r.1 }, r.2)

/- The screens and the wishlist on the event loop. -/
def program : Program ListScreen Op Wishlist.Point Ready where
  call := call
  resume := resume
  queued := Wishlist.Point.awaitsReady

/- The wishlist is loading, nothing is shown. -/
def launched
    (wishlist : Wishlist) : Pool ListScreen Wishlist.Point :=
  ⟨{ wishlist := wishlist }, [.loadReady]⟩

end ListScreen

end NewsCentral

------------------------------------------------------------
-- The Property And Its Condition
------------------------------------------------------------

namespace NewsCentral

open Dart EventLoop

namespace ListScreen

/-
  No placeholder is in the wishlist or stored, and no heart
  of a placeholder is filled, so that it neither shows that
  a post with its id is saved nor removes that post.
-/
structure Untouched (s : ListScreen) : Prop where
  content :
    ∀ blog ∈ s.wishlist.content, ¬ blog.IsPlaceholder
  stored :
    ∀ blog ∈ s.wishlist.storedBlogs, ¬ blog.IsPlaceholder
  hearts :
    ∀ heart ∈ s.hearts,
      heart.blog.IsPlaceholder → heart.isExist = false

/- A card's heart is built for a placeholder of a saved id. -/
def ShowsSaved
    (wishlist : Wishlist)
    (blog : BlogNews) : Prop :=
  blog.IsPlaceholder ∧ wishlist.isExist blog = true

instance
    (wishlist : Wishlist)
    (blog : BlogNews) :
    Decidable (ShowsSaved wishlist blog) := by
  unfold ShowsSaved
  infer_instance

/-
  No placeholder with the id of a saved post is shown on a
  card with a heart, or built again, and no placeholder's
  heart is tapped.
-/
def KeepsOff
    (s : ListScreen)
    (_ : List Wishlist.Point)
    (op : Op) : Prop :=
  match op with
  | .showCards cards =>
      ∀ card ∈ cards,
        ShowsSaved s.wishlist card.blog →
          card = .staggered false card.blog
  | .rebuild n =>
      ∀ heart ∈ s.hearts[n]?,
        ¬ ShowsSaved s.wishlist heart.blog
  | .tapHeart n =>
      ∀ heart ∈ s.hearts[n]?, ¬ heart.blog.IsPlaceholder
  | .onRemove _ => True

/- Any answer of the storage. -/
def anyAnswer
    (_ : ListScreen)
    (_ : List Wishlist.Point)
    (_ : Wishlist.Point)
    (_ : Ready) : Prop := True

instance
    (s : ListScreen)
    (pending : List Wishlist.Point)
    (op : Op) :
    Decidable (KeepsOff s pending op) := by
  cases op <;> unfold KeepsOff <;> infer_instance

instance
    (s : ListScreen)
    (rest : List Wishlist.Point)
    (point : Wishlist.Point)
    (ready : Ready) :
    Decidable (anyAnswer s rest point ready) :=
  isTrue trivial

/-
  No placeholder is left anywhere, not even in a list that
  a suspended save holds.
-/
structure Clean
    (s : ListScreen)
    (pending : List Wishlist.Point) : Prop where
  valid : s.wishlist.Valid
  left :
    ∀ blog,
      s.wishlist.Left (fun list => .saveReady list ∈ pending)
        blog →
      ¬ blog.IsPlaceholder
  hearts :
    ∀ heart ∈ s.hearts,
      heart.blog.IsPlaceholder → heart.isExist = false

end ListScreen

end NewsCentral

------------------------------------------------------------
-- Hearts And What They Change
------------------------------------------------------------

namespace NewsCentral

open Dart EventLoop

namespace ListScreen

variable {s : ListScreen} {pending : List Wishlist.Point}
variable {wishlist : Wishlist} {cards : List Card}

theorem Clean.untouched
    (hClean : Clean s pending) :
    Untouched s where
  content := fun blog hMem => hClean.left blog (.content hMem)
  stored := fun blog hMem => hClean.left blog (.stored hMem)
  hearts := hClean.hearts

/- The model's list stays an object of the heap. -/
theorem valid_addToWishlist
    (hValid : wishlist.Valid)
    (blog : BlogNews) :
    (wishlist.addToWishlist blog).1.Valid := by
  cases hExist : wishlist.isExist blog with
  | true =>
      rw [Wishlist.addToWishlist_of_exist hExist]
      exact hValid
  | false =>
      exact (Wishlist.addToWishlist_of_new hValid hExist rfl).1

theorem valid_removeToWishlist
    (hValid : wishlist.Valid)
    (blog : BlogNews) :
    (wishlist.removeToWishlist blog).1.Valid := by
  cases hExist : wishlist.isExist blog with
  | true =>
      rw [Wishlist.removeToWishlist_of_exist hExist]
      exact Wishlist.valid_setBlogs _ _
  | false =>
      rw [Wishlist.removeToWishlist_of_new hExist]
      exact hValid

theorem valid_resume
    (hValid : wishlist.Valid)
    (point : Wishlist.Point)
    (ready : Ready) :
    (Wishlist.resume point ready wishlist).1.Valid := by
  cases point with
  | saveItem => exact hValid
  | saveReady list =>
      simp only [Wishlist.resume]
      split
      next => exact hValid
      next => exact hValid
  | loadReady =>
      simp only [Wishlist.resume]
      split
      next =>
        unfold Wishlist.getLocalWishlist
        split
        next => exact hValid
        next =>
          split
          next => exact Wishlist.valid_setBlogs _ _
          next => exact hValid
        next =>
          split
          next => exact Wishlist.valid_setBlogs _ _
          next => exact hValid
      next => exact hValid

/- A heart is built filled for a saved id only. -/
theorem hearts_build_iff
    {blog : BlogNews} :
    ((HeartButton.build wishlist blog).blog.IsPlaceholder →
      (HeartButton.build wishlist blog).isExist = false) ↔
      ¬ ShowsSaved wishlist blog := by
  unfold ShowsSaved HeartButton.build
  rw [not_and, Bool.not_eq_true]

/- All placeholders among the cards with a heart show it. -/
theorem hearts_heartsOf_iff :
    (∀ heart ∈ heartsOf cards wishlist,
      heart.blog.IsPlaceholder → heart.isExist = false) ↔
      ∀ card ∈ cards,
        ShowsSaved wishlist card.blog →
          card = .staggered false card.blog := by
  unfold heartsOf
  rw [List.forall_mem_map]
  constructor
  · intro hHearts card hMem hSaved
    by_contra hOther
    have hHeart : card.hasHeart = true := by
      cases card with
      | plain blog => rfl
      | staggered showHeart blog =>
          cases showHeart with
          | false => exact absurd rfl hOther
          | true =>
              have hNot :=
                BlogNews.isEmptyBlog_of_isPlaceholder hSaved.1
              simp only [Card.blog] at hNot
              simp [Card.hasHeart, hNot]
    have hBuilt := hHearts card
      (List.mem_filter.mpr ⟨hMem, hHeart⟩)
    exact hearts_build_iff.mp hBuilt hSaved
  · intro hCards card hMem
    rcases List.mem_filter.mp hMem with ⟨hCard, hHeart⟩
    rw [hearts_build_iff]
    intro hSaved
    rw [hCards card hCard hSaved] at hHeart
    cases hHeart

/- A heart that takes the place of another one. -/
theorem hearts_set_iff
    {heart built : HeartButton}
    {n : Nat}
    (hHearts :
      ∀ heart ∈ s.hearts,
        heart.blog.IsPlaceholder → heart.isExist = false)
    (hAt : s.hearts[n]? = some heart) :
    (∀ other ∈ s.hearts.set n built,
      other.blog.IsPlaceholder → other.isExist = false) ↔
      (built.blog.IsPlaceholder → built.isExist = false) := by
  rcases List.getElem?_eq_some_iff.mp hAt with ⟨hLt, _⟩
  rw [Keyed.forall_mem_set_iff hLt]
  refine and_iff_left ?_
  intro other hMem
  exact hHearts other (List.mem_of_mem_eraseIdx hMem)

/- Saves that are held after a call. -/
theorem held_of_append
    {next : List Wishlist.Point} :
    ∀ list,
      Wishlist.Point.saveReady list ∈ pending ++ next →
        .saveReady list ∈ pending ∨ .saveReady list ∈ next :=
  fun _ hMem => List.mem_append.mp hMem

/- A removal leaves no placeholder. -/
theorem Clean.remove
    {blog : BlogNews}
    {r : Wishlist × List Wishlist.Point}
    (hClean : Clean s pending)
    (hRemove : s.wishlist.removeToWishlist blog = r) :
    ∀ other,
      r.1.Left
          (fun list => .saveReady list ∈ pending ++ r.2)
          other →
        ¬ other.IsPlaceholder := by
  intro other hLeft
  exact hClean.left other
    (Wishlist.Left.removeToWishlist hRemove held_of_append
      hLeft)

/- The addition of a post leaves none either. -/
theorem Clean.add
    {blog : BlogNews}
    {r : Wishlist × List Wishlist.Point}
    (hClean : Clean s pending)
    (hPost : ¬ blog.IsPlaceholder)
    (hAdd : s.wishlist.addToWishlist blog = r) :
    ∀ other,
      r.1.Left
          (fun list => .saveReady list ∈ pending ++ r.2)
          other →
        ¬ other.IsPlaceholder := by
  intro other hLeft
  rcases Wishlist.Left.addToWishlist hAdd held_of_append
      hLeft with rfl | hOld
  · exact hPost
  · exact hClean.left other hOld

theorem Clean.call
    {t : ListScreen}
    {next : List Wishlist.Point}
    {op : Op}
    (hClean : Clean s pending)
    (hOk : KeepsOff s pending op)
    (hCall : ListScreen.call op s = some (t, next)) :
    Clean t (pending ++ next) := by
  cases op with
  | showCards cards =>
      cases hCall
      constructor
      · exact hClean.valid
      · rw [List.append_nil]
        exact hClean.left
      · exact hearts_heartsOf_iff.mpr hOk
  | rebuild n =>
      cases hAt : s.hearts[n]? with
      | none => simp [ListScreen.call, hAt] at hCall
      | some heart =>
          simp only [ListScreen.call, hAt] at hCall
          cases hCall
          constructor
          · exact hClean.valid
          · rw [List.append_nil]
            exact hClean.left
          · rw [hearts_set_iff hClean.hearts hAt,
              hearts_build_iff]
            exact hOk heart hAt
  | tapHeart n =>
      cases hAt : s.hearts[n]? with
      | none => simp [ListScreen.call, hAt] at hCall
      | some heart =>
          have hPost := hOk heart hAt
          simp only [ListScreen.call, hAt] at hCall
          cases hCall
          constructor
          · simp only
            split
            next => exact valid_removeToWishlist hClean.valid _
            next => exact valid_addToWishlist hClean.valid _
          · simp only
            split
            next => exact hClean.remove rfl
            next => exact hClean.add hPost rfl
          · exact (hearts_set_iff hClean.hearts hAt).mpr
              fun hPlaceholder => absurd hPlaceholder hPost
  | onRemove index =>
      cases hAt : s.wishlist.content[index]? with
      | none => simp [ListScreen.call, hAt] at hCall
      | some blog =>
          simp only [ListScreen.call, hAt] at hCall
          cases hCall
          exact
            ⟨valid_removeToWishlist hClean.valid _,
              hClean.remove rfl, hClean.hearts⟩

/- The storage's turns save and load what was left. -/
theorem Clean.resume
    {earlier later : List Wishlist.Point}
    {point : Wishlist.Point}
    {ready : Ready}
    (hClean : Clean s (earlier ++ point :: later)) :
    Clean (ListScreen.resume point ready s).1
      (earlier ++ later ++
        (ListScreen.resume point ready s).2) := by
  constructor
  · exact valid_resume hClean.valid point ready
  · intro blog hLeft
    refine hClean.left blog
      (Wishlist.Left.resume ?_ hLeft)
    intro list hList
    have hNext :
        .saveReady list ∉
          (Wishlist.resume point ready s.wishlist).2 := by
      cases point <;> simp only [Wishlist.resume] <;>
        (try split) <;> simp
    simp only [ListScreen.resume, List.mem_append,
      List.mem_cons] at hList ⊢
    rcases hList with ((hL | hR) | hNew) | rfl
    · exact .inl hL
    · exact .inr (.inr hR)
    · exact absurd hNew hNext
    · exact .inr (.inl rfl)
  · exact hClean.hearts

/- A placeholder whose heart is tapped ends up saved. -/
theorem not_untouched_tapHeart
    {heart : HeartButton}
    {n : Nat}
    (hClean : Clean s pending)
    (hAt : s.hearts[n]? = some heart)
    (hPlaceholder : heart.blog.IsPlaceholder) :
    ¬ Untouched (s.tapHeart n heart).1 := by
  intro hUntouched
  have hEmpty :=
    hClean.hearts heart (List.mem_of_getElem? hAt) hPlaceholder
  have hHearts := hUntouched.hearts
  have hContent := hUntouched.content
  simp only [tapHeart, hEmpty, Bool.false_eq_true, if_false]
    at hHearts hContent
  rw [hearts_set_iff hClean.hearts hAt, hearts_build_iff]
    at hHearts
  cases hExist : s.wishlist.isExist heart.blog with
  | true =>
      rw [Wishlist.addToWishlist_of_exist hExist] at hHearts
      exact hHearts ⟨hPlaceholder, hExist⟩
  | false =>
      cases hAdd : s.wishlist.addToWishlist heart.blog with
      | mk t next =>
          rcases Wishlist.addToWishlist_of_new hClean.valid
              hExist hAdd with ⟨_, hAdded, _⟩
          rw [hAdd, hAdded] at hContent
          exact hContent heart.blog (by simp) hPlaceholder

theorem not_untouched_call
    {t : ListScreen}
    {next : List Wishlist.Point}
    {op : Op}
    (hClean : Clean s pending)
    (hBroken : ¬ KeepsOff s pending op)
    (hCall : ListScreen.call op s = some (t, next)) :
    ¬ Untouched t := by
  cases op with
  | showCards cards =>
      cases hCall
      intro hUntouched
      exact hBroken (hearts_heartsOf_iff.mp hUntouched.hearts)
  | rebuild n =>
      cases hAt : s.hearts[n]? with
      | none => simp [ListScreen.call, hAt] at hCall
      | some heart =>
          simp only [ListScreen.call, hAt] at hCall
          cases hCall
          intro hUntouched
          apply hBroken
          rintro _ hSame
          rw [hAt] at hSame
          cases hSame
          have hHearts := hUntouched.hearts
          rwa [hearts_set_iff hClean.hearts hAt,
            hearts_build_iff] at hHearts
  | tapHeart n =>
      cases hAt : s.hearts[n]? with
      | none => simp [ListScreen.call, hAt] at hCall
      | some heart =>
          simp only [ListScreen.call, hAt] at hCall
          cases hCall
          by_cases hPlaceholder : heart.blog.IsPlaceholder
          · exact not_untouched_tapHeart hClean hAt
              hPlaceholder
          · refine absurd ?_ hBroken
            rintro _ hSame
            rw [hAt] at hSame
            cases hSame
            exact hPlaceholder
  | onRemove index => exact absurd trivial hBroken

/- No placeholder has been stored before the launch. -/
def StartsClean (wishlist : Wishlist) : Prop :=
  wishlist.Valid ∧
    ∀ blog,
      blog ∈ wishlist.content ∨ blog ∈ wishlist.storedBlogs →
        ¬ blog.IsPlaceholder

/-
  Placeholders never become data in a run exactly if each
  step keeps off their hearts.
-/
theorem untouched_iff
    {wishlist : Wishlist}
    {es : List (Event Op Ready)}
    {p : Pool ListScreen Wishlist.Point}
    (hStart : StartsClean wishlist)
    (hRun :
      program.system.Run System.anyStep (launched wishlist)
        es p) :
    program.system.Always (fun _ q => Untouched q.shared)
        (launched wishlist) es ↔
      program.system.Run (Program.when KeepsOff anyAnswer)
        (launched wishlist) es p := by
  refine Program.always_iff_run
    (I := Clean) (G := fun s _ => Untouched s)
    ?_ ?_ ?_ ?_ ?_ ?_ hRun
  · constructor
    · exact hStart.1
    · intro blog hLeft
      cases hLeft with
      | content hMem => exact hStart.2 blog (.inl hMem)
      | stored hMem => exact hStart.2 blog (.inr hMem)
      | held hHeld _ => simp [launched] at hHeld
    · simp [launched]
  · intro s pending op t next hClean hOk hCall
    exact hClean.call hOk hCall
  · intro s earlier point later ready hClean _
    exact hClean.resume
  · intro s pending hClean
    exact hClean.untouched
  · intro s pending op t next hClean hBroken hCall
    exact not_untouched_call hClean hBroken hCall
  · intro s earlier point later ready _ hBroken
    exact absurd trivial hBroken

/- A loading state whose cards are left alone. -/
theorem untouched_loading :
    program.system.Always (fun _ q => Untouched q.shared)
      (launched {})
      [ .resume 0 (.ok true),
        .call (.showCards
          [.plain (BlogNews.empty 1), .plain (.empty 2)]),
        .call (.showCards [.plain { id := some 7 }]),
        .call (.tapHeart 0) ] := by
  have hRun :
      program.system.Run (Program.when KeepsOff anyAnswer)
        (launched {})
        [ .resume 0 (.ok true),
          .call (.showCards
            [.plain (BlogNews.empty 1), .plain (.empty 2)]),
          .call (.showCards [.plain { id := some 7 }]),
          .call (.tapHeart 0) ] _ :=
    System.run_iff_exec.mpr ⟨by decide, rfl⟩
  have hStart : StartsClean {} := by
    refine ⟨Nat.zero_lt_one, ?_⟩
    rintro blog (hMem | hMem) <;>
      exact absurd hMem List.not_mem_nil
  exact (untouched_iff hStart hRun.any).mpr hRun

/- The heart of a placeholder is tapped. -/
theorem placeholder_is_saved :
    ∃ p,
      program.system.Run System.anyStep (launched {})
          [ .resume 0 (.ok true),
            .call (.showCards [.plain (BlogNews.empty 1)]),
            .call (.tapHeart 0),
            .resume 0 (.ok true) ] p ∧
        p.shared.wishlist.content = [BlogNews.empty 1] ∧
        p.shared.wishlist.storedBlogs = [BlogNews.empty 1] ∧
        ¬ Untouched p.shared := by
  refine ⟨_, System.run_of_exec rfl, rfl, rfl, ?_⟩
  intro hUntouched
  exact hUntouched.content (BlogNews.empty 1)
    (List.mem_singleton_self _) ⟨1, some "", rfl⟩

end ListScreen

end NewsCentral
