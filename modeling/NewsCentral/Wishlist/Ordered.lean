import NewsCentral.Lists.Insertions
import NewsCentral.Wishlist.Hearts

/-
  The wishlist as a set in the order of insertion, and the
  hearts that show it.

  Whatever is added and removed, the list stays such a set,
  and a heart that is built shows whether its post is in it.
  But a heart does not listen to the model (`listen: false`):
  it is built again by its own tap, and a change from
  elsewhere leaves it as it was.

  Key definitions include:
    * `NewsCentral.HeartScreen.Step` and its `system`
    * `NewsCentral.HeartScreen.OrderedSet`
    * `NewsCentral.HeartScreen.Truthful`
    * `NewsCentral.HeartScreen.Alone`

  Key theorems include:
    * `NewsCentral.HeartScreen.orderedSet_run`
    * `NewsCentral.HeartScreen.shows_step_iff`
    * `NewsCentral.HeartScreen.ordered_set_truthful_iff`
-/

------------------------------------------------------------
-- Screens With Hearts
------------------------------------------------------------

namespace NewsCentral

open Dart EventLoop

namespace Wishlist

/- The ids of the saved posts, in the order of the list. -/
def ids (s : Wishlist) : List (Option Int) :=
  s.content.map BlogNews.id

/- The post that a call is about. -/
def Op.blog : Op → BlogNews
  | .addToWishlist blog => blog
  | .removeToWishlist blog => blog

/- The model after a call. -/
def perform (op : Op) (s : Wishlist) : Wishlist :=
  match op with
  | .addToWishlist blog => (s.addToWishlist blog).1
  | .removeToWishlist blog => (s.removeToWishlist blog).1

/- A call as a change of a list with keys. -/
def Op.change : Op → Insertions.Change BlogNews (Option Int)
  | .addToWishlist blog => .insert blog
  | .removeToWishlist blog => .erase blog.id

/- The call adds a missing id or removes one that is there. -/
def Op.Changes (s : Wishlist) : Op → Prop
  | .addToWishlist blog => blog.id ∉ s.ids
  | .removeToWishlist blog => blog.id ∈ s.ids

instance (s : Wishlist) : (op : Op) → Decidable (op.Changes s)
  | .addToWishlist blog =>
      decidable_of_iff (s.ids.contains blog.id = false)
        (by simp [Op.Changes])
  | .removeToWishlist blog =>
      decidable_of_iff (s.ids.contains blog.id = true)
        (by simp [Op.Changes])

end Wishlist

namespace HeartScreen

/-
  The model is called from elsewhere, a heart gets on the
  screen, is built again, is tapped or leaves the screen.
-/
inductive Step where
  | called (op : Wishlist.Op)
  | built (blog : BlogNews)
  | rebuilt (n : Nat)
  | tapped (n : Nat)
  | disposed (n : Nat)

/- What `onPressed` of a heart calls. -/
def onPressed (heart : HeartButton) : Wishlist.Op :=
  if heart.isExist then
    .removeToWishlist heart.blog
  else
    .addToWishlist heart.blog

def step
    (s : ListScreen) : Step → Option ListScreen
  | .called op =>
      some { s with wishlist := s.wishlist.perform op }
  | .built blog =>
      some
        { s with
          hearts :=
            s.hearts ++ [HeartButton.build s.wishlist blog] }
  | .rebuilt n => do
      let heart ← s.hearts[n]?
      some
        { s with
          hearts :=
            s.hearts.set n
              (HeartButton.build s.wishlist heart.blog) }
  | .tapped n => do
      let heart ← s.hearts[n]?
      some (s.tapHeart n heart).1
  | .disposed n =>
      some { s with hearts := s.hearts.eraseIdx n }

def system : System ListScreen Step where
  step := step

/- The call that a step makes, if it makes one. -/
def calls (s : ListScreen) : Step → List Wishlist.Op
  | .called op => [op]
  | .tapped n => (s.hearts[n]?.map onPressed).toList
  | _ => []

end HeartScreen

end NewsCentral

------------------------------------------------------------
-- The Property And Its Condition
------------------------------------------------------------

namespace NewsCentral

open Dart EventLoop

namespace HeartScreen

/- The start list as insertions, then the calls. -/
def changes
    (start : List BlogNews)
    (ops : List Wishlist.Op) :
    List (Insertions.Change BlogNews (Option Int)) :=
  start.map .insert ++ ops.map Wishlist.Op.change

/-
  The list has distinct ids, namely those that were there at
  first or were added, and were not removed since; and it is
  the list of the posts of the insertions that stand, in
  their order.
-/
structure OrderedSet
    (start : List BlogNews)
    (ops : List Wishlist.Op)
    (s : Wishlist) : Prop where
  nodup : s.ids.Nodup
  mem_ids_iff :
    ∀ id,
      id ∈ s.ids ↔
        Insertions.live BlogNews.id id (changes start ops) =
          true
  inserted :
    s.content =
      Insertions.standing BlogNews.id [] (changes start ops)

/- A heart shows its post as saved just if it is. -/
def Shows (s : Wishlist) (heart : HeartButton) : Prop :=
  heart.isExist = true ↔ heart.blog.id ∈ s.ids

/-
  All hearts show what is saved, and tapping one twice
  leaves the same ids saved.
-/
structure Truthful (s : ListScreen) : Prop where
  shows : ∀ heart ∈ s.hearts, Shows s.wishlist heart
  twice :
    ∀ n t,
      system.exec s [.tapped n, .tapped n] = some t →
        ∀ id, id ∈ t.wishlist.ids ↔ id ∈ s.wishlist.ids

/-
  When a call changes whether an id is saved, no heart with
  that id is on the screen but the one whose tap it is.
-/
def Alone (s : ListScreen) : Step → Prop
  | .called op =>
      op.Changes s.wishlist →
        ∀ heart ∈ s.hearts, heart.blog.id ≠ op.blog.id
  | .tapped n =>
      ∀ heart ∈ s.hearts[n]?,
        ∀ other ∈ s.hearts.eraseIdx n,
          other.blog.id ≠ heart.blog.id
  | _ => True

instance (s : ListScreen) (e : Step) : Decidable (Alone s e) := by
  cases e <;> unfold Alone <;> infer_instance

/- The screen right after the start, without hearts. -/
def opened (wishlist : Wishlist) : ListScreen where
  wishlist := wishlist

end HeartScreen

end NewsCentral

------------------------------------------------------------
-- What The Calls Do
------------------------------------------------------------

namespace NewsCentral

open Dart EventLoop

namespace Wishlist

variable {s : Wishlist} {blog : BlogNews} {op : Op}

theorem isExist_iff_mem_ids :
    s.isExist blog = true ↔ blog.id ∈ s.ids := by
  simp [isExist, ids]

theorem valid_perform
    (hValid : s.Valid)
    (op : Op) :
    (s.perform op).Valid := by
  cases op with
  | addToWishlist blog =>
      exact ListScreen.valid_addToWishlist hValid blog
  | removeToWishlist blog =>
      exact ListScreen.valid_removeToWishlist hValid blog

/- A call does its change to the list. -/
theorem content_perform
    (hValid : s.Valid)
    (op : Op) :
    (s.perform op).content =
      Insertions.apply BlogNews.id s.content op.change := by
  cases op with
  | addToWishlist blog =>
      cases hExist : s.isExist blog with
      | true =>
          have hOld := isExist_iff_mem_ids.mp hExist
          simp only [perform, addToWishlist_of_exist hExist]
          exact (Insertions.apply_insert_old hOld).symm
      | false =>
          have hNew : blog.id ∉ s.ids := by
            rw [← isExist_iff_mem_ids, hExist]
            simp
          rcases addToWishlist_of_new hValid hExist rfl with
            ⟨_, hContent, _⟩
          exact hContent.trans
            (Insertions.apply_insert_new hNew).symm
  | removeToWishlist blog =>
      cases hExist : s.isExist blog with
      | true =>
          simp only [perform, removeToWishlist_of_exist hExist,
            content_setBlogs]
          rfl
      | false =>
          have hAway :
              ∀ item ∈ s.content, item.id ≠ blog.id := by
            intro item hMem hSame
            have hThere : blog.id ∈ s.ids :=
              List.mem_map.mpr ⟨item, hMem, hSame⟩
            rw [← isExist_iff_mem_ids, hExist] at hThere
            cases hThere
          simp only [perform, removeToWishlist_of_new hExist]
          refine (List.filter_eq_self.mpr ?_).symm
          intro item hMem
          simpa using hAway item hMem

/- A call does nothing about other ids. -/
theorem mem_ids_perform_of_ne
    {id : Option Int}
    (hValid : s.Valid)
    (hNe : id ≠ op.blog.id) :
    id ∈ (s.perform op).ids ↔ id ∈ s.ids := by
  unfold ids
  rw [content_perform hValid]
  cases op with
  | addToWishlist blog =>
      rw [Op.change, Insertions.mem_keys_insert_iff]
      exact or_iff_right hNe
  | removeToWishlist blog =>
      rw [Op.change, Insertions.mem_keys_erase_iff]
      exact and_iff_right hNe

/- Its own id is swapped, if the call changes anything. -/
theorem mem_ids_perform_iff
    (hValid : s.Valid) :
    (op.blog.id ∈ (s.perform op).ids ↔ op.blog.id ∈ s.ids) ↔
      ¬ op.Changes s := by
  unfold ids
  rw [content_perform hValid]
  cases op with
  | addToWishlist blog =>
      rw [Op.change, Insertions.mem_keys_insert_iff]
      simp [Op.blog, Op.Changes, ids]
  | removeToWishlist blog =>
      rw [Op.change, Insertions.mem_keys_erase_iff]
      simp [Op.blog, Op.Changes, ids]

end Wishlist

end NewsCentral

------------------------------------------------------------
-- The Ordered Set
------------------------------------------------------------

namespace NewsCentral

open Dart EventLoop

namespace HeartScreen

variable {s t : ListScreen} {heart : HeartButton} {e : Step}

/- A tap is the call of the heart that is tapped. -/
theorem wishlist_tapHeart
    (n : Nat) :
    (s.tapHeart n heart).1.wishlist =
      s.wishlist.perform (onPressed heart) := by
  unfold ListScreen.tapHeart onPressed
  cases heart.isExist with
  | true => rfl
  | false => rfl

/- A step does its calls to the model. -/
theorem wishlist_step
    (hNext : step s e = some t) :
    t.wishlist =
      (calls s e).foldl (fun w op => w.perform op)
        s.wishlist := by
  cases e with
  | called op =>
      cases hNext
      rfl
  | built blog =>
      cases hNext
      rfl
  | disposed n =>
      cases hNext
      rfl
  | rebuilt n =>
      cases hAt : s.hearts[n]? with
      | none => simp [step, hAt] at hNext
      | some heart =>
          simp only [step, hAt] at hNext
          cases hNext
          rfl
  | tapped n =>
      cases hAt : s.hearts[n]? with
      | none => simp [step, hAt] at hNext
      | some heart =>
          simp only [step, hAt] at hNext
          cases hNext
          simp only [calls, hAt, Option.map_some,
            Option.toList_some, List.foldl_cons,
            List.foldl_nil]
          exact wishlist_tapHeart n

/- Calls keep a list object and do their changes to it. -/
theorem foldl_perform
    {w : Wishlist}
    (hValid : w.Valid)
    (ops : List Wishlist.Op) :
    (ops.foldl (fun w op => w.perform op) w).Valid ∧
      (ops.foldl (fun w op => w.perform op) w).content =
        (ops.map Wishlist.Op.change).foldl
          (Insertions.apply BlogNews.id) w.content := by
  induction ops generalizing w with
  | nil => exact ⟨hValid, rfl⟩
  | cons op ops ih =>
      have hNext := ih (Wishlist.valid_perform hValid op)
      rw [Wishlist.content_perform hValid] at hNext
      exact hNext

/- What some calls do to a start list is an ordered set. -/
theorem orderedSet_of_content
    {start : List BlogNews}
    {ops : List Wishlist.Op}
    {w : Wishlist}
    (hStart : (start.map BlogNews.id).Nodup)
    (hContent :
      w.content =
        (ops.map Wishlist.Op.change).foldl
          (Insertions.apply BlogNews.id) start) :
    OrderedSet start ops w := by
  have hChanges :
      w.content =
        (changes start ops).foldl
          (Insertions.apply BlogNews.id) [] := by
    unfold changes
    rw [List.foldl_append, Insertions.foldl_map_insert hStart]
    exact hContent
  have hNodup :
      ∀ (done : List BlogNews)
        (more : List
          (Insertions.Change BlogNews (Option Int))),
        (done.map BlogNews.id).Nodup →
          ((more.foldl (Insertions.apply BlogNews.id)
            done).map BlogNews.id).Nodup := by
    intro done more hDone
    induction more generalizing done with
    | nil => exact hDone
    | cons change more ih =>
        exact ih _ (Insertions.nodup_apply hDone change)
  constructor
  · unfold Wishlist.ids
    rw [hContent]
    exact hNodup start _ hStart
  · intro id
    unfold Wishlist.ids
    rw [hChanges]
    exact Insertions.mem_keys_foldl_iff
  · rw [hChanges]
    exact Insertions.foldl_eq_standing

/- So it is after every run, whatever the hearts show. -/
theorem orderedSet_run
    {steps : List Step}
    (hValid : s.wishlist.Valid)
    (hStart : s.wishlist.ids.Nodup)
    (hRun : system.Run System.anyStep s steps t) :
    OrderedSet s.wishlist.content
      (system.trace calls s steps) t.wishlist := by
  have hTrace :
      t.wishlist =
        (system.trace calls s steps).foldl
          (fun w op => w.perform op) s.wishlist := by
    refine hRun.traceInvariant
      (I := fun ops u =>
        u.wishlist =
          ops.foldl (fun w op => w.perform op) s.wishlist)
      rfl ?_
    intro seen u e v hSeen _ hNext
    rw [List.foldl_append, ← hSeen]
    exact wishlist_step hNext
  apply orderedSet_of_content hStart
  rw [hTrace]
  exact (foldl_perform hValid _).2

end HeartScreen

end NewsCentral

------------------------------------------------------------
-- What The Hearts Show
------------------------------------------------------------

namespace NewsCentral

open Dart EventLoop

namespace HeartScreen

variable {s t : ListScreen} {heart : HeartButton} {e : Step}
variable {w : Wishlist} {n : Nat}

/- A heart that is built shows its post as it is. -/
theorem shows_build
    (w : Wishlist)
    (blog : BlogNews) :
    Shows w (HeartButton.build w blog) :=
  Wishlist.isExist_iff_mem_ids

/- A call leaves a heart true unless it is about its id. -/
theorem shows_perform_iff
    {op : Wishlist.Op}
    (hValid : w.Valid)
    (hShows : Shows w heart) :
    Shows (w.perform op) heart ↔
      (op.Changes w → heart.blog.id ≠ op.blog.id) := by
  unfold Shows at hShows ⊢
  rw [hShows]
  by_cases hSame : heart.blog.id = op.blog.id
  · rw [hSame, iff_comm (a := op.blog.id ∈ w.ids),
      Wishlist.mem_ids_perform_iff hValid]
    simp
  · rw [Wishlist.mem_ids_perform_of_ne hValid hSame]
    simp [hSame]

/- The tap of a true heart changes whether its id is saved. -/
theorem changes_onPressed
    (hShows : Shows w heart) :
    (onPressed heart).Changes w := by
  unfold Shows at hShows
  unfold onPressed
  by_cases hExist : heart.isExist = true
  · rw [if_pos hExist]
    exact hShows.mp hExist
  · rw [if_neg hExist]
    exact fun hMem => hExist (hShows.mpr hMem)

@[simp] theorem blog_onPressed :
    (onPressed heart).blog = heart.blog := by
  unfold onPressed
  cases heart.isExist with
  | true => rfl
  | false => rfl

/- A tap makes stale the other hearts of its id. -/
theorem shows_tapHeart_iff
    {heart : HeartButton}
    (hValid : s.wishlist.Valid)
    (hShows : ∀ heart ∈ s.hearts, Shows s.wishlist heart)
    (hAt : s.hearts[n]? = some heart) :
    (∀ other ∈ (s.tapHeart n heart).1.hearts,
        Shows (s.tapHeart n heart).1.wishlist other) ↔
      ∀ other ∈ s.hearts.eraseIdx n,
        other.blog.id ≠ heart.blog.id := by
  rcases List.getElem?_eq_some_iff.mp hAt with ⟨hLt, _⟩
  have hChanges := changes_onPressed
    (hShows heart (List.mem_of_getElem? hAt))
  have hOthers :
      ∀ other ∈ s.hearts,
        (Shows (s.tapHeart n heart).1.wishlist other ↔
          other.blog.id ≠ heart.blog.id) := by
    intro other hMem
    rw [wishlist_tapHeart,
      shows_perform_iff hValid (hShows other hMem),
      blog_onPressed]
    exact forall_prop_of_true hChanges
  have hBuilt :
      Shows (s.tapHeart n heart).1.wishlist
        (HeartButton.build
          (s.tapHeart n heart).1.wishlist
          heart.blog) :=
    shows_build _ _
  refine (Keyed.forall_mem_set_iff hLt).trans
    ((and_iff_right hBuilt).trans ?_)
  refine forall₂_congr fun other hMem => ?_
  exact hOthers other (List.mem_of_mem_eraseIdx hMem)

/- From true hearts a step makes true ones if it is alone. -/
theorem shows_step_iff
    (hValid : s.wishlist.Valid)
    (hShows : ∀ heart ∈ s.hearts, Shows s.wishlist heart)
    (hNext : step s e = some t) :
    (∀ heart ∈ t.hearts, Shows t.wishlist heart) ↔
      Alone s e := by
  cases e with
  | called op =>
      cases hNext
      simp only [Alone]
      constructor
      · intro hAll hChanges heart hMem
        exact (shows_perform_iff hValid (hShows heart hMem)).mp
          (hAll heart hMem) hChanges
      · intro hAlone heart hMem
        exact
          (shows_perform_iff hValid (hShows heart hMem)).mpr
            fun hChanges => hAlone hChanges heart hMem
  | built blog =>
      cases hNext
      refine iff_of_true ?_ trivial
      intro heart hMem
      rcases List.mem_append.mp hMem with hOld | hNew
      · exact hShows heart hOld
      · cases List.mem_singleton.mp hNew
        exact shows_build _ _
  | disposed n =>
      cases hNext
      refine iff_of_true ?_ trivial
      intro heart hMem
      exact hShows heart (List.mem_of_mem_eraseIdx hMem)
  | rebuilt n =>
      cases hAt : s.hearts[n]? with
      | none => simp [step, hAt] at hNext
      | some heart =>
          simp only [step, hAt] at hNext
          cases hNext
          rcases List.getElem?_eq_some_iff.mp hAt with
            ⟨hLt, _⟩
          refine iff_of_true ?_ trivial
          rw [Keyed.forall_mem_set_iff hLt]
          exact ⟨shows_build _ _, fun other hMem =>
            hShows other (List.mem_of_mem_eraseIdx hMem)⟩
  | tapped n =>
      cases hAt : s.hearts[n]? with
      | none => simp [step, hAt] at hNext
      | some heart =>
          simp only [step, hAt] at hNext
          cases hNext
          simp only [Alone, hAt, Option.mem_def,
            Option.some.injEq, forall_eq']
          exact shows_tapHeart_iff hValid hShows hAt

/- Of two taps on a true heart the second undoes the first. -/
theorem twice_of_shows
    (hValid : s.wishlist.Valid)
    (hShows : ∀ heart ∈ s.hearts, Shows s.wishlist heart)
    (hExec : system.exec s [.tapped n, .tapped n] = some t)
    (id : Option Int) :
    id ∈ t.wishlist.ids ↔ id ∈ s.wishlist.ids := by
  cases hAt : s.hearts[n]? with
  | none => simp [System.exec, system, step, hAt] at hExec
  | some heart =>
      rcases List.getElem?_eq_some_iff.mp hAt with ⟨hLt, _⟩
      have hFirst := hShows heart (List.mem_of_getElem? hAt)
      have hAgain :
          (s.tapHeart n heart).1.hearts[n]? =
            some
              (HeartButton.build
                (s.tapHeart n heart).1.wishlist heart.blog) :=
        List.getElem?_set_self hLt
      have hSecond :=
        shows_build (s.tapHeart n heart).1.wishlist heart.blog
      have hEnd :
          t.wishlist =
            (s.tapHeart n heart).1.wishlist.perform
              (onPressed
                (HeartButton.build
                  (s.tapHeart n heart).1.wishlist
                  heart.blog)) := by
        simp only [System.exec, system, step, hAt, bind,
          Option.bind, hAgain, Option.some.injEq] at hExec
        rw [← hExec, wishlist_tapHeart]
      have hMiddle :=
        Wishlist.valid_perform hValid (onPressed heart)
      rw [hEnd]
      rw [wishlist_tapHeart] at hSecond ⊢
      by_cases hSame : id = heart.blog.id
      · subst hSame
        have hDown := (not_congr
          (Wishlist.mem_ids_perform_iff hValid)).mpr
          (not_not.mpr (changes_onPressed hFirst))
        have hUp := (not_congr
          (Wishlist.mem_ids_perform_iff hMiddle)).mpr
          (not_not.mpr (changes_onPressed hSecond))
        simp only [blog_onPressed, HeartButton.build]
          at hDown hUp ⊢
        tauto
      · rw [Wishlist.mem_ids_perform_of_ne hMiddle (by
          simpa [HeartButton.build] using hSame)]
        exact Wishlist.mem_ids_perform_of_ne hValid (by
          simpa using hSame)

end HeartScreen

end NewsCentral

------------------------------------------------------------
-- Runs
------------------------------------------------------------

namespace NewsCentral

open Dart EventLoop

namespace HeartScreen

/-
  In every state of every run the list is an ordered set and
  a heart that is built now would be true.  The hearts that
  are on the screen are always true exactly if no step
  changes the id of a heart that it does not build again.
-/
theorem ordered_set_truthful_iff
    {w : Wishlist}
    {steps : List Step}
    {t : ListScreen}
    (hValid : w.Valid)
    (hStart : w.ids.Nodup)
    (hRun : system.Run System.anyStep (opened w) steps t) :
    system.Always
        (fun es u =>
          OrderedSet w.content
              (system.trace calls (opened w) es)
              u.wishlist ∧
            ∀ blog,
              Shows u.wishlist
                (HeartButton.build u.wishlist blog))
        (opened w) steps ∧
      (system.Always (fun _ u => Truthful u) (opened w)
          steps ↔
        system.Run Alone (opened w) steps t) := by
  constructor
  · intro es _ u _ hVisit
    exact
      ⟨orderedSet_run (s := opened w) hValid hStart hVisit,
        shows_build u.wishlist⟩
  · refine System.always_iff_run
      (I := fun s =>
        s.wishlist.Valid ∧
          ∀ heart ∈ s.hearts, Shows s.wishlist heart)
      ⟨hValid, by simp [opened]⟩ ?_ ?_ ?_ hRun
    · intro s e u hI hAlone hNext
      refine ⟨?_, (shows_step_iff hI.1 hI.2 hNext).mpr hAlone⟩
      rw [wishlist_step hNext]
      exact (foldl_perform hI.1 _).1
    · intro s hI
      exact ⟨hI.2, fun n t hExec =>
        twice_of_shows hI.1 hI.2 hExec⟩
    · intro s e u hI hBroken hNext hTruthful
      exact hBroken
        ((shows_step_iff hI.1 hI.2 hNext).mp hTruthful.shows)

/- A list of two posts, of which one is removed and added. -/
theorem truthful_two_taps :
    system.Always (fun _ u => Truthful u)
      (opened
        (Wishlist.setBlogs [{ id := some 1 }, { id := some 2 }]
          {}))
      [ .built { id := some 1 }, .tapped 0, .tapped 0,
        .called (.addToWishlist { id := some 3 }) ] := by
  have hRun :
      system.Run Alone
        (opened
          (Wishlist.setBlogs
            [{ id := some 1 }, { id := some 2 }] {}))
        [ .built { id := some 1 }, .tapped 0, .tapped 0,
          .called (.addToWishlist { id := some 3 }) ] _ :=
    System.run_iff_exec.mpr ⟨by decide, rfl⟩
  exact (ordered_set_truthful_iff
    (Wishlist.valid_setBlogs _ _) (by decide)
    hRun.any).2.mpr hRun

/-
  Two hearts of one post: the tap of the first leaves the
  second as it was, and two taps on that remove the post.
-/
theorem second_heart_is_stale :
    ∃ s t,
      system.Run System.anyStep (opened {})
          [ .built { id := some 1 }, .built { id := some 1 },
            .tapped 0 ] s ∧
        s.wishlist.ids = [some 1] ∧
        s.hearts[1]? =
          some { blog := { id := some 1 }, isExist := false } ∧
        system.exec s [.tapped 1, .tapped 1] = some t ∧
        t.wishlist.ids = [] ∧
        ¬ Truthful s := by
  refine ⟨_, _, System.run_of_exec rfl, rfl, rfl, rfl, rfl, ?_⟩
  intro hTruthful
  have hShows :=
    (hTruthful.shows _ (List.mem_of_getElem? (i := 1) rfl)).mpr
      (List.mem_singleton_self _)
  cases hShows

end HeartScreen

end NewsCentral
