import NewsCentral.EventLoop.Program
import NewsCentral.Categories.Reach
import NewsCentral.Lists.Written

/-
  The model of the categories, `lib/models/category.dart`,
  and when it shows the load issued last.

  Loads overlap: every answer overwrites the list, adds to
  the map and, if it is a failure, sets a text that nothing
  clears.  So at rest the model shows the last load exactly
  if the answers of the run meet a condition on their order.

  Key definitions include:
    * `NewsCentral.CategoryModel`
    * `NewsCentral.CategoryModel.program`
    * `NewsCentral.CategoryModel.ShowsLatest`
    * `NewsCentral.CategoryModel.AnswersInOrder`

  Key theorems include:
    * `NewsCentral.CategoryModel.Reflects.resume`
    * `NewsCentral.CategoryModel.showsLatestLists_iff`
-/

------------------------------------------------------------
-- The Model
------------------------------------------------------------

namespace NewsCentral

open Dart EventLoop

/- What a load brings. -/
abbrev Load := Except Thrown (List Category)

/-
  The model.  The last fields are a history: how many loads
  were issued, what came of the last one, the loads that
  were answered, in this order, and, of the moment when the
  last load was issued, the number of these and what the
  model showed.
-/
structure CategoryModel where
  categories : Option (List Category) := none
  categoryList : List (Option Int × Category) := []
  isLoading : Bool := true
  message : Option String := none
  issued : Nat := 0
  latest : Option Load := none
  answered : List Load := []
  answeredBefore : Nat := 0
  categoriesBefore : Option (List Category) := none
  categoryListBefore : List (Option Int × Category) := []

namespace CategoryModel

/- Start-up, the home screen, the filters or a language. -/
inductive Op where
  | getCategories (lang : Option String)
deriving DecidableEq

/- A load, by its number, waits for its answer. -/
inductive Point where
  | getCategories (number : Nat)
deriving DecidableEq

/- `getCategories`, up to its request. -/
def call
    (op : Op)
    (s : CategoryModel) :
    Option (CategoryModel × List Point) :=
  match op with
  | .getCategories _ =>
      some
        ({ s with
            issued := s.issued + 1
            latest := none
            answeredBefore := s.answered.length
            categoriesBefore := s.categories
            categoryListBefore := s.categoryList },
          [.getCategories (s.issued + 1)])

/- Note an answer in the history. -/
def record
    (number : Nat)
    (load : Load)
    (s : CategoryModel) : CategoryModel :=
  { s with
    answered := s.answered ++ [load]
    latest := if number = s.issued then some load else s.latest }

/- What `getCategories` does with its answer. -/
def got
    (load : Load)
    (s : CategoryModel) : CategoryModel :=
  match load with
  | .ok categories =>
      { s with
        categories := some categories
        isLoading := false
        categoryList :=
          Written.putAll Category.id s.categoryList
            categories }
  | .error err =>
      { s with
        isLoading := false
        message := some err.toText }

/- An answer is what the request gives, or how it fails. -/
def resume
    (point : Point)
    (answer : Except Thrown Json)
    (s : CategoryModel) : CategoryModel × List Point :=
  match point with
  | .getCategories number =>
      let load := answer >>= WordPress.decodeCategories
      ((s.got load).record number load, [])

/- The model on the event loop. -/
def program :
    Program CategoryModel Op Point (Except Thrown Json) where
  call := call
  resume := resume
  queued := fun _ => false

/- The model before its first load. -/
def created : Pool CategoryModel Point :=
  ⟨{}, []⟩

end CategoryModel

/- What the panel of filters shows. -/
inductive BackdropMenu where
  | loading
  | message (text : String)
  | filters (categories : List Category)
  | nothing
deriving DecidableEq

/- `_BackdropMenuState.build` -/
def BackdropMenu.build (value : CategoryModel) : BackdropMenu :=
  if value.isLoading then
    .loading
  else
    match value.message, value.categories with
    | some text, _ => .message text
    | none, some categories => .filters (roots categories)
    | none, none => .nothing

end NewsCentral

------------------------------------------------------------
-- The Property And Its Condition
------------------------------------------------------------

namespace NewsCentral

open Dart EventLoop

namespace CategoryModel

/-
  The outcome of the load issued last is shown: its list,
  the elements of that by their ids and no text, or what was
  there before it.
-/
def ShowsLatest (s : CategoryModel) : Prop :=
  match s.latest with
  | none => s.issued = 0
  | some (.ok list) =>
      s.categories = some list ∧
        (∀ id,
          s.categoryList.lookup id =
            Written.lastWith Category.id id list) ∧
        s.message = none
  | some (.error _) =>
      s.categories = s.categoriesBefore ∧
        ∀ id,
          s.categoryList.lookup id =
            s.categoryListBefore.lookup id

/- The lists among some answers. -/
def lists (loads : List Load) : List (List Category) :=
  loads.filterMap Except.toOption

/- The lists answered before the last load was issued. -/
def listsBefore (s : CategoryModel) : List (List Category) :=
  lists (s.answered.take s.answeredBefore)

/- The lists answered since. -/
def listsSince (s : CategoryModel) : List (List Category) :=
  lists (s.answered.drop s.answeredBefore)

/-
  After a success: no load has failed, the last answer is
  the list of the last load, and no answer had an id that
  this has not.  After a failure: no list has come since the
  load was issued, or those that have bring back, taken
  together, what had come before.
-/
def AnswersInOrder (s : CategoryModel) : Prop :=
  match s.latest with
  | none => True
  | some (.ok list) =>
      (∀ load ∈ s.answered, load.toBool) ∧
        (lists s.answered).getLast? = some list ∧
        ∀ c ∈ (lists s.answered).flatten,
          ∃ d ∈ list, d.id = c.id
  | some (.error _) =>
      s.listsSince = [] ∨
        (s.listsSince.getLast? = s.listsBefore.getLast? ∧
          ∀ id c,
            Written.lastWith Category.id id
                s.listsSince.flatten = some c →
              Written.lastWith Category.id id
                s.listsBefore.flatten = some c)

end CategoryModel

end NewsCentral

------------------------------------------------------------
-- What The Model Reflects
------------------------------------------------------------

namespace NewsCentral

open Dart EventLoop

namespace CategoryModel

/- A list and a map are what some answers leave. -/
structure Left
    (categories : Option (List Category))
    (categoryList : List (Option Int × Category))
    (loads : List Load) : Prop where
  categories : categories = (lists loads).getLast?
  categoryList :
    ∀ id,
      categoryList.lookup id =
        Written.lastWith Category.id id (lists loads).flatten

/- The fields are what the answers so far leave. -/
structure Reflects
    (s : CategoryModel)
    (pending : List Point) : Prop where
  now : Left s.categories s.categoryList s.answered
  before :
    Left s.categoriesBefore s.categoryListBefore
      (s.answered.take s.answeredBefore)
  bound : s.answeredBefore ≤ s.answered.length
  message :
    s.message = none ↔ ∀ load ∈ s.answered, load.toBool
  newest :
    s.latest = none →
      s.issued = 0 ∨ .getCategories s.issued ∈ pending
  loaded : s.latest ≠ none → s.isLoading = false

variable {s : CategoryModel} {pending : List Point}

theorem lists_append
    (loads others : List Load) :
    lists (loads ++ others) = lists loads ++ lists others :=
  List.filterMap_append

/- A further list is the last, and written over the others. -/
theorem Left.ok
    {categories : Option (List Category)}
    {categoryList : List (Option Int × Category)}
    {loads : List Load}
    (hLeft : Left categories categoryList loads)
    (list : List Category) :
    Left (some list)
      (Written.putAll Category.id categoryList list)
      (loads ++ [.ok list]) := by
  have hLists : lists (loads ++ [.ok list]) =
      lists loads ++ [list] := by
    rw [lists_append]
    rfl
  constructor
  · rw [hLists, List.getLast?_concat]
  · intro id
    rw [hLists, List.flatten_append, List.flatten_singleton,
      Written.lastWith_append, Written.lookup_putAll,
      hLeft.categoryList]

/- A failure leaves both as they are. -/
theorem Left.error
    {categories : Option (List Category)}
    {categoryList : List (Option Int × Category)}
    {loads : List Load}
    (hLeft : Left categories categoryList loads)
    (err : Thrown) :
    Left categories categoryList (loads ++ [.error err]) := by
  have hLists :
      lists (loads ++ [.error err]) = lists loads := by
    rw [lists_append]
    exact List.append_nil _
  constructor
  · rw [hLists, hLeft.categories]
  · rw [hLists]
    exact hLeft.categoryList

theorem reflects_created :
    Reflects created.shared created.pending where
  now := ⟨rfl, fun _ => rfl⟩
  before := ⟨rfl, fun _ => rfl⟩
  bound := Nat.le_refl 0
  message := by simp [created]
  newest := fun _ => .inl rfl
  loaded := fun hSome => absurd rfl hSome

/- A load that is issued notes what is shown. -/
theorem Reflects.call
    {t : CategoryModel}
    {next : List Point}
    {op : Op}
    (hInv : Reflects s pending)
    (hCall : CategoryModel.call op s = some (t, next)) :
    Reflects t (pending ++ next) := by
  cases op with
  | getCategories lang =>
      cases hCall
      constructor
      · exact hInv.now
      · simp only [List.take_length]
        exact hInv.now
      · exact Nat.le_refl _
      · exact hInv.message
      · exact fun _ => .inr (by simp)
      · exact fun hSome => absurd rfl hSome

/- What an answer leaves of the list and the map. -/
theorem left_got
    (hLeft : Left s.categories s.categoryList s.answered)
    (load : Load) :
    Left (s.got load).categories (s.got load).categoryList
      (s.answered ++ [load]) := by
  cases load with
  | error err => exact hLeft.error err
  | ok list =>
      rw [got]
      exact hLeft.ok list

/- The text stays once a load has failed. -/
theorem message_got
    (hMessage :
      s.message = none ↔ ∀ load ∈ s.answered, load.toBool)
    (load : Load) :
    (s.got load).message = none ↔
      ∀ other ∈ s.answered ++ [load], other.toBool := by
  cases load with
  | error err => simp [got, Except.toBool]
  | ok list =>
      simp only [got, hMessage, List.mem_append,
        List.mem_singleton]
      constructor
      · rintro hAll other (hOld | rfl)
        · exact hAll other hOld
        · rfl
      · intro hAll other hOld
        exact hAll other (.inl hOld)

/- An answer leaves the rest of the model alone. -/
theorem got_history
    (load : Load)
    (s : CategoryModel) :
    (s.got load).issued = s.issued ∧
      (s.got load).latest = s.latest ∧
      (s.got load).answered = s.answered ∧
      (s.got load).answeredBefore = s.answeredBefore ∧
      (s.got load).categoriesBefore = s.categoriesBefore ∧
      (s.got load).categoryListBefore =
        s.categoryListBefore := by
  cases load <;> exact ⟨rfl, rfl, rfl, rfl, rfl, rfl⟩

/- Any answer to any load keeps the invariant. -/
theorem Reflects.resume
    {earlier later : List Point}
    {point : Point}
    {answer : Except Thrown Json}
    (hInv : Reflects s (earlier ++ point :: later)) :
    Reflects (CategoryModel.resume point answer s).1
      (earlier ++ later ++
        (CategoryModel.resume point answer s).2) := by
  cases point with
  | getCategories number =>
      simp only [CategoryModel.resume, List.append_nil]
      generalize answer >>= WordPress.decodeCategories = load
      rcases got_history load s with
        ⟨hIssued, hLatest, hAnswered, hBefore, hCategories,
          hList⟩
      constructor
      · simp only [record, hAnswered]
        exact left_got hInv.now load
      · simp only [record, hAnswered, hBefore, hCategories,
          hList]
        rw [List.take_append_of_le_length hInv.bound]
        exact hInv.before
      · simp only [record, hAnswered, hBefore,
          List.length_append]
        exact Nat.le_add_right_of_le hInv.bound
      · simp only [record, hAnswered]
        exact message_got hInv.message load
      · simp only [record, hIssued, hLatest]
        intro hNone
        by_cases hLast : number = s.issued
        · rw [if_pos hLast] at hNone
          cases hNone
        · rw [if_neg hLast] at hNone
          rcases hInv.newest hNone with hZero | hMem
          · exact .inl hZero
          · right
            rw [List.mem_append, List.mem_cons] at hMem
            rcases hMem with hLeft | hHere | hRight
            · exact List.mem_append_left _ hLeft
            · cases hHere
              exact absurd rfl hLast
            · exact List.mem_append_right _ hRight
      · intro _
        cases load <;> rfl

/- The model reflects its answers throughout a run. -/
theorem reflects_of_run
    {p : Pool CategoryModel Point}
    {es : List (Event Op (Except Thrown Json))}
    (hRun : program.system.Run System.anyStep created es p) :
    Reflects p.shared p.pending := by
  refine Program.run_invariant
    (I := fun _ s pending => Reflects s pending)
    (Program.run_when_true hRun) reflects_created ?_ ?_
  · intro _ s pending op t next hInv _ hCall
    change CategoryModel.call op s = _ at hCall
    exact hInv.call hCall
  · intro _ s earlier point later answer hInv _ _
    exact hInv.resume

end CategoryModel

end NewsCentral

------------------------------------------------------------
-- When The Last Load Is Shown
------------------------------------------------------------

namespace NewsCentral

open Dart EventLoop

namespace CategoryModel

variable {s : CategoryModel} {pending : List Point}

/- The map is that of a list if this covers the others. -/
theorem lookup_eq_iff
    {list : List Category}
    (hNow : Left s.categories s.categoryList s.answered)
    (hLast : (lists s.answered).getLast? = some list) :
    (∀ id,
      s.categoryList.lookup id =
        Written.lastWith Category.id id list) ↔
      ∀ c ∈ (lists s.answered).flatten,
        ∃ d ∈ list, d.id = c.id := by
  rcases List.getLast?_eq_some_iff.mp hLast with
    ⟨front, hSplit⟩
  simp only [hNow.categoryList, hSplit, List.flatten_append,
    List.flatten_singleton]
  rw [Written.or_lastWith_eq_iff]
  constructor
  · intro hFront c hMem
    rcases List.mem_append.mp hMem with hOld | hNew
    · exact hFront c hOld
    · exact ⟨c, hNew, rfl⟩
  · intro hAll c hMem
    exact hAll c (List.mem_append_left _ hMem)

/- The answers are those before the last load and since. -/
theorem lists_split :
    lists s.answered = s.listsBefore ++ s.listsSince := by
  unfold listsBefore listsSince
  rw [← lists_append, List.take_append_drop]

theorem categories_eq_iff
    (hInv : Reflects s pending) :
    s.categories = s.categoriesBefore ↔
      s.listsSince = [] ∨
        s.listsSince.getLast? = s.listsBefore.getLast? := by
  rw [hInv.now.categories, hInv.before.categories, lists_split,
    List.getLast?_append]
  change _ = s.listsBefore.getLast? ↔ _
  rcases List.eq_nil_or_concat s.listsSince with
    hNone | ⟨front, list, hSome⟩
  · simp [hNone]
  · simp [hSome]

theorem categoryList_eq_iff
    (hInv : Reflects s pending) :
    (∀ id,
      s.categoryList.lookup id =
        s.categoryListBefore.lookup id) ↔
      ∀ id c,
        Written.lastWith Category.id id
            s.listsSince.flatten = some c →
          Written.lastWith Category.id id
            s.listsBefore.flatten = some c := by
  apply forall_congr'
  intro id
  rw [hInv.now.categoryList, hInv.before.categoryList,
    lists_split, List.flatten_append, Written.lastWith_append]
  change _ =
    Written.lastWith Category.id id s.listsBefore.flatten ↔ _
  cases Written.lastWith Category.id id
      s.listsSince.flatten with
  | none => simp
  | some c => simp [eq_comm]

/-
  At rest after any run, the model shows the last load
  exactly if the answers came in order.
-/
theorem showsLatestLists_iff
    {p : Pool CategoryModel Point}
    {es : List (Event Op (Except Thrown Json))}
    (hRun : program.system.Run System.anyStep created es p)
    (hRest : p.Quiescent) :
    p.shared.ShowsLatest ↔ p.shared.AnswersInOrder := by
  have hInv := reflects_of_run hRun
  unfold ShowsLatest AnswersInOrder
  cases hLatest : p.shared.latest with
  | none =>
      rcases hInv.newest hLatest with hZero | hMem
      · simp [hZero]
      · rw [hRest] at hMem
        exact absurd hMem List.not_mem_nil
  | some load =>
      cases load with
      | ok list =>
          dsimp only
          rw [hInv.message, hInv.now.categories]
          constructor
          · rintro ⟨hLast, hMap, hAll⟩
            have hIds :=
              (lookup_eq_iff hInv.now hLast).mp hMap
            exact ⟨hAll, hLast, hIds⟩
          · rintro ⟨hAll, hLast, hIds⟩
            have hMap :=
              (lookup_eq_iff hInv.now hLast).mpr hIds
            exact ⟨hLast, hMap, hAll⟩
      | error err =>
          dsimp only
          rw [categories_eq_iff hInv, categoryList_eq_iff hInv]
          constructor
          · rintro ⟨hNone | hLast, hMap⟩
            · exact .inl hNone
            · exact .inr ⟨hLast, hMap⟩
          · rintro (hNone | hBoth)
            · refine ⟨.inl hNone, ?_⟩
              rw [hNone]
              intro id c hSome
              cases hSome
            · exact ⟨.inr hBoth.1, hBoth.2⟩

/- After a success the panel shows the filters again. -/
theorem build_of_showsLatest
    {list : List Category}
    (hInv : Reflects s pending)
    (hShows : s.ShowsLatest)
    (hLatest : s.latest = some (.ok list)) :
    BackdropMenu.build s = .filters (roots list) := by
  have hLoaded := hInv.loaded (by simp [hLatest])
  unfold ShowsLatest at hShows
  rw [hLatest] at hShows
  rcases hShows with ⟨hCategories, _, hMessage⟩
  simp [BackdropMenu.build, hLoaded, hMessage, hCategories]

/- An answer with one category, and a failure. -/
def sport : Except Thrown Json :=
  .ok (.arr [exampleItem 6 "sport" 3 0])

def offline : Except Thrown Json :=
  .error (.error "SocketException" "")

/- Two loads that are answered in turn. -/
theorem showsLatestLists_in_turn :
    ∃ p,
      program.system.Run System.anyStep created
          [ .call (.getCategories (some "en")),
            .resume 0 sport,
            .call (.getCategories none),
            .resume 0 sport ] p ∧
        p.shared.ShowsLatest := by
  have hRun :
      program.system.Run System.anyStep created
        [ .call (.getCategories (some "en")),
          .resume 0 sport,
          .call (.getCategories none),
          .resume 0 sport ] _ :=
    System.run_of_exec rfl
  refine ⟨_, hRun, (showsLatestLists_iff hRun rfl).mpr ?_⟩
  refine ⟨?_, rfl, ?_⟩
  · decide +kernel
  · intro c hMem
    rcases List.mem_flatten.mp hMem with ⟨list, hList, hIn⟩
    rw [List.eq_of_mem_replicate (n := 2) hList] at hIn
    exact ⟨c, hIn, rfl⟩

/- After a failure the next list comes with the old text. -/
theorem failure_hides_next_load :
    ∃ p,
      program.system.Run System.anyStep created
          [ .call (.getCategories (some "en")),
            .resume 0 offline,
            .call (.getCategories none),
            .resume 0 sport ] p ∧
        p.Quiescent ∧
        p.shared.latest =
          some
            (.ok
              [ Category.ofItem
                (exampleItem 6 "sport" 3 0) ]) ∧
        BackdropMenu.build p.shared =
          .message "SocketException: " ∧
        ¬ p.shared.ShowsLatest := by
  refine ⟨_, System.run_of_exec rfl, rfl, by decide +kernel,
    by decide +kernel, ?_⟩
  rintro ⟨_, _, hMessage⟩
  cases hMessage

end CategoryModel

end NewsCentral
