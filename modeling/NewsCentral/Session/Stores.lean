import NewsCentral.EventLoop.WriteBehind
import NewsCentral.Session.Turns

/-
  When the stores of the session agree with its memory.

  A login writes the preference and then "userInfo"; a
  logout removes "userInfo" and then resets the preference;
  the start-up read sets memory from "userInfo".  Each write
  is a turn of its own, so the writes of two operations can
  interleave against the order of their calls.

  Key definitions include:
    * `NewsCentral.Session.StoresAgree`
    * `NewsCentral.Session.Point.writesAhead`
    * `NewsCentral.Session.storesResume`
    * `NewsCentral.Session.StoresInvariant`

  Key theorems include:
    * `NewsCentral.Session.StoresInvariant.call`
    * `NewsCentral.Session.StoresInvariant.resume`
    * `NewsCentral.Session.storesAgree_of_run`
-/

------------------------------------------------------------
-- Stores And The Writes To Them
------------------------------------------------------------

namespace NewsCentral

open Dart Json EventLoop

namespace Session

/- Where the session leaves that somebody is logged in. -/
inductive Store where
  | preference
  | userInfo

/- What a store says. -/
def stored (s : Session) : Store → Bool
  | .preference => s.checkLogin
  | .userInfo => s.isLogin

/- Memory and the stores say the same. -/
structure StoresAgree (s : Session) : Prop where
  present : s.storage.userInfo.isSome = s.loggedIn
  isLogin : s.isLogin = s.loggedIn
  checkLogin : s.checkLogin = s.loggedIn

/-
  The value a suspended point is still going to write to a
  store, when the storage works.
-/
def Point.writesAhead
    (store : Store)
    (k : Point)
    (value : Bool) : Prop :=
  match store, k with
  | .preference, .savePrefs .. => value = true
  | .userInfo, .savePrefs .. => value = true
  | .userInfo, .saveFlag .. => value = true
  | .userInfo, .saveReady .. => value = true
  | .userInfo, .logoutReady => value = false
  | .preference, .logoutReady => value = false
  | .preference, .logoutUserInfo => value = false
  | .preference, .logoutWishlist => value = false
  | .preference, .logoutPrefs => value = false
  | _, _ => False

instance (store : Store) (k : Point) (value : Bool) :
    Decidable (k.writesAhead store value) := by
  unfold Point.writesAhead
  split <;> infer_instance

/- A write to a store that is in order. -/
def InOrder
    (s : Session)
    (rest : List Point)
    (store : Store)
    (written : Bool) : Prop :=
  MayWrite (Point.writesAhead store) s.loggedIn written rest

instance
    (s : Session)
    (rest : List Point)
    (store : Store)
    (written : Bool) :
    Decidable (InOrder s rest store written) := by
  unfold InOrder
  infer_instance

/- The storage is ready and takes writes. -/
def World.StorageWorks (w : World) : Prop :=
  w.throws = none ∧ w.ready = true

instance (w : World) : Decidable w.StorageWorks := by
  unfold World.StorageWorks
  infer_instance

/-
  Each write to a store is the value in memory, or one that
  is overwritten by it later; a user is read back only while
  the preference is set, or still going to be.
-/
def storesResume
    (s : Session)
    (rest : List Point)
    (k : Point)
    (w : World) : Prop :=
  match k with
  | .savePrefs .. =>
      w.StorageWorks ∧ InOrder s rest .preference true
  | .saveFlag .. => w.StorageWorks
  | .saveReady .. =>
      w.StorageWorks ∧ InOrder s rest .userInfo true
  | .getUserReady =>
      w.StorageWorks ∧
        (s.isLogin = true →
          MayWrite (Point.writesAhead .preference) true
            s.checkLogin rest)
  | .logoutReady =>
      w.StorageWorks ∧ InOrder s rest .userInfo false
  | .logoutUserInfo => w.StorageWorks
  | .logoutWishlist => w.StorageWorks
  | .logoutPrefs =>
      w.StorageWorks ∧ InOrder s rest .preference false
  | _ => True

/- Calls write to no store. -/
def anyCall
    (_ : Session)
    (_ : List Point)
    (_ : Op) : Prop := True

instance
    (s : Session)
    (pending : List Point)
    (op : Op) :
    Decidable (anyCall s pending op) :=
  isTrue trivial

instance
    (s : Session)
    (rest : List Point)
    (k : Point)
    (w : World) :
    Decidable (storesResume s rest k w) := by
  unfold storesResume
  split <;> infer_instance

end Session

end NewsCentral

------------------------------------------------------------
-- The Invariant
------------------------------------------------------------

namespace NewsCentral

open Dart Json EventLoop

namespace Session

/- Each store follows memory. -/
def StoresFollow
    (s : Session)
    (pending : List Point) : Prop :=
  ∀ store,
    Follows (Point.writesAhead store) s.loggedIn
      (s.stored store) pending

/-
  Before the start-up read the stores may hold a session
  that memory does not have yet.
-/
structure StartUp
    (s : Session)
    (pending : List Point) : Prop where
  loggedIn : s.loggedIn = false
  stored : ∀ store, s.stored store = true
  reading : .getUserReady ∈ pending
  noWrites :
    ∀ k ∈ pending, ∀ store value,
      ¬ k.writesAhead store value

/- What is kept of memory and the stores. -/
structure StoresInvariant
    (s : Session)
    (pending : List Point) : Prop where
  userInfo :
    s.storage.userInfo = none ∨
      ∃ fields, s.storage.userInfo = some (.obj fields)
  follows : StoresFollow s pending ∨ StartUp s pending

/-
  A launch finds the stores as an earlier run left them:
  both say yes, with a user record, or both say no.
-/
def CleanLaunch (s : Session) : Prop :=
  s.loggedIn = false ∧
    ((s.checkLogin = false ∧ s.storage.userInfo = none) ∨
      (s.checkLogin = true ∧
        ∃ fields, s.storage.userInfo = some (.obj fields)))

/- A stored record counts as a login. -/
theorem isLogin_of_userInfo
    {s : Session}
    {fields : List (String × Json)}
    (hUserInfo : s.storage.userInfo = some (.obj fields)) :
    s.isLogin = true := by
  simp [isLogin, hUserInfo, isNotNull]

theorem isLogin_of_none
    {s : Session}
    (hUserInfo : s.storage.userInfo = none) :
    s.isLogin = false := by
  simp [isLogin, hUserInfo, isNotNull]

theorem StoresInvariant.launched
    {s : Session}
    (hLaunch : CleanLaunch s) :
    StoresInvariant s (launched s).pending := by
  rcases hLaunch with
    ⟨hLoggedIn, ⟨hFlag, hNone⟩ | ⟨hFlag, fields, hSome⟩⟩
  · refine ⟨.inl hNone, .inl ?_⟩
    intro store
    left
    cases store with
    | preference => exact hFlag.trans hLoggedIn.symm
    | userInfo =>
        exact (isLogin_of_none hNone).trans hLoggedIn.symm
  · refine ⟨.inr ⟨fields, hSome⟩, .inr ?_⟩
    constructor
    · exact hLoggedIn
    · intro store
      cases store with
      | preference => exact hFlag
      | userInfo => exact isLogin_of_userInfo hSome
    · simp [Session.launched]
    · intro k hMem store value
      rw [List.mem_singleton.mp hMem]
      cases store <;> exact id

/- At quiescence the invariant is agreement. -/
theorem StoresInvariant.agree
    {s : Session}
    (hInv : StoresInvariant s []) :
    StoresAgree s := by
  rcases hInv.follows with hFollow | hStart
  · have hLogin := (hFollow .userInfo).quiescent
    have hFlag := (hFollow .preference).quiescent
    refine ⟨?_, hLogin, hFlag⟩
    rw [← hLogin]
    rcases hInv.userInfo with hNone | ⟨fields, hSome⟩
    · simp [stored, isLogin_of_none hNone, hNone]
    · simp [stored, isLogin_of_userInfo hSome, hSome]
  · have hMem := hStart.reading
    simp at hMem

/- The part of a session that the stores speak of. -/
def storesView
    (s : Session) : Bool × Option Json × Option Bool :=
  (s.loggedIn, s.storage.userInfo, s.prefs)

theorem stored_of_view_eq
    {s t : Session}
    (hView : t.storesView = s.storesView)
    (store : Store) :
    t.stored store = s.stored store := by
  simp only [storesView, Prod.mk.injEq] at hView
  cases store with
  | preference => simp [stored, checkLogin, hView]
  | userInfo => simp [stored, isLogin, hView]

/- A point that has a write to a store ahead. -/
def Point.writesStores : Point → Bool
  | .savePrefs .. => true
  | .saveFlag .. => true
  | .saveReady .. => true
  | .logoutReady => true
  | .logoutUserInfo => true
  | .logoutWishlist => true
  | .logoutPrefs => true
  | _ => false

theorem Point.not_writesAhead
    {k : Point}
    (hIdle : k.writesStores = false)
    (store : Store)
    (value : Bool) :
    ¬ k.writesAhead store value := by
  cases k <;> cases store <;>
    simp_all [Point.writesStores, Point.writesAhead]

/-
  A turn that leaves memory and stores alone, and neither
  had nor leaves a write ahead, keeps the invariant.
-/
theorem StoresInvariant.idle
    {s t : Session}
    {earlier later next : List Point}
    {k : Point}
    (hInv : StoresInvariant s (earlier ++ k :: later))
    (hView : t.storesView = s.storesView)
    (hReading : k ≠ .getUserReady)
    (hIdle : k.writesStores = false)
    (hNext : ∀ j ∈ next, j.writesStores = false) :
    StoresInvariant t (earlier ++ later ++ next) := by
  have hStored := stored_of_view_eq hView
  simp only [storesView, Prod.mk.injEq] at hView
  rcases hView with ⟨hLoggedIn, hUserInfo, _⟩
  constructor
  · rw [hUserInfo]
    exact hInv.userInfo
  · rcases hInv.follows with hFollow | hStart
    · left
      intro store
      rw [hLoggedIn, hStored]
      exact (hFollow store).keep
        fun value hAhead =>
          absurd hAhead
            (Point.not_writesAhead hIdle store value)
    · right
      constructor
      · exact hLoggedIn.trans hStart.loggedIn
      · intro store
        exact (hStored store).trans (hStart.stored store)
      · have hMem := hStart.reading
        rw [List.mem_append, List.mem_cons] at hMem
        rcases hMem with hLeft | hHere | hRight
        · simp [hLeft]
        · exact absurd hHere.symm hReading
        · simp [hRight]
      · intro j hMem
        rcases List.mem_append.mp hMem with hOld | hNew
        · exact hStart.noWrites j (mem_of_mem_rest hOld)
        · exact Point.not_writesAhead (hNext j hNew)

/- While a write is ahead, the start-up state is over. -/
theorem StoresInvariant.follow_of_ahead
    {s : Session}
    {pending : List Point}
    {k : Point}
    {store : Store}
    {value : Bool}
    (hInv : StoresInvariant s pending)
    (hMem : k ∈ pending)
    (hAhead : k.writesAhead store value) :
    StoresFollow s pending := by
  rcases hInv.follows with hFollow | hStart
  · exact hFollow
  · exact absurd hAhead (hStart.noWrites k hMem store value)

end Session

end NewsCentral

------------------------------------------------------------
-- Steps Keep The Invariant
------------------------------------------------------------

namespace NewsCentral

open Dart Json EventLoop

namespace Session

/- Callbacks do not touch the view. -/
theorem storesView_withCallbacks
    (s : Session)
    (loading : Bool)
    (callbacks : List Callback) :
    (s.withCallbacks loading callbacks).storesView =
      s.storesView := rfl

/- Points that neither write a store nor set memory. -/
def Point.leavesStores (k : Point) : Bool :=
  !k.writesStores &&
    match k with
    | .service .. => false
    | .getUserReady => false
    | _ => true

/- Such a turn leaves no write to a store behind. -/
theorem resume_leavesStores
    (wp : WordPress)
    {k : Point}
    (hLeaves : k.leavesStores = true)
    (w : World)
    (s : Session) :
    (resume wp k w s).1.storesView = s.storesView ∧
      ∀ j ∈ (resume wp k w s).2, j.writesStores = false := by
  cases k with
  | service | savePrefs | saveFlag | saveReady | getUserReady
  | logoutReady | logoutUserInfo | logoutWishlist
  | logoutPrefs =>
      simp [Point.leavesStores, Point.writesStores] at hLeaves
  | saved login user =>
      refine
        ⟨view_succeedLogin storesView
          storesView_withCallbacks login user w s, ?_⟩
      rcases succeedLogin_points login user w s with
        hNone | ⟨username, password, own, hOne⟩
      · simp [resume, hNone]
      · simp [resume, hOne, Point.writesStores]
  | blogReady caller file data =>
      simp only [resume]
      generalize
        (if (w.throws.isNone && w.ready) = true then
          s.storage.jwtToken else some "") = token
      cases token <;> cases file <;>
        simp [uploadBlogImage, storesView,
          Point.writesStores]
  | _ =>
      simp only [resume]
      repeat' split
      all_goals
        simp [
          view_failLogin storesView storesView_withCallbacks,
          view_facebookRefused storesView
            storesView_withCallbacks,
          Point.writesStores]
      all_goals rfl

/- A call that leaves the view and no write behind. -/
theorem StoresInvariant.call_idle
    {s t : Session}
    {pending next : List Point}
    (hInv : StoresInvariant s pending)
    (hView : t.storesView = s.storesView)
    (hNext : ∀ j ∈ next, j.writesStores = false) :
    StoresInvariant t (pending ++ next) := by
  have hStored := stored_of_view_eq hView
  simp only [storesView, Prod.mk.injEq] at hView
  rcases hView with ⟨hLoggedIn, hUserInfo, _⟩
  refine ⟨by rw [hUserInfo]; exact hInv.userInfo, ?_⟩
  rcases hInv.follows with hFollow | hStart
  · left
    intro store
    rw [hLoggedIn, hStored]
    exact (hFollow store).call
  · right
    constructor
    · exact hLoggedIn.trans hStart.loggedIn
    · intro store
      exact (hStored store).trans (hStart.stored store)
    · exact List.mem_append_left _ hStart.reading
    · intro j hMem
      rcases List.mem_append.mp hMem with hOld | hNew
      · exact hStart.noWrites j hOld
      · exact Point.not_writesAhead (hNext j hNew)

/- A logout announces both of its writes. -/
theorem StoresInvariant.call
    {s t : Session}
    {pending next : List Point}
    {op : Op}
    (hInv : StoresInvariant s pending)
    (hCall : Session.call op s = some (t, next)) :
    StoresInvariant t (pending ++ next) := by
  cases op with
  | attempt login =>
      cases login <;> cases hCall <;>
        exact hInv.call_idle rfl (by simp [Point.writesStores])
  | getUser =>
      cases hCall
      exact hInv.call_idle rfl (by simp [Point.writesStores])
  | createBlog =>
      cases hCall
      exact hInv.call_idle rfl (by simp [Point.writesStores])
  | logout =>
      cases hCall
      refine ⟨hInv.userInfo, .inl ?_⟩
      intro store
      apply Follows.announce
      exact ⟨.logoutReady, by simp, by cases store <;> rfl⟩

/- The start-up read sets memory as the stores have it. -/
theorem StoresInvariant.load
    {s : Session}
    {earlier later : List Point}
    (hInv :
      StoresInvariant s (earlier ++ .getUserReady :: later))
    (hFlag :
      s.isLogin = true →
        MayWrite (Point.writesAhead .preference) true
          s.checkLogin (earlier ++ later)) :
    StoresInvariant (loadUser s) (earlier ++ later ++ []) := by
  rcases hInv.userInfo with hNone | ⟨fields, hSome⟩
  · have hSame : loadUser s = s := by
      simp [loadUser, hNone]
    rw [hSame]
    refine ⟨hInv.userInfo, .inl ?_⟩
    rcases hInv.follows with hFollow | hStart
    · intro store
      exact (hFollow store).keep fun value hAhead =>
        absurd hAhead (Point.not_writesAhead rfl store value)
    · have hStored := hStart.stored .userInfo
      simp [stored, isLogin_of_none hNone] at hStored
  · have hLogin := isLogin_of_userInfo hSome
    simp only [loadUser, hSome]
    refine ⟨.inr ⟨fields, hSome⟩, .inl ?_⟩
    intro store
    cases store with
    | preference => exact Follows.write (hFlag hLogin)
    | userInfo => exact .inl hLogin

/-
  A turn with a write ahead leaves memory alone; each store
  is either written in order, or left alone with the writes
  to it handed on.
-/
theorem StoresInvariant.pass
    {s t : Session}
    {earlier later next : List Point}
    {k : Point}
    (hInv : StoresInvariant s (earlier ++ k :: later))
    (hAhead : ∃ store value, k.writesAhead store value)
    (hLoggedIn : t.loggedIn = s.loggedIn)
    (hUserInfo :
      t.storage.userInfo = none ∨
        ∃ fields, t.storage.userInfo = some (.obj fields))
    (hStores :
      ∀ store,
        MayWrite (Point.writesAhead store) s.loggedIn
            (t.stored store) (earlier ++ later) ∨
          (t.stored store = s.stored store ∧
            ∀ value, k.writesAhead store value →
              ∃ j ∈ next, j.writesAhead store value)) :
    StoresInvariant t (earlier ++ later ++ next) := by
  rcases hAhead with ⟨written, value, hWrites⟩
  have hFollow := hInv.follow_of_ahead (by simp) hWrites
  refine ⟨hUserInfo, .inl ?_⟩
  intro store
  rw [hLoggedIn]
  rcases hStores store with hWrite | ⟨hSame, hNext⟩
  · exact Follows.write hWrite
  · rw [hSame]
    exact (hFollow store).keep hNext

/- Every turn that meets the condition keeps the invariant. -/
theorem StoresInvariant.resume
    {wp : WordPress}
    {s : Session}
    {earlier later : List Point}
    {k : Point}
    {w : World}
    (hInv : StoresInvariant s (earlier ++ k :: later))
    (hOk : storesResume s (earlier ++ later) k w) :
    StoresInvariant (Session.resume wp k w s).1
      (earlier ++ later ++ (Session.resume wp k w s).2) := by
  by_cases hLeaves : k.leavesStores = true
  · rcases resume_leavesStores wp hLeaves w s with
      ⟨hView, hNext⟩
    simp only [Point.leavesStores, Bool.and_eq_true,
      Bool.not_eq_true'] at hLeaves
    refine hInv.idle hView ?_ hLeaves.1 hNext
    intro hRead
    rw [hRead] at hLeaves
    simp at hLeaves
  cases k with
  | service login token =>
      simp only [Session.resume]
      cases login.callService wp w.http token with
      | error e =>
          exact hInv.idle
            (view_failLogin storesView
              storesView_withCallbacks login e w s)
            (by simp) rfl (by simp)
      | ok user =>
          refine ⟨hInv.userInfo, .inl ?_⟩
          intro store
          apply Follows.announce
          refine ⟨.savePrefs login user, by simp, ?_⟩
          cases store <;> rfl
  | savePrefs login user =>
      rcases hOk with ⟨⟨hThrows, _⟩, hWrite⟩
      simp only [Session.resume, orElseSaved, hThrows,
        Option.isSome_none, Bool.false_eq_true, if_false]
      refine hInv.pass ⟨.preference, true, rfl⟩ rfl
        hInv.userInfo ?_
      intro store
      cases store with
      | preference => exact .inl hWrite
      | userInfo =>
          exact .inr ⟨rfl, fun _ hAhead =>
            ⟨.saveFlag login user, by simp, hAhead⟩⟩
  | saveFlag login user =>
      rcases hOk with ⟨hThrows, _⟩
      simp only [Session.resume, orElseSaved, hThrows,
        Option.isSome_none, Bool.false_eq_true, if_false]
      refine hInv.pass ⟨.userInfo, true, rfl⟩ rfl
        hInv.userInfo ?_
      intro store
      right
      cases store with
      | preference => exact ⟨rfl, fun _ => False.elim⟩
      | userInfo =>
          exact ⟨rfl, fun _ hAhead =>
            ⟨.saveReady login user, by simp, hAhead⟩⟩
  | saveReady login user =>
      rcases hOk with ⟨⟨hThrows, hReady⟩, hWrite⟩
      simp only [Session.resume, orElseSaved, hThrows, hReady,
        Option.isSome_none, Bool.false_eq_true, if_false,
        if_true]
      refine hInv.pass ⟨.userInfo, true, rfl⟩ rfl
        (.inr ⟨_, rfl⟩) ?_
      intro store
      cases store with
      | preference => exact .inr ⟨rfl, fun _ => False.elim⟩
      | userInfo => exact .inl hWrite
  | getUserReady =>
      rcases hOk with ⟨⟨hThrows, hReady⟩, hFlag⟩
      simp only [Session.resume, hThrows, hReady,
        Option.isNone_none, Bool.and_self, if_true]
      exact hInv.load hFlag
  | logoutReady =>
      rcases hOk with ⟨⟨hThrows, hReady⟩, hWrite⟩
      simp only [Session.resume, hThrows, hReady,
        Option.isNone_none, Bool.and_self, if_true]
      refine hInv.pass ⟨.userInfo, false, rfl⟩ rfl
        (.inl rfl) ?_
      intro store
      cases store with
      | preference =>
          exact .inr ⟨rfl, fun _ hAhead =>
            ⟨.logoutUserInfo, by simp, hAhead⟩⟩
      | userInfo => exact .inl hWrite
  | logoutUserInfo =>
      rcases hOk with ⟨hThrows, _⟩
      simp only [Session.resume, hThrows,
        Option.isNone_none, if_true]
      refine hInv.pass ⟨.preference, false, rfl⟩ rfl
        hInv.userInfo ?_
      intro store
      right
      cases store with
      | preference =>
          exact ⟨rfl, fun _ hAhead =>
            ⟨.logoutWishlist, by simp, hAhead⟩⟩
      | userInfo => exact ⟨rfl, fun _ => False.elim⟩
  | logoutWishlist =>
      rcases hOk with ⟨hThrows, _⟩
      simp only [Session.resume, hThrows,
        Option.isNone_none, if_true]
      refine hInv.pass ⟨.preference, false, rfl⟩ rfl
        hInv.userInfo ?_
      intro store
      right
      cases store with
      | preference =>
          exact ⟨rfl, fun _ hAhead =>
            ⟨.logoutPrefs, by simp, hAhead⟩⟩
      | userInfo => exact ⟨rfl, fun _ => False.elim⟩
  | logoutPrefs =>
      rcases hOk with ⟨⟨hThrows, _⟩, hWrite⟩
      simp only [Session.resume, hThrows,
        Option.isNone_none, if_true]
      refine hInv.pass ⟨.preference, false, rfl⟩ rfl
        hInv.userInfo ?_
      intro store
      cases store with
      | preference => exact .inl hWrite
      | userInfo => exact .inr ⟨rfl, fun _ => False.elim⟩
  | _ => exact absurd rfl hLeaves

/-
  From a clean launch, whenever nothing is suspended after
  a run whose writes were in order, memory and both stores
  agree.
-/
theorem storesAgree_of_run
    {wp : WordPress}
    {s : Session}
    {es : List (Event Op World)}
    {p : Pool Session Point}
    (hLaunch : CleanLaunch s)
    (hRun :
      (program wp).system.Run
        (Program.when anyCall storesResume)
        (launched s) es p)
    (hQuiescent : p.Quiescent) :
    StoresAgree p.shared := by
  have hInv : StoresInvariant p.shared p.pending := by
    refine Program.run_invariant
      (I := fun _ s pending => StoresInvariant s pending)
      hRun (StoresInvariant.launched hLaunch) ?_ ?_
    · intro _ s pending op t next hInv _ hCall
      exact hInv.call hCall
    · intro _ s earlier k later w hInv hOk _
      exact hInv.resume hOk
  have hNone : p.pending = [] := hQuiescent
  rw [hNone] at hInv
  exact hInv.agree

/- A phone login's answer. -/
def phoneWorld : World where
  http := fun _ => .ok
    { statusCode := 200
      decoded := some (.obj
        [ ("wp_user_id", .int 7),
          ("cookie", .str "cookie") ]) }

def phoneLogin : Op :=
  .attempt (.loginFirebaseSMS (some "+2348000000000"))

/- A login and then a logout, each run to its end. -/
theorem storesAgree_in_turn :
    ∃ p : Pool Session Point,
      (program newsService).system.Run
        (Program.when anyCall storesResume)
        (launched {})
        (turns 1 ({} : World) ++
          .call phoneLogin :: turns 6 phoneWorld ++
          .call .logout :: turns 5 ({} : World))
        p ∧
      StoresAgree p.shared := by
  have hRun :
      (program newsService).system.Run
        (Program.when anyCall storesResume)
        (launched {})
        (turns 1 ({} : World) ++
          .call phoneLogin :: turns 6 phoneWorld ++
          .call .logout :: turns 5 ({} : World)) _ :=
    System.run_iff_exec.mpr ⟨by decide, rfl⟩
  exact ⟨_, hRun,
    storesAgree_of_run ⟨rfl, .inl ⟨rfl, rfl⟩⟩ hRun rfl⟩

/-
  A logout overtakes the save of a login: the user record is
  written after it was removed, and nobody is logged in.
-/
theorem logout_overtakes_save :
    ∃ p : Pool Session Point,
      (program newsService).system.Run System.anyStep
        (launched {})
        (turns 1 ({} : World) ++
          .call phoneLogin :: turns 2 phoneWorld ++
          .call .logout ::
          List.replicate 5 (.resume 1 ({} : World)) ++
          turns 4 phoneWorld)
        p ∧
      p.Quiescent ∧
      p.shared.loggedIn = false ∧
      p.shared.checkLogin = false ∧
      p.shared.isLogin = true ∧
      ¬ StoresAgree p.shared := by
  refine ⟨_, System.run_of_exec rfl, rfl, rfl, rfl, rfl, ?_⟩
  intro hAgree
  exact absurd hAgree.isLogin (by decide)

end Session

end NewsCentral
