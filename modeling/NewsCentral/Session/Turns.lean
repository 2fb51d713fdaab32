import NewsCentral.Session.Program

/-
  What one turn of the session program can do, said once.

  Callbacks touch only the loading flag and the callback
  history; every point leaves at most one point behind, and
  that one is nearer to the end of its operation.

  Key theorems include:
    * `NewsCentral.Session.failLogin_frame`
    * `NewsCentral.Session.succeedLogin_frame`
    * `NewsCentral.Session.view_failLogin`
    * `NewsCentral.Session.resume_rank`
    * `NewsCentral.Session.resume_callbacks`
-/

------------------------------------------------------------
-- Frames Of The Callbacks
------------------------------------------------------------

namespace NewsCentral

open Dart EventLoop

namespace Session

/- The state with other callback bookkeeping. -/
def withCallbacks
    (s : Session)
    (loading : Bool)
    (callbacks : List Callback) : Session :=
  { s with loading := loading, callbacks := callbacks }

/- A failed login calls the callback and nothing else. -/
theorem failLogin_frame
    (login : Login)
    (e : Thrown)
    (w : World)
    (s : Session) :
    ∃ loading arguments,
      failLogin login e w s =
        s.withCallbacks loading
          (s.callbacks ++ [.fail arguments]) := by
  cases login <;> exact ⟨_, _, rfl⟩

/-
  A refused Facebook dialog calls the failure callback once,
  or twice when the callback itself throws.
-/
theorem facebookRefused_frame
    (message : String)
    (w : World)
    (s : Session) :
    ∃ failures : List (List String),
      facebookRefused message w s =
        s.withCallbacks s.loading
          (s.callbacks ++ failures.map Callback.fail) := by
  unfold facebookRefused
  cases w.failThrows with
  | none => exact ⟨[[message]], rfl⟩
  | some e =>
      refine ⟨[[message], [e.toText]], ?_⟩
      simp [failLogin, withCallbacks]

/- A login's end leaves stores and memory alone. -/
theorem succeedLogin_frame
    (login : Login)
    (user : User)
    (w : World)
    (s : Session) :
    ∃ loading callbacks,
      (succeedLogin login user w s).1 =
        s.withCallbacks loading callbacks := by
  have hFail :
      ∀ e, ∃ loading callbacks,
        failLogin login e w
            (s.withCallbacks s.loading
              (s.callbacks ++ [.success s.user])) =
          s.withCallbacks loading callbacks := by
    intro e
    rcases failLogin_frame login e w
        (s.withCallbacks s.loading
          (s.callbacks ++ [.success s.user])) with
      ⟨loading, arguments, hEq⟩
    exact ⟨loading, _, hEq⟩
  cases hThrows : w.successThrows with
  | some e =>
      cases login <;>
        simp only [succeedLogin, hThrows] <;>
        first
          | exact hFail e
          | exact ⟨_, _, rfl⟩
  | none =>
      cases login <;>
        simp only [succeedLogin, hThrows] <;>
        exact ⟨_, _, rfl⟩

/-
  A view of the session that does not show callbacks is the
  same after them.
-/
theorem view_failLogin
    {γ : Type}
    (view : Session → γ)
    (hView :
      ∀ s loading callbacks,
        view (s.withCallbacks loading callbacks) = view s)
    (login : Login)
    (e : Thrown)
    (w : World)
    (s : Session) :
    view (failLogin login e w s) = view s := by
  rcases failLogin_frame login e w s with ⟨_, _, hEq⟩
  rw [hEq, hView]

theorem view_facebookRefused
    {γ : Type}
    (view : Session → γ)
    (hView :
      ∀ s loading callbacks,
        view (s.withCallbacks loading callbacks) = view s)
    (message : String)
    (w : World)
    (s : Session) :
    view (facebookRefused message w s) = view s := by
  rcases facebookRefused_frame message w s with ⟨_, hEq⟩
  rw [hEq, hView]

theorem view_succeedLogin
    {γ : Type}
    (view : Session → γ)
    (hView :
      ∀ s loading callbacks,
        view (s.withCallbacks loading callbacks) = view s)
    (login : Login)
    (user : User)
    (w : World)
    (s : Session) :
    view (succeedLogin login user w s).1 = view s := by
  rcases succeedLogin_frame login user w s with ⟨_, _, hEq⟩
  rw [hEq, hView]

/- Only a password login leaves a point behind. -/
theorem succeedLogin_points
    (login : Login)
    (user : User)
    (w : World)
    (s : Session) :
    (succeedLogin login user w s).2 = [] ∨
      ∃ username password own,
        (succeedLogin login user w s).2 =
          [.jwtAuth user username password own] := by
  cases hThrows : w.successThrows <;>
    cases login <;>
    simp [succeedLogin, hThrows]

end Session

end NewsCentral

------------------------------------------------------------
-- Operations End
------------------------------------------------------------

namespace NewsCentral

open Dart EventLoop

namespace Session

/- How many awaits an operation has ahead at most. -/
def Point.rank : Point → Nat
  | .googleSignIn => 10
  | .googleAuthentication => 9
  | .facebookLogIn => 10
  | .facebookCredential _ => 9
  | .service .. => 8
  | .savePrefs .. => 7
  | .saveFlag .. => 6
  | .saveReady .. => 5
  | .saveItem .. => 4
  | .saved .. => 3
  | .jwtAuth .. => 2
  | .jwtReady .. => 1
  | .jwtItem => 0
  | .getUserReady => 0
  | .logoutReady => 4
  | .logoutUserInfo => 3
  | .logoutWishlist => 2
  | .logoutPrefs => 1
  | .logoutFlag => 0
  | .blogReady .. => 2
  | .blogUpload .. => 1
  | .blogPost => 0

/- A turn leaves at most one point, of smaller rank. -/
theorem resume_rank
    (wp : WordPress)
    (k : Point)
    (w : World)
    (s : Session) :
    (resume wp k w s).2 = [] ∨
      ∃ k', (resume wp k w s).2 = [k'] ∧
        k'.rank < k.rank := by
  cases k with
  | saved login user =>
      rcases succeedLogin_points login user w s with
        hNone | ⟨username, password, own, hOne⟩
      · exact .inl hNone
      · exact .inr ⟨_, hOne, by simp [Point.rank]⟩
  | blogReady caller file data =>
      simp only [resume]
      generalize
        (if (w.throws.isNone && w.ready) = true then
          s.storage.jwtToken else some "") = token
      cases token <;> cases file <;>
        simp [uploadBlogImage, Point.rank]
  | _ =>
      simp only [resume, orElseSaved]
      repeat' split
      all_goals simp [Point.rank]

/- A turn of the session keeps or deletes the wishlist. -/
theorem resume_wishlist
    (wp : WordPress)
    (k : Point)
    (w : World)
    (s : Session) :
    (resume wp k w s).1.storage.wishlist =
        s.storage.wishlist ∨
      (resume wp k w s).1.storage.wishlist = none := by
  let view := fun s : Session => s.storage.wishlist
  have hView :
      ∀ s loading callbacks,
        view (s.withCallbacks loading callbacks) = view s :=
    fun _ _ _ => rfl
  have hFail :
      ∀ login e,
        (failLogin login e w s).storage.wishlist =
          s.storage.wishlist :=
    fun login e =>
      view_failLogin view hView login e w s
  have hRefused :
      ∀ message,
        (facebookRefused message w s).storage.wishlist =
          s.storage.wishlist :=
    fun message =>
      view_facebookRefused view hView message w s
  cases k with
  | logoutUserInfo =>
      simp only [resume]
      split
      · exact .inr rfl
      · exact .inl rfl
  | saved login user =>
      exact .inl
        (view_succeedLogin view hView login user w s)
  | getUserReady =>
      left
      simp only [resume, loadUser]
      repeat' split
      all_goals rfl
  | blogReady caller file data =>
      left
      simp only [resume]
      generalize
        (if (w.throws.isNone && w.ready) = true then
          s.storage.jwtToken else some "") = token
      cases token <;> cases file <;> rfl
  | _ =>
      left
      simp only [resume, orElseSaved]
      repeat' split
      all_goals simp [hFail, hRefused]

end Session

end NewsCentral

------------------------------------------------------------
-- Callbacks Of A Turn
------------------------------------------------------------

namespace NewsCentral

open Dart EventLoop

namespace Session

/- A login whose user has been saved. -/
def Point.isSaved : Point → Bool
  | .saved .. => true
  | _ => false

/-
  The callbacks that a turn adds; only the end of a login
  calls those of success, with the user then in session.
-/
structure Calls
    (k : Point)
    (s t : Session)
    (callbacks : List Callback) : Prop where
  added : t.callbacks = s.callbacks ++ callbacks
  success :
    ∀ user, Callback.success user ∈ callbacks ↔
      k.isSaved = true ∧ user = s.user

/- Failure callbacks, or none. -/
theorem calls_failures
    {k : Point}
    {s t : Session}
    (failures : List (List String))
    (hSaved : k.isSaved = false)
    (hAdded :
      t.callbacks = s.callbacks ++ failures.map .fail) :
    ∃ callbacks, Calls k s t callbacks := by
  refine ⟨failures.map .fail, hAdded, ?_⟩
  intro user
  simp [hSaved]

/- The end of a login succeeds, whatever the callback does. -/
theorem calls_succeedLogin
    (login : Login)
    (user : User)
    (w : World)
    (s : Session) :
    ∃ callbacks,
      Calls (.saved login user) s
        (succeedLogin login user w s).1 callbacks := by
  have hSucceeds
      {t : Session}
      (failures : List (List String))
      (hAdded :
        t.callbacks =
          s.callbacks ++
            (.success s.user :: failures.map .fail)) :
      ∃ callbacks,
        Calls (.saved login user) s t callbacks := by
    refine ⟨.success s.user :: failures.map .fail, hAdded, ?_⟩
    intro other
    simp [Point.isSaved]
  have hFails (e : Thrown) :
      ∃ callbacks,
        Calls (.saved login user) s
          (failLogin login e w
            { s with
              callbacks :=
                s.callbacks ++ [.success s.user] })
          callbacks := by
    rcases failLogin_frame login e w
        { s with
          callbacks := s.callbacks ++ [.success s.user] } with
      ⟨loading, arguments, hEq⟩
    refine hSucceeds [arguments] ?_
    rw [hEq]
    simp [withCallbacks]
  cases hThrows : w.successThrows with
  | none =>
      refine hSucceeds [] ?_
      cases login <;> simp [succeedLogin, hThrows]
  | some e =>
      cases login <;> simp only [succeedLogin, hThrows]
      case login => exact hSucceeds [] rfl
      all_goals exact hFails e

/- Every turn's callbacks are accounted for. -/
theorem resume_callbacks
    (wp : WordPress)
    (k : Point)
    (w : World)
    (s : Session) :
    ∃ callbacks, Calls k s (resume wp k w s).1 callbacks := by
  have hNone {k : Point} {t : Session}
      (hSaved : k.isSaved = false)
      (hSame : t.callbacks = s.callbacks) :
      ∃ callbacks, Calls k s t callbacks :=
    calls_failures [] hSaved (by simpa using hSame)
  have hFail {k : Point} (login : Login) (e : Thrown)
      (hSaved : k.isSaved = false) :
      ∃ callbacks,
        Calls k s (failLogin login e w s) callbacks := by
    rcases failLogin_frame login e w s with ⟨_, _, hEq⟩
    exact calls_failures [_] hSaved (by rw [hEq]; rfl)
  have hRefused {k : Point} (message : String)
      (hSaved : k.isSaved = false) :
      ∃ callbacks,
        Calls k s (facebookRefused message w s) callbacks := by
    rcases facebookRefused_frame message w s with ⟨_, hEq⟩
    exact calls_failures _ hSaved (by rw [hEq]; rfl)
  cases k with
  | saved login user => exact calls_succeedLogin login user w s
  | getUserReady =>
      refine hNone rfl ?_
      simp only [resume, loadUser]
      repeat' split
      all_goals rfl
  | blogReady caller file data =>
      refine hNone rfl ?_
      simp only [resume]
      generalize
        (if (w.throws.isNone && w.ready) = true then
          s.storage.jwtToken else some "") = token
      cases token <;> cases file <;> rfl
  | _ =>
      simp only [resume, orElseSaved]
      repeat' split
      all_goals try dsimp only
      all_goals first
        | exact hNone rfl rfl
        | exact hFail _ _ (by rfl)
        | exact hRefused _ (by rfl)

/- The posting token is asked for where a login ends. -/
theorem isSaved_of_jwtAuth_mem
    {wp : WordPress}
    {k : Point}
    {w : World}
    {s : Session}
    {user : User}
    {username password : String}
    {own : Bool}
    (hMem :
      .jwtAuth user username password own ∈
        (resume wp k w s).2) :
    k.isSaved = true := by
  cases k with
  | saved login user => rfl
  | blogReady caller file data =>
      simp only [resume] at hMem
      generalize
        (if (w.throws.isNone && w.ready) = true then
          s.storage.jwtToken else some "") = token at hMem
      cases token <;> cases file <;>
        simp [uploadBlogImage] at hMem
  | _ =>
      exfalso
      revert hMem
      simp only [resume, orElseSaved]
      repeat' split
      all_goals simp

end Session

end NewsCentral
