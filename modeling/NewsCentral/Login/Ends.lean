import NewsCentral.Login.Program

/-
  Which attempts to log in end once and cleanly.

  An attempt waits for one answer after another until it has
  shown its notice; what is suspended after that settles
  without being seen.  It goes wrong where an answer leaves
  it without a notice to come: at the dialog of Apple, at a
  refusal of the Apple or SMS login, and where the password
  login asks for its token or signs in with Firebase.  The
  account that Firebase lacks is created without anybody
  waiting for it, so that nothing catches a failure.

  Key definitions include:
    * `NewsCentral.LoginScreen.EndsCleanly`
    * `NewsCentral.LoginScreen.answersCleanly`
    * `NewsCentral.LoginScreen.OnItsWay`
    * `NewsCentral.LoginScreen.GoneWrong`

  Key theorems include:
    * `NewsCentral.LoginScreen.resume_onItsWay`
    * `NewsCentral.LoginScreen.loading_of_run`
    * `NewsCentral.LoginScreen.attempt_endsCleanly_iff`
-/

------------------------------------------------------------
-- Clean Ends
------------------------------------------------------------

namespace NewsCentral

open Dart EventLoop

namespace LoginScreen

/- The fields and the stores of `UserModel` are the same. -/
structure SameModel (s t : Session) : Prop where
  user : t.user = s.user
  loggedIn : t.loggedIn = s.loggedIn
  storage : t.storage = s.storage
  prefs : t.prefs = s.prefs

/-
  One notice was shown, that of a failure over an unchanged
  `UserModel`; nothing was thrown past the callbacks, and
  nothing is loading.
-/
structure EndsCleanly (s : Session) (t : LoginScreen) :
    Prop where
  notice :
    t.notices = [.welcome] ∨
      ∃ message, t.notices = [.failure message] ∧
        SameModel s t.session
  uncaught : t.uncaught = []
  isLoading : t.isLoading = false
  loading : t.session.loading = false

/- The attempt that sets and resets the model's `loading`. -/
def Attempt.isPassword : Attempt → Bool
  | .login .. => true
  | _ => false

/- The logins whose failure callback is called in vain. -/
def failsInVain : Session.Login → Bool
  | .loginApple .. => true
  | .loginFirebaseSMS .. => true
  | _ => false

/- Apple's dialog is authorized, with both parts of a name. -/
def Answer.isAuthorized (a : Answer) : Bool :=
  match a.throws, a.apple with
  | none, .authorized _ (some _) (some _) => true
  | _, _ => false

/-
  The answers that leave a notice to come, and that throw
  nothing past the handlers: the dialog of Apple is
  authorized, the service takes the Apple or SMS login, it
  gives a posting token, an error of Firebase has a code, and
  a missing account is created and signed in.
-/
def answersCleanly
    (wp : WordPress)
    (_ : LoginScreen)
    (_ : List Point)
    (point : Point)
    (a : Answer) : Prop :=
  match point with
  | .performRequests => a.isAuthorized = true
  | .session (.service login token) =>
      failsInVain login = true →
        (login.callService wp a.http token).isOk = true
  | .session (.jwtAuth _ username password _) =>
      (wp.getJwtAuth a.http username password).isOk = true
  | .signInWithEmail _ _ => a.throws = none ∨ a.code ≠ none
  | .createAccount _ _ => a.throws = none
  | .signInWithNew _ _ => a.throws = none
  | _ => True

instance
    (wp : WordPress)
    (t : LoginScreen)
    (pending : List Point)
    (point : Point)
    (a : Answer) :
    Decidable (answersCleanly wp t pending point a) :=
  match point with
  | .performRequests =>
      inferInstanceAs (Decidable (a.isAuthorized = true))
  | .session point =>
      match point with
      | .service login token =>
          inferInstanceAs (Decidable
            (failsInVain login = true →
              (login.callService wp a.http token).isOk = true))
      | .jwtAuth _ username password _ =>
          inferInstanceAs (Decidable
            ((wp.getJwtAuth a.http username password).isOk =
              true))
      | .googleSignIn => isTrue trivial
      | .googleAuthentication => isTrue trivial
      | .facebookLogIn => isTrue trivial
      | .facebookCredential _ => isTrue trivial
      | .savePrefs .. => isTrue trivial
      | .saveFlag .. => isTrue trivial
      | .saveReady .. => isTrue trivial
      | .saveItem .. => isTrue trivial
      | .saved .. => isTrue trivial
      | .getUserReady => isTrue trivial
      | .logoutReady => isTrue trivial
      | .logoutUserInfo => isTrue trivial
      | .logoutWishlist => isTrue trivial
      | .logoutPrefs => isTrue trivial
      | .logoutFlag => isTrue trivial
      | .jwtReady .. => isTrue trivial
      | .jwtItem => isTrue trivial
      | .blogReady .. => isTrue trivial
      | .blogUpload .. => isTrue trivial
      | .blogPost => isTrue trivial
  | .signInWithEmail _ _ =>
      inferInstanceAs
        (Decidable (a.throws = none ∨ a.code ≠ none))
  | .playAnimation _ => isTrue trivial
  | .playToVerify => isTrue trivial
  | .signInWithCredential => isTrue trivial
  | .stopAnimation => isTrue trivial
  | .stopToFail _ => isTrue trivial
  | .stopToWelcome => isTrue trivial
  | .createAccount _ _ =>
      inferInstanceAs (Decidable (a.throws = none))
  | .signInWithNew _ _ =>
      inferInstanceAs (Decidable (a.throws = none))

end LoginScreen

end NewsCentral

------------------------------------------------------------
-- Where An Attempt Is
------------------------------------------------------------

namespace NewsCentral

open Dart EventLoop

namespace LoginScreen

/- The login of a point before the answer of the service. -/
def asked : Session.Point → Option Session.Login
  | .googleSignIn => some .loginGoogle
  | .googleAuthentication => some .loginGoogle
  | .facebookLogIn => some .loginFB
  | .facebookCredential _ => some .loginFB
  | .service login _ => some login
  | _ => none

/- The login of a point of `saveUser`. -/
def accepted : Session.Point → Option Session.Login
  | .savePrefs login _ => some login
  | .saveFlag login _ => some login
  | .saveReady login _ => some login
  | .saveItem login _ => some login
  | .saved login _ => some login
  | _ => none

/- A login of the two screens. -/
def offered : Session.Login → Bool
  | .createUser .. => false
  | _ => true

/- A point of which nothing is seen on the screen. -/
def Point.settles : Point → Bool
  | .stopAnimation => true
  | .createAccount .. => true
  | .signInWithNew .. => true
  | .session (.jwtReady ..) => true
  | .session .jwtItem => true
  | _ => false

/-
  The attempt waits at its only point for an answer.  Until
  it calls the model, that is idle or will be loading for it.
-/
def WaitsAt (s : Session) (t : LoginScreen) : Point → Prop
  | .playAnimation login =>
      offered login = true ∧
        (s.loading = false ∨ login.isPassword = true) ∧
        t.isLoading = true ∧ t.session = s
  | .performRequests =>
      s.loading = false ∧ t.isLoading = false ∧ t.session = s
  | .playToVerify =>
      s.loading = false ∧ t.isLoading = true ∧ t.session = s
  | .signInWithCredential =>
      s.loading = false ∧ t.isLoading = true ∧ t.session = s
  | .stopToFail _ => s.loading = false ∧ t.session = s
  | .session point =>
      t.isLoading = true ∧
        ((∃ login, asked point = some login ∧
            offered login = true ∧
            t.session = { s with loading := login.isPassword }) ∨
          ∃ login, accepted point = some login ∧
            offered login = true ∧
            t.session.loading = login.isPassword)
  | _ => False

/- The success callback of a password login goes on. -/
def Point.welcomes : Point → Bool
  | .session (.jwtAuth ..) => true
  | .signInWithEmail .. => true
  | .stopToWelcome => true
  | _ => false

/-
  An attempt whose notice is still to come, or has been
  shown.
-/
inductive OnItsWay
    (s : Session) (t : LoginScreen) : List Point → Prop
  | waits {point : Point} :
      t.notices = [] → t.uncaught = [] →
      WaitsAt s t point → OnItsWay s t [point]
  | welcoming {pending rest : List Point} {point : Point} :
      t.notices = [] → t.uncaught = [] →
      t.session.loading = false →
      point.welcomes = true →
      pending.Perm (point :: rest) →
      (∀ k ∈ rest, k.settles = true) →
      OnItsWay s t pending
  | welcomed {pending : List Point} :
      t.notices = [.welcome] → t.uncaught = [] →
      t.session.loading = false →
      (∀ k ∈ pending, k.settles = true) →
      (t.isLoading = false ∨ .stopAnimation ∈ pending) →
      OnItsWay s t pending
  | failed {message : String} :
      t.notices = [.failure message] → t.uncaught = [] →
      t.session.loading = false → SameModel s t.session →
      OnItsWay s t [.stopAnimation]
  | ended {message : String} :
      t.notices = [.failure message] → t.uncaught = [] →
      t.session.loading = false → SameModel s t.session →
      t.isLoading = false → OnItsWay s t []

/- Something was thrown, or no notice is to come. -/
inductive GoneWrong (t : LoginScreen) (pending : List Point) :
    Prop
  | thrown : t.uncaught ≠ [] → GoneWrong t pending
  | silent :
      t.notices = [] →
      (∀ k ∈ pending, k.settles = true) →
      GoneWrong t pending

variable {s : Session} {t : LoginScreen}

/- At its end, an attempt on its way has ended cleanly. -/
theorem OnItsWay.endsCleanly
    (hWay : OnItsWay s t []) :
    EndsCleanly s t := by
  generalize hPending : ([] : List Point) = pending at hWay
  cases hWay with
  | waits => cases hPending
  | welcoming _ _ _ _ hPerm =>
      subst hPending
      exact absurd hPerm.symm (List.not_perm_cons_nil)
  | welcomed hNotices hUncaught hLoading _ hStops =>
      subst hPending
      refine ⟨.inl hNotices, hUncaught, ?_, hLoading⟩
      rcases hStops with hStopped | hMem
      · exact hStopped
      · cases hMem
  | failed => cases hPending
  | ended hNotices hUncaught hLoading hSame hStopped =>
      exact ⟨.inr ⟨_, hNotices, hSame⟩, hUncaught, hStopped,
        hLoading⟩

theorem GoneWrong.not_endsCleanly
    {pending : List Point}
    (hWrong : GoneWrong t pending) :
    ¬ EndsCleanly s t := by
  intro hClean
  cases hWrong with
  | thrown hSome => exact hSome hClean.uncaught
  | silent hNone _ =>
      rcases hClean.notice with hEq | ⟨_, hEq, _⟩
      · rw [hNone] at hEq
        cases hEq
      · rw [hNone] at hEq
        cases hEq

end LoginScreen

end NewsCentral

------------------------------------------------------------
-- Turns Of The Session
------------------------------------------------------------

namespace NewsCentral

open Dart EventLoop

namespace LoginScreen

variable {wp : WordPress} {s : Session} {t : LoginScreen}

/- A turn without callbacks is one of the session alone. -/
theorem resumeSession_of_quiet
    {point : Session.Point}
    {w : Session.World}
    {r : Session × List Session.Point}
    (hResume :
      Session.resume wp point (calm w) t.session = r)
    (hQuiet : r.1.callbacks = t.session.callbacks) :
    resumeSession wp point w t =
      ({ t with session := r.1 }, r.2.map .session) := by
  unfold resumeSession
  simp only [hResume, hQuiet, List.drop_length, callBacks,
    List.append_nil]

/- A turn with one callback. -/
theorem resumeSession_of_call
    {point : Session.Point}
    {w : Session.World}
    {r : Session × List Session.Point}
    {callback : Callback}
    (hResume :
      Session.resume wp point (calm w) t.session = r)
    (hCalls :
      r.1.callbacks = t.session.callbacks ++ [callback]) :
    resumeSession wp point w t =
      let c :=
        callBack (savedPassword point)
          { t with session := r.1 } callback
      (c.1, r.2.map .session ++ c.2) := by
  unfold resumeSession
  simp only [hResume, hCalls, List.drop_left, callBacks,
    List.append_nil]

/- The first notice is the only one. -/
theorem notices_of_none
    (hNone : t.notices = [])
    (notice : Notice) :
    t.notices ++ [notice] = [notice] := by
  rw [hNone, List.nil_append]

/- A failure callback with its argument shows its notice. -/
theorem onItsWay_of_refused
    {point : Session.Point}
    {w : Session.World}
    {r : Session}
    {message : String}
    (hNotices : t.notices = [])
    (hUncaught : t.uncaught = [])
    (hResume :
      Session.resume wp point (calm w) t.session = (r, []))
    (hCalls :
      r.callbacks = t.session.callbacks ++ [.fail [message]])
    (hSame : SameModel s r)
    (hLoading : r.loading = false) :
    OnItsWay s (resumeSession wp point w t).1
      (resumeSession wp point w t).2 := by
  rw [resumeSession_of_call hResume hCalls]
  have hShown := notices_of_none hNotices (.failure message)
  exact .failed hShown hUncaught hLoading hSame

/- One without it is thrown past the model. -/
theorem goneWrong_of_refused
    {point : Session.Point}
    {w : Session.World}
    {r : Session}
    (hResume :
      Session.resume wp point (calm w) t.session = (r, []))
    (hCalls : r.callbacks = t.session.callbacks ++ [.fail []]) :
    GoneWrong (resumeSession wp point w t).1
      (resumeSession wp point w t).2 := by
  rw [resumeSession_of_call hResume hCalls]
  exact .thrown (by simp [callBack])

/- What the failure of a login leaves of the session. -/
theorem sameModel_failLogin
    {login : Session.Login}
    {e : Thrown}
    {w : Session.World}
    (hOffered : offered login = true) :
    let r :=
      Session.failLogin login e w
        { s with loading := login.isPassword }
    SameModel s r ∧ r.loading = false := by
  cases login with
  | createUser => cases hOffered
  | login => exact ⟨⟨rfl, rfl, rfl, rfl⟩, rfl⟩
  | _ => exact ⟨⟨rfl, rfl, rfl, rfl⟩, rfl⟩

/- A login that does not fail in vain passes its message. -/
theorem callbacks_failLogin
    {login : Session.Login}
    (hTells : failsInVain login = false)
    (e : Thrown)
    (w : Session.World)
    (r : Session) :
    ∃ message,
      (Session.failLogin login e w r).callbacks =
        r.callbacks ++ [.fail [message]] := by
  cases login with
  | loginApple => cases hTells
  | loginFirebaseSMS => cases hTells
  | _ => exact ⟨_, rfl⟩

theorem callbacks_failLogin_in_vain
    {login : Session.Login}
    (hVain : failsInVain login = true)
    (e : Thrown)
    (w : Session.World)
    (r : Session) :
    (Session.failLogin login e w r).callbacks =
      r.callbacks ++ [.fail []] := by
  cases login with
  | loginApple => rfl
  | loginFirebaseSMS => rfl
  | _ => cases hVain

/- A failing dialog or a refusing service. -/
theorem onItsWay_of_failLogin
    {point : Session.Point}
    {login : Session.Login}
    {e : Thrown}
    {w v : Session.World}
    (hOffered : offered login = true)
    (hTells : failsInVain login = false)
    (hNotices : t.notices = [])
    (hUncaught : t.uncaught = [])
    (hSession :
      t.session = { s with loading := login.isPassword })
    (hResume :
      Session.resume wp point (calm w) t.session =
        (Session.failLogin login e v t.session, [])) :
    OnItsWay s (resumeSession wp point w t).1
      (resumeSession wp point w t).2 := by
  rcases callbacks_failLogin hTells e v t.session with
    ⟨message, hCalls⟩
  have hSame :=
    sameModel_failLogin (s := s) (e := e) (w := v) hOffered
  rw [← hSession] at hSame
  exact onItsWay_of_refused hNotices hUncaught hResume hCalls
    hSame.1 hSame.2

/- Another point of the same login. -/
theorem onItsWay_of_asked
    {point next : Session.Point}
    {login : Session.Login}
    {w : Session.World}
    (hNext : asked next = some login)
    (hOffered : offered login = true)
    (hNotices : t.notices = [])
    (hUncaught : t.uncaught = [])
    (hLoading : t.isLoading = true)
    (hSession :
      t.session = { s with loading := login.isPassword })
    (hResume :
      Session.resume wp point (calm w) t.session =
        (t.session, [next])) :
    OnItsWay s (resumeSession wp point w t).1
      (resumeSession wp point w t).2 := by
  rw [resumeSession_of_quiet hResume rfl]
  exact .waits hNotices hUncaught
    ⟨hLoading, .inl ⟨login, hNext, hOffered, hSession⟩⟩

/-
  Before the answer of the service a login goes on, is
  refused by its dialog, or fails; the answer may be a user.
-/
inductive AskedTurn
    (wp : WordPress)
    (point : Session.Point)
    (login : Session.Login)
    (w : Session.World)
    (r : Session) : Session × List Session.Point → Prop
  | goesOn {next : Session.Point} :
      failsInVain login = false →
      asked next = some login →
      AskedTurn wp point login w r (r, [next])
  | refused {message : String} :
      failsInVain login = false →
      login.isPassword = false →
      AskedTurn wp point login w r
        ({ r with
            callbacks := r.callbacks ++ [.fail [message]] },
          [])
  | fails {e : Thrown} {v : Session.World} :
      (failsInVain login = true →
        ∃ token, point = .service login token ∧
          login.callService wp w.http token = .error e) →
      AskedTurn wp point login w r
        (Session.failLogin login e v r, [])
  | accepted {token : Option String} {user : User} :
      point = .service login token →
      login.callService wp w.http token = .ok user →
      AskedTurn wp point login w r
        ({ r with
            user := some user
            loggedIn := true
            passwordLogin :=
              r.passwordLogin || login.isPassword },
          [.savePrefs login user])

theorem askedTurn_resume
    (wp : WordPress)
    (w : Session.World)
    (r : Session)
    {point : Session.Point}
    {login : Session.Login}
    (hAsked : asked point = some login) :
    AskedTurn wp point login w r
      (Session.resume wp point (calm w) r) := by
  cases point with
  | googleSignIn =>
      cases hAsked
      simp only [Session.resume]
      split
      · exact .fails fun hVain => by cases hVain
      · exact .fails fun hVain => by cases hVain
      · exact .goesOn rfl rfl
  | googleAuthentication =>
      cases hAsked
      simp only [Session.resume]
      split
      · exact .fails fun hVain => by cases hVain
      · exact .goesOn rfl rfl
  | facebookLogIn =>
      cases hAsked
      simp only [Session.resume]
      split
      · exact .fails fun hVain => by cases hVain
      · exact .goesOn rfl rfl
      · exact .refused rfl rfl
      · exact .refused rfl rfl
  | facebookCredential token =>
      cases hAsked
      simp only [Session.resume]
      split
      · exact .fails fun hVain => by cases hVain
      · exact .goesOn rfl rfl
  | service other token =>
      cases hAsked
      simp only [Session.resume]
      cases hAnswer : login.callService wp w.http token with
      | error e =>
          simp only [calm, hAnswer]
          exact .fails fun _ => ⟨token, rfl, hAnswer⟩
      | ok user =>
          simp only [calm, hAnswer]
          exact .accepted rfl hAnswer
  | _ => cases hAsked

/- Only a refusal of which the screen does not hear is bad. -/
theorem answersCleanly_of_asked
    (wp : WordPress)
    (t : LoginScreen)
    (pending : List Point)
    (a : Answer)
    {point : Session.Point}
    {login : Session.Login}
    (hAsked : asked point = some login)
    (hHears : failsInVain login = false) :
    answersCleanly wp t pending (.session point) a := by
  cases point with
  | service other token =>
      cases hAsked
      intro hVain
      rw [hHears] at hVain
      cases hVain
  | jwtAuth => cases hAsked
  | _ => trivial

/-
  Before the answer of the service, an attempt goes on, or
  its failure is shown, unless it is a refusal of which the
  screen does not hear.
-/
theorem resume_asked
    {point : Session.Point}
    {login : Session.Login}
    {pending : List Point}
    {a : Answer}
    (hAsked : asked point = some login)
    (hOffered : offered login = true)
    (hNotices : t.notices = [])
    (hUncaught : t.uncaught = [])
    (hLoading : t.isLoading = true)
    (hSession :
      t.session = { s with loading := login.isPassword }) :
    let r := resume wp (.session point) a t
    (answersCleanly wp t pending (.session point) a →
        OnItsWay s r.1 r.2) ∧
      (¬ answersCleanly wp t pending (.session point) a →
        GoneWrong r.1 r.2) := by
  have hTurn :
      resume wp (.session point) a t =
        resumeSession wp point a.toWorld t := by
    cases point with
    | jwtAuth => cases hAsked
    | _ => rfl
  generalize hResume :
    Session.resume wp point (calm a.toWorld) t.session = r
  have hCases :=
    askedTurn_resume wp a.toWorld t.session hAsked
  rw [hResume] at hCases
  simp only [hTurn]
  cases hCases with
  | goesOn hHears hNext =>
      have hOk :=
        answersCleanly_of_asked wp t pending a hAsked hHears
      refine ⟨fun _ => ?_, fun hNot => absurd hOk hNot⟩
      exact onItsWay_of_asked hNext hOffered hNotices
        hUncaught hLoading hSession hResume
  | refused hHears hPassword =>
      have hOk :=
        answersCleanly_of_asked wp t pending a hAsked hHears
      refine ⟨fun _ => ?_, fun hNot => absurd hOk hNot⟩
      refine onItsWay_of_refused hNotices hUncaught hResume rfl
        ?_ ?_
      · rw [hSession]
        exact ⟨rfl, rfl, rfl, rfl⟩
      · rw [hSession]
        exact hPassword
  | fails hVain =>
      cases hHears : failsInVain login with
      | false =>
          have hOk :=
            answersCleanly_of_asked wp t pending a hAsked hHears
          refine ⟨fun _ => ?_, fun hNot => absurd hOk hNot⟩
          exact onItsWay_of_failLogin hOffered hHears hNotices
            hUncaught hSession hResume
      | true =>
          rcases hVain hHears with ⟨token, rfl, hAnswer⟩
          have hBad :
              ¬ answersCleanly wp t pending
                (.session (.service login token)) a := by
            intro hOk
            have hTaken := hOk hHears
            rw [hAnswer] at hTaken
            cases hTaken
          refine ⟨fun hOk => absurd hOk hBad, fun _ => ?_⟩
          exact goneWrong_of_refused hResume
            (callbacks_failLogin_in_vain hHears _ _ _)
  | @accepted token user hPoint hAnswer =>
      subst hPoint
      have hOk :
          answersCleanly wp t pending
            (.session (.service login token)) a := by
        intro _
        rw [hAnswer]
        rfl
      refine ⟨fun _ => ?_, fun hNot => absurd hOk hNot⟩
      rw [resumeSession_of_quiet hResume rfl]
      refine .waits hNotices hUncaught
        ⟨hLoading, .inr ⟨login, rfl, hOffered, ?_⟩⟩
      rw [hSession]

/- Saving goes on, whatever fails, up to the callback. -/
theorem resume_saving
    (wp : WordPress)
    (w : Session.World)
    (r : Session)
    {point : Session.Point}
    {login : Session.Login}
    (hAccepted : accepted point = some login)
    (hSaving : ∀ user, point ≠ .saved login user) :
    ∃ next, accepted next = some login ∧
      (Session.resume wp point (calm w) r).2 = [next] ∧
      (Session.resume wp point (calm w) r).1.loading =
        r.loading ∧
      (Session.resume wp point (calm w) r).1.callbacks =
        r.callbacks := by
  cases point with
  | saved other user =>
      cases hAccepted
      exact absurd rfl (hSaving user)
  | savePrefs other user =>
      cases hAccepted
      simp only [Session.resume, Session.orElseSaved]
      split <;> exact ⟨_, rfl, rfl, rfl, rfl⟩
  | saveFlag other user =>
      cases hAccepted
      simp only [Session.resume, Session.orElseSaved]
      split <;> exact ⟨_, rfl, rfl, rfl, rfl⟩
  | saveReady other user =>
      cases hAccepted
      simp only [Session.resume, Session.orElseSaved]
      split
      · exact ⟨_, rfl, rfl, rfl, rfl⟩
      · split <;> exact ⟨_, rfl, rfl, rfl, rfl⟩
  | saveItem other user =>
      cases hAccepted
      exact ⟨_, rfl, rfl, rfl, rfl⟩
  | _ => cases hAccepted

/- Once a user is accepted, the attempt stays on its way. -/
theorem resume_accepted
    {point : Session.Point}
    {login : Session.Login}
    {a : Answer}
    (hAccepted : accepted point = some login)
    (hOffered : offered login = true)
    (hNotices : t.notices = [])
    (hUncaught : t.uncaught = [])
    (hLoading : t.isLoading = true)
    (hSession : t.session.loading = login.isPassword) :
    let r := resume wp (.session point) a t
    OnItsWay s r.1 r.2 := by
  have hTurn :
      resume wp (.session point) a t =
        resumeSession wp point a.toWorld t := by
    cases point with
    | jwtAuth => cases hAccepted
    | _ => rfl
  simp only [hTurn]
  by_cases hSaved : ∃ user, point = .saved login user
  · rcases hSaved with ⟨user, rfl⟩
    cases hPassword : login.isPassword with
    | false =>
        have hResume :
            Session.resume wp (.saved login user)
                (calm a.toWorld) t.session =
              ({ t.session with
                  callbacks :=
                    t.session.callbacks ++
                      [.success t.session.user] }, []) := by
          cases login with
          | login => cases hPassword
          | createUser => cases hOffered
          | _ => rfl
        have hShown := notices_of_none hNotices .welcome
        rw [resumeSession_of_call hResume rfl]
        simp only [savedPassword, hPassword, callBack,
          Bool.false_eq_true, if_false]
        refine .welcomed hShown hUncaught
          (hSession.trans hPassword) ?_ (.inr (by simp))
        simp [Point.settles]
    | true =>
        cases login with
        | login username password typedUsername typedPassword =>
            rw [resumeSession_of_call rfl rfl]
            exact .welcoming hNotices hUncaught rfl rfl
              (List.Perm.refl _)
              (by simp [callBack, savedPassword,
                Session.Login.isPassword])
        | _ => cases hPassword
  · have hSaving :
        ∀ user, point ≠ .saved login user := by
      intro user hEq
      exact hSaved ⟨user, hEq⟩
    rcases resume_saving wp a.toWorld t.session hAccepted
        hSaving with
      ⟨next, hNext, hPoints, hSame, hQuiet⟩
    rw [resumeSession_of_quiet rfl hQuiet, hPoints]
    refine .waits hNotices hUncaught
      ⟨hLoading, .inr ⟨login, hNext, hOffered, ?_⟩⟩
    exact hSame.trans hSession

/-
  Nothing is shown at a point that settles; what it throws
  is not caught.
-/
theorem resume_settles
    (wp : WordPress)
    (t : LoginScreen)
    (a : Answer)
    {k : Point}
    (hSettles : k.settles = true) :
    let r := resume wp k a t
    r.1.notices = t.notices ∧
      r.1.session.loading = t.session.loading ∧
      (r.1.isLoading = false ∨
        r.1.isLoading = t.isLoading ∧ k ≠ .stopAnimation) ∧
      ∀ j ∈ r.2, j.settles = true := by
  cases k with
  | stopAnimation =>
      exact ⟨rfl, rfl, .inl rfl, by simp [resume]⟩
  | createAccount email password =>
      simp only [resume]
      split
      · exact ⟨rfl, rfl, .inr ⟨rfl, by simp⟩,
          by simp [Point.settles]⟩
      · exact ⟨rfl, rfl, .inr ⟨rfl, by simp⟩, by simp⟩
  | signInWithNew email password =>
      exact ⟨rfl, rfl, .inr ⟨rfl, by simp⟩,
        by simp [resume]⟩
  | session point =>
      cases point with
      | jwtReady user token =>
          have hQuiet :
              (Session.resume wp (.jwtReady user token)
                (calm a.toWorld) t.session).1.callbacks =
                t.session.callbacks := by
            simp only [Session.resume]
            split <;> rfl
          simp only [resume]
          rw [resumeSession_of_quiet rfl hQuiet]
          refine ⟨rfl, ?_, .inr ⟨rfl, by simp⟩, ?_⟩
          · simp only [Session.resume]
            split <;> rfl
          · simp only [Session.resume]
            split <;> simp [Point.settles]
      | jwtItem =>
          simp only [resume]
          rw [resumeSession_of_quiet rfl rfl]
          exact ⟨rfl, rfl, .inr ⟨rfl, by simp⟩,
            by simp [Session.resume]⟩
      | _ => cases hSettles
  | _ => cases hSettles

theorem uncaught_of_settles
    (wp : WordPress)
    (t : LoginScreen)
    (pending : List Point)
    (a : Answer)
    {k : Point}
    (hSettles : k.settles = true) :
    let r := resume wp k a t
    (answersCleanly wp t pending k a →
        r.1.uncaught = t.uncaught) ∧
      (¬ answersCleanly wp t pending k a →
        r.1.uncaught ≠ []) := by
  have hKept
      (hSame : (resume wp k a t).1.uncaught = t.uncaught)
      (hOk : answersCleanly wp t pending k a) :
      let r := resume wp k a t
      (answersCleanly wp t pending k a →
          r.1.uncaught = t.uncaught) ∧
        (¬ answersCleanly wp t pending k a →
          r.1.uncaught ≠ []) :=
    ⟨fun _ => hSame, fun hNot => absurd hOk hNot⟩
  cases k with
  | stopAnimation => exact hKept rfl trivial
  | createAccount email password =>
      simp only [resume, answersCleanly]
      cases a.throws with
      | none => exact ⟨fun _ => rfl, fun hNot => absurd rfl hNot⟩
      | some e => exact ⟨nofun, by simp⟩
  | signInWithNew email password =>
      simp only [resume, answersCleanly]
      cases a.throws with
      | none =>
          exact ⟨fun _ => List.append_nil _,
            fun hNot => absurd rfl hNot⟩
      | some e => exact ⟨nofun, by simp⟩
  | session point =>
      cases point with
      | jwtReady user token =>
          refine hKept ?_ trivial
          have hQuiet :
              (Session.resume wp (.jwtReady user token)
                (calm a.toWorld) t.session).1.callbacks =
                t.session.callbacks := by
            simp only [Session.resume]
            split <;> rfl
          simp only [resume]
          rw [resumeSession_of_quiet rfl hQuiet]
      | jwtItem =>
          refine hKept ?_ trivial
          simp only [resume]
          rw [resumeSession_of_quiet rfl rfl]
      | _ => cases hSettles
  | _ => cases hSettles

/- What was thrown stays thrown. -/
theorem uncaught_callBacks
    (isPassword : Bool)
    (t : LoginScreen)
    (callbacks : List Callback) :
    t.uncaught <+:
      (callBacks isPassword t callbacks).1.uncaught := by
  induction callbacks generalizing t with
  | nil => exact List.prefix_refl _
  | cons callback callbacks ih =>
      refine List.IsPrefix.trans ?_
        (ih (callBack isPassword t callback).1)
      cases callback with
      | success user =>
          cases isPassword <;> exact List.prefix_refl _
      | fail arguments =>
          rcases arguments with _ | ⟨message, _ | ⟨_, _⟩⟩
          · exact List.prefix_append _ _
          · exact List.prefix_refl _
          · exact List.prefix_append _ _

theorem uncaught_resumeSession
    (wp : WordPress)
    (point : Session.Point)
    (w : Session.World)
    (t : LoginScreen) :
    t.uncaught <+:
      (resumeSession wp point w t).1.uncaught :=
  uncaught_callBacks _
    { t with
      session :=
        (Session.resume wp point (calm w) t.session).1 } _

theorem uncaught_resume
    (wp : WordPress)
    (k : Point)
    (a : Answer)
    (t : LoginScreen) :
    t.uncaught <+: (resume wp k a t).1.uncaught := by
  cases k with
  | session point =>
      have hSession :=
        uncaught_resumeSession wp point a.toWorld t
      cases point with
      | jwtAuth user username password own =>
          simp only [resume, afterToken]
          split
          · exact hSession
          · exact hSession.trans (List.prefix_append _ _)
      | _ => exact hSession
  | signInWithNew email password =>
      exact List.prefix_append _ _
  | playAnimation login => exact List.prefix_refl _
  | _ =>
      simp only [resume]
      repeat' split
      all_goals first
        | exact List.prefix_refl _
        | exact List.prefix_append _ _

/- The last points of a list are those of its two parts. -/
theorem settles_append
    {rest next : List Point}
    (hRest : ∀ k ∈ rest, k.settles = true)
    (hNext : ∀ k ∈ next, k.settles = true) :
    ∀ k ∈ rest ++ next, k.settles = true := by
  intro k hMem
  rcases List.mem_append.mp hMem with hLeft | hRight
  · exact hRest k hLeft
  · exact hNext k hRight

/- What has gone wrong stays so. -/
theorem GoneWrong.resume
    {earlier later : List Point}
    {k : Point}
    {a : Answer}
    (hWrong : GoneWrong t (earlier ++ k :: later)) :
    GoneWrong (resume wp k a t).1
      (earlier ++ later ++ (resume wp k a t).2) := by
  cases hWrong with
  | thrown hSome =>
      refine .thrown fun hNone => hSome ?_
      have hPrefix := uncaught_resume wp k a t
      rw [hNone] at hPrefix
      exact List.prefix_nil.mp hPrefix
  | silent hNotices hSettles =>
      rcases resume_settles wp t a (hSettles k (by simp)) with
        ⟨hSame, _, _, hNext⟩
      refine .silent (hSame.trans hNotices)
        (settles_append ?_ hNext)
      intro j hMem
      exact hSettles j (mem_of_mem_rest hMem)

/- Of points that settle, another one is still to come. -/
theorem onItsWay_of_welcomes
    {rest : List Point}
    {k : Point}
    (hNotices : t.notices = [])
    (hUncaught : t.uncaught = [])
    (hLoading : t.session.loading = false)
    (hWelcomes : k.welcomes = true)
    (hRest : ∀ j ∈ rest, j.settles = true) :
    OnItsWay s t (rest ++ [k]) :=
  .welcoming hNotices hUncaught hLoading hWelcomes
    (List.perm_append_singleton k rest) hRest

/- The success callback of a password login. -/
theorem resume_welcoming
    {rest : List Point}
    {k : Point}
    {a : Answer}
    (hNotices : t.notices = [])
    (hUncaught : t.uncaught = [])
    (hLoading : t.session.loading = false)
    (hWelcomes : k.welcomes = true)
    (hRest : ∀ j ∈ rest, j.settles = true) :
    let r := resume wp k a t
    (answersCleanly wp t rest k a →
        OnItsWay s r.1 (rest ++ r.2)) ∧
      (¬ answersCleanly wp t rest k a →
        GoneWrong r.1 (rest ++ r.2)) := by
  cases k with
  | session point =>
      cases point with
      | jwtAuth user username password own =>
          have hQuiet :
              (Session.resume wp
                (.jwtAuth user username password own)
                (calm a.toWorld) t.session).1.callbacks =
                t.session.callbacks := by
            simp only [Session.resume]
            split <;> rfl
          simp only [resume]
          rw [resumeSession_of_quiet rfl hQuiet]
          cases hToken :
              wp.getJwtAuth a.http username password with
          | error e =>
              refine ⟨fun hOk => ?_, fun _ => ?_⟩
              · simp only [answersCleanly, hToken] at hOk
                cases hOk
              · exact .thrown (by simp [afterToken])
          | ok token =>
              have hOk :
                  answersCleanly wp t rest
                    (.session
                      (.jwtAuth user username password own))
                    a := by
                simp only [answersCleanly, hToken]
                rfl
              refine ⟨fun _ => ?_, fun hNot => absurd hOk hNot⟩
              simp only [afterToken]
              rw [← List.append_assoc]
              refine onItsWay_of_welcomes hNotices hUncaught ?_
                rfl (settles_append hRest ?_)
              · simp only [Session.resume, calm, hToken]
                cases token <;> exact hLoading
              · simp only [Session.resume, calm, hToken]
                cases token <;> simp [Point.settles]
      | _ => cases hWelcomes
  | signInWithEmail email password =>
      simp only [resume, answersCleanly]
      split
      next _ hThrows =>
        refine ⟨fun _ => ?_, fun hNot =>
          absurd (.inl hThrows) hNot⟩
        exact onItsWay_of_welcomes hNotices hUncaught hLoading
          rfl hRest
      next e hThrows hCode =>
        refine ⟨?_, fun _ => ?_⟩
        · rintro (hNone | hSome)
          · rw [hThrows] at hNone
            cases hNone
          · exact absurd hCode hSome
        · exact .thrown (by simp)
      next e code hThrows hCode =>
        refine ⟨fun _ => ?_, fun hNot =>
          absurd (.inr (by simp [hCode])) hNot⟩
        split
        · rw [← List.singleton_append, ← List.append_assoc]
          exact onItsWay_of_welcomes hNotices hUncaught
            hLoading rfl
            (settles_append hRest (by simp [Point.settles]))
        · exact onItsWay_of_welcomes hNotices hUncaught
            hLoading rfl hRest
  | stopToWelcome =>
      refine ⟨fun _ => ?_, fun hNot => absurd trivial hNot⟩
      have hShown := notices_of_none hNotices .welcome
      simp only [resume, List.append_nil]
      exact .welcomed hShown hUncaught hLoading hRest (.inl rfl)
  | _ => cases hWelcomes

/- A call of `UserModel` from a screen that is loading. -/
theorem onItsWay_callModel
    {login : Session.Login}
    (hIdle : s.loading = false ∨ login.isPassword = true)
    (hOffered : offered login = true)
    (hNotices : t.notices = [])
    (hUncaught : t.uncaught = [])
    (hLoading : t.isLoading = true)
    (hSession : t.session = s) :
    OnItsWay s (callModel login t).1 (callModel login t).2 := by
  subst hSession
  have hStart :
      ∃ point, asked point = some login ∧
        Session.startLogin login t.session =
          ({ t.session with loading := login.isPassword },
            [point]) := by
    have hStays
        (hProvider : login.isPassword = false)
        (points : List Session.Point) :
        (t.session, points) =
          ({ t.session with loading := false }, points) := by
      rcases hIdle with hFalse | hPassword
      · rw [← hFalse]
      · rw [hProvider] at hPassword
        cases hPassword
    cases login with
    | createUser => cases hOffered
    | login => exact ⟨_, by rfl, rfl⟩
    | _ => exact ⟨_, by rfl, hStays rfl _⟩
  rcases hStart with ⟨point, hAsked, hStart⟩
  unfold callModel
  simp only [hStart]
  exact .waits hNotices hUncaught
    ⟨hLoading, .inl ⟨login, hAsked, hOffered, rfl⟩⟩

/- The dialog of Apple leads on or is over. -/
theorem performRequests_cases
    (wp : WordPress)
    (t : LoginScreen)
    (a : Answer) :
    (a.isAuthorized = true ∧
        ∃ email name,
          resume wp .performRequests a t =
            ({ t with isLoading := true },
              [.playAnimation
                (.loginApple email (some name))])) ∨
      (a.isAuthorized = false ∧
        resume wp .performRequests a t = (t, [])) := by
  simp only [Answer.isAuthorized, resume]
  cases a.throws with
  | some e => exact .inr ⟨rfl, rfl⟩
  | none =>
      cases a.apple with
      | error => exact .inr ⟨rfl, rfl⟩
      | cancelled => exact .inr ⟨rfl, rfl⟩
      | authorized email givenName familyName =>
          cases givenName with
          | none => exact .inr ⟨rfl, rfl⟩
          | some givenName =>
              cases familyName with
              | none => exact .inr ⟨rfl, rfl⟩
              | some familyName =>
                  exact .inl ⟨rfl, _, _, rfl⟩

/- At the only point of an attempt that waits. -/
theorem resume_waits
    {k : Point}
    {pending : List Point}
    {a : Answer}
    (hNotices : t.notices = [])
    (hUncaught : t.uncaught = [])
    (hWaits : WaitsAt s t k) :
    let r := resume wp k a t
    (answersCleanly wp t pending k a → OnItsWay s r.1 r.2) ∧
      (¬ answersCleanly wp t pending k a →
        GoneWrong r.1 r.2) := by
  cases k with
  | session point =>
      rcases hWaits with ⟨hLoading,
        ⟨login, hAsked, hOffered, hSession⟩ |
          ⟨login, hAccepted, hOffered, hSession⟩⟩
      · exact resume_asked hAsked hOffered hNotices hUncaught
          hLoading hSession
      · have hOk :
            answersCleanly wp t pending (.session point) a := by
          cases point with
          | service => cases hAccepted
          | jwtAuth => cases hAccepted
          | _ => trivial
        refine ⟨fun _ => ?_, fun hNot => absurd hOk hNot⟩
        exact resume_accepted hAccepted hOffered hNotices
          hUncaught hLoading hSession
  | playAnimation login =>
      rcases hWaits with ⟨hOffered, hIdle, hLoading, hSession⟩
      refine ⟨fun _ => ?_, fun hNot => absurd trivial hNot⟩
      exact onItsWay_callModel hIdle hOffered hNotices
        hUncaught hLoading hSession
  | performRequests =>
      rcases hWaits with ⟨hIdle, _, hSession⟩
      simp only [answersCleanly]
      rcases performRequests_cases wp t a with
        ⟨hYes, email, name, hResume⟩ | ⟨hNo, hResume⟩
      · refine ⟨fun _ => ?_, fun hNot => absurd hYes hNot⟩
        rw [hResume]
        exact .waits hNotices hUncaught
          ⟨rfl, .inl hIdle, rfl, hSession⟩
      · refine ⟨fun hOk => ?_, fun _ => ?_⟩
        · rw [hNo] at hOk
          cases hOk
        · rw [hResume]
          exact .silent hNotices (by simp)
  | playToVerify =>
      refine ⟨fun _ => ?_, fun hNot => absurd trivial hNot⟩
      exact .waits hNotices hUncaught hWaits
  | signInWithCredential =>
      rcases hWaits with ⟨hIdle, hLoading, hSession⟩
      refine ⟨fun _ => ?_, fun hNot => absurd trivial hNot⟩
      simp only [resume]
      split
      · exact .waits hNotices hUncaught ⟨hIdle, hSession⟩
      · exact .waits hNotices hUncaught ⟨hIdle, hSession⟩
      · exact onItsWay_callModel (.inl hIdle) rfl hNotices
          hUncaught hLoading hSession
  | stopToFail message =>
      rcases hWaits with ⟨hIdle, hSession⟩
      refine ⟨fun _ => ?_, fun hNot => absurd trivial hNot⟩
      have hShown := notices_of_none hNotices (.failure message)
      refine .ended hShown hUncaught ?_ ?_ rfl
      · simp only [resume, hSession, hIdle]
      · simp only [resume, hSession]
        exact ⟨rfl, rfl, rfl, rfl⟩
  | _ => cases hWaits

/- The turn of one point, wherever the attempt is. -/
theorem resume_onItsWay
    {earlier later : List Point}
    {k : Point}
    {a : Answer}
    (hWay : OnItsWay s t (earlier ++ k :: later)) :
    let r := resume wp k a t
    let rest := earlier ++ later
    (answersCleanly wp t rest k a →
        OnItsWay s r.1 (rest ++ r.2)) ∧
      (¬ answersCleanly wp t rest k a →
        GoneWrong r.1 (rest ++ r.2)) := by
  generalize hPending : earlier ++ k :: later = pending at hWay
  -- of a list of one point, that is the one resumed
  have hOnly
      {point : Point}
      (hOne : earlier ++ k :: later = [point]) :
      earlier = [] ∧ k = point ∧ later = [] := by
    rw [List.append_eq_singleton_iff] at hOne
    rcases hOne with ⟨hNil, hCons⟩ | ⟨_, hNil⟩
    · cases hCons
      exact ⟨hNil, rfl, rfl⟩
    · cases hNil
  cases hWay with
  | waits hNotices hUncaught hWaits =>
      rcases hOnly hPending with ⟨rfl, rfl, rfl⟩
      exact resume_waits hNotices hUncaught hWaits
  | @welcoming _ rest point hNotices hUncaught hLoading
      hWelcomes hPerm hRest =>
      subst hPending
      have hFront :
          (k :: (earlier ++ later)).Perm (point :: rest) :=
        List.perm_middle.symm.trans hPerm
      have hHere : k ∈ point :: rest :=
        hFront.subset List.mem_cons_self
      rcases List.mem_cons.mp hHere with rfl | hMem
      · have hSame : (earlier ++ later).Perm rest :=
          hFront.cons_inv
        exact resume_welcoming hNotices hUncaught hLoading
          hWelcomes fun j hMem => hRest j (hSame.subset hMem)
      · have hSettles := hRest k hMem
        have hThrows :=
          uncaught_of_settles wp t (earlier ++ later) a
            hSettles
        refine ⟨fun hOk => ?_, fun hNot =>
          .thrown (hThrows.2 hNot)⟩
        have hSame' := hThrows.1 hOk
        rcases resume_settles wp t a hSettles with
          ⟨hSame, hSame'', _, hNext⟩
        rcases List.append_of_mem hMem with ⟨us, vs, rfl⟩
        have hOthers :
            (earlier ++ later).Perm (point :: (us ++ vs)) := by
          apply List.Perm.cons_inv (a := k)
          refine hFront.trans ?_
          refine (List.perm_middle.cons point).trans ?_
          exact List.Perm.swap k point (us ++ vs)
        refine .welcoming (hSame.trans hNotices)
          (hSame'.trans hUncaught) (hSame''.trans hLoading)
          hWelcomes (hOthers.append_right _)
          (settles_append ?_ hNext)
        intro j hMem
        exact hRest j (mem_of_mem_rest hMem)
  | welcomed hNotices hUncaught hLoading hRest hStops =>
      subst hPending
      have hSettles := hRest k (by simp)
      have hThrows :=
        uncaught_of_settles wp t (earlier ++ later) a hSettles
      refine ⟨fun hOk => ?_, fun hNot =>
        .thrown (hThrows.2 hNot)⟩
      have hSame' := hThrows.1 hOk
      rcases resume_settles wp t a hSettles with
        ⟨hSame, hSame'', hStopped, hNext⟩
      refine .welcomed (hSame.trans hNotices)
        (hSame'.trans hUncaught) (hSame''.trans hLoading)
        (settles_append ?_ hNext) ?_
      · intro j hMem
        exact hRest j (mem_of_mem_rest hMem)
      · rcases hStopped with hNow | ⟨hLater, hNe⟩
        · exact .inl hNow
        · rcases hStops with hStopped | hMem
          · exact .inl (hLater.trans hStopped)
          · right
            simp only [List.mem_append, List.mem_cons,
              hNe.symm, false_or] at hMem ⊢
            exact .inl hMem
  | failed hNotices hUncaught hLoading hSame =>
      rcases hOnly hPending with ⟨rfl, rfl, rfl⟩
      refine ⟨fun _ => ?_, fun hNot => absurd trivial hNot⟩
      exact .ended hNotices hUncaught hLoading hSame rfl
  | ended => simp at hPending

end LoginScreen

end NewsCentral

------------------------------------------------------------
-- Providers
------------------------------------------------------------

namespace NewsCentral

open Dart EventLoop

namespace LoginScreen

/- The logins that leave `UserModel.loading` alone. -/
def isProvider : Session.Login → Bool
  | .login .. => false
  | .createUser .. => false
  | _ => true

/- The points of an attempt with such a login. -/
def Point.ofProvider : Point → Bool
  | .session point =>
      ((asked point).or (accepted point)).any isProvider
  | .playAnimation login => isProvider login
  | .performRequests => true
  | .playToVerify => true
  | .signInWithCredential => true
  | .stopAnimation => true
  | .stopToFail _ => true
  | _ => false

variable {wp : WordPress} {s : Session} {t : LoginScreen}

theorem ofProvider_of_asked
    {point : Session.Point}
    {login : Session.Login}
    (hAsked : asked point = some login)
    (hProvider : isProvider login = true) :
    (Point.session point).ofProvider = true := by
  simp [Point.ofProvider, hAsked, hProvider]

theorem ofProvider_of_accepted
    {point : Session.Point}
    {login : Session.Login}
    (hAccepted : accepted point = some login)
    (hProvider : isProvider login = true) :
    (Point.session point).ofProvider = true := by
  cases point <;> cases hAccepted <;> exact hProvider

theorem loading_failLogin
    {login : Session.Login}
    (hProvider : isProvider login = true)
    (e : Thrown)
    (w : Session.World) :
    (Session.failLogin login e w s).loading = s.loading := by
  cases login with
  | login => cases hProvider
  | createUser => cases hProvider
  | _ => rfl

/- A turn of the session before the answer of the service. -/
theorem resume_asked_ofProvider
    (wp : WordPress)
    (w : Session.World)
    (s : Session)
    {point : Session.Point}
    {login : Session.Login}
    (hAsked : asked point = some login)
    (hProvider : isProvider login = true) :
    (Session.resume wp point (calm w) s).1.loading =
        s.loading ∧
      ∀ next ∈ (Session.resume wp point (calm w) s).2,
        (Point.session next).ofProvider = true := by
  have hCases := askedTurn_resume wp w s hAsked
  generalize Session.resume wp point (calm w) s = r at hCases
  cases hCases with
  | goesOn _ hNext =>
      refine ⟨rfl, ?_⟩
      simpa using ofProvider_of_asked hNext hProvider
  | refused => exact ⟨rfl, by simp⟩
  | fails => exact ⟨loading_failLogin hProvider _ _, by simp⟩
  | accepted =>
      refine ⟨rfl, ?_⟩
      simpa using ofProvider_of_accepted rfl hProvider

/- A turn of the session while the user is saved. -/
theorem resume_accepted_ofProvider
    (wp : WordPress)
    (w : Session.World)
    (s : Session)
    {point : Session.Point}
    {login : Session.Login}
    (hAccepted : accepted point = some login)
    (hProvider : isProvider login = true) :
    (Session.resume wp point (calm w) s).1.loading =
        s.loading ∧
      ∀ next ∈ (Session.resume wp point (calm w) s).2,
        (Point.session next).ofProvider = true := by
  by_cases hSaved : ∃ user, point = .saved login user
  · rcases hSaved with ⟨user, rfl⟩
    cases login with
    | login => cases hProvider
    | createUser => cases hProvider
    | _ => exact ⟨rfl, by simp [Session.resume,
        Session.succeedLogin, calm]⟩
  · have hSaving :
        ∀ user, point ≠ .saved login user := by
      intro user hEq
      exact hSaved ⟨user, hEq⟩
    rcases resume_saving wp w s hAccepted hSaving with
      ⟨next, hNext, hPoints, hSame, _⟩
    rw [hPoints]
    refine ⟨hSame, ?_⟩
    simpa using ofProvider_of_accepted hNext hProvider

/- The call of a method of `UserModel`. -/
theorem callModel_ofProvider
    (t : LoginScreen)
    {login : Session.Login}
    (hProvider : isProvider login = true) :
    (callModel login t).1.session.loading =
        t.session.loading ∧
      ∀ k ∈ (callModel login t).2, k.ofProvider = true := by
  cases login with
  | login => cases hProvider
  | createUser => cases hProvider
  | _ => exact ⟨rfl, by simp [callModel, Session.startLogin,
      Point.ofProvider, asked, accepted, isProvider]⟩

/- A turn of such an attempt leaves the flag alone. -/
theorem resume_ofProvider
    (wp : WordPress)
    (t : LoginScreen)
    (a : Answer)
    {k : Point}
    (hProvider : k.ofProvider = true) :
    (resume wp k a t).1.session.loading = t.session.loading ∧
      ∀ j ∈ (resume wp k a t).2, j.ofProvider = true := by
  cases k with
  | session point =>
      have hTurn :
          resume wp (.session point) a t =
            resumeSession wp point a.toWorld t := by
        cases point with
        | jwtAuth => cases hProvider
        | _ => rfl
      have hSession :
          (Session.resume wp point (calm a.toWorld)
                t.session).1.loading =
              t.session.loading ∧
            ∀ next ∈ (Session.resume wp point
                (calm a.toWorld) t.session).2,
              (Point.session next).ofProvider = true := by
        cases hAsked : asked point with
        | some login =>
            simp only [Point.ofProvider, hAsked, Option.some_or,
              Option.any_some] at hProvider
            exact resume_asked_ofProvider wp a.toWorld
              t.session hAsked hProvider
        | none =>
            cases hAccepted : accepted point with
            | some login =>
                simp only [Point.ofProvider, hAsked, hAccepted,
                  Option.none_or, Option.any_some] at hProvider
                exact resume_accepted_ofProvider wp a.toWorld
                  t.session hAccepted hProvider
            | none =>
                simp [Point.ofProvider, hAsked, hAccepted]
                  at hProvider
      have hBack :=
        callBacks_callsBack (savedPassword point)
          { t with
            session :=
              (Session.resume wp point (calm a.toWorld)
                t.session).1 }
          ((Session.resume wp point (calm a.toWorld)
              t.session).1.callbacks.drop
            t.session.callbacks.length)
      rw [hTurn]
      refine ⟨?_, ?_⟩
      · simp only [resumeSession, hBack.session]
        exact hSession.1
      · intro j hMem
        rcases List.mem_append.mp hMem with hOwn | hCalled
        · rcases List.mem_map.mp hOwn with ⟨next, hNext, rfl⟩
          exact hSession.2 next hNext
        · rw [hBack.points j hCalled]
          rfl
  | playAnimation login => exact callModel_ofProvider t hProvider
  | performRequests =>
      simp only [resume]
      split
      · exact ⟨rfl, by simp [Point.ofProvider, isProvider]⟩
      · exact ⟨rfl, by simp⟩
  | playToVerify =>
      exact ⟨rfl, by simp [resume, Point.ofProvider]⟩
  | signInWithCredential =>
      simp only [resume]
      split
      · exact ⟨rfl, by simp [Point.ofProvider]⟩
      · exact ⟨rfl, by simp [Point.ofProvider]⟩
      · exact callModel_ofProvider t rfl
  | stopAnimation => exact ⟨rfl, by simp [resume]⟩
  | stopToFail message => exact ⟨rfl, by simp [resume]⟩
  | _ => cases hProvider

end LoginScreen

end NewsCentral

------------------------------------------------------------
-- Attempts
------------------------------------------------------------

namespace NewsCentral

open Dart EventLoop

namespace LoginScreen

variable {wp : WordPress} {s : Session} {t : LoginScreen}

/- How many turns a point can lead to, with its own. -/
def Point.rank : Point → Nat
  | .session point => 6 * point.rank + 2
  | .playAnimation _ => 63
  | .performRequests => 64
  | .playToVerify => 64
  | .signInWithCredential => 63
  | .stopAnimation => 1
  | .stopToFail _ => 1
  | .stopToWelcome => 1
  | .signInWithEmail .. => 4
  | .createAccount .. => 2
  | .signInWithNew .. => 1

/- A turn of the session calls at most one callback. -/
theorem resume_calls_one
    (wp : WordPress)
    (point : Session.Point)
    (w : Session.World)
    (r : Session) :
    ∃ called : List Callback, called.length ≤ 1 ∧
      (Session.resume wp point (calm w) r).1.callbacks =
        r.callbacks ++ called := by
  have hFails (login : Session.Login) (e : Thrown) :
      ∃ called : List Callback, called.length ≤ 1 ∧
        (Session.failLogin login e (calm w) r).callbacks =
          r.callbacks ++ called := by
    rcases Session.failLogin_frame login e (calm w) r with
      ⟨_, arguments, hEq⟩
    exact ⟨[.fail arguments], by simp, by rw [hEq]; rfl⟩
  have hQuiet :
      ∃ called : List Callback, called.length ≤ 1 ∧
        r.callbacks = r.callbacks ++ called :=
    ⟨[], by simp, by simp⟩
  cases point with
  | saved login user =>
      refine ⟨[.success r.user], by simp, ?_⟩
      cases login <;> rfl
  | blogReady caller file data =>
      simp only [Session.resume]
      generalize
        (if ((calm w).throws.isNone && (calm w).ready) = true
          then r.storage.jwtToken else some "") = token
      cases token <;> cases file <;> exact hQuiet
  | facebookLogIn =>
      simp only [Session.resume]
      split
      · exact hFails _ _
      · exact hQuiet
      · exact ⟨[_], by simp, rfl⟩
      · exact ⟨[_], by simp, rfl⟩
  | _ =>
      simp only [Session.resume, Session.orElseSaved,
        Session.loadUser]
      repeat' split
      all_goals first
        | exact hQuiet
        | exact hFails _ _

/- A callback leaves at most the animation behind. -/
theorem callBack_rank
    (isPassword : Bool)
    (t : LoginScreen)
    (callback : Callback) :
    ((callBack isPassword t callback).2.map Point.rank).sum ≤
      1 := by
  cases callback with
  | success user =>
      simp only [callBack]
      split <;> simp [Point.rank]
  | fail arguments =>
      rcases arguments with _ | ⟨message, _ | ⟨_, _⟩⟩ <;>
        simp [callBack, Point.rank]

theorem callBacks_rank
    (isPassword : Bool)
    {called : List Callback}
    (hOne : called.length ≤ 1) :
    ((callBacks isPassword t called).2.map Point.rank).sum ≤
      1 := by
  rcases called with _ | ⟨callback, _ | ⟨_, _⟩⟩
  · simp [callBacks]
  · simpa [callBacks] using callBack_rank isPassword t callback
  · simp at hOne

/- The session leaves a point behind that is nearer its end. -/
theorem resumeSession_rank
    (wp : WordPress)
    (point : Session.Point)
    (w : Session.World)
    (t : LoginScreen) :
    let left :=
      ((resumeSession wp point w t).2.map Point.rank).sum
    left ≤ 1 ∨ left + 3 ≤ 6 * point.rank := by
  rcases resume_calls_one wp point w t.session with
    ⟨called, hOne, hCalls⟩
  unfold resumeSession
  simp only [hCalls, List.drop_left, List.map_append,
    List.sum_append]
  have hShown :=
    callBacks_rank
      (t :=
        { t with
          session :=
            (Session.resume wp point (calm w) t.session).1 })
      (savedPassword point) hOne
  rcases Session.resume_rank wp point (calm w) t.session with
    hNone | ⟨next, hNext, hLess⟩
  · left
    rw [hNone]
    simpa using hShown
  · right
    rw [hNext]
    simp only [List.map_cons, List.map_nil, List.sum_cons,
      List.sum_nil, Point.rank]
    omega

/- Every turn leaves less to do. -/
theorem resume_rank
    (wp : WordPress)
    (k : Point)
    (a : Answer)
    (t : LoginScreen) :
    ((resume wp k a t).2.map Point.rank).sum < k.rank := by
  have hModel (login : Session.Login) :
      ((callModel login t).2.map Point.rank).sum < 63 := by
    cases login <;>
      simp [callModel, Session.startLogin, Point.rank,
        Session.Point.rank]
  cases k with
  | session point =>
      have hLeft := resumeSession_rank wp point a.toWorld t
      cases point with
      | jwtAuth user username password own =>
          simp only [resume, afterToken, Point.rank,
            Session.Point.rank] at hLeft ⊢
          split
          · simp only [List.map_append, List.sum_append,
              List.map_cons, List.map_nil, List.sum_cons,
              List.sum_nil, Point.rank]
            omega
          · simp only
            omega
      | _ =>
          simp only [resume, Point.rank,
            Session.Point.rank] at hLeft ⊢
          omega
  | playAnimation login => exact hModel login
  | signInWithCredential =>
      simp only [resume]
      split
      · simp [Point.rank]
      · simp [Point.rank]
      · exact hModel _
  | _ =>
      simp only [resume]
      repeat' split
      all_goals simp [Point.rank]

/- A tap leaves the attempt waiting at one point. -/
theorem onItsWay_attempted
    {attempt : Attempt}
    (hIdle : s.loading = false ∨ attempt.isPassword = true) :
    OnItsWay s (attempted attempt s).shared
      (attempted attempt s).pending := by
  have hProvider
      (hNot : attempt.isPassword = false) :
      s.loading = false := by
    rcases hIdle with hFalse | hPassword
    · exact hFalse
    · rw [hNot] at hPassword
      cases hPassword
  cases attempt with
  | login =>
      exact .waits rfl rfl ⟨rfl, .inr rfl, rfl, rfl⟩
  | loginGoogle =>
      exact .waits rfl rfl
        ⟨rfl, .inl (hProvider rfl), rfl, rfl⟩
  | loginFacebook =>
      exact .waits rfl rfl
        ⟨rfl, .inl (hProvider rfl), rfl, rfl⟩
  | loginApple =>
      exact .waits rfl rfl ⟨hProvider rfl, rfl, rfl⟩
  | loginSMS =>
      exact .waits rfl rfl ⟨hProvider rfl, rfl, rfl⟩

/- With a provider, the model loads on if it did before. -/
theorem loading_of_run
    {attempt : Attempt}
    {es : List (Event Empty Answer)}
    {p : Pool LoginScreen Point}
    (hProvider : attempt.isPassword = false)
    (hRun :
      (program wp).system.Run System.anyStep
        (attempted attempt s) es p) :
    p.shared.session.loading = s.loading := by
  have hKept :
      p.shared.session.loading = s.loading ∧
        ∀ k ∈ p.pending, k.ofProvider = true := by
    refine Program.run_invariant
      (I := fun _ t pending =>
        t.session.loading = s.loading ∧
          ∀ k ∈ pending, k.ofProvider = true)
      (Program.run_when_true hRun) ?_ ?_ ?_
    · cases attempt with
      | login => cases hProvider
      | _ => exact ⟨rfl, by simp [attempted, start,
          Point.ofProvider, isProvider]⟩
    · exact fun _ _ _ i => i.elim
    · intro _ t earlier k later a hInv _ _
      have hTurn :=
        resume_ofProvider wp t a (hInv.2 k (by simp))
      refine ⟨hTurn.1.trans hInv.1, ?_⟩
      intro j hMem
      rcases List.mem_append.mp hMem with hOld | hNew
      · exact hInv.2 j (mem_of_mem_rest hOld)
      · exact hTurn.2 j hNew
  exact hKept.1

/-
  An attempt is over after at most 64 turns, with whatever
  answers; at its end it has ended cleanly exactly if the
  model was idle before it, or it is one with a password,
  and all its answers left a notice to come and threw
  nothing past the handlers.
-/
theorem attempt_endsCleanly_iff
    {attempt : Attempt}
    {es : List (Event Empty Answer)}
    {p : Pool LoginScreen Point}
    (hRun :
      (program wp).system.Run System.anyStep
        (attempted attempt s) es p) :
    es.length ≤ 64 ∧
      (p.Quiescent →
        (EndsCleanly s p.shared ↔
          (s.loading = false ∨ attempt.isPassword = true) ∧
            (program wp).system.Run
              (Program.when (fun _ _ _ => True)
                (answersCleanly wp))
              (attempted attempt s) es p)) := by
  constructor
  · have hLength :=
      Program.length_add_rank_le Point.rank
        (fun k a t => resume_rank wp k a t)
        (fun i => i.elim) hRun
    have hStart :
        ((attempted attempt s).pending.map Point.rank).sum ≤
          64 := by
      cases attempt <;> simp [attempted, start, Point.rank]
    omega
  · intro hEnd
    constructor
    · intro hClean
      have hIdle :
          s.loading = false ∨ attempt.isPassword = true := by
        cases hPassword : attempt.isPassword with
        | true => exact .inr rfl
        | false =>
            left
            rw [← loading_of_run hPassword hRun]
            exact hClean.loading
      have hEither :
          ((program wp).system.Run
              (Program.when (fun _ _ _ => True)
                (answersCleanly wp))
              (attempted attempt s) es p ∧
            OnItsWay s p.shared p.pending) ∨
          GoneWrong p.shared p.pending := by
        refine Program.admitted_or_broken hRun
          (onItsWay_attempted hIdle) ?_ ?_ ?_ ?_
        · exact fun _ _ i => i.elim
        · exact fun _ _ _ _ _ hWay => resume_onItsWay hWay
        · exact fun _ _ i => i.elim
        · exact fun _ _ _ _ _ hWrong => hWrong.resume
      rcases hEither with ⟨hOk, _⟩ | hWrong
      · exact ⟨hIdle, hOk⟩
      · exact absurd hClean hWrong.not_endsCleanly
    · intro hBoth
      have hWay : OnItsWay s p.shared p.pending := by
        refine Program.run_invariant
          (I := fun _ t pending => OnItsWay s t pending)
          hBoth.2 (onItsWay_attempted hBoth.1) ?_ ?_
        · exact fun _ _ _ i => i.elim
        · exact fun _ _ _ _ _ _ hWay hAnswer _ =>
            (resume_onItsWay hWay).1 hAnswer
      rw [hEnd] at hWay
      exact hWay.endsCleanly

/- The service of the site. -/
def service : WordPress :=
  .setAppConfig "https://x"

/- The dialog of Google is cancelled. -/
theorem cancelled_google_endsCleanly :
    ∃ p,
      (program service).system.Run System.anyStep
        (attempted .loginGoogle {})
        (turns 3 { account := false }) p ∧
      p.Quiescent ∧
      EndsCleanly {} p.shared := by
  have hRun :
      ∃ p,
        (program service).system.Run
          (Program.when (fun _ _ _ => True)
            (answersCleanly service))
          (attempted .loginGoogle {})
          (turns 3 { account := false }) p ∧
        p.Quiescent :=
    ⟨_, System.run_iff_exec.mpr ⟨by decide, rfl⟩, rfl⟩
  rcases hRun with ⟨p, hRun, hEnd⟩
  exact ⟨p, hRun.any, hEnd,
    ((attempt_endsCleanly_iff hRun.any).2 hEnd).mpr
      ⟨.inl rfl, hRun⟩⟩

/-
  The service cannot be reached after the code of the SMS
  was right: no notice is shown, and the screen stays busy.
-/
theorem refused_sms_never_stops :
    ∃ p,
      (program service).system.Run System.anyStep
        (attempted .loginSMS {})
        (turns 3 { user := some (some "+2348000000000") }) p ∧
      p.Quiescent ∧
      p.shared.notices = [] ∧
      p.shared.isLoading = true ∧
      p.shared.uncaught = [.noSuchMethod "call"] ∧
      ¬ EndsCleanly {} p.shared := by
  refine ⟨_, System.run_of_exec rfl, rfl, rfl, rfl, rfl, ?_⟩
  intro hClean
  exact absurd hClean.isLoading (by decide)

end LoginScreen

end NewsCentral
