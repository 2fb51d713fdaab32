import NewsCentral.Launch.Program

/-
  Who is welcomed by an attempt to log in.

  The screens welcome the user whom the success callback was
  given.  Of all but the password login this is the user in
  session at that very turn; a password login asks for the
  posting token and signs in with Firebase in between.

  Key definitions include:
    * `NewsCentral.Launch.isWelcoming`
    * `NewsCentral.Launch.Vouched`

  Key theorems include:
    * `NewsCentral.Launch.resumeSession_vouched`
    * `NewsCentral.Launch.loginTurn_vouched`
-/

------------------------------------------------------------
-- What A Login Does
------------------------------------------------------------

namespace NewsCentral

open Dart EventLoop

namespace Launch

/- The points of a password login that is yet to welcome. -/
def isWelcoming : LoginScreen.Point → Bool
  | .session (.jwtAuth ..) => true
  | .signInWithEmail .. => true
  | .stopToWelcome => true
  | _ => false

/- The user is kept, or given by a success callback. -/
theorem given_cases
    (user : Option User)
    (callbacks : List Callback) :
    given user callbacks = user ∧
        (∀ other, Callback.success other ∉ callbacks) ∨
      Callback.success (given user callbacks) ∈ callbacks := by
  induction callbacks generalizing user with
  | nil => exact .inl ⟨rfl, by simp⟩
  | cons callback callbacks ih =>
      cases callback with
      | success other =>
          right
          rcases ih other with ⟨hSame, _⟩ | hMem
          · simp [given, hSame]
          · exact List.mem_cons_of_mem _ hMem
      | fail arguments =>
          rcases ih user with ⟨hSame, hNone⟩ | hMem
          · exact .inl ⟨hSame, by simpa using hNone⟩
          · exact .inr (List.mem_cons_of_mem _ hMem)

theorem called_of_append
    {s t : Session}
    {callbacks : List Callback}
    (hAdded : t.callbacks = s.callbacks ++ callbacks) :
    called s t = callbacks := by
  simp [called, hAdded]

/-
  What a turn of a login whose success callback has given a
  user, if it has, may go by: a point that is yet to welcome
  has been given one before, or there is a user in session.
-/
structure Vouched
    (user : Option User)
    (point : LoginScreen.Point)
    (s : Session)
    (r : LoginScreen × List LoginScreen.Point) : Prop where
  keeps :
    s.user.isSome = true → r.1.session.user.isSome = true
  points :
    (given user (called s r.1.session)).isSome = true →
      ∀ k ∈ r.2, isWelcoming k = true →
        isWelcoming point = true ∧ user.isSome = true ∨
          r.1.session.user.isSome = true
  welcome :
    (given user (called s r.1.session)).isSome = true →
      .welcome ∈ r.1.notices →
        point = .stopToWelcome ∧ user.isSome = true ∨
          r.1.session.user.isSome = true

variable {wp : WordPress} {s : Session}

/- A session goes on with its user, or with another. -/
theorem resume_keeps_user
    (wp : WordPress)
    (k : Session.Point)
    (w : Session.World)
    (hUser : s.user.isSome = true) :
    (Session.resume wp k w s).1.user.isSome = true := by
  have hBegun := Session.resume_begun wp k w s
  cases hOther : Session.begun wp k w s with
  | some other =>
      rw [hOther] at hBegun
      rw [(Prod.mk.inj hBegun).1]
      rfl
  | none =>
      rw [hOther] at hBegun
      rw [(Prod.mk.inj hBegun).1]
      exact hUser

/- At the end of a login its session has not changed. -/
theorem resume_saved_user
    {k : Session.Point}
    {w : Session.World}
    (hSaved : k.isSaved = true) :
    (Session.resume wp k w s).1.user = s.user := by
  have hBegun := Session.resume_begun wp k w s
  cases k with
  | saved login user => exact (Prod.mk.inj hBegun).1
  | _ => cases hSaved

/- The callbacks leave the session as the turn left it. -/
theorem resumeSession_session
    (wp : WordPress)
    (s : Session)
    (k : Session.Point)
    (w : Session.World) :
    (LoginScreen.resumeSession wp k w
        { session := s }).1.session =
      (Session.resume wp k (LoginScreen.calm w) s).1 :=
  (LoginScreen.callBacks_callsBack _ _ _).session

/-
  A turn of the session: who is welcomed, or asks for the
  posting token, has just been given the user in session.
-/
theorem resumeSession_vouched
    (wp : WordPress)
    (s : Session)
    (user : Option User)
    (k : Session.Point)
    (w : Session.World) :
    Vouched user (.session k) s
      (LoginScreen.resumeSession wp k w { session := s }) := by
  rcases Session.resume_callbacks wp k (LoginScreen.calm w) s
    with ⟨callbacks, hCalls⟩
  have hCalled := called_of_append hCalls.added
  have hBack :=
    LoginScreen.callBacks_callsBack (LoginScreen.savedPassword k)
      { session :=
          (Session.resume wp k (LoginScreen.calm w) s).1 }
      (called s
        (Session.resume wp k (LoginScreen.calm w) s).1)
  have hSession := resumeSession_session wp s k w
  have hGiven
      {other : Option User}
      (hMem : Callback.success other ∈ callbacks)
      (hSome : (given user callbacks).isSome = true) :
      (Session.resume wp k
        (LoginScreen.calm w) s).1.user.isSome = true := by
    rcases given_cases user callbacks with
      ⟨_, hNone⟩ | hLast
    · exact absurd hMem (hNone other)
    · rcases (hCalls.success _).mp hLast with ⟨hSaved, hUser⟩
      rw [resume_saved_user hSaved, ← hUser]
      exact hSome
  constructor
  · intro hUser
    rw [hSession]
    exact resume_keeps_user wp k _ hUser
  · rw [hSession, hCalled]
    intro hSome point hMem hWelcoming
    right
    rcases List.mem_append.mp hMem with hMem | hMem
    · rcases List.mem_map.mp hMem with ⟨next, hNext, rfl⟩
      cases next with
      | jwtAuth other username password own =>
          have hSaved :=
            Session.isSaved_of_jwtAuth_mem hNext
          exact hGiven
            ((hCalls.success s.user).mpr ⟨hSaved, rfl⟩) hSome
      | _ => cases hWelcoming
    · rw [hBack.points point hMem] at hWelcoming
      cases hWelcoming
  · rw [hSession, hCalled]
    intro hSome hMem
    right
    rcases hBack.welcome hMem with hMem | ⟨other, hMem⟩
    · cases hMem
    · rw [hCalled] at hMem
      exact hGiven hMem hSome

/- A turn that calls nobody, and keeps the user. -/
theorem vouched_of_quiet
    {user : Option User}
    {point : LoginScreen.Point}
    {r : LoginScreen × List LoginScreen.Point}
    (hUser : r.1.session.user = s.user)
    (hCallbacks : r.1.session.callbacks = s.callbacks)
    (hPoints :
      ∀ k ∈ r.2, isWelcoming k = true →
        isWelcoming point = true)
    (hWelcome :
      .welcome ∈ r.1.notices → point = .stopToWelcome) :
    Vouched user point s r := by
  have hNone : called s r.1.session = [] :=
    called_of_append (by simpa using hCallbacks)
  have hGiven : given user (called s r.1.session) = user := by
    rw [hNone]
    rfl
  constructor
  · rw [hUser]
    exact id
  · rw [hGiven]
    intro hSome k hMem hWelcoming
    exact .inl ⟨hPoints k hMem hWelcoming, hSome⟩
  · rw [hGiven]
    intro hSome hMem
    exact .inl ⟨hWelcome hMem, hSome⟩

/- The call of a method of `UserModel` calls nobody back. -/
theorem callModel_vouched
    (user : Option User)
    (point : LoginScreen.Point)
    (login : Session.Login) :
    Vouched user point s
      (LoginScreen.callModel login { session := s }) := by
  cases login <;>
    exact vouched_of_quiet rfl rfl
      (by simp [LoginScreen.callModel, Session.startLogin,
        isWelcoming])
      (by simp [LoginScreen.callModel])

/- What was given before the posting token was asked for. -/
theorem given_of_not_saved
    (user : Option User)
    (w : Session.World)
    {k : Session.Point}
    (hSaved : k.isSaved = false) :
    given user (called s (Session.resume wp k w s).1) =
      user := by
  rcases Session.resume_callbacks wp k w s with
    ⟨callbacks, hCalls⟩
  rw [called_of_append hCalls.added]
  rcases given_cases user callbacks with ⟨hSame, _⟩ | hMem
  · exact hSame
  · have hNot := ((hCalls.success _).mp hMem).1
    rw [hSaved] at hNot
    cases hNot

/- The success callback goes on to Firebase. -/
theorem afterToken_vouched
    {user : Option User}
    {other : User}
    {username password : String}
    {own : Bool}
    {w : Session.World}
    {token : Except Thrown (Option String)}
    (hVouched :
      Vouched user
        (.session (.jwtAuth other username password own)) s
        (LoginScreen.resumeSession wp
          (.jwtAuth other username password own) w
          { session := s })) :
    Vouched user
      (.session (.jwtAuth other username password own)) s
      (LoginScreen.afterToken username password token
        (LoginScreen.resumeSession wp
          (.jwtAuth other username password own) w
          { session := s })) := by
  have hGiven :
      given user
          (called s
            (LoginScreen.resumeSession wp
              (.jwtAuth other username password own) w
              { session := s }).1.session) =
        user := by
    rw [resumeSession_session]
    exact given_of_not_saved user _ rfl
  cases token with
  | error e =>
      exact ⟨hVouched.keeps, hVouched.points,
        hVouched.welcome⟩
  | ok token =>
      refine ⟨hVouched.keeps, ?_, hVouched.welcome⟩
      intro hSome k hMem hWelcoming
      rcases List.mem_append.mp hMem with hMem | hMem
      · exact hVouched.points hSome k hMem hWelcoming
      · left
        refine ⟨rfl, ?_⟩
        rw [← hGiven]
        exact hSome

/- Each turn of an attempt is vouched for. -/
theorem loginTurn_vouched
    (wp : WordPress)
    (s : Session)
    (user : Option User)
    (point : LoginScreen.Point)
    (a : LoginScreen.Answer) :
    Vouched user point s
      (LoginScreen.resume wp point a { session := s }) := by
  cases point with
  | session k =>
      have hVouched :=
        resumeSession_vouched wp s user k a.toWorld
      cases k with
      | jwtAuth other username password own =>
          simp only [LoginScreen.resume]
          exact afterToken_vouched hVouched
      | _ => exact hVouched
  | playAnimation login => exact callModel_vouched _ _ login
  | performRequests =>
      simp only [LoginScreen.resume]
      split <;>
        exact vouched_of_quiet rfl rfl (by simp [isWelcoming])
          (by simp)
  | signInWithCredential =>
      simp only [LoginScreen.resume]
      split
      · exact vouched_of_quiet rfl rfl (by simp [isWelcoming])
          (by simp)
      · exact vouched_of_quiet rfl rfl (by simp [isWelcoming])
          (by simp)
      · exact callModel_vouched _ _ _
  | signInWithEmail email password =>
      simp only [LoginScreen.resume]
      repeat' split
      all_goals
        exact vouched_of_quiet rfl rfl (by simp [isWelcoming])
          (by simp)
  | createAccount email password =>
      simp only [LoginScreen.resume]
      split <;>
        exact vouched_of_quiet rfl rfl (by simp [isWelcoming])
          (by simp)
  | stopToWelcome =>
      exact vouched_of_quiet rfl rfl
        (by simp [LoginScreen.resume]) (by simp)
  | _ =>
      exact vouched_of_quiet rfl rfl
        (by simp [LoginScreen.resume, isWelcoming])
        (by simp [LoginScreen.resume])

end Launch

end NewsCentral
