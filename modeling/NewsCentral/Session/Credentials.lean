import NewsCentral.Services.Logins
import NewsCentral.Session.Turns

/-
  Which login answers open a session without credentials.

  The social logins check id and cookie before they decode,
  the password logins rely on the account they read back,
  and the Apple and SMS logins check nothing.  A login that
  runs undisturbed ends with credentials or without a trace
  exactly if its answers are complete.

  Key definitions include:
    * `NewsCentral.Session.Untouched`
    * `NewsCentral.Session.CredentialsOrUntouched`
    * `NewsCentral.Session.Login.AnswerComplete`
    * `NewsCentral.Session.Login.dialogToken`

  Key theorems include:
    * `NewsCentral.Session.callService_sound_iff`
    * `NewsCentral.Session.attempt_credentials_iff`
-/

------------------------------------------------------------
-- Sound Endings
------------------------------------------------------------

namespace NewsCentral

open Dart Json EventLoop

namespace Session

/-
  Still logged out: the stores are as they were and only
  failure callbacks have been called.
-/
structure Untouched (s t : Session) : Prop where
  user : t.user = none
  loggedIn : t.loggedIn = false
  userInfo : t.storage.userInfo = s.storage.userInfo
  prefs : t.prefs = s.prefs
  callbacks :
    ∃ failures : List (List String),
      t.callbacks =
        s.callbacks ++ failures.map Callback.fail

/- A login ends with credentials or without a trace. -/
def CredentialsOrUntouched (s t : Session) : Prop :=
  (∃ user, t.user = some user ∧ user.HasCredentials) ∨
    Untouched s t

/- The login is drained from its call to its end. -/
def attempted
    (wp : WordPress)
    (respond : Point → World)
    (login : Login)
    (s : Session) : Pool Session Point :=
  (program wp).drain respond 11
    ⟨(startLogin login s).1, (startLogin login s).2⟩

/- A logged-out state has not been touched. -/
theorem Untouched.refl
    {s : Session}
    (hUser : s.user = none)
    (hLoggedIn : s.loggedIn = false) :
    Untouched s s where
  user := hUser
  loggedIn := hLoggedIn
  userInfo := rfl
  prefs := rfl
  callbacks := ⟨[], by simp⟩

/- Failure callbacks leave no trace. -/
theorem Untouched.withFailures
    {s t : Session}
    (hUntouched : Untouched s t)
    (loading : Bool)
    (failures : List (List String)) :
    Untouched s
      (t.withCallbacks loading
        (t.callbacks ++ failures.map Callback.fail)) where
  user := hUntouched.user
  loggedIn := hUntouched.loggedIn
  userInfo := hUntouched.userInfo
  prefs := hUntouched.prefs
  callbacks := by
    rcases hUntouched.callbacks with ⟨earlier, hEq⟩
    exact ⟨earlier ++ failures, by simp [withCallbacks, hEq]⟩

theorem Untouched.failLogin
    {s t : Session}
    (hUntouched : Untouched s t)
    (login : Login)
    (e : Thrown)
    (w : World) :
    Untouched s (Session.failLogin login e w t) := by
  rcases failLogin_frame login e w t with
    ⟨loading, arguments, hEq⟩
  rw [hEq]
  exact hUntouched.withFailures loading [arguments]

theorem Untouched.facebookRefused
    {s t : Session}
    (hUntouched : Untouched s t)
    (message : String)
    (w : World) :
    Untouched s (Session.facebookRefused message w t) := by
  rcases facebookRefused_frame message w t with
    ⟨failures, hEq⟩
  rw [hEq]
  exact hUntouched.withFailures t.loading failures

/- A user in session is the trace a login leaves. -/
theorem credentialsOrUntouched_iff_of_user
    {s t : Session}
    {user : User}
    (hUser : t.user = some user) :
    CredentialsOrUntouched s t ↔ user.HasCredentials := by
  constructor
  · rintro (⟨other, hOther, hHas⟩ | hUntouched)
    · rw [hUser] at hOther
      cases hOther
      exact hHas
    · rw [hUntouched.user] at hUser
      cases hUser
  · intro hHas
    exact .inl ⟨user, hUser, hHas⟩

end Session

end NewsCentral

------------------------------------------------------------
-- Complete Answers
------------------------------------------------------------

namespace NewsCentral

open Dart Json EventLoop

namespace Session

namespace Login

/-
  The account answer of the service names an id.  It is
  asked with the cookie the first answer gave.
-/
def AccountComplete
    (wp : WordPress)
    (http : Http)
    (cookie : Json) : Prop :=
  ∀ fields account,
    WordPress.Accepted http (wp.userInfoRequest cookie)
      (.obj fields) →
    field fields "user" = .obj account →
    field account "id" ≠ .null

/-
  A social answer with id and cookie is complete in the
  other fields read before the cookie as well.
-/
def SocialComplete
    (wp : WordPress)
    (http : Http)
    (path : String)
    (token : Option String) : Prop :=
  ∀ fields,
    WordPress.Answers http (wp.socialRequest path token)
      (.obj fields) →
    field fields "wp_user_id" ≠ .null →
    field fields "cookie" ≠ .null →
    User.FBAnswerComplete fields

/- An answer of the Apple or SMS plugin is complete. -/
def PhoneComplete
    (http : Http)
    (request : Request) : Prop :=
  ¬ WordPress.Answers http request .null ∧
    ∀ fields,
      WordPress.Answers http request (.obj fields) →
      User.SMSAnswerComplete fields

/-
  What the answers to the requests of a login have to hold.
  Answers that the service refuses are not restricted.
-/
def AnswerComplete
    (wp : WordPress)
    (http : Http)
    (token : Option String) : Login → Prop
  | .login username password _ _ =>
      ∀ fields cookie,
        WordPress.Accepted http
          (wp.loginRequest (some username) (some password))
          (.obj fields) →
        field fields "cookie" = .str cookie →
        WordPress.isNotBlank (some cookie) = true →
        AccountComplete wp http (.str cookie)
  | .createUser firstName lastName username password =>
      ∀ name fields,
        WordPress.niceName firstName lastName = .ok name →
        WordPress.Accepted http
          (wp.createUserRequest name username password)
          (.obj fields) →
        field fields "message" = .null →
        (field fields "cookie").isNullableText = true →
        (∃ body account,
          WordPress.Accepted http
            (wp.userInfoRequest (field fields "cookie"))
            (.obj body) ∧
          field body "user" = .obj account) →
        field fields "cookie" ≠ .null ∧
          AccountComplete wp http (field fields "cookie")
  | .loginGoogle => SocialComplete wp http "google_login" token
  | .loginFB => SocialComplete wp http "fb_connect" token
  | .loginApple email fullName =>
      ∀ address, email = some address →
        PhoneComplete http (wp.appleRequest address fullName)
  | .loginFirebaseSMS phoneNumber =>
      PhoneComplete http (wp.smsRequest phoneNumber)

/-
  The token with which a login calls the service, none when
  its sign-in dialogs end the login before.
-/
def dialogToken
    (respond : Point → World) :
    Login → Option (Option String)
  | .loginGoogle =>
      let signIn := respond .googleSignIn
      let authentication := respond .googleAuthentication
      if signIn.throws = none ∧ signIn.account = true ∧
          authentication.throws = none then
        some authentication.accessToken
      else
        none
  | .loginFB =>
      let logIn := respond .facebookLogIn
      let credential :=
        respond (.facebookCredential logIn.accessToken)
      match logIn.facebook with
      | .loggedIn =>
          if logIn.throws = none ∧ credential.throws = none then
            some logIn.accessToken
          else
            none
      | _ => none
  | _ => some none

end Login

end Session

end NewsCentral

------------------------------------------------------------
-- Users The Service Returns
------------------------------------------------------------

namespace NewsCentral

open Dart Json EventLoop WordPress

namespace Session

variable {wp : WordPress} {http : Http}

/- The stored password is no credential of the account. -/
theorem fromAuthUser_withPassword_iff
    (account : List (String × Json))
    (password : Json)
    (cookie : Option String) :
    (User.fromAuthUser
        (.obj (("password", password) ::
          account.filter fun entry => entry.1 ≠ "password"))
        cookie).HasCredentials ↔
      field account "id" ≠ .null ∧ cookie ≠ none := by
  have hField :
      field
          (("password", password) ::
            account.filter fun entry =>
              entry.1 ≠ "password")
          "id" =
        field account "id" :=
    field_setIndex_of_ne (by decide)
  rw [User.fromAuthUser_hasCredentials_iff]
  constructor
  · rintro ⟨⟨fields, hEq, hId⟩, hCookie⟩
    cases hEq
    rw [hField] at hId
    exact ⟨hId, hCookie⟩
  · rintro ⟨hId, hCookie⟩
    rw [← hField] at hId
    exact ⟨⟨_, rfl, hId⟩, hCookie⟩

theorem socialLogin_sound_iff
    {path errorKey : String}
    {token : Option String} :
    (∀ user,
        wp.socialLogin http path errorKey token = .ok user →
        user.HasCredentials) ↔
      Login.SocialComplete wp http path token := by
  simp only [socialLogin_eq_ok_iff]
  constructor
  · intro hSound fields hAnswers hId hCookie
    rw [← User.fromJsonFB_hasCredentials_iff]
    exact hSound _ ⟨fields, hAnswers, hId, hCookie, rfl⟩
  · rintro hComplete user
      ⟨fields, hAnswers, hId, hCookie, rfl⟩
    rw [User.fromJsonFB_hasCredentials_iff]
    exact hComplete fields hAnswers hId hCookie

/- The answers of the unchecked methods, decoded. -/
theorem phone_sound_iff
    {request : Request} :
    (∀ user body,
        Answers http request body ∧
          (body = .null ∨ ∃ fields, body = .obj fields) ∧
          user = User.fromJsonSMS body →
        user.HasCredentials) ↔
      Login.PhoneComplete http request := by
  constructor
  · intro hSound
    constructor
    · intro hNull
      have hBlank := hSound _ _ ⟨hNull, .inl rfl, rfl⟩
      exact absurd hBlank (by decide)
    · intro fields hAnswers
      rw [← User.fromJsonSMS_hasCredentials_iff]
      exact hSound _ _ ⟨hAnswers, .inr ⟨fields, rfl⟩, rfl⟩
  · rintro ⟨hNotNull, hComplete⟩ user body
      ⟨hAnswers, hNull | ⟨fields, hObj⟩, hUser⟩
    · rw [hNull] at hAnswers
      exact absurd hAnswers hNotNull
    · rw [hUser, hObj, User.fromJsonSMS_hasCredentials_iff]
      rw [hObj] at hAnswers
      exact hComplete fields hAnswers

/- The account read back with a text cookie has an id. -/
theorem getUserInfo_sound_iff
    {cookie : String}
    {password : Option String} :
    (∀ user,
        wp.getUserInfo http (.str cookie) password =
          .ok user →
        user.HasCredentials) ↔
      Login.AccountComplete wp http (.str cookie) := by
  simp only [getUserInfo_eq_ok_iff]
  constructor
  · intro hSound fields account hAccepted hAccount
    have hHas := hSound _
      ⟨fields, account, some cookie, hAccepted, hAccount,
        rfl, rfl⟩
    exact ((fromAuthUser_withPassword_iff _ _ _).mp hHas).1
  · rintro hComplete user
      ⟨fields, account, text, hAccepted, hAccount, hText, rfl⟩
    rw [fromAuthUser_withPassword_iff]
    cases hText
    exact ⟨hComplete fields account hAccepted hAccount,
      by simp⟩

theorem login_sound_iff
    {username password : Option String} :
    (∀ user,
        wp.login http username password = .ok user →
        user.HasCredentials) ↔
      ∀ fields cookie,
        Accepted http (wp.loginRequest username password)
          (.obj fields) →
        field fields "cookie" = .str cookie →
        isNotBlank (some cookie) = true →
        Login.AccountComplete wp http (.str cookie) := by
  simp only [login_eq_ok_iff]
  constructor
  · intro hSound fields cookie hAccepted hCookie hBlank
    rw [← getUserInfo_sound_iff]
    intro user hUser
    exact hSound user
      ⟨fields, cookie, hAccepted, hCookie, hBlank, hUser⟩
  · rintro hComplete user
      ⟨fields, cookie, hAccepted, hCookie, hBlank, hUser⟩
    exact getUserInfo_sound_iff.mpr
      (hComplete fields cookie hAccepted hCookie hBlank)
      user hUser

/-
  The account of a registration that gave no cookie lacks
  one; a cookie that is no text never gets this far.
-/
theorem registered_sound_iff
    {cookie : Json}
    (password : Option String) :
    (∀ user,
        wp.getUserInfo http cookie password = .ok user →
        user.HasCredentials) ↔
      (cookie.isNullableText = true →
        (∃ body account,
          Accepted http (wp.userInfoRequest cookie)
            (.obj body) ∧
          field body "user" = .obj account) →
        cookie ≠ .null ∧
          Login.AccountComplete wp http cookie) := by
  cases cookie with
  | null =>
      simp only [getUserInfo_eq_ok_iff]
      constructor
      · rintro hSound - ⟨body, account, hAccepted, hAccount⟩
        have hHas := hSound _
          ⟨body, account, none, hAccepted, hAccount, rfl, rfl⟩
        exact absurd rfl
          ((fromAuthUser_withPassword_iff _ _ _).mp hHas).2
      · rintro hComplete user
          ⟨body, account, text, hAccepted, hAccount, -, -⟩
        exact absurd rfl
          (hComplete rfl
            ⟨body, account, hAccepted, hAccount⟩).1
  | str cookie =>
      rw [getUserInfo_sound_iff]
      constructor
      · intro hComplete _ _
        exact ⟨by simp, hComplete⟩
      · intro hComplete fields account hAccepted hAccount
        exact (hComplete rfl
          ⟨fields, account, hAccepted, hAccount⟩).2
            fields account hAccepted hAccount
  | _ =>
      simp [getUserInfo_eq_ok_iff, asString, isNullableText]

theorem createUser_sound_iff
    {firstName lastName username password : Option String} :
    (∀ user,
        wp.createUser http firstName lastName username
          password = .ok user →
        user.HasCredentials) ↔
      Login.AnswerComplete wp http none
        (.createUser firstName lastName username password) := by
  simp only [createUser_eq_ok_iff, Login.AnswerComplete]
  constructor
  · intro hSound name fields hName hAccepted hMessage
    refine (registered_sound_iff password).mp ?_
    intro user hUser
    exact hSound user
      ⟨name, fields, hName, hAccepted, hMessage, hUser⟩
  · rintro hComplete user
      ⟨name, fields, hName, hAccepted, hMessage, hUser⟩
    exact (registered_sound_iff password).mpr
      (hComplete name fields hName hAccepted hMessage)
      user hUser

/-
  The service returns only users with credentials exactly
  if its answers are complete.
-/
theorem callService_sound_iff
    {token : Option String}
    (login : Login) :
    (∀ user,
        login.callService wp http token = .ok user →
        user.HasCredentials) ↔
      login.AnswerComplete wp http token := by
  cases login with
  | login username password _ _ => exact login_sound_iff
  | createUser => exact createUser_sound_iff
  | loginGoogle => exact socialLogin_sound_iff
  | loginFB => exact socialLogin_sound_iff
  | loginApple email fullName =>
      simp only [Login.callService, loginApple_eq_ok_iff,
        Login.AnswerComplete, ← phone_sound_iff]
      constructor
      · intro hSound address hEmail user body hBody
        exact hSound user ⟨address, body, hEmail, hBody⟩
      · rintro hSound user ⟨address, body, hEmail, hBody⟩
        exact hSound address hEmail user body hBody
  | loginFirebaseSMS phoneNumber =>
      simp only [Login.callService, loginSMS_eq_ok_iff,
        Login.AnswerComplete, ← phone_sound_iff]
      constructor
      · intro hSound user body hBody
        exact hSound user ⟨body, hBody⟩
      · rintro hSound user ⟨body, hBody⟩
        exact hSound user body hBody

end Session

end NewsCentral

------------------------------------------------------------
-- The End Of A Login
------------------------------------------------------------

namespace NewsCentral

open Dart Json EventLoop

namespace Session

/- A point behind the assignment of the user. -/
def Point.afterService : Point → Bool
  | .savePrefs .. => true
  | .saveFlag .. => true
  | .saveReady .. => true
  | .saveItem .. => true
  | .saved .. => true
  | .jwtAuth .. => true
  | .jwtReady .. => true
  | .jwtItem => true
  | _ => false

/- Saving a user and asking for a token keep the user. -/
theorem resume_afterService
    (wp : WordPress)
    {k : Point}
    (hAfter : k.afterService = true)
    (w : World)
    (s : Session) :
    (resume wp k w s).1.user = s.user ∧
      ∀ j ∈ (resume wp k w s).2, j.afterService = true := by
  cases k with
  | saved login user =>
      rcases succeedLogin_frame login user w s with
        ⟨loading, callbacks, hEq⟩
      constructor
      · simp only [resume]
        rw [hEq]
        rfl
      · intro j hMem
        rcases succeedLogin_points login user w s with
          hNone | ⟨username, password, own, hOne⟩
        · simp [resume, hNone] at hMem
        · simp only [resume, hOne, List.mem_singleton] at hMem
          rw [hMem]
          rfl
  | savePrefs | saveFlag | saveReady | saveItem | jwtAuth
  | jwtReady | jwtItem =>
      simp only [resume, orElseSaved]
      repeat' split
      all_goals simp [Point.afterService]
  | _ => simp [Point.afterService] at hAfter

theorem drain_afterService
    (wp : WordPress)
    (respond : Point → World)
    (fuel : Nat)
    {p : Pool Session Point}
    (hAfter : ∀ k ∈ p.pending, k.afterService = true) :
    ((program wp).drain respond fuel p).shared.user =
      p.shared.user := by
  refine (Program.drain_invariant
    (I := fun (s : Session) (pending : List Point) =>
      s.user = p.shared.user ∧
        ∀ k ∈ pending, k.afterService = true)
    ?_ fuel ⟨rfl, hAfter⟩).1
  rintro s k later ⟨hUser, hPending⟩
  rcases resume_afterService wp
      (hPending k (by simp)) (respond k) s with
    ⟨hSame, hNext⟩
  refine ⟨hSame.trans hUser, ?_⟩
  intro j hMem
  rcases List.mem_append.mp hMem with hLater | hNew
  · exact hPending j (by simp [hLater])
  · exact hNext j hNew

/-
  From the service call on, a login ends well exactly if
  the service returns no user without credentials.
-/
theorem drain_service_iff
    {wp : WordPress}
    {respond : Point → World}
    {s t : Session}
    (fuel : Nat)
    (login : Login)
    (token : Option String)
    (hUntouched : Untouched s t) :
    CredentialsOrUntouched s
        ((program wp).drain respond (fuel + 1)
          ⟨t, [.service login token]⟩).shared ↔
      login.AnswerComplete wp
        (respond (.service login token)).http token := by
  rw [← callService_sound_iff]
  have hResume :
      (program wp).resume (.service login token) =
        resume wp (.service login token) := rfl
  simp only [Program.drain, hResume, resume,
    List.nil_append]
  cases hResult :
      login.callService wp
        (respond (.service login token)).http token with
  | error e =>
      simp only [Program.drain_nil]
      constructor
      · intro _ user hUser
        cases hUser
      · intro _
        exact .inr (hUntouched.failLogin _ _ _)
  | ok user =>
      have hUser := drain_afterService wp respond fuel
        (p :=
          ⟨{ t with
              user := some user
              loggedIn := true
              passwordLogin :=
                t.passwordLogin || login.isPassword },
            [.savePrefs login user]⟩)
        (by simp [Point.afterService])
      rw [credentialsOrUntouched_iff_of_user hUser]
      constructor
      · intro hHas _ hEq
        cases hEq
        exact hHas
      · intro hSound
        exact hSound user rfl

/- Every login ends. -/
theorem attempted_quiescent
    (wp : WordPress)
    (respond : Point → World)
    (login : Login)
    (s : Session) :
    (attempted wp respond login s).Quiescent := by
  cases login <;>
    exact Program.drain_quiescent Point.rank
      (resume_rank wp) (by simp [Point.rank])

/- A dialog point that ends the login. -/
theorem drain_refused
    {wp : WordPress}
    {respond : Point → World}
    {s t : Session}
    {k : Point}
    (fuel : Nat)
    (hResume : resume wp k (respond k) s = (t, []))
    (hUntouched : Untouched s t) :
    CredentialsOrUntouched s
      ((program wp).drain respond (fuel + 1)
        ⟨s, [k]⟩).shared := by
  have hEnd :
      (program wp).resume k (respond k) s = (t, []) :=
    hResume
  rw [Program.drain_singleton, hEnd, Program.drain_nil]
  exact .inr hUntouched

/- A dialog point that leads to another one. -/
theorem drain_passed
    {wp : WordPress}
    {respond : Point → World}
    {s : Session}
    {k next : Point}
    (fuel : Nat)
    (hResume : resume wp k (respond k) s = (s, [next])) :
    (program wp).drain respond (fuel + 1) ⟨s, [k]⟩ =
      (program wp).drain respond fuel ⟨s, [next]⟩ := by
  have hNext :
      (program wp).resume k (respond k) s = (s, [next]) :=
    hResume
  rw [Program.drain_singleton, hNext]

/-
  A login that its dialogs end leaves no trace; otherwise
  the service decides.
-/
theorem googleDialog_iff
    {wp : WordPress}
    {respond : Point → World}
    {s : Session}
    (hUntouched : Untouched s s) :
    CredentialsOrUntouched s
        ((program wp).drain respond 11
          ⟨s, [.googleSignIn]⟩).shared ↔
      ∀ token,
        Login.loginGoogle.dialogToken respond = some token →
        Login.loginGoogle.AnswerComplete wp
          (respond (.service .loginGoogle token)).http
          token := by
  cases hThrows : (respond .googleSignIn).throws with
  | some e =>
      have hResume :
          resume wp .googleSignIn (respond .googleSignIn) s =
            (failLogin .loginGoogle e
              (respond .googleSignIn) s, []) := by
        simp only [resume, hThrows]
      have hEnd := drain_refused 10 hResume
        (hUntouched.failLogin _ _ _)
      simp [hEnd, Login.dialogToken, hThrows]
  | none =>
      cases hAccount : (respond .googleSignIn).account with
      | false =>
          have hResume :
              resume wp .googleSignIn
                  (respond .googleSignIn) s =
                (failLogin .loginGoogle
                  (.noSuchMethod "authentication")
                  (respond .googleSignIn) s, []) := by
            simp only [resume, hThrows, hAccount]
          have hEnd := drain_refused 10 hResume
            (hUntouched.failLogin _ _ _)
          simp [hEnd, Login.dialogToken, hAccount]
      | true =>
          have hSignedIn :
              resume wp .googleSignIn
                  (respond .googleSignIn) s =
                (s, [.googleAuthentication]) := by
            simp only [resume, hThrows, hAccount]
          rw [drain_passed 10 hSignedIn]
          cases hLater :
              (respond .googleAuthentication).throws with
          | some e =>
              have hResume :
                  resume wp .googleAuthentication
                      (respond .googleAuthentication) s =
                    (failLogin .loginGoogle e
                      (respond .googleAuthentication) s,
                      []) := by
                simp only [resume, hLater]
              have hEnd := drain_refused 9 hResume
                (hUntouched.failLogin _ _ _)
              simp [hEnd, Login.dialogToken, hLater]
          | none =>
              have hToken :
                  resume wp .googleAuthentication
                      (respond .googleAuthentication) s =
                    (s, [.service .loginGoogle
                      (respond
                        .googleAuthentication).accessToken]) := by
                simp only [resume, hLater]
              rw [drain_passed 9 hToken]
              rw [drain_service_iff 8 _ _ hUntouched]
              simp [Login.dialogToken, hThrows, hAccount,
                hLater]

theorem facebookDialog_iff
    {wp : WordPress}
    {respond : Point → World}
    {s : Session}
    (hUntouched : Untouched s s) :
    CredentialsOrUntouched s
        ((program wp).drain respond 11
          ⟨s, [.facebookLogIn]⟩).shared ↔
      ∀ token,
        Login.loginFB.dialogToken respond = some token →
        Login.loginFB.AnswerComplete wp
          (respond (.service .loginFB token)).http
          token := by
  -- a refusal ends the login with its own text
  have hRefused :
      ∀ message,
        resume wp .facebookLogIn (respond .facebookLogIn) s =
            (facebookRefused message
              (respond .facebookLogIn) s, []) →
          CredentialsOrUntouched s
            ((program wp).drain respond 11
              ⟨s, [.facebookLogIn]⟩).shared := by
    intro message hResume
    exact drain_refused 10 hResume
      (hUntouched.facebookRefused _ _)
  cases hThrows : (respond .facebookLogIn).throws with
  | some e =>
      have hResume :
          resume wp .facebookLogIn
              (respond .facebookLogIn) s =
            (failLogin .loginFB e
              (respond .facebookLogIn) s, []) := by
        simp only [resume, hThrows]
      have hEnd := drain_refused 10 hResume
        (hUntouched.failLogin _ _ _)
      cases hStatus :
          (respond .facebookLogIn).facebook <;>
        simp [hEnd, Login.dialogToken, hThrows, hStatus]
  | none =>
      cases hStatus : (respond .facebookLogIn).facebook with
      | cancelledByUser =>
          have hEnd := hRefused "The login is cancel"
            (by simp only [resume, hThrows, hStatus])
          simp [hEnd, Login.dialogToken, hStatus]
      | error message =>
          have hEnd := hRefused ("Error: " ++ message)
            (by simp only [resume, hThrows, hStatus])
          simp [hEnd, Login.dialogToken, hStatus]
      | loggedIn =>
          have hLoggedIn :
              resume wp .facebookLogIn
                  (respond .facebookLogIn) s =
                (s, [.facebookCredential
                  (respond .facebookLogIn).accessToken]) := by
            simp only [resume, hThrows, hStatus]
          rw [drain_passed 10 hLoggedIn]
          generalize hToken :
            (respond .facebookLogIn).accessToken = token
          cases hLater :
              (respond (.facebookCredential token)).throws with
          | some e =>
              have hResume :
                  resume wp (.facebookCredential token)
                      (respond (.facebookCredential token)) s =
                    (failLogin .loginFB e
                      (respond (.facebookCredential token)) s,
                      []) := by
                simp only [resume, hLater]
              have hEnd := drain_refused 9 hResume
                (hUntouched.failLogin _ _ _)
              simp [hEnd, Login.dialogToken, hStatus, hToken,
                hLater]
          | none =>
              have hCredential :
                  resume wp (.facebookCredential token)
                      (respond (.facebookCredential token)) s =
                    (s, [.service .loginFB token]) := by
                simp only [resume, hLater]
              rw [drain_passed 9 hCredential,
                drain_service_iff 8 _ _ hUntouched]
              simp [Login.dialogToken, hThrows, hStatus,
                hToken, hLater]

/-
  Undisturbed, a login from a logged-out state ends, and it
  ends with credentials or without a trace exactly if the
  answers it gets from the service are complete.
-/
theorem attempt_credentials_iff
    (wp : WordPress)
    (respond : Point → World)
    (login : Login)
    (s : Session)
    (hUser : s.user = none)
    (hLoggedIn : s.loggedIn = false) :
    (attempted wp respond login s).Quiescent ∧
      (CredentialsOrUntouched s
          (attempted wp respond login s).shared ↔
        ∀ token, login.dialogToken respond = some token →
          login.AnswerComplete wp
            (respond (.service login token)).http token) := by
  refine ⟨attempted_quiescent wp respond login s, ?_⟩
  have hStart := Untouched.refl hUser hLoggedIn
  have hLoading : Untouched s { s with loading := true } := by
    simpa [withCallbacks] using hStart.withFailures true []
  -- without dialogs the token is known from the start
  have hDirect :
      ∀ (t : Session) (login : Login), Untouched s t →
        (CredentialsOrUntouched s
            ((program wp).drain respond 11
              ⟨t, [.service login none]⟩).shared ↔
          ∀ token, some (none : Option String) = some token →
            login.AnswerComplete wp
              (respond (.service login token)).http token) := by
    intro t login hUntouched
    rw [drain_service_iff 10 login none hUntouched]
    simp
  cases login with
  | login => exact hDirect _ _ hLoading
  | createUser => exact hDirect _ _ hLoading
  | loginApple => exact hDirect _ _ hStart
  | loginFirebaseSMS => exact hDirect _ _ hStart
  | loginGoogle => exact googleDialog_iff hStart
  | loginFB => exact facebookDialog_iff hStart

/- Every request is answered with the same JSON body. -/
def answeredWith (body : Json) : Point → World :=
  fun _ => { http := fun _ => .ok ⟨200, some body⟩ }

/- An SMS answer with id and cookie opens a session. -/
theorem sms_answer_with_credentials :
    CredentialsOrUntouched {}
      (attempted newsService
        (answeredWith
          (.obj
            [("wp_user_id", .int 7), ("cookie", .str "c7")]))
        (.loginFirebaseSMS (some "+2348000000000"))
        {}).shared := by
  refine (attempt_credentials_iff _ _ _ _ rfl rfl).2.mpr ?_
  rintro _ -
  constructor
  · rintro ⟨_, hHttp, hBody⟩
    cases hHttp
    cases hBody
  · rintro _ ⟨_, hHttp, hBody⟩
    cases hHttp
    cases hBody
    exact ⟨by decide, ⟨"c7", rfl⟩, rfl⟩

/-
  An error object of the SMS plugin signs in a user without
  id and cookie: the user is stored and reported a success.
-/
theorem sms_error_opens_session :
    let t :=
      (attempted newsService
        (answeredWith (.obj [("error", .str "invalid")]))
        (.loginFirebaseSMS (some "+2348000000000"))
        {}).shared
    ¬ CredentialsOrUntouched {} t ∧
      t.loggedIn = true ∧
      t.prefs = some true ∧
      t.storage.userInfo ≠ none ∧
      t.callbacks =
        [.success (some { loggedIn := some true })] := by
  have hUser :
      (attempted newsService
        (answeredWith (.obj [("error", .str "invalid")]))
        (.loginFirebaseSMS (some "+2348000000000"))
        {}).shared.user =
        some { loggedIn := some true } := by
    rfl
  refine ⟨?_, rfl, rfl, by decide, rfl⟩
  rw [credentialsOrUntouched_iff_of_user hUser]
  decide

end Session

end NewsCentral
