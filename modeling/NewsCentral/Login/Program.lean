import NewsCentral.Session.Turns

/-
  The attempts to log in of `lib/screens/login.dart` and
  `lib/screens/login_sms/verify.dart`.

  A screen plays its animation, calls `UserModel`, and hands
  it two callbacks.  The success callback of the password
  login is asynchronous: it asks for the posting token and
  signs in with Firebase before it welcomes the user.  All
  failure callbacks take one argument.

  The animations complete, so that the screen is there when
  it shows a notice.

  Key definitions include:
    * `NewsCentral.LoginScreen`
    * `NewsCentral.LoginScreen.Attempt` and `Point`
    * `NewsCentral.LoginScreen.callBack`
    * `NewsCentral.LoginScreen.program`
    * `NewsCentral.LoginScreen.CallsBack`

  Key theorems include:
    * `NewsCentral.LoginScreen.callBacks_callsBack`
-/

------------------------------------------------------------
-- Screens
------------------------------------------------------------

namespace NewsCentral

open Dart EventLoop

/- `_welcomeMessage` and `_failMessage` -/
inductive Notice where
  | welcome
  | failure (message : String)
deriving DecidableEq

/-
  A screen over the session.  The last two fields are
  histories: the notices shown, and the errors that nothing
  has caught.
-/
structure LoginScreen where
  session : Session := {}
  isLoading : Bool := false
  notices : List Notice := []
  uncaught : List Thrown := []

namespace LoginScreen

/-
  The attempts.  The texts of a password login are read once
  for the login, and again by the success callback; without
  one of them the screen asks for it and attempts nothing.
-/
inductive Attempt where
  | login
      (username password : String)
      (typedUsername typedPassword : String)
  | loginGoogle
  | loginApple
  | loginFacebook
  | loginSMS

/- Where an attempt is suspended. -/
inductive Point where
  | session (point : Session.Point)
  | playAnimation (login : Session.Login)
  | performRequests
  | playToVerify
  | signInWithCredential
  | stopAnimation
  | stopToFail (message : String)
  | stopToWelcome
  | signInWithEmail (email password : String)
  | createAccount (email password : String)
  | signInWithNew (email password : String)

/- The dialog of Apple, with the name in two parts. -/
inductive AuthorizationResult where
  | authorized (email givenName familyName : Option String)
  | error
  | cancelled

/-
  What the world answers: further, the dialog of Apple, the
  Firebase user of a code with the phone number, and the
  `code` of a Firebase error, if it has one.
-/
structure Answer extends Session.World where
  apple : AuthorizationResult := .cancelled
  user : Option (Option String) := none
  code : Option String := none

/- What a tap does before the first await. -/
def start
    (t : LoginScreen) : Attempt → LoginScreen × List Point
  | .login username password typedUsername typedPassword =>
      ({ t with isLoading := true },
        [.playAnimation
          (.login (trim username) (trim password)
            typedUsername typedPassword)])
  | .loginGoogle =>
      ({ t with isLoading := true },
        [.playAnimation .loginGoogle])
  | .loginFacebook =>
      ({ t with isLoading := true }, [.playAnimation .loginFB])
  | .loginApple => (t, [.performRequests])
  | .loginSMS =>
      ({ t with isLoading := true }, [.playToVerify])

/- The call of a method of `UserModel`. -/
def callModel
    (login : Session.Login)
    (t : LoginScreen) : LoginScreen × List Point :=
  let r := Session.startLogin login t.session
  ({ t with session := r.1 }, r.2.map .session)

/-
  What the callbacks do.  That of the password login goes on
  by itself; a failure callback that is called without its
  argument throws, and the model does not catch it.
-/
def callBack
    (isPassword : Bool)
    (t : LoginScreen) : Callback → LoginScreen × List Point
  | .success _ =>
      if isPassword then
        (t, [])
      else
        ({ t with notices := t.notices ++ [.welcome] },
          [.stopAnimation])
  | .fail [message] =>
      ({ t with notices := t.notices ++ [.failure message] },
        [.stopAnimation])
  | .fail _ =>
      ({ t with
          uncaught :=
            t.uncaught ++ [.noSuchMethod "call"] }, [])

def callBacks
    (isPassword : Bool)
    (t : LoginScreen) :
    List Callback → LoginScreen × List Point
  | [] => (t, [])
  | callback :: callbacks =>
      let r := callBack isPassword t callback
      let r' := callBacks isPassword r.1 callbacks
      (r'.1, r.2 ++ r'.2)

/- The point at which a password login succeeds. -/
def savedPassword : Session.Point → Bool
  | .saved login _ => login.isPassword
  | _ => false

/- Callbacks that are called with their argument return. -/
def calm (w : Session.World) : Session.World :=
  { w with successThrows := none, failThrows := none }

/- The session goes on, and calls the callbacks. -/
def resumeSession
    (wp : WordPress)
    (point : Session.Point)
    (w : Session.World)
    (t : LoginScreen) : LoginScreen × List Point :=
  let r := Session.resume wp point (calm w) t.session
  let called := r.1.callbacks.drop t.session.callbacks.length
  let c :=
    callBacks (savedPassword point) { t with session := r.1 }
      called
  (c.1, r.2.map .session ++ c.2)

/- What the success callback does with the posting token. -/
def afterToken
    (username password : String)
    (token : Except Thrown (Option String))
    (r : LoginScreen × List Point) :
    LoginScreen × List Point :=
  match token with
  | .ok _ => (r.1, r.2 ++ [.signInWithEmail username password])
  | .error e =>
      ({ r.1 with uncaught := r.1.uncaught ++ [e] }, r.2)

def invalidSMSCode : String :=
  "Invalid SMS Verification code"

/- Resume an attempt where it is suspended. -/
def resume
    (wp : WordPress)
    (point : Point)
    (a : Answer)
    (t : LoginScreen) : LoginScreen × List Point :=
  match point with
  | .session (.jwtAuth user username password own) =>
      afterToken username password
        (wp.getJwtAuth a.http username password)
        (resumeSession wp (.jwtAuth user username password own)
          a.toWorld t)
  | .session point => resumeSession wp point a.toWorld t
  | .playAnimation login => callModel login t
  | .performRequests =>
      -- whatever else the dialog ends with is only printed
      match a.throws, a.apple with
      | none,
          .authorized email (some givenName)
            (some familyName) =>
          ({ t with isLoading := true },
            [.playAnimation
              (.loginApple email
                (some (givenName ++ " " ++ familyName)))])
      | _, _ => (t, [])
  | .playToVerify => (t, [.signInWithCredential])
  | .signInWithCredential =>
      match a.throws, a.user with
      | some e, _ => (t, [.stopToFail e.toText])
      | none, none => (t, [.stopToFail invalidSMSCode])
      | none, some phoneNumber =>
          callModel (.loginFirebaseSMS phoneNumber) t
  | .stopAnimation => ({ t with isLoading := false }, [])
  | .stopToFail message =>
      ({ t with
          isLoading := false
          notices := t.notices ++ [.failure message] }, [])
  | .stopToWelcome =>
      ({ t with
          isLoading := false
          notices := t.notices ++ [.welcome] }, [])
  | .signInWithEmail email password =>
      -- the handler of errors reads their code
      match a.throws, a.code with
      | none, _ => (t, [.stopToWelcome])
      | some _, none =>
          ({ t with
              uncaught :=
                t.uncaught ++ [.noSuchMethod "code"] }, [])
      | some _, some code =>
          if code = "ERROR_USER_NOT_FOUND" then
            (t, [.createAccount email password, .stopToWelcome])
          else
            (t, [.stopToWelcome])
  | .createAccount email password =>
      -- neither this nor the sign-in behind it is awaited
      match a.throws with
      | none => (t, [.signInWithNew email password])
      | some e =>
          ({ t with uncaught := t.uncaught ++ [e] }, [])
  | .signInWithNew _ _ =>
      ({ t with uncaught := t.uncaught ++ a.throws.toList },
        [])

/- An attempt by itself: nothing else is called. -/
def program
    (wp : WordPress) :
    Program LoginScreen Empty Point Answer where
  call := fun i => i.elim
  resume := resume wp
  queued := fun _ => false

/- An attempt on an idle screen over a session. -/
def attempted
    (attempt : Attempt)
    (s : Session) : Pool LoginScreen Point where
  shared := (start { session := s } attempt).1
  pending := (start { session := s } attempt).2

end LoginScreen

end NewsCentral

------------------------------------------------------------
-- Callbacks
------------------------------------------------------------

namespace NewsCentral

open Dart EventLoop

namespace LoginScreen

/-
  Callbacks leave the session alone, and only play back the
  animation; a welcome comes from one of success.
-/
structure CallsBack
    (callbacks : List Callback)
    (t : LoginScreen)
    (r : LoginScreen × List Point) : Prop where
  session : r.1.session = t.session
  points : ∀ k ∈ r.2, k = .stopAnimation
  welcome :
    .welcome ∈ r.1.notices →
      .welcome ∈ t.notices ∨
        ∃ user, Callback.success user ∈ callbacks

theorem callBack_callsBack
    (isPassword : Bool)
    (t : LoginScreen)
    (callback : Callback) :
    CallsBack [callback] t
      (callBack isPassword t callback) := by
  cases callback with
  | success user =>
      cases isPassword with
      | true =>
          exact ⟨rfl, by simp [callBack], .inl⟩
      | false =>
          exact ⟨rfl, by simp [callBack],
            fun _ => .inr ⟨user, List.mem_singleton.mpr rfl⟩⟩
  | fail arguments =>
      rcases arguments with _ | ⟨message, _ | ⟨_, _⟩⟩
      · exact ⟨rfl, by simp [callBack], .inl⟩
      · exact ⟨rfl, by simp [callBack],
          by simp [callBack]⟩
      · exact ⟨rfl, by simp [callBack], .inl⟩

theorem callBacks_callsBack
    (isPassword : Bool)
    (t : LoginScreen)
    (callbacks : List Callback) :
    CallsBack callbacks t
      (callBacks isPassword t callbacks) := by
  induction callbacks generalizing t with
  | nil =>
      exact ⟨rfl, by simp [callBacks], .inl⟩
  | cons callback callbacks ih =>
      have hFirst := callBack_callsBack isPassword t callback
      have hRest :=
        ih (callBack isPassword t callback).1
      refine ⟨hRest.session.trans hFirst.session, ?_, ?_⟩
      · intro k hMem
        rcases List.mem_append.mp hMem with hMem | hMem
        · exact hFirst.points k hMem
        · exact hRest.points k hMem
      · intro hMem
        rcases hRest.welcome hMem with hMem | ⟨user, hMem⟩
        · rcases hFirst.welcome hMem with hMem | ⟨user, hMem⟩
          · exact .inl hMem
          · exact .inr ⟨user,
              List.mem_cons.mpr
                (.inl (List.mem_singleton.mp hMem))⟩
        · exact .inr ⟨user, List.mem_cons_of_mem _ hMem⟩

end LoginScreen

end NewsCentral
