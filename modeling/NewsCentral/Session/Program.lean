import NewsCentral.EventLoop.Program
import NewsCentral.Services.LocalStorage
import NewsCentral.Services.WordPress

/-
  The session of `lib/models/user.dart`: `UserModel` with
  its two stores, and the screens' calls that touch them.

  Every `await` is a point at which other calls may run.
  Storage and preference writes take effect when they are
  issued; the point after a write awaits its completion.
  The models that other code creates with `UserModel()`
  read the same storage and leave this one alone.

  Key definitions include:
    * `NewsCentral.Session`
    * `NewsCentral.Session.Login` and `Session.Op`
    * `NewsCentral.Session.Point` and `Session.World`
    * `NewsCentral.Session.program`
-/

------------------------------------------------------------
-- State
------------------------------------------------------------

namespace NewsCentral

open Dart EventLoop

/- A callback of a screen, with what it was called on. -/
inductive Callback where
  | success (user : Option User)
  | fail (arguments : List String)
deriving DecidableEq

/-
  `UserModel` and the stores.  The last four fields are
  histories that the code does not read: the callbacks
  called; the posting tokens obtained with the texts of a
  password login, each with the user it logged in; the
  requests of `createBlog`, each with the user in session
  when it was called; and whether a password login has
  succeeded since the last logout.
-/
structure Session where
  user : Option User := none
  loggedIn : Bool := false
  loading : Bool := false
  storage : LocalStorage := {}
  prefs : Option Bool := none
  callbacks : List Callback := []
  obtained : List (User × String) := []
  sent : List (Option User × Request) := []
  passwordLogin : Bool := false

namespace Session

/- `UserModel.isLogin`, with the storage ready. -/
def isLogin (s : Session) : Bool :=
  (s.storage.userInfo.getD .null).isNotNull

/- `AppInit.checkLogin`. -/
def checkLogin (s : Session) : Bool :=
  s.prefs.getD false

------------------------------------------------------------
-- Operations
------------------------------------------------------------

/-
  The calls of the six login methods.  A password login
  comes from the login screen, whose success callback reads
  the texts again as they are typed by then.
-/
inductive Login where
  | login
      (username password : String)
      (typedUsername typedPassword : String)
  | createUser
      (firstName lastName username password : Option String)
  | loginGoogle
  | loginFB
  | loginApple (email fullName : Option String)
  | loginFirebaseSMS (phoneNumber : Option String)

/- The operations on the session. -/
inductive Op where
  | attempt (login : Login)
  | getUser
  | logout
  | createBlog (file : Option String) (data : Json)

/- Where an operation is suspended. -/
inductive Point where
  | googleSignIn
  | googleAuthentication
  | facebookLogIn
  | facebookCredential (token : Option String)
  | service (login : Login) (token : Option String)
  | savePrefs (login : Login) (user : User)
  | saveFlag (login : Login) (user : User)
  | saveReady (login : Login) (user : User)
  | saveItem (login : Login) (user : User)
  | saved (login : Login) (user : User)
  | getUserReady
  | logoutReady
  | logoutUserInfo
  | logoutWishlist
  | logoutPrefs
  | logoutFlag
  | jwtAuth
      (user : User)
      (username password : String)
      (own : Bool)
  | jwtReady (user : User) (token : String)
  | jwtItem
  | blogReady
      (caller : Option User)
      (file : Option String)
      (data : Json)
  | blogUpload
      (caller : Option User)
      (file token : String)
      (data : Json)
  | blogPost

/- The points of a logout. -/
def Point.inLogout : Point → Bool
  | .logoutReady => true
  | .logoutUserInfo => true
  | .logoutWishlist => true
  | .logoutPrefs => true
  | .logoutFlag => true
  | _ => false

inductive FacebookLoginStatus where
  | loggedIn
  | cancelledByUser
  | error (message : String)

/-
  What the world answers at an await.  Each point reads the
  fields it needs: whether the awaited future fails, whether
  the storage is ready, how the network answers, what the
  sign-in dialogs return, and what the screen's callbacks
  throw if they are called.
-/
structure World where
  throws : Option Thrown := none
  ready : Bool := true
  http : Http := fun _ => .error (.error "SocketException" "")
  account : Bool := true
  accessToken : Option String := none
  facebook : FacebookLoginStatus := .loggedIn
  successThrows : Option Thrown := none
  failThrows : Option Thrown := none

/- The service call of a login method. -/
def Login.callService
    (wp : WordPress)
    (http : Http)
    (token : Option String) :
    Login → Except Thrown User
  | .login username password _ _ =>
      wp.login http (some username) (some password)
  | .createUser firstName lastName username password =>
      wp.createUser http firstName lastName username password
  | .loginGoogle => wp.loginGoogle http token
  | .loginFB => wp.loginFacebook http token
  | .loginApple email fullName =>
      wp.loginApple http email fullName
  | .loginFirebaseSMS phoneNumber =>
      wp.loginSMS http phoneNumber

/- A login with the password of an account. -/
def Login.isPassword : Login → Bool
  | .login .. => true
  | _ => false

/- The synchronous start of a login method. -/
def startLogin
    (login : Login)
    (s : Session) : Session × List Point :=
  match login with
  | .login .. =>
      ({ s with loading := true }, [.service login none])
  | .createUser .. =>
      ({ s with loading := true }, [.service login none])
  | .loginGoogle => (s, [.googleSignIn])
  | .loginFB => (s, [.facebookLogIn])
  | .loginApple .. => (s, [.service login none])
  | .loginFirebaseSMS .. => (s, [.service login none])

def googleFailText : String :=
  "There is an issue with the app during requesting the " ++
    "data, please contact admin for fixing the issues "

/- The `catch` block of a login method. -/
def failLogin
    (login : Login)
    (e : Thrown)
    (w : World)
    (s : Session) : Session :=
  match login with
  | .login .. =>
      { s with
        loading := false
        callbacks := s.callbacks ++ [.fail [e.toText]] }
  | .createUser .. =>
      -- the flag is reset only after the callback returns
      { s with
        callbacks := s.callbacks ++ [.fail [e.toText]]
        loading :=
          if w.failThrows.isSome then s.loading else false }
  | .loginGoogle =>
      { s with
        callbacks := s.callbacks ++
          [.fail [googleFailText ++ e.toText]] }
  | .loginFB =>
      { s with
        callbacks := s.callbacks ++ [.fail [e.toText]] }
  | .loginApple .. =>
      { s with callbacks := s.callbacks ++ [.fail []] }
  | .loginFirebaseSMS .. =>
      { s with callbacks := s.callbacks ++ [.fail []] }

/-
  After `saveUser`: the success callback, which is called on
  whoever is in session by then, and what follows it.  The
  callback of the login screen is asynchronous, so it cannot
  throw here; it asks for the posting token, with texts that
  may no longer be the ones of the login.
-/
def succeedLogin
    (login : Login)
    (user : User)
    (w : World)
    (s : Session) : Session × List Point :=
  let called :=
    { s with callbacks := s.callbacks ++ [.success s.user] }
  match login with
  | .login username password typedUsername typedPassword =>
      let own :=
        trim typedUsername == username &&
          trim typedPassword == password
      ({ called with loading := false },
        [.jwtAuth user typedUsername typedPassword own])
  | .createUser .. =>
      match w.successThrows with
      | some e => (failLogin login e w called, [])
      | none => ({ called with loading := false }, [])
  | _ =>
      match w.successThrows with
      | some e => (failLogin login e w called, [])
      | none => (called, [])

/-
  The two failing outcomes of the Facebook dialog call the
  callback inside the `try`.
-/
def facebookRefused
    (message : String)
    (w : World)
    (s : Session) : Session :=
  let called :=
    { s with callbacks := s.callbacks ++ [.fail [message]] }
  match w.failThrows with
  | some e => failLogin .loginFB e w called
  | none => called

/- `getUser` after the storage is ready. -/
def loadUser (s : Session) : Session :=
  match s.storage.userInfo with
  | some (.obj fields) =>
      { s with
        user := some (User.fromLocalJson (.obj fields))
        loggedIn := true }
  | _ => s

/- `createBlog` once the token has been read. -/
def uploadBlogImage
    (wp : WordPress)
    (caller : Option User)
    (file : Option String)
    (data : Json)
    (token : Option String)
    (s : Session) : Session × List Point :=
  match token, file with
  | none, _ => (s, [])
  | some _, none => (s, [])
  | some token, some file =>
      ({ s with
          sent := s.sent ++
            [(caller, wp.mediaRequest file token)] },
        [.blogUpload caller file token data])

/- The media id is put into the data when there is one. -/
def withFeaturedMedia
    (response data : Json) : Except Thrown Json := do
  match ← (← response.index "id").asInt with
  | none => return data
  | some id => data.setIndex "featured_media" (.int id)

/- Start an operation. -/
def call : Op → Session → Option (Session × List Point)
  | .attempt login, s => some (startLogin login s)
  | .getUser, s => some (s, [.getUserReady])
  | .logout, s =>
      some
        ({ s with
            user := none
            loggedIn := false
            passwordLogin := false },
          [.logoutReady])
  | .createBlog file data, s =>
      some (s, [.blogReady s.user file data])

/- A point of `saveUser` ends it when its future fails. -/
def orElseSaved
    (login : Login)
    (user : User)
    (w : World)
    (next : Session × List Point)
    (s : Session) : Session × List Point :=
  if w.throws.isSome then (s, [.saved login user]) else next

/- Resume an operation where it is suspended. -/
def resume
    (wp : WordPress)
    (point : Point)
    (w : World)
    (s : Session) : Session × List Point :=
  match point with
  | .googleSignIn =>
      match w.throws, w.account with
      | some e, _ => (failLogin .loginGoogle e w s, [])
      | none, false =>
          (failLogin .loginGoogle
            (.noSuchMethod "authentication") w s, [])
      | none, true => (s, [.googleAuthentication])
  | .googleAuthentication =>
      match w.throws with
      | some e => (failLogin .loginGoogle e w s, [])
      | none => (s, [.service .loginGoogle w.accessToken])
  | .facebookLogIn =>
      match w.throws, w.facebook with
      | some e, _ => (failLogin .loginFB e w s, [])
      | none, .loggedIn =>
          (s, [.facebookCredential w.accessToken])
      | none, .cancelledByUser =>
          (facebookRefused "The login is cancel" w s, [])
      | none, .error message =>
          (facebookRefused ("Error: " ++ message) w s, [])
  | .facebookCredential token =>
      match w.throws with
      | some e => (failLogin .loginFB e w s, [])
      | none => (s, [.service .loginFB token])
  | .service login token =>
      match login.callService wp w.http token with
      | .error e => (failLogin login e w s, [])
      | .ok user =>
          ({ s with
              user := some user
              loggedIn := true
              passwordLogin :=
                s.passwordLogin || login.isPassword },
            [.savePrefs login user])
  | .savePrefs login user =>
      orElseSaved login user w
        ({ s with prefs := some true },
          [.saveFlag login user])
        s
  | .saveFlag login user =>
      orElseSaved login user w (s, [.saveReady login user]) s
  | .saveReady login user =>
      orElseSaved login user w
        (if w.ready then
          ({ s with
              storage :=
                { s.storage with
                  userInfo := some user.toJson } },
            [.saveItem login user])
        else
          (s, [.saved login user]))
        s
  | .saveItem login user => (s, [.saved login user])
  | .saved login user => succeedLogin login user w s
  | .getUserReady =>
      if w.throws.isNone && w.ready then
        (loadUser s, [])
      else
        (s, [])
  | .logoutReady =>
      if w.throws.isNone && w.ready then
        ({ s with
            storage := { s.storage with userInfo := none } },
          [.logoutUserInfo])
      else
        (s, [])
  | .logoutUserInfo =>
      if w.throws.isNone then
        ({ s with
            storage := { s.storage with wishlist := none } },
          [.logoutWishlist])
      else
        (s, [])
  | .logoutWishlist =>
      if w.throws.isNone then (s, [.logoutPrefs]) else (s, [])
  | .logoutPrefs =>
      if w.throws.isNone then
        ({ s with prefs := some false }, [.logoutFlag])
      else
        (s, [])
  | .logoutFlag => (s, [])
  | .jwtAuth user username password own =>
      match wp.getJwtAuth w.http username password with
      | .ok (some token) =>
          ({ s with
              obtained :=
                if own then
                  s.obtained ++ [(user, token)]
                else
                  s.obtained },
            [.jwtReady user token])
      | _ => (s, [])
  | .jwtReady _ token =>
      if w.throws.isNone && w.ready then
        ({ s with
            storage :=
              { s.storage with jwtToken := some token } },
          [.jwtItem])
      else
        (s, [])
  | .jwtItem => (s, [])
  | .blogReady caller file data =>
      let token :=
        if w.throws.isNone && w.ready then
          s.storage.jwtToken
        else
          some ""
      uploadBlogImage wp caller file data token s
  | .blogUpload caller file token data =>
      match do
          withFeaturedMedia
            (← wp.uploadImage w.http file token) data with
      | .error _ => (s, [])
      | .ok data =>
          ({ s with
              sent := s.sent ++
                [(caller,
                  wp.postRequest "posts" data (some token))] },
            [.blogPost])
  | .blogPost => (s, [])

/-
  The session as a program of the event loop.  No order is
  imposed on the waiters: any point may be resumed next.
-/
def program
    (wp : WordPress) : Program Session Op Point World where
  call := call
  resume := resume wp
  queued := fun _ => false

/-
  The app right after `UserModel()`: the constructor has
  begun to wait for the storage.
-/
def launched (s : Session) : Pool Session Point where
  shared := s
  pending := [.getUserReady]

end Session

end NewsCentral
