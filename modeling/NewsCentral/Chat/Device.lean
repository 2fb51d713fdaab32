import NewsCentral.Chat.Program
import NewsCentral.Session.Flag

/-
  A device with its two identities: the session of
  `UserModel` and the account signed in with Firebase.

  The login screens sign in with one or with both of them,
  and of the two logouts only that of the profile screen
  signs out of Firebase.  The chat reads the Firebase user
  into `loggedInUser`, a variable of the file that outlives
  its screens.

  `ChatTab` is built when it is opened, and again whenever
  the framework rebuilds it.

  Key definitions include:
    * `NewsCentral.Device`
    * `NewsCentral.Device.Op` and `Device.Point`
    * `NewsCentral.Device.program`
    * `NewsCentral.Device.send`
-/

------------------------------------------------------------
-- Identities
------------------------------------------------------------

namespace NewsCentral

open Dart EventLoop

/- An account of Firebase; those of phones have no email. -/
structure FirebaseUser where
  email : Option String := none
  phoneNumber : Option String := none
deriving DecidableEq

/-
  The session, what `FirebaseAuth.currentUser` returns, the
  variable `loggedInUser`, the `ChatScreen` that is shown,
  and how many have been shown so far.
-/
structure Device where
  session : Session := {}
  currentUser : Option FirebaseUser := none
  loggedInUser : Option FirebaseUser := none
  chatScreen : Option Nat := none
  shown : Nat := 0

namespace Device

/- What is done on the device. -/
inductive Op where
  | login (login : Session.Login)
  | register
      (firstName lastName username password : Option String)
      (isChecked : Bool)
  | verify
  | getUser
  | drawerLogout
  | profileLogout
  | buildChatTab
  | closeChatTab

/-
  Where an operation is suspended.  A point of the session
  may belong to the logout of the profile screen, which goes
  on when the session's logout is over.
-/
inductive Point where
  | session (point : Session.Point) (fromProfile : Bool)
  | signOut
  | signInWithEmail (email password : String)
  | createAccount (email password : String)
  | signInWithNew (email password : String)
  | createUser
      (firstName lastName username password : Option String)
      (isChecked : Bool)
  | signInWithCredential
  | delayed (screen : Nat)
  | currentUser (screen : Nat) (user : Option FirebaseUser)

/-
  What the world answers.  A call of Firebase fails when it
  throws, with a code, and else yields an account.
-/
structure Answer extends Session.World where
  firebaseUser : Option FirebaseUser := none
  code : String := ""

/- The logins that the login screen offers itself. -/
def onLoginScreen : Session.Login → Bool
  | .login .. => true
  | .loginGoogle => true
  | .loginFB => true
  | .loginApple .. => true
  | .createUser .. => false
  | .loginFirebaseSMS .. => false

/- An operation of the session. -/
def callSession
    (op : Session.Op)
    (fromProfile : Bool)
    (d : Device) : Option (Device × List Point) :=
  match Session.call op d.session with
  | none => none
  | some (session, points) =>
      some
        ({ d with session := session },
          points.map fun point => .session point fromProfile)

/- The account that Firebase yields is signed in. -/
def signIn (a : Answer) (d : Device) : Device :=
  { d with currentUser := a.firebaseUser.or d.currentUser }

/- `ChatTab.build`; a `ChatScreen` shown already stays. -/
def buildChatTab (d : Device) : Device × List Point :=
  match d.session.user with
  | none => ({ d with chatScreen := none }, [])
  | some user =>
      if user.email = some Chat.adminEmail then
        ({ d with chatScreen := none }, [])
      else
        match d.chatScreen with
        | some _ => (d, [])
        | none =>
            ({ d with
                chatScreen := some d.shown
                shown := d.shown + 1 },
              [.delayed d.shown])

def call : Op → Device → Option (Device × List Point)
  | .login login, d =>
      if onLoginScreen login then
        callSession (.attempt login) false d
      else
        none
  | .register firstName lastName username password isChecked,
      d =>
      some
        (d,
          [.createUser firstName lastName username password
            isChecked])
  | .verify, d => some (d, [.signInWithCredential])
  | .getUser, d => callSession .getUser false d
  | .drawerLogout, d => callSession .logout false d
  | .profileLogout, d => callSession .logout true d
  | .buildChatTab, d => some (buildChatTab d)
  | .closeChatTab, d => some ({ d with chatScreen := none }, [])

/-
  What follows the points of the session: the login screen
  goes on to Firebase when the posting token has been asked
  for, and the profile screen when the logout is over.
-/
def afterSession
    (wp : WordPress)
    (a : Answer)
    (fromProfile : Bool)
    (next : List Session.Point) :
    Session.Point → List Point
  | .jwtAuth _ username password _ =>
      match wp.getJwtAuth a.http username password with
      | .ok _ => [.signInWithEmail username password]
      | .error _ => []
  | _ =>
      if fromProfile && next.isEmpty then [.signOut] else []

/- `signInWithCredential` of the Facebook login. -/
def credentialSignIn
    (a : Answer)
    (d : Device) : Session.Point → Device
  | .facebookCredential _ =>
      if a.throws.isSome then d else signIn a d
  | _ => d

/- An operation of the session that another one begins. -/
def beginSession
    (login : Session.Login)
    (d : Device) : Device × List Point :=
  let r := Session.startLogin login d.session
  ({ d with session := r.1 },
    r.2.map fun point => .session point false)

/- Resume an operation where it is suspended. -/
def resume
    (wp : WordPress)
    (point : Point)
    (a : Answer)
    (d : Device) : Device × List Point :=
  match point with
  | .session point fromProfile =>
      let r := Session.resume wp point a.toWorld d.session
      ({ credentialSignIn a d point with session := r.1 },
        r.2.map (fun next => .session next fromProfile) ++
          afterSession wp a fromProfile r.2 point)
  | .signOut =>
      if a.throws.isSome then
        (d, [])
      else
        ({ d with currentUser := none }, [])
  | .signInWithEmail email password =>
      if a.throws.isNone then
        (signIn a d, [])
      else if a.code = "ERROR_USER_NOT_FOUND" then
        (d, [.createAccount email password])
      else
        (d, [])
  | .createAccount email password =>
      if a.throws.isSome then
        (d, [])
      else
        (signIn a d, [.signInWithNew email password])
  | .signInWithNew _ _ =>
      if a.throws.isSome then (d, []) else (signIn a d, [])
  | .createUser firstName lastName username password
      isChecked =>
      -- whatever becomes of the account, the form is sent
      let d := if a.throws.isSome then d else signIn a d
      if (firstName.isSome && lastName.isSome &&
          username.isSome && password.isSome &&
          isChecked) then
        beginSession
          (.createUser firstName lastName username password) d
      else
        (d, [])
  | .signInWithCredential =>
      if a.throws.isSome then
        (d, [])
      else
        match a.firebaseUser with
        | none => (d, [])
        | some user =>
            beginSession (.loginFirebaseSMS user.phoneNumber)
              (signIn a d)
  | .delayed screen =>
      (d, [.currentUser screen d.currentUser])
  | .currentUser screen user =>
      if a.throws.isNone && user.isSome &&
          d.chatScreen = some screen then
        ({ d with loggedInUser := user }, [])
      else
        (d, [])

def program
    (wp : WordPress) : Program Device Op Point Answer where
  call := call
  resume := resume wp
  queued := fun _ => false

/-
  The app right after its start: Firebase has kept whoever
  was signed in, and the stores are as they were left.
-/
def launched
    (storage : LocalStorage)
    (prefs : Option Bool)
    (currentUser : Option FirebaseUser) :
    Pool Device Point where
  shared :=
    { session := { storage := storage, prefs := prefs }
      currentUser := currentUser }
  pending := [.session .getUserReady false]

/-
  What the button Send writes.  A `ChatScreen` cannot be
  built while `loggedInUser` is null, and has no button.
-/
def send
    (d : Device)
    (messagesText : String)
    (addedAt mergedAt : DateTime)
    (addKey mergeKey : Nat) : List Chat.Write :=
  match d.chatScreen, d.loggedInUser with
  | some _, some loggedInUser =>
      let screen : Chat.Screen :=
        { isAdmin := false
          userEmail := d.session.user.bind User.email
          loggedInUser := loggedInUser.email }
      screen.send messagesText addedAt mergedAt addKey mergeKey
  | _, _ => []

end Device

end NewsCentral
