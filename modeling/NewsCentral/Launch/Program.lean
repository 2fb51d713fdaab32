import NewsCentral.EventLoop.Restart
import NewsCentral.Login.Program
import NewsCentral.Session.Flag

/-
  The launches of the app: `lib/app_init.dart`, the screens
  on the way to the main tabs, and the stores that outlive a
  launch.

  `AppInit` is built under the splash screen, first with the
  defaults of its fields; only then does it begin to read
  the stores.  Every build may take a decision, which the
  end of the splash carries out.

  The navigator is a stack of screens, the one that is shown
  first.  Its transitions take no time.

  Key definitions include:
    * `NewsCentral.Launch`
    * `NewsCentral.Launch.onNextScreen`
    * `NewsCentral.Launch.Op` and `Launch.Point`
    * `NewsCentral.Launch.program`
    * `NewsCentral.Launch.system`
-/

------------------------------------------------------------
-- State
------------------------------------------------------------

namespace NewsCentral

open Dart EventLoop

/- `kLoginSetting`, `kIsWeb` and `onBoardingData`. -/
structure Settings where
  isRequiredLogin : Bool := false
  kIsWeb : Bool := false
  onBoardingData : List Json

/- The screens; those that others look for have a name. -/
inductive Screen where
  | splash
  | onBoardScreen (page : Nat)
  | mainTabs (id : Nat)
  | loginScreen (id : Nat)
  | loginSMS
  | verifyCode (id : Nat)
  | registrationScreen (id : Nat)
deriving DecidableEq

def Screen.id : Screen → Option Nat
  | .mainTabs id => some id
  | .loginScreen id => some id
  | .verifyCode id => some id
  | .registrationScreen id => some id
  | _ => none

/- `splashScreenType` -/
inductive SplashScreenType where
  | flare
  | animated
  | zoomIn
  | static
  | other

/- What `onNextScreen` yields. -/
inductive NextScreen where
  | onBoardScreen (appConfig : Option Json)
  | loginScreen
  | onNext (appConfig : Option Json)
deriving DecidableEq

/-
  What the splash does at its end: nothing, or take the
  decision, or show `_home`, on which a build has decided.
-/
inductive Splash where
  | still
  | flare
  | home (next : NextScreen)

/-
  What `checkFirstSeen` has found: nothing yet, a storage
  that is not ready, or a flag, which is true if none is
  stored.
-/
inductive Found where
  | unasked
  | notReady
  | flag (seen : Bool)
deriving DecidableEq

/-
  The session with its stores, the stored item
  "isFirstSeen", the navigator, and the fields of `AppInit`,
  of which a missing configuration is null.

  The further fields are histories.  Of a launch they tell
  whether the page has been laid out, what the three reads
  and `getUser` have found, whether the login had been
  checked when `_home` was decided on, and whether the
  onboarding was left.  Of all launches they tell whether an
  earlier one has seen the onboarding left, the decisions,
  each with this, and the entries to the main tabs, each
  with whether a user was logged in.  Where that is up to
  `getUser`, the entry is noted with its answer.
-/
structure Launch where
  session : Session := {}
  firstSeen : Option Json := none
  screens : List Screen := []
  shown : Nat := 0
  isFirstSeen : Option Bool := some true
  isLoggedIn : Bool := true
  appConfig : Option Json := some (.obj [])
  splash : Splash := .still
  laidOut : Bool := false
  found : Found := .unasked
  loginChecked : Bool := false
  configLoaded : Option (Option Json) := none
  userLoaded : Bool := false
  informed : Bool := false
  onBoarded : Bool := false
  onBoardedBefore : Bool := false
  decisions : List (Bool × Except Thrown NextScreen) := []
  awaited : Bool := false
  entries : List Bool := []

namespace Launch

/- A user is logged in. -/
def signedIn (l : Launch) : Bool :=
  l.session.user.isSome

/- `UserModel` has yet to load the user that is stored. -/
def awaitsUser (l : Launch) : Bool :=
  !l.userLoaded && l.session.storedUser.isSome

------------------------------------------------------------
-- Decisions
------------------------------------------------------------

/- `onNextScreen`; a null flag is no condition. -/
def onNextScreen
    (c : Settings)
    (l : Launch) : Except Thrown NextScreen :=
  match l.isFirstSeen with
  | none =>
      .error (.error "AssertionError"
        "boolean expression must not be null")
  | some isFirstSeen =>
      if isFirstSeen && !c.kIsWeb && l.appConfig.isSome &&
          !c.onBoardingData.isEmpty then
        .ok (.onBoardScreen l.appConfig)
      else if c.isRequiredLogin && !l.isLoggedIn then
        .ok .loginScreen
      else
        .ok (.onNext l.appConfig)

/- The decision is taken. -/
def decide (c : Settings) (l : Launch) : Launch :=
  { l with
    decisions :=
      l.decisions ++ [(l.onBoardedBefore, onNextScreen c l)] }

/- The main tabs are entered above some screens. -/
def enterTabs
    (below : List Screen)
    (l : Launch) : Launch :=
  let unsure := !l.signedIn && l.awaitsUser
  { l with
    screens := .mainTabs l.shown :: below
    shown := l.shown + 1
    awaited := l.awaited || unsure
    entries :=
      if unsure then l.entries else l.entries ++ [l.signedIn] }

/- A new screen is pushed, or replaces the one shown. -/
def push
    (screen : Nat → Screen)
    (l : Launch) : Launch :=
  { l with
    screens := screen l.shown :: l.screens
    shown := l.shown + 1 }

def pushReplacement
    (next : NextScreen)
    (l : Launch) : Launch :=
  match next with
  | .onBoardScreen _ =>
      { l with screens := .onBoardScreen 0 :: l.screens.tail }
  | .loginScreen =>
      { l with
        screens := .loginScreen l.shown :: l.screens.tail
        shown := l.shown + 1 }
  | .onNext _ => l.enterTabs l.screens.tail

/- The last screen stays. -/
def pop (l : Launch) : Launch :=
  match l.screens with
  | _ :: next :: below => { l with screens := next :: below }
  | _ => l

/-
  `AppInit.build`: the splashes that are given their home
  screen decide at each build.
-/
def build
    (c : Settings)
    (type : SplashScreenType)
    (l : Launch) : Launch :=
  let decided :=
    { l.decide c with
      splash :=
        match onNextScreen c l with
        | .ok next => .home next
        | .error _ => .still
      informed := l.loginChecked }
  match type with
  | .flare => { l with splash := .flare }
  | .animated => decided
  | .zoomIn => decided
  | .static => { l with splash := .still }
  | .other => { l with splash := .still }

/- The splash ends, if it does. -/
def splashEnds
    (c : Settings)
    (l : Launch) : Option Launch :=
  match l.splash with
  | .still => none
  | .flare =>
      match onNextScreen c l with
      | .ok next => some ((l.decide c).pushReplacement next)
      | .error _ => some { l.decide c with splash := .still }
  | .home next => some (l.pushReplacement next)

------------------------------------------------------------
-- Operations
------------------------------------------------------------

inductive Op where
  | build (type : SplashScreenType)
  | splashEnds
  | slideTimer
  | skip
  | attempt (attempt : LoginScreen.Attempt)
  | openLogin
  | openSMS
  | openVerify
  | openRegister
  | register
      (firstName lastName username password : Option String)
      (isChecked : Bool)
  | back
  | logout

/-
  Where an operation is suspended.  An attempt belongs to a
  screen, and knows which user its success callback has been
  given, if it has been called.
-/
inductive Point where
  | firstSeenReady
  | loggedIn
  | appConfig
  | session (point : Session.Point)
  | login
      (id : Nat)
      (user : Option User)
      (point : LoginScreen.Point)
  | submitRegister
      (id : Nat)
      (firstName lastName username password : Option String)
      (isChecked : Bool)
  | register (id : Nat) (point : Session.Point)

/- Further, the configuration that is loaded. -/
structure Answer extends LoginScreen.Answer where
  config : Option Json := some (.obj [])

/- A button of the onboarding that leads to "/home". -/
def leaveOnBoard (l : Launch) : Launch :=
  { l.enterTabs l.screens with onBoarded := true }

/- An attempt begins on the screen of this name. -/
def startAttempt
    (id : Nat)
    (attempt : LoginScreen.Attempt)
    (l : Launch) : Launch × List Point :=
  (l,
    (LoginScreen.start { session := l.session } attempt).2.map
      (.login id none))

/-
  The screen shown offers the attempt.  The chat of the main
  tabs shows a login screen while there is no user.
-/
def offers
    (l : Launch)
    (attempt : LoginScreen.Attempt) : Option Nat :=
  match l.screens.head?, attempt with
  | some (.verifyCode id), .loginSMS => some id
  | _, .loginSMS => none
  | some (.loginScreen id), _ => some id
  | some (.mainTabs id), _ =>
      if l.session.user.isSome then none else some id
  | _, _ => none

/- A login screen is shown, alone or in the chat. -/
def showsLogin (l : Launch) : Bool :=
  match l.screens.head? with
  | some (.loginScreen _) => true
  | some (.mainTabs _) => l.session.user.isNone
  | _ => false

/- The button Back, or that of the device. -/
def back (l : Launch) : Option Launch :=
  match l.screens with
  | [] => none
  | [.loginSMS] => some (l.enterTabs l.screens)
  | [.registrationScreen _] => some (l.enterTabs l.screens)
  | [_] => none
  | _ :: below => some { l with screens := below }

/- Start an operation, where the screen shown offers it. -/
def call
    (c : Settings)
    (op : Op)
    (l : Launch) : Option (Launch × List Point) :=
  match op, l.screens.head? with
  | .build type, some .splash =>
      some
        ({ l.build c type with laidOut := true },
          if l.laidOut then [] else [.firstSeenReady])
  | .splashEnds, some .splash =>
      (l.splashEnds c).map fun l => (l, [])
  | .slideTimer, some (.onBoardScreen 0) =>
      some
        ({ l with
          screens := .onBoardScreen 1 :: l.screens.tail }, [])
  | .slideTimer, some (.onBoardScreen _) =>
      some (l.leaveOnBoard, [])
  | .skip, some (.onBoardScreen _) => some (l.leaveOnBoard, [])
  | .attempt attempt, _ =>
      (l.offers attempt).map fun id =>
        startAttempt id attempt l
  | .openLogin, some (.mainTabs _) =>
      if l.session.loggedIn then
        none
      else
        some (l.push .loginScreen, [])
  | .openSMS, _ =>
      if l.showsLogin then
        some (l.push fun _ => .loginSMS, [])
      else
        none
  | .openVerify, some .loginSMS =>
      some (l.push .verifyCode, [])
  | .openRegister, _ =>
      if l.showsLogin then
        some (l.push .registrationScreen, [])
      else
        none
  | .register firstName lastName username password isChecked,
      some (.registrationScreen id) =>
      some
        (l,
          [.submitRegister id firstName lastName username
            password isChecked])
  | .back, _ => l.back.map fun l => (l, [])
  | .logout, some (.mainTabs _) =>
      (Session.call .logout l.session).map fun r =>
        ({ l with session := r.1 }, r.2.map .session)
  | _, _ => none

------------------------------------------------------------
-- Turns
------------------------------------------------------------

/- The user whom a success callback is given last. -/
def given
    (user : Option User) : List Callback → Option User
  | [] => user
  | .success user :: callbacks => given user callbacks
  | .fail _ :: callbacks => given user callbacks

/- The callbacks that a turn of the session has called. -/
def called (s t : Session) : List Callback :=
  t.callbacks.drop s.callbacks.length

/-
  `_welcomeMessage`, on the screen of this name while it is
  there.  The chat of the main tabs drops its login screen
  with the turn in which `UserModel` tells of a user.
-/
def welcome
    (id : Nat)
    (point : LoginScreen.Point)
    (l : Launch) : Launch :=
  match l.screens.find? (fun screen => screen.id = some id),
      point with
  | some (.loginScreen _), _ => l.enterTabs l.screens.tail
  | some (.verifyCode _), _ => l.enterTabs []
  | some (.mainTabs _), .session _ =>
      l.enterTabs l.screens.tail
  | _, _ => l

/-
  `loadInitData`: an error ends it.  An item "isFirstSeen"
  that is no flag is one.
-/
def resumeInit
    (point : Point)
    (a : Answer)
    (l : Launch) : Launch × List Point :=
  if a.throws.isSome then
    (l, [])
  else
    match point with
    | .firstSeenReady =>
        if a.ready then
          match l.firstSeen.getD .null with
          | .null =>
              ({ l with
                  isFirstSeen := some true
                  found := .flag true }, [.loggedIn])
          | .bool seen =>
              ({ l with
                  isFirstSeen := some seen
                  found := .flag seen }, [.loggedIn])
          | _ => (l, [])
        else
          ({ l with isFirstSeen := none, found := .notReady },
            [.loggedIn])
    | .loggedIn =>
        ({ l with
            isLoggedIn := l.session.checkLogin
            loginChecked := true }, [.appConfig])
    | .appConfig =>
        ({ l with
            appConfig := a.config
            configLoaded := some a.config }, [])
    | _ => (l, [])

/- An attempt goes on, and welcomes the user it is given. -/
def resumeLogin
    (wp : WordPress)
    (id : Nat)
    (user : Option User)
    (point : LoginScreen.Point)
    (a : Answer)
    (l : Launch) : Launch × List Point :=
  let r :=
    LoginScreen.resume wp point a.toAnswer
      { session := l.session }
  let user := given user (called l.session r.1.session)
  let l := { l with session := r.1.session }
  (if Notice.welcome ∈ r.1.notices && user.isSome then
      l.welcome id point
    else
      l,
    r.2.map (.login id user))

/- The form is sent if it is complete. -/
def submitRegister
    (id : Nat)
    (firstName lastName username password : Option String)
    (isChecked : Bool)
    (l : Launch) : Launch × List Point :=
  if (firstName.isSome && lastName.isSome &&
      username.isSome && password.isSome && isChecked &&
      l.screens.contains (.registrationScreen id)) then
    let r :=
      Session.startLogin
        (.createUser firstName lastName username password)
        l.session
    ({ l with session := r.1 }, r.2.map (.register id))
  else
    (l, [])

/- The form is closed when it has made an account. -/
def resumeRegister
    (wp : WordPress)
    (id : Nat)
    (point : Session.Point)
    (a : Answer)
    (l : Launch) : Launch × List Point :=
  let r :=
    Session.resume wp point (LoginScreen.calm a.toWorld)
      l.session
  let l' := { l with session := r.1 }
  (if (given none (called l.session r.1)).isSome &&
        l.screens.contains (.registrationScreen id) then
      l'.pop
    else
      l',
    r.2.map (.register id))

/- Resume an operation where it is suspended. -/
def resume
    (wp : WordPress)
    (point : Point)
    (a : Answer)
    (l : Launch) : Launch × List Point :=
  match point with
  | .session .getUserReady =>
      ({ l with
          session :=
            (Session.resume wp .getUserReady a.toWorld
              l.session).1
          userLoaded := true
          awaited := false
          entries :=
            if l.awaited then
              l.entries ++ [a.throws.isNone && a.ready]
            else
              l.entries }, [])
  | .session point =>
      let r := Session.resume wp point a.toWorld l.session
      ({ l with session := r.1 }, r.2.map .session)
  | .login id user point => resumeLogin wp id user point a l
  | .submitRegister id firstName lastName username password
      isChecked =>
      submitRegister id firstName lastName username password
        isChecked l
  | .register id point => resumeRegister wp id point a l
  | point => resumeInit point a l

def program
    (c : Settings)
    (wp : WordPress) : Program Launch Op Point Answer where
  call := call c
  resume := resume wp
  queued := fun _ => false

/-
  A launch keeps the stores.  `UserModel`, which is built
  when it is first needed, waits for its storage.
-/
def boot (l : Launch) : Launch × List Point :=
  let session : Session :=
    { storage := l.session.storage
      prefs := l.session.prefs }
  ({  session := session
      firstSeen := l.firstSeen
      screens := [.splash]
      onBoardedBefore := l.onBoardedBefore || l.onBoarded
      decisions := l.decisions
      entries := l.entries },
    [.session .getUserReady])

/- All launches of the app. -/
def system
    (c : Settings)
    (wp : WordPress) :
    System (Pool Launch Point) (Life Op Answer) :=
  (program c wp).restarting boot

/- The app before its first launch, with some stores. -/
def installed
    (storage : LocalStorage)
    (prefs : Option Bool)
    (firstSeen : Option Json) : Pool Launch Point where
  shared :=
    { session := { storage := storage, prefs := prefs }
      firstSeen := firstSeen }
  pending := []

end Launch

end NewsCentral
