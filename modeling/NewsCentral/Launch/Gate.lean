import NewsCentral.Launch.Welcome

/-
  Whether the required login gates the main tabs.

  The decision of `AppInit` is the only one that looks at
  the login; it is right if the preferences were read before
  it, agree with the stored user, and that user is loaded,
  be it after the tabs were entered.  The onboarding leads
  to the tabs unasked.  The welcome of a login leads there
  with its user in session, unless that user has logged out
  on the way.

  Key definitions include:
    * `NewsCentral.Launch.gateRestart`
    * `NewsCentral.Launch.gateCall`
    * `NewsCentral.Launch.gateResume`
    * `NewsCentral.Launch.Gated`

  Key theorems include:
    * `NewsCentral.Launch.Gated.navigate`
    * `NewsCentral.Launch.UnderSplash.mayEnter`
-/

------------------------------------------------------------
-- Ways To The Tabs
------------------------------------------------------------

namespace NewsCentral

open Dart EventLoop

namespace Launch

/- The end of the splash leads to the tabs. -/
def leadsToTabs (c : Settings) (l : Launch) : Bool :=
  match l.splash with
  | .still => false
  | .flare =>
      match onNextScreen c l with
      | .ok (.onNext _) => true
      | _ => false
  | .home (.onNext _) => true
  | .home _ => false

/- The login had been checked when that was decided. -/
def decidedInformed (l : Launch) : Bool :=
  match l.splash with
  | .home _ => l.informed
  | _ => l.loginChecked

/- The screen that is going to welcome is there. -/
def hosts (l : Launch) (id : Nat) : Bool :=
  l.screens.contains (.loginScreen id) ||
    l.screens.contains (.verifyCode id)

/-
  A password login on a screen that is there, whose success
  callback has been given a user, is yet to welcome.
-/
def awaitsWelcome (l : Launch) : Point → Bool
  | .login id (some _) point =>
      isWelcoming point && l.hosts id
  | _ => false

/- A user is in session, or is about to be loaded. -/
def mayEnter (l : Launch) : Bool :=
  l.signedIn || l.awaitsUser

/- The stored user is there if the preferences say so. -/
def gateRestart (l : Launch) : Prop :=
  l.session.prefs = some true →
    l.session.storedUser.isSome = true

def gateCall
    (c : Settings)
    (l : Launch)
    (pending : List Point) : Op → Prop
  | .splashEnds =>
      l.leadsToTabs c = true → l.decidedInformed = true
  | .slideTimer =>
      l.screens.head? = some (.onBoardScreen 0) ∨
        l.mayEnter = true
  | .skip => l.mayEnter = true
  | .logout => ∀ k ∈ pending, l.awaitsWelcome k = false
  | _ => True

def loadsUser : Point → Bool
  | .session .getUserReady => true
  | _ => false

/-
  `UserModel` loads the stored user from a ready storage,
  under the splash and where the tabs were entered before.
-/
def gateResume
    (l : Launch)
    (_ : List Point)
    (point : Point)
    (a : Answer) : Prop :=
  loadsUser point = true →
    (l.awaited = true ∨
        .splash ∈ l.screens ∧
          l.session.storedUser.isSome = true) →
      a.throws = none ∧ a.ready = true

instance (l : Launch) : Decidable (gateRestart l) := by
  unfold gateRestart
  infer_instance

instance
    (c : Settings)
    (l : Launch)
    (pending : List Point)
    (op : Op) :
    Decidable (gateCall c l pending op) :=
  match op with
  | .splashEnds =>
      inferInstanceAs (Decidable
        (l.leadsToTabs c = true → l.decidedInformed = true))
  | .slideTimer =>
      inferInstanceAs (Decidable
        (l.screens.head? = some (.onBoardScreen 0) ∨
          l.mayEnter = true))
  | .skip => inferInstanceAs (Decidable (l.mayEnter = true))
  | .logout =>
      inferInstanceAs (Decidable
        (∀ k ∈ pending, l.awaitsWelcome k = false))
  | .build _ => isTrue trivial
  | .attempt _ => isTrue trivial
  | .openLogin => isTrue trivial
  | .openSMS => isTrue trivial
  | .openVerify => isTrue trivial
  | .openRegister => isTrue trivial
  | .register .. => isTrue trivial
  | .back => isTrue trivial

instance
    (l : Launch)
    (pending : List Point)
    (point : Point)
    (a : Answer) :
    Decidable (gateResume l pending point a) := by
  unfold gateResume
  infer_instance

end Launch

end NewsCentral

------------------------------------------------------------
-- The Invariant
------------------------------------------------------------

namespace NewsCentral

open Dart EventLoop

namespace Launch

/- The screens that others are pushed on. -/
def isRoot : Screen → Bool
  | .splash => true
  | .onBoardScreen _ => true
  | .mainTabs _ => true
  | .loginScreen _ => true
  | _ => false

/- The first screen of all is one of them. -/
def Rooted : List Screen → Prop
  | [] => True
  | [screen] => isRoot screen = true
  | _ :: below => Rooted below

/- The points of a launch that has yet to show a screen. -/
def isStartup : Point → Bool
  | .firstSeenReady => true
  | .loggedIn => true
  | .appConfig => true
  | .session .getUserReady => true
  | _ => false

/-
  Under the splash, nothing but the start goes on; the login
  that was checked, the user that was loaded and the screen
  that was decided on come from the stores.
-/
structure UnderSplash
    (l : Launch)
    (pending : List Point) : Prop where
  alone : l.screens = [.splash]
  starting : ∀ k ∈ pending, isStartup k = true
  stored :
    l.session.prefs = some true →
      l.session.storedUser.isSome = true
  checked :
    l.loginChecked = true →
      l.isLoggedIn = l.session.checkLogin
  loaded :
    l.userLoaded = true →
      l.session.storedUser.isSome = true →
        l.session.user.isSome = true
  decided :
    ∀ config, l.splash = .home (.onNext config) →
      l.informed = true → l.session.prefs = some true

/-
  Every entry was by a logged-in user, and whoever is yet to
  be welcomed by a screen is still in session.
-/
structure Gated
    (l : Launch)
    (pending : List Point) : Prop where
  entries : ∀ e ∈ l.entries, e = true
  rooted : Rooted l.screens
  named :
    ∀ screen ∈ l.screens, ∀ id ∈ screen.id, id < l.shown
  fresh :
    ∀ id user point,
      Point.login id user point ∈ pending → id < l.shown
  welcomed :
    ∀ k ∈ pending,
      l.awaitsWelcome k = true →
        l.session.user.isSome = true
  splash : .splash ∈ l.screens → UnderSplash l pending

variable {c : Settings} {wp : WordPress} {l m : Launch}
variable {pending points : List Point}

theorem rooted_cons
    {screen : Screen}
    {below : List Screen}
    (hRooted : Rooted below)
    (hAbove : isRoot screen = true ∨ below ≠ []) :
    Rooted (screen :: below) := by
  cases below with
  | nil =>
      rcases hAbove with hRoot | hBelow
      · exact hRoot
      · exact absurd rfl hBelow
  | cons => exact hRooted

theorem rooted_tail
    {screens : List Screen}
    (hRooted : Rooted screens) :
    Rooted screens.tail := by
  match screens, hRooted with
  | [], _ => trivial
  | [_], _ => trivial
  | _ :: _ :: _, hRooted => exact hRooted

theorem hosts_iff
    {id : Nat} :
    l.hosts id = true ↔
      .loginScreen id ∈ l.screens ∨
        .verifyCode id ∈ l.screens := by
  simp [hosts]

theorem awaitsWelcome_iff
    {id : Nat}
    {user : Option User}
    {point : LoginScreen.Point} :
    l.awaitsWelcome (.login id user point) = true ↔
      user.isSome = true ∧ isWelcoming point = true ∧
        l.hosts id = true := by
  cases user <;> simp [awaitsWelcome]

/- Who awaits a welcome is told by the screens. -/
theorem awaitsWelcome_of_screens
    {k : Point}
    (hScreens : m.screens = l.screens)
    (hAwaits : m.awaitsWelcome k = true) :
    l.awaitsWelcome k = true := by
  unfold awaitsWelcome hosts at hAwaits ⊢
  rw [hScreens] at hAwaits
  exact hAwaits

/- Only attempts are yet to welcome. -/
theorem exists_login_of_awaitsWelcome
    {k : Point}
    (hAwaits : l.awaitsWelcome k = true) :
    ∃ id user point, k = .login id user point := by
  cases k with
  | login id user point => exact ⟨id, user, point, rfl⟩
  | _ => cases hAwaits

/- A user in session may enter the tabs. -/
theorem mayEnter_of_user
    (hUser : l.session.user.isSome = true) :
    l.mayEnter = true := by
  simp [mayEnter, signedIn, hUser]

/- What is noted of who may enter the tabs. -/
theorem entries_enterTabs
    (hEnter : l.mayEnter = true)
    (hEntries : ∀ e ∈ l.entries, e = true)
    (below : List Screen) :
    ∀ e ∈ (l.enterTabs below).entries, e = true := by
  intro e hMem
  simp only [Launch.enterTabs] at hMem
  split at hMem
  · exact hEntries e hMem
  next hSure =>
    rcases List.mem_append.mp hMem with hOld | hNew
    · exact hEntries e hOld
    · rw [List.mem_singleton.mp hNew]
      cases hUser : l.signedIn with
      | true => rfl
      | false =>
          rw [mayEnter, hUser, Bool.false_or] at hEnter
          simp [hUser, hEnter] at hSure

/-
  Moves of the navigator after which the splash is gone: the
  screens are old ones, or have the next name or none.
-/
theorem Gated.navigate
    (hGated : Gated l pending)
    (hSession : m.session = l.session)
    (hEntries : ∀ e ∈ m.entries, e = true)
    (hRooted : Rooted m.screens)
    (hShown : l.shown ≤ m.shown)
    (hScreens :
      ∀ screen ∈ m.screens,
        screen ≠ .splash ∧
          (screen ∈ l.screens ∨
            ∀ id ∈ screen.id,
              id = l.shown ∧ l.shown < m.shown)) :
    Gated m pending where
  entries := hEntries
  rooted := hRooted
  named := by
    intro screen hMem id hId
    rcases (hScreens screen hMem).2 with hOld | hNew
    · have hLess := hGated.named screen hOld id hId
      omega
    · have hLess := hNew id hId
      omega
  fresh := by
    intro id user point hMem
    have hLess := hGated.fresh id user point hMem
    omega
  welcomed := by
    intro k hMem hAwaits
    rw [hSession]
    rcases exists_login_of_awaitsWelcome hAwaits with
      ⟨id, user, point, rfl⟩
    apply hGated.welcomed _ hMem
    rw [awaitsWelcome_iff] at hAwaits ⊢
    refine ⟨hAwaits.1, hAwaits.2.1, ?_⟩
    have hLess := hGated.fresh id user point hMem
    have hOld (screen : Screen) (hId : screen.id = some id)
        (hNow : screen ∈ m.screens) :
        screen ∈ l.screens := by
      rcases (hScreens screen hNow).2 with hOld | hNew
      · exact hOld
      · have hSame := (hNew id hId).1
        omega
    rw [hosts_iff] at hAwaits ⊢
    rcases hAwaits.2.2 with hLogin | hVerify
    · exact .inl (hOld _ rfl hLogin)
    · exact .inr (hOld _ rfl hVerify)
  splash := by
    intro hMem
    exact absurd rfl (hScreens _ hMem).1

/- The main tabs are entered by who may. -/
theorem Gated.enterTabs
    (hGated : Gated l pending)
    (hSplash : .splash ∉ l.screens)
    (hEnter : l.mayEnter = true)
    {below : List Screen}
    (hBelow : Rooted below)
    (hSub : ∀ screen ∈ below, screen ∈ l.screens) :
    Gated (l.enterTabs below) pending := by
  refine hGated.navigate rfl ?_ ?_ ?_ ?_
  · exact entries_enterTabs hEnter hGated.entries below
  · exact rooted_cons hBelow (.inl rfl)
  · exact Nat.le_succ _
  · intro screen hMem
    rcases List.mem_cons.mp hMem with rfl | hOld
    · refine ⟨by simp, .inr fun id hId => ?_⟩
      cases hId
      exact ⟨rfl, Nat.lt_succ_self _⟩
    · have hMem := hSub screen hOld
      exact ⟨ne_of_mem_of_not_mem hMem hSplash, .inl hMem⟩

/- The splash is alone, so it is not below another screen. -/
theorem Gated.splash_not_mem
    (hGated : Gated l pending)
    {screen : Screen}
    (hHead : l.screens.head? = some screen)
    (hScreen : screen ≠ .splash) :
    .splash ∉ l.screens := by
  intro hMem
  rw [(hGated.splash hMem).alone] at hHead
  exact hScreen (Option.some.inj hHead).symm

/- A screen is pushed on those that are there. -/
theorem Gated.push
    (hGated : Gated l pending)
    (hSplash : .splash ∉ l.screens)
    (hSome : l.screens ≠ [])
    {screen : Nat → Screen}
    (hScreen : ∀ id, screen id ≠ .splash)
    (hName : ∀ id name, (screen id).id = some name → name = id) :
    Gated (l.push screen) pending := by
  refine hGated.navigate rfl hGated.entries ?_ ?_ ?_
  · exact rooted_cons hGated.rooted (.inr hSome)
  · exact Nat.le_succ _
  · intro other hMem
    rcases List.mem_cons.mp hMem with rfl | hOld
    · refine ⟨hScreen _, .inr fun id hId => ?_⟩
      exact ⟨hName _ _ hId, Nat.lt_succ_self _⟩
    · exact ⟨ne_of_mem_of_not_mem hOld hSplash, .inl hOld⟩

/-
  A screen is pushed on one that is not the splash, so on
  none of those that are there.
-/
theorem Gated.pushOn
    (hGated : Gated l pending)
    {top : Screen}
    (hHead : l.screens.head? = some top)
    (hTop : top ≠ .splash)
    {screen : Nat → Screen}
    (hScreen : ∀ id, screen id ≠ .splash)
    (hName : ∀ id name, (screen id).id = some name → name = id) :
    Gated (l.push screen) pending := by
  refine hGated.push (hGated.splash_not_mem hHead hTop) ?_
    hScreen hName
  intro hNil
  rw [hNil] at hHead
  cases hHead

/- Screens are taken away from the top. -/
theorem Gated.drop
    (hGated : Gated l pending)
    (hSplash : .splash ∉ l.screens)
    {below : List Screen}
    (hBelow : Rooted below)
    (hSub : ∀ screen ∈ below, screen ∈ l.screens) :
    Gated { l with screens := below } pending := by
  refine hGated.navigate rfl hGated.entries hBelow
    (Nat.le_refl _) ?_
  intro screen hMem
  have hOld := hSub screen hMem
  exact ⟨ne_of_mem_of_not_mem hOld hSplash, .inl hOld⟩

/- Fewer points are suspended. -/
theorem Gated.mono
    (hGated : Gated l pending)
    {fewer : List Point}
    (hSub : ∀ k ∈ fewer, k ∈ pending) :
    Gated l fewer where
  entries := hGated.entries
  rooted := hGated.rooted
  named := hGated.named
  fresh id user point hMem :=
    hGated.fresh id user point (hSub _ hMem)
  welcomed k hMem := hGated.welcomed k (hSub k hMem)
  splash hMem :=
    { hGated.splash hMem with
      starting := fun k hK =>
        (hGated.splash hMem).starting k (hSub k hK) }

/- Further points are suspended. -/
theorem Gated.add
    (hGated : Gated l pending)
    (hFresh :
      ∀ id user point,
        Point.login id user point ∈ points → id < l.shown)
    (hWelcomed :
      ∀ k ∈ points,
        l.awaitsWelcome k = true →
          l.session.user.isSome = true)
    (hStarting :
      .splash ∈ l.screens → ∀ k ∈ points, isStartup k = true) :
    Gated l (pending ++ points) where
  entries := hGated.entries
  rooted := hGated.rooted
  named := hGated.named
  fresh := by
    intro id user point hMem
    rcases List.mem_append.mp hMem with hOld | hNew
    · exact hGated.fresh id user point hOld
    · exact hFresh id user point hNew
  welcomed := by
    intro k hMem
    rcases List.mem_append.mp hMem with hOld | hNew
    · exact hGated.welcomed k hOld
    · exact hWelcomed k hNew
  splash := by
    intro hSplash
    have hUnder := hGated.splash hSplash
    refine { hUnder with starting := ?_ }
    intro k hMem
    rcases List.mem_append.mp hMem with hOld | hNew
    · exact hUnder.starting k hOld
    · exact hStarting hSplash k hNew

/- The session goes on, and keeps a user if it has one. -/
theorem Gated.withSession
    (hGated : Gated l pending)
    (hSplash : .splash ∉ l.screens)
    {s : Session}
    (hKeeps :
      l.session.user.isSome = true → s.user.isSome = true) :
    Gated { l with session := s } pending where
  entries := hGated.entries
  rooted := hGated.rooted
  named := hGated.named
  fresh := hGated.fresh
  welcomed := by
    intro k hMem hAwaits
    have hBefore : l.awaitsWelcome k = true :=
      awaitsWelcome_of_screens rfl hAwaits
    exact hKeeps (hGated.welcomed k hMem hBefore)
  splash hMem := absurd hMem hSplash

end Launch

end NewsCentral

------------------------------------------------------------
-- Under The Splash
------------------------------------------------------------

namespace NewsCentral

open Dart EventLoop

namespace Launch

variable {c : Settings} {l : Launch} {pending : List Point}

/- With the login required, the tabs are for the logged in. -/
theorem isLoggedIn_of_onNext
    (hRequired : c.isRequiredLogin = true)
    {config : Option Json}
    (hNext : onNextScreen c l = .ok (.onNext config)) :
    l.isLoggedIn = true := by
  unfold onNextScreen at hNext
  rw [hRequired] at hNext
  cases hFlag : l.isFirstSeen with
  | none =>
      rw [hFlag] at hNext
      cases hNext
  | some isFirstSeen =>
      rw [hFlag] at hNext
      simp only at hNext
      cases hLogged : l.isLoggedIn with
      | true => rfl
      | false =>
          rw [hLogged] at hNext
          split at hNext
          · cases hNext
          · cases hNext

/- The login that was checked is that of the preferences. -/
theorem UnderSplash.prefs_of_onNext
    (hUnder : UnderSplash l pending)
    (hRequired : c.isRequiredLogin = true)
    (hChecked : l.loginChecked = true)
    {config : Option Json}
    (hNext : onNextScreen c l = .ok (.onNext config)) :
    l.session.prefs = some true := by
  have hLogged := isLoggedIn_of_onNext hRequired hNext
  rw [hUnder.checked hChecked] at hLogged
  unfold Session.checkLogin at hLogged
  cases hPrefs : l.session.prefs with
  | none => simp [hPrefs] at hLogged
  | some prefs => simpa [hPrefs] using hLogged

/- The user of the preferences is loaded, or will be. -/
theorem UnderSplash.mayEnter
    (hUnder : UnderSplash l pending)
    (hPrefs : l.session.prefs = some true) :
    l.mayEnter = true := by
  have hStored := hUnder.stored hPrefs
  cases hLoaded : l.userLoaded with
  | true => exact mayEnter_of_user (hUnder.loaded hLoaded hStored)
  | false =>
      simp [Launch.mayEnter, awaitsUser, hLoaded, hStored]

/- The splash gives way to the screen decided on. -/
theorem Gated.pushReplacement
    (hGated : Gated l pending)
    (hUnder : UnderSplash l pending)
    (next : NextScreen)
    (hTabs :
      ∀ config, next = .onNext config → l.mayEnter = true) :
    Gated (l.pushReplacement next) pending := by
  have hTail : l.screens.tail = [] := by
    rw [hUnder.alone]
    rfl
  cases next with
  | onBoardScreen config =>
      simp only [Launch.pushReplacement, hTail]
      refine hGated.navigate rfl hGated.entries rfl
        (Nat.le_refl _) ?_
      simp [Screen.id]
  | loginScreen =>
      simp only [Launch.pushReplacement, hTail]
      refine hGated.navigate rfl hGated.entries rfl
        (Nat.le_succ _) ?_
      simp [Screen.id]
  | onNext config =>
      simp only [Launch.pushReplacement, hTail]
      refine hGated.navigate rfl ?_ rfl (Nat.le_succ _) ?_
      · exact entries_enterTabs (hTabs config rfl)
          hGated.entries []
      · simp [Launch.enterTabs, Screen.id]

/- What `AppInit` shows does not matter to the navigator. -/
theorem Gated.withSplash
    (hGated : Gated l pending)
    {splash : Splash}
    {informed laidOut : Bool}
    {decisions : List (Bool × Except Thrown NextScreen)}
    (hDecided :
      ∀ config, splash = .home (.onNext config) →
        informed = true → l.session.prefs = some true) :
    Gated
      { l with
        splash := splash
        informed := informed
        laidOut := laidOut
        decisions := decisions } pending where
  entries := hGated.entries
  rooted := hGated.rooted
  named := hGated.named
  fresh := hGated.fresh
  welcomed := by
    intro k hMem hAwaits
    exact hGated.welcomed k hMem
      (awaitsWelcome_of_screens rfl hAwaits)
  splash := by
    intro hMem
    have hUnder := hGated.splash hMem
    exact ⟨hUnder.alone, hUnder.starting, hUnder.stored,
      hUnder.checked, hUnder.loaded, hDecided⟩

end Launch

end NewsCentral
