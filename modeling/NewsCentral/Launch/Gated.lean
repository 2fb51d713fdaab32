import NewsCentral.Launch.Gate

/-
  The gate over all launches: every operation and every turn
  that meets its condition keeps it, and a restart closes it
  again.

  Key theorems include:
    * `NewsCentral.Launch.Gated.call`
    * `NewsCentral.Launch.Gated.resume`
    * `NewsCentral.Launch.entered_signedIn_of_run`
-/

------------------------------------------------------------
-- Operations
------------------------------------------------------------

namespace NewsCentral

open Dart EventLoop

namespace Launch

variable {c : Settings} {wp : WordPress} {l m : Launch}
variable {pending points : List Point}

theorem Gated.build
    (hGated : Gated l pending)
    (hRequired : c.isRequiredLogin = true)
    (hSplash : .splash ∈ l.screens)
    (type : SplashScreenType) :
    Gated { l.build c type with laidOut := true } pending := by
  have hUnder := hGated.splash hSplash
  have hHome :
      ∀ config,
        (l.build c .animated).splash = .home (.onNext config) →
        l.loginChecked = true →
        l.session.prefs = some true := by
    intro config hHome hChecked
    cases hNext : onNextScreen c l with
    | error e =>
        simp only [Launch.build, hNext] at hHome
        cases hHome
    | ok next =>
        simp only [Launch.build, hNext] at hHome
        cases hHome
        exact hUnder.prefs_of_onNext hRequired hChecked hNext
  cases type with
  | animated => exact hGated.withSplash hHome
  | zoomIn => exact hGated.withSplash hHome
  | _ => exact hGated.withSplash fun _ hHome => by cases hHome

theorem Gated.splashEnds
    (hGated : Gated l pending)
    (hRequired : c.isRequiredLogin = true)
    (hSplash : .splash ∈ l.screens)
    (hOk : gateCall c l pending .splashEnds)
    (hEnds : l.splashEnds c = some m) :
    Gated m pending := by
  have hUnder := hGated.splash hSplash
  have hInformed :
      l.leadsToTabs c = true → l.decidedInformed = true := hOk
  have hDecide : Gated (l.decide c) pending :=
    hGated.withSplash hUnder.decided
  unfold Launch.splashEnds at hEnds
  cases hShown : l.splash with
  | still =>
      rw [hShown] at hEnds
      cases hEnds
  | flare =>
      rw [hShown] at hEnds
      cases hNext : onNextScreen c l with
      | error e =>
          rw [hNext] at hEnds
          cases Option.some.inj hEnds
          exact hGated.withSplash fun _ hHome => by cases hHome
      | ok next =>
          rw [hNext] at hEnds
          cases Option.some.inj hEnds
          refine hDecide.pushReplacement
            (hDecide.splash hSplash) next ?_
          rintro config rfl
          have hChecked : l.loginChecked = true := by
            simpa [leadsToTabs, decidedInformed, hShown, hNext]
              using hInformed
          exact hUnder.mayEnter
            (hUnder.prefs_of_onNext hRequired hChecked hNext)
  | home next =>
      rw [hShown] at hEnds
      cases Option.some.inj hEnds
      refine hGated.pushReplacement hUnder next ?_
      rintro config rfl
      have hBuilt : l.informed = true := by
        simpa [leadsToTabs, decidedInformed, hShown]
          using hInformed
      exact hUnder.mayEnter
        (hUnder.decided config hShown hBuilt)

/- The onboarding is left by who may enter the tabs. -/
theorem Gated.leaveOnBoard
    (hGated : Gated l pending)
    (hSplash : .splash ∉ l.screens)
    (hEnter : l.mayEnter = true) :
    Gated l.leaveOnBoard pending := by
  have hTabs :=
    hGated.enterTabs hSplash hEnter hGated.rooted
      fun _ hMem => hMem
  refine hTabs.navigate rfl hTabs.entries hTabs.rooted
    (Nat.le_refl _) ?_
  intro screen hMem
  refine ⟨?_, .inl hMem⟩
  rcases List.mem_cons.mp hMem with rfl | hOld
  · simp
  · exact ne_of_mem_of_not_mem hOld hSplash

/- The onboarding shows its second slide. -/
theorem Gated.nextPage
    (hGated : Gated l pending)
    (hSplash : .splash ∉ l.screens) :
    Gated
      { l with
        screens := .onBoardScreen 1 :: l.screens.tail }
      pending := by
  refine hGated.navigate rfl hGated.entries
    (rooted_cons (rooted_tail hGated.rooted) (.inl rfl))
    (Nat.le_refl _) ?_
  intro screen hMem
  rcases List.mem_cons.mp hMem with rfl | hTail
  · exact ⟨by simp, .inr (by simp [Screen.id])⟩
  · have hOld := List.mem_of_mem_tail hTail
    exact ⟨ne_of_mem_of_not_mem hOld hSplash, .inl hOld⟩

/- Back leads to a screen below, never to the tabs. -/
theorem Gated.back
    (hGated : Gated l pending)
    (hSplash : .splash ∉ l.screens)
    (hBack : l.back = some m) :
    Gated m pending := by
  unfold Launch.back at hBack
  have hRooted := hGated.rooted
  split at hBack
  · cases hBack
  · rename_i hScreens
    rw [hScreens] at hRooted
    cases hRooted
  · rename_i hScreens
    rw [hScreens] at hRooted
    cases hRooted
  · cases hBack
  · rename_i screen below _ _ _ hScreens
    cases Option.some.inj hBack
    refine hGated.drop hSplash ?_ ?_
    · rw [hScreens] at hRooted
      exact rooted_tail hRooted
    · intro screen hMem
      rw [hScreens]
      exact List.mem_cons_of_mem _ hMem

/- A logout while nobody awaits a welcome. -/
theorem Gated.logout
    (hGated : Gated l pending)
    (hSplash : .splash ∉ l.screens)
    (hOk : gateCall c l pending .logout)
    (s : Session) :
    Gated { l with session := s } pending where
  entries := hGated.entries
  rooted := hGated.rooted
  named := hGated.named
  fresh := hGated.fresh
  welcomed := by
    intro k hMem hAwaits
    have hNone : l.awaitsWelcome k = false := hOk k hMem
    have hSome : l.awaitsWelcome k = true :=
      awaitsWelcome_of_screens rfl hAwaits
    rw [hNone] at hSome
    cases hSome
  splash hMem := absurd hMem hSplash

/- The screen that offers an attempt has a name. -/
theorem head_of_offers
    {attempt : LoginScreen.Attempt}
    {id : Nat}
    (hOffers : l.offers attempt = some id) :
    ∃ screen, l.screens.head? = some screen ∧
      screen ≠ .splash ∧ screen.id = some id := by
  unfold offers at hOffers
  split at hOffers
  · rename_i hHead
    cases hOffers
    exact ⟨_, hHead, by simp, rfl⟩
  · cases hOffers
  · rename_i hHead _
    cases hOffers
    exact ⟨_, hHead, by simp, rfl⟩
  · rename_i hHead _
    split at hOffers
    · cases hOffers
    · cases hOffers
      exact ⟨_, hHead, by simp, rfl⟩
  · cases hOffers

/- An attempt begins without a user to welcome. -/
theorem Gated.attempt
    (hGated : Gated l pending)
    {attempt : LoginScreen.Attempt}
    {id : Nat}
    (hOffers : l.offers attempt = some id) :
    Gated l (pending ++ (startAttempt id attempt l).2) := by
  rcases head_of_offers hOffers with
    ⟨screen, hHead, hScreen, hId⟩
  have hLess : id < l.shown :=
    hGated.named screen (List.mem_of_mem_head? hHead) id hId
  have hPoints (k : Point)
      (hMem : k ∈ (startAttempt id attempt l).2) :
      ∃ point, k = .login id none point := by
    rcases List.mem_map.mp hMem with ⟨point, _, rfl⟩
    exact ⟨point, rfl⟩
  refine hGated.add ?_ ?_ ?_
  · intro other user point hMem
    rcases hPoints _ hMem with ⟨_, hEq⟩
    cases hEq
    exact hLess
  · intro k hMem hAwaits
    rcases hPoints k hMem with ⟨_, rfl⟩
    cases hAwaits
  · intro hMem
    exact absurd hMem (hGated.splash_not_mem hHead hScreen)

/- Nothing is suspended that could welcome. -/
theorem Gated.addOthers
    (hGated : Gated l pending)
    (hPoints :
      ∀ k ∈ points, ∀ id user point, k ≠ .login id user point)
    (hStarting :
      .splash ∈ l.screens → ∀ k ∈ points, isStartup k = true) :
    Gated l (pending ++ points) := by
  refine hGated.add ?_ ?_ hStarting
  · intro id user point hMem
    exact absurd rfl (hPoints _ hMem id user point)
  · intro k hMem hAwaits
    rcases exists_login_of_awaitsWelcome hAwaits with
      ⟨id, user, point, rfl⟩
    exact absurd rfl (hPoints _ hMem id user point)

/- Only methods of the session are suspended. -/
theorem Gated.addSession
    (hGated : Gated l pending)
    (hSplash : .splash ∉ l.screens)
    (suspend : Session.Point → Point)
    (hOther :
      ∀ point id user login,
        suspend point ≠ .login id user login)
    (more : List Session.Point) :
    Gated l (pending ++ more.map suspend) := by
  refine hGated.addOthers ?_ fun hMem => absurd hMem hSplash
  intro k hMem
  rcases List.mem_map.mp hMem with ⟨point, _, rfl⟩
  exact hOther point

/- A login screen is shown, so the splash is not. -/
theorem head_of_showsLogin
    (hShows : l.showsLogin = true) :
    ∃ screen, l.screens.head? = some screen ∧
      screen ≠ .splash := by
  unfold showsLogin at hShows
  split at hShows
  · rename_i hHead
    exact ⟨_, hHead, by simp⟩
  · rename_i hHead
    exact ⟨_, hHead, by simp⟩
  · cases hShows

/- The operations keep the gate, on their conditions. -/
theorem Gated.call
    (hGated : Gated l pending)
    (hRequired : c.isRequiredLogin = true)
    {op : Op}
    (hOk : gateCall c l pending op)
    (hCall : call c op l = some (m, points)) :
    Gated m (pending ++ points) := by
  unfold Launch.call at hCall
  split at hCall
  case h_1 type hHead =>
      cases Option.some.inj hCall
      have hSplash := List.mem_of_mem_head? hHead
      refine (hGated.build hRequired hSplash type).addOthers
        ?_ ?_
      · split <;> simp
      · split <;> simp [isStartup]
  case h_2 hHead =>
      rcases Option.map_eq_some_iff.mp hCall with
        ⟨t, hEnds, hEq⟩
      cases hEq
      rw [List.append_nil]
      exact hGated.splashEnds hRequired
        (List.mem_of_mem_head? hHead) hOk hEnds
  case h_3 hHead =>
      cases Option.some.inj hCall
      rw [List.append_nil]
      have hSplash := hGated.splash_not_mem hHead (by simp)
      exact hGated.nextPage hSplash
  case h_4 hPage hHead =>
      cases Option.some.inj hCall
      rw [List.append_nil]
      have hSplash := hGated.splash_not_mem hHead (by simp)
      refine hGated.leaveOnBoard hSplash ?_
      rcases hOk with hFirst | hEnter
      · rw [hFirst] at hHead
        cases hHead
        exact absurd rfl hPage
      · exact hEnter
  case h_5 hHead =>
      cases Option.some.inj hCall
      rw [List.append_nil]
      have hSplash := hGated.splash_not_mem hHead (by simp)
      exact hGated.leaveOnBoard hSplash hOk
  case h_6 =>
      rcases Option.map_eq_some_iff.mp hCall with
        ⟨id, hOffers, hEq⟩
      cases hEq
      exact hGated.attempt hOffers
  case h_7 hHead =>
      split at hCall
      · cases hCall
      · cases hCall
        rw [List.append_nil]
        exact hGated.pushOn hHead (by simp) (by simp)
          (by simp [Screen.id])
  case h_8 =>
      split at hCall
      · rename_i hShows
        cases hCall
        rw [List.append_nil]
        rcases head_of_showsLogin hShows with
          ⟨screen, hHead, hScreen⟩
        exact hGated.pushOn hHead hScreen (by simp)
          (by simp [Screen.id])
      · cases hCall
  case h_9 hHead =>
      cases Option.some.inj hCall
      rw [List.append_nil]
      exact hGated.pushOn hHead (by simp) (by simp)
        (by simp [Screen.id])
  case h_10 =>
      split at hCall
      · rename_i hShows
        cases hCall
        rw [List.append_nil]
        rcases head_of_showsLogin hShows with
          ⟨screen, hHead, hScreen⟩
        exact hGated.pushOn hHead hScreen (by simp)
          (by simp [Screen.id])
      · cases hCall
  case h_11 id hHead =>
      cases Option.some.inj hCall
      have hSplash := hGated.splash_not_mem hHead (by simp)
      exact hGated.addOthers (by simp)
        fun hMem => absurd hMem hSplash
  case h_12 =>
      rcases Option.map_eq_some_iff.mp hCall with
        ⟨t, hBack, hEq⟩
      cases hEq
      rw [List.append_nil]
      by_cases hSplash : .splash ∈ l.screens
      · unfold Launch.back at hBack
        rw [(hGated.splash hSplash).alone] at hBack
        cases hBack
      · exact hGated.back hSplash hBack
  case h_13 hHead =>
      rcases Option.map_eq_some_iff.mp hCall with
        ⟨r, hLogout, hEq⟩
      cases hEq
      have hSplash := hGated.splash_not_mem hHead (by simp)
      exact (hGated.logout hSplash hOk r.1).addSession hSplash
        .session (by simp) r.2
  case h_14 => cases hCall

end Launch

end NewsCentral

------------------------------------------------------------
-- Turns
------------------------------------------------------------

namespace NewsCentral

open Dart EventLoop

namespace Launch

variable {c : Settings} {wp : WordPress} {l m : Launch}
variable {pending points : List Point}

/- A welcome leads to the tabs with a user in session. -/
theorem Gated.welcome
    (hGated : Gated l pending)
    (hSplash : .splash ∉ l.screens)
    {id : Nat}
    {point : LoginScreen.Point}
    (hUser :
      l.hosts id = true ∨ point ≠ .stopToWelcome →
        l.session.user.isSome = true) :
    Gated (l.welcome id point) pending := by
  have hTail :
      ∀ screen ∈ l.screens.tail, screen ∈ l.screens :=
    fun _ hMem => List.mem_of_mem_tail hMem
  have hId {screen : Screen}
      (hFind :
        l.screens.find? (fun screen => screen.id = some id) =
          some screen) :
      screen ∈ l.screens ∧ screen.id = some id := by
    refine ⟨List.mem_of_find?_eq_some hFind, ?_⟩
    simpa using List.find?_some hFind
  unfold Launch.welcome
  split
  · rename_i hFind
    rcases hId hFind with ⟨hMem, hName⟩
    cases hName
    have hHosts : l.hosts id = true := hosts_iff.mpr (.inl hMem)
    exact hGated.enterTabs hSplash
      (mayEnter_of_user (hUser (.inl hHosts)))
      (rooted_tail hGated.rooted) hTail
  · rename_i hFind
    rcases hId hFind with ⟨hMem, hName⟩
    cases hName
    have hHosts : l.hosts id = true := hosts_iff.mpr (.inr hMem)
    exact hGated.enterTabs hSplash
      (mayEnter_of_user (hUser (.inl hHosts))) trivial (by simp)
  · exact hGated.enterTabs hSplash
      (mayEnter_of_user (hUser (.inr (by simp))))
      (rooted_tail hGated.rooted) hTail
  · exact hGated

/- A turn of an attempt keeps the gate. -/
theorem Gated.resumeLogin
    (hGated : Gated l pending)
    (hSplash : .splash ∉ l.screens)
    {id : Nat}
    {user : Option User}
    {point : LoginScreen.Point}
    (hLess : id < l.shown)
    (hWelcomed :
      l.awaitsWelcome (.login id user point) = true →
        l.session.user.isSome = true)
    (a : Answer) :
    Gated (resumeLogin wp id user point a l).1
      (pending ++ (resumeLogin wp id user point a l).2) := by
  have hVouched :=
    loginTurn_vouched wp l.session user point a.toAnswer
  have hKept
      (hWelcoming : isWelcoming point = true)
      (hSome : user.isSome = true)
      (hHosts : l.hosts id = true) :=
    hVouched.keeps
      (hWelcomed
        (awaitsWelcome_iff.mpr ⟨hSome, hWelcoming, hHosts⟩))
  simp only [Launch.resumeLogin]
  generalize
    LoginScreen.resume wp point a.toAnswer
      { session := l.session } = r at hVouched hKept
  have hAdded :
      Gated { l with session := r.1.session }
        (pending ++
          r.2.map
            (.login id
              (given user
                (called l.session r.1.session)))) := by
    refine (hGated.withSession hSplash hVouched.keeps).add
      ?_ ?_ ?_
    · intro other given next hMem
      rcases List.mem_map.mp hMem with ⟨_, _, hEq⟩
      cases hEq
      exact hLess
    · intro k hMem hAwaits
      rcases List.mem_map.mp hMem with ⟨next, hNext, rfl⟩
      rcases awaitsWelcome_iff.mp hAwaits with
        ⟨hSome, hWelcoming, hHosts⟩
      rcases hVouched.points hSome next hNext hWelcoming with
        ⟨hBefore, hUser⟩ | hUser
      · exact hKept hBefore hUser hHosts
      · exact hUser
    · intro hMem
      exact absurd hMem hSplash
  split
  · rename_i hBoth
    have hGiven := by simpa using hBoth
    refine hAdded.welcome hSplash fun hWays => ?_
    rcases hVouched.welcome hGiven.2 hGiven.1 with
      ⟨rfl, hSome⟩ | hUser
    · rcases hWays with hHosts | hOther
      · exact hKept rfl hSome hHosts
      · exact absurd rfl hOther
    · exact hUser
  · exact hAdded

/- What `AppInit` has read does not matter to the rest. -/
theorem Gated.withReads
    (hGated : Gated l pending)
    {isFirstSeen : Option Bool}
    {found : Found}
    {isLoggedIn loginChecked : Bool}
    {appConfig : Option Json}
    {configLoaded : Option (Option Json)}
    (hChecked :
      .splash ∈ l.screens → loginChecked = true →
        isLoggedIn = l.session.checkLogin) :
    Gated
      { l with
        isFirstSeen := isFirstSeen
        found := found
        isLoggedIn := isLoggedIn
        loginChecked := loginChecked
        appConfig := appConfig
        configLoaded := configLoaded } pending where
  entries := hGated.entries
  rooted := hGated.rooted
  named := hGated.named
  fresh := hGated.fresh
  welcomed := by
    intro k hMem hAwaits
    exact hGated.welcomed k hMem
      (awaitsWelcome_of_screens rfl hAwaits)
  splash := by
    intro hMem
    have hUnder := hGated.splash hMem
    exact ⟨hUnder.alone, hUnder.starting, hUnder.stored,
      hChecked hMem, hUnder.loaded, hUnder.decided⟩

/- A turn of `loadInitData` keeps the gate. -/
theorem Gated.resumeInit
    (hGated : Gated l pending)
    (point : Point)
    (a : Answer) :
    Gated (resumeInit point a l).1
      (pending ++ (resumeInit point a l).2) := by
  have hSame : Gated l (pending ++ []) := by
    rw [List.append_nil]
    exact hGated
  have hChecked (hMem : .splash ∈ l.screens) :=
    (hGated.splash hMem).checked
  cases point with
  | firstSeenReady =>
      simp only [Launch.resumeInit]
      split
      · exact hSame
      · split
        · split
          · exact (hGated.withReads hChecked).addOthers
              (by simp) (by simp [isStartup])
          · exact (hGated.withReads hChecked).addOthers
              (by simp) (by simp [isStartup])
          · exact hSame
        · exact (hGated.withReads hChecked).addOthers
            (by simp) (by simp [isStartup])
  | loggedIn =>
      simp only [Launch.resumeInit]
      split
      · exact hSame
      · exact (hGated.withReads fun _ _ => rfl).addOthers
          (by simp) (by simp [isStartup])
  | appConfig =>
      simp only [Launch.resumeInit]
      split
      · exact hSame
      · exact (hGated.withReads hChecked).addOthers
          (by simp) (by simp)
  | _ =>
      simp only [Launch.resumeInit, ite_self]
      exact hSame

/- The form gives way to the screen below. -/
theorem Gated.pop
    (hGated : Gated l pending)
    (hSplash : .splash ∉ l.screens) :
    Gated l.pop pending := by
  have hRooted := hGated.rooted
  unfold Launch.pop
  split
  · rename_i hScreens
    refine hGated.drop hSplash ?_ ?_
    · rw [hScreens] at hRooted
      exact hRooted
    · intro screen hMem
      rw [hScreens]
      exact List.mem_cons_of_mem _ hMem
  · exact hGated

/- The stores are only read for the stored user. -/
theorem getUser_stores
    (wp : WordPress)
    (w : Session.World)
    (s : Session) :
    (Session.resume wp .getUserReady w s).1.storage =
        s.storage ∧
      (Session.resume wp .getUserReady w s).1.prefs =
        s.prefs := by
  simp only [Session.resume, Session.loadUser]
  repeat' split
  all_goals exact ⟨rfl, rfl⟩

/- A ready storage gives the user it has. -/
theorem getUser_user
    {a : Answer}
    {s : Session}
    (hThrows : a.throws = none)
    (hReady : a.ready = true)
    (hStored : s.storedUser.isSome = true) :
    (Session.resume wp .getUserReady a.toWorld
      s).1.user.isSome = true := by
  have hBegun :=
    Session.resume_begun wp .getUserReady a.toWorld s
  rcases Option.isSome_iff_exists.mp hStored with ⟨user, hUser⟩
  simp only [Session.begun, hThrows, hReady, hUser,
    Option.isNone_none, Bool.and_self, ite_true] at hBegun
  rw [(Prod.mk.inj hBegun).1]
  rfl

/- `UserModel` has loaded the stored user. -/
theorem Gated.getUser
    (hGated : Gated l pending)
    {a : Answer}
    (hOk :
      (l.awaited = true ∨
          .splash ∈ l.screens ∧
            l.session.storedUser.isSome = true) →
        a.throws = none ∧ a.ready = true) :
    Gated
      { l with
        session :=
          (Session.resume wp .getUserReady a.toWorld
            l.session).1
        userLoaded := true
        awaited := false
        entries :=
          if l.awaited then
            l.entries ++ [a.throws.isNone && a.ready]
          else
            l.entries } pending := by
  have hStores :=
    getUser_stores wp a.toWorld l.session
  refine ⟨?_, hGated.rooted, hGated.named, hGated.fresh, ?_,
    ?_⟩
  · intro e hMem
    simp only at hMem
    split at hMem
    next hAwaited =>
      rcases hOk (.inl hAwaited) with ⟨hThrows, hReady⟩
      rcases List.mem_append.mp hMem with hOld | hNew
      · exact hGated.entries e hOld
      · rw [List.mem_singleton.mp hNew, hThrows, hReady]
        rfl
    next => exact hGated.entries e hMem
  · intro k hMem hAwaits
    exact resume_keeps_user wp _ _
      (hGated.welcomed k hMem
        (awaitsWelcome_of_screens rfl hAwaits))
  · intro hMem
    have hUnder := hGated.splash hMem
    have hStored :
        (Session.resume wp .getUserReady a.toWorld
            l.session).1.storedUser =
          l.session.storedUser := by
      unfold Session.storedUser
      rw [hStores.1]
    refine ⟨hUnder.alone, hUnder.starting, ?_, ?_, ?_, ?_⟩
    · rw [hStores.2, hStored]
      exact hUnder.stored
    · unfold Session.checkLogin
      rw [hStores.2]
      exact hUnder.checked
    · rw [hStored]
      intro _ hSome
      rcases hOk (.inr ⟨hMem, hSome⟩) with ⟨hThrows, hReady⟩
      exact getUser_user hThrows hReady hSome
    · rw [hStores.2]
      exact hUnder.decided

/- A turn of the session by itself. -/
theorem Gated.resumeSession
    (hGated : Gated l pending)
    (hSplash : .splash ∉ l.screens)
    (point : Session.Point)
    (a : Answer) :
    Gated
      { l with
        session :=
          (Session.resume wp point a.toWorld l.session).1 }
      (pending ++
        (Session.resume wp point a.toWorld l.session).2.map
          .session) := by
  have hSession :=
    hGated.withSession hSplash
      (resume_keeps_user wp point a.toWorld)
  exact hSession.addSession hSplash .session (by simp) _

/- The account of a form is asked for. -/
theorem Gated.submitRegister
    (hGated : Gated l pending)
    (hSplash : .splash ∉ l.screens)
    (id : Nat)
    (firstName lastName username password : Option String)
    (isChecked : Bool) :
    Gated
      (submitRegister id firstName lastName username password
        isChecked l).1
      (pending ++
        (submitRegister id firstName lastName username password
          isChecked l).2) := by
  unfold Launch.submitRegister
  split
  · have hKeeps :
        l.session.user.isSome = true →
          (Session.startLogin
            (.createUser firstName lastName username password)
            l.session).1.user.isSome = true :=
      fun hUser => hUser
    exact (hGated.withSession hSplash hKeeps).addSession hSplash
      (.register id) (by simp) _
  · rw [List.append_nil]
    exact hGated

theorem Gated.resumeRegister
    (hGated : Gated l pending)
    (hSplash : .splash ∉ l.screens)
    (id : Nat)
    (point : Session.Point)
    (a : Answer) :
    Gated (resumeRegister wp id point a l).1
      (pending ++ (resumeRegister wp id point a l).2) := by
  have hSession :=
    hGated.withSession hSplash
      (resume_keeps_user wp point (LoginScreen.calm a.toWorld))
  have hAdded :=
    hSession.addSession hSplash (.register id) (by simp)
      (Session.resume wp point (LoginScreen.calm a.toWorld)
        l.session).2
  simp only [Launch.resumeRegister]
  split
  · exact hAdded.pop hSplash
  · exact hAdded

/- The turns keep the gate, on their conditions. -/
theorem Gated.resume
    {earlier later : List Point}
    {point : Point}
    {a : Answer}
    (hGated : Gated l (earlier ++ point :: later))
    (hOk : gateResume l (earlier ++ later) point a) :
    Gated (resume wp point a l).1
      (earlier ++ later ++ (resume wp point a l).2) := by
  have hRest : Gated l (earlier ++ later) :=
    hGated.mono fun _ hMem => mem_of_mem_rest hMem
  have hHere : point ∈ earlier ++ point :: later := by simp
  have hAway
      (hLate : isStartup point = false) :
      .splash ∉ l.screens := by
    intro hMem
    have hEarly := (hGated.splash hMem).starting point hHere
    rw [hLate] at hEarly
    cases hEarly
  cases point with
  | firstSeenReady => exact hRest.resumeInit _ a
  | loggedIn => exact hRest.resumeInit _ a
  | appConfig => exact hRest.resumeInit _ a
  | login id user point =>
      exact hRest.resumeLogin (hAway rfl)
        (hGated.fresh id user point hHere)
        (hGated.welcomed _ hHere) a
  | submitRegister id firstName lastName username password
      isChecked =>
      exact hRest.submitRegister (hAway rfl) id firstName
        lastName username password isChecked
  | register id point =>
      exact hRest.resumeRegister (hAway rfl) id point a
  | session point =>
      cases point with
      | getUserReady =>
          simp only [Launch.resume, List.append_nil]
          exact hRest.getUser (hOk rfl)
      | _ => exact hRest.resumeSession (hAway rfl) _ a

end Launch

end NewsCentral

------------------------------------------------------------
-- All Launches
------------------------------------------------------------

namespace NewsCentral

open Dart EventLoop

namespace Launch

variable {c : Settings} {wp : WordPress} {l m : Launch}
variable {pending points : List Point}

/- A launch keeps no screen, no user and no point. -/
theorem Gated.boot
    (hGated : Gated l pending)
    (hOk : gateRestart l) :
    Gated (boot l).1 (boot l).2 := by
  refine ⟨hGated.entries, rfl, ?_, ?_, ?_, ?_⟩
  · intro screen hMem id hId
    rw [List.mem_singleton.mp hMem] at hId
    cases hId
  · intro id user point hMem
    cases List.mem_singleton.mp hMem
  · intro k hMem hAwaits
    rw [List.mem_singleton.mp hMem] at hAwaits
    cases hAwaits
  · intro _
    refine ⟨rfl, ?_, hOk, ?_, ?_, ?_⟩
    · intro k hMem
      rw [List.mem_singleton.mp hMem]
      rfl
    · intro hChecked
      cases hChecked
    · intro hLoaded
      cases hLoaded
    · intro config hHome
      cases hHome

variable {storage : LocalStorage} {prefs : Option Bool}
variable {firstSeen : Option Json}

/-
  With the login required, over all launches from any
  stores: in a run that meets the conditions, the main tabs
  are entered only by a user who is logged in, or whom
  `getUser` is about to load.
-/
theorem entered_signedIn_of_run
    (hRequired : c.isRequiredLogin = true)
    {es : List (Life Op Answer)}
    {p : Pool Launch Point}
    (hRun :
      (system c wp).Run
        (Program.whenRestarting gateRestart (gateCall c)
          gateResume)
        (installed storage prefs firstSeen) es p) :
    ∀ signedIn ∈ p.shared.entries, signedIn = true := by
  have hGated : Gated p.shared p.pending := by
    refine Program.restarting_invariant
      (I := Gated) hRun ?_ ?_ ?_ ?_
    · exact ⟨by simp [installed], trivial,
        by simp [installed], by simp [installed],
        by simp [installed], by simp [installed]⟩
    · intro l pending hGated hOk
      exact hGated.boot hOk
    · intro l pending op m points hGated hOk hCall
      exact hGated.call hRequired hOk hCall
    · intro l earlier point later a hGated hOk
      exact hGated.resume hOk
  exact hGated.entries

/- An app whose login is required. -/
def withLogin : Settings where
  isRequiredLogin := true
  onBoardingData := [.obj []]

/- A service that knows the account. -/
def accountKnown : Answer where
  http := fun _ => .ok
    { statusCode := 200
      decoded := some (.obj
        [ ("cookie", .str "cookie"),
          ("user",
            .obj
              [ ("id", .int 1),
                ("email", .str "ada@x"),
                ("role", .arr [.str "subscriber"]) ]),
          ("wp_user_id", .int 1) ]) }

/- The stores are read, and the login is asked for. -/
def loginWithGoogle : List (Life Op Answer) :=
  [ .restart, .turn (.call (.build .flare)),
    .turn (.resume 1 {}), .turn (.resume 1 {}),
    .turn (.resume 0 {}), .turn (.resume 0 {}),
    .turn (.call .splashEnds),
    .turn (.call (.attempt .loginGoogle)) ] ++
    (turns 10 accountKnown).map .turn

/- The tabs are entered once, by the user who logs in. -/
theorem entered_signedIn_after_login :
    ∃ p,
      (system withLogin (.setAppConfig "https://x")).Run
        System.anyStep
        (installed {} none (some (.bool false)))
        loginWithGoogle p ∧
      p.shared.entries.length = 1 ∧
      ∀ signedIn ∈ p.shared.entries, signedIn = true := by
  have hRun :
      ∃ p,
        (system withLogin (.setAppConfig "https://x")).Run
          (Program.whenRestarting gateRestart
            (gateCall withLogin) gateResume)
          (installed {} none (some (.bool false)))
          loginWithGoogle p ∧
        p.shared.entries.length = 1 :=
    ⟨_, System.run_iff_exec.mpr ⟨by decide, rfl⟩, rfl⟩
  rcases hRun with ⟨p, hRun, hOnce⟩
  exact ⟨p, hRun.any, hOnce, entered_signedIn_of_run rfl hRun⟩

/- Nobody is logged in, and the onboarding is skipped. -/
theorem skip_enters_tabs :
    ∃ p,
      (system withLogin (.setAppConfig "https://x")).Run
        System.anyStep (installed {} none none)
        [ .restart, .turn (.call (.build .animated)),
          .turn (.call .splashEnds), .turn (.call .skip) ]
        p ∧
      p.shared.session.user = none ∧
      p.shared.session.storage.userInfo = none ∧
      p.shared.session.prefs = none ∧
      p.shared.screens = [.mainTabs 0, .onBoardScreen 0] ∧
      p.shared.entries = [false] :=
  ⟨_, System.run_of_exec rfl, rfl, rfl, rfl, rfl, rfl⟩

/-
  The stored user is let in, and the storage turns out not
  to be ready: nobody is logged in.
-/
example :
    ∃ p,
      (system withLogin (.setAppConfig "https://x")).Run
        System.anyStep
        (installed { userInfo := some (.obj []) } (some true)
          (some (.bool false)))
        [ .restart, .turn (.call (.build .flare)),
          .turn (.resume 1 {}), .turn (.resume 1 {}),
          .turn (.resume 1 {}), .turn (.call .splashEnds),
          .turn (.resume 0 { ready := false }) ]
        p ∧
      p.shared.session.user = none ∧
      p.shared.entries = [false] :=
  ⟨_, System.run_of_exec rfl, rfl, rfl⟩

end Launch

end NewsCentral
