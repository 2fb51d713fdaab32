import NewsCentral.Launch.Program

/-
  Whether the onboarding is shown once.

  A decision is told by what the three reads have found, if
  they have: it fails on the null flag of a storage that was
  not ready, and shows the onboarding unless a stored false,
  the platform, the data or the configuration prevent it.
  That the onboarding was left changes none of these, for
  nothing writes the stored flag.

  Key definitions include:
    * `NewsCentral.Launch.OnboardsOnce`
    * `NewsCentral.Launch.KeepsOnboardingOff`
    * `NewsCentral.Launch.onceCall`

  Key theorems include:
    * `NewsCentral.Launch.onNextScreen_good_iff`
    * `NewsCentral.Launch.firstSeen_of_run`
    * `NewsCentral.Launch.onboardsOnce_iff`
-/

------------------------------------------------------------
-- Good Decisions
------------------------------------------------------------

namespace NewsCentral

open Dart EventLoop

namespace Launch

/-
  A decision yields a screen, and not the onboarding if that
  was left in an earlier launch.
-/
def GoodDecision
    (before : Bool)
    (decision : Except Thrown NextScreen) : Prop :=
  match decision with
  | .error _ => False
  | .ok (.onBoardScreen _) => before = false
  | .ok _ => True

def OnboardsOnce (l : Launch) : Prop :=
  ∀ d ∈ l.decisions, GoodDecision d.1 d.2

/-
  The storage was not found unready; and if the onboarding
  was left before, then it is off: on the web, without data,
  after a configuration could not be loaded, or after a
  stored false was read.
-/
def KeepsOnboardingOff (c : Settings) (l : Launch) : Prop :=
  l.found ≠ .notReady ∧
    (l.onBoardedBefore = true →
      c.kIsWeb = true ∨
        c.onBoardingData.isEmpty = true ∨
        l.configLoaded = some none ∨
        l.found = .flag false)

instance
    (c : Settings)
    (l : Launch) :
    Decidable (KeepsOnboardingOff c l) := by
  unfold KeepsOnboardingOff
  infer_instance

/- The operations that take a decision. -/
def decides (l : Launch) : Op → Bool
  | .build .animated => true
  | .build .zoomIn => true
  | .splashEnds =>
      match l.splash with
      | .flare => true
      | _ => false
  | _ => false

def onceCall
    (c : Settings)
    (l : Launch)
    (_ : List Point)
    (op : Op) : Prop :=
  l.decides op = true → KeepsOnboardingOff c l

instance
    (c : Settings)
    (l : Launch)
    (pending : List Point)
    (op : Op) :
    Decidable (onceCall c l pending op) := by
  unfold onceCall
  infer_instance

end Launch

end NewsCentral

------------------------------------------------------------
-- What Was Read
------------------------------------------------------------

namespace NewsCentral

open Dart EventLoop

namespace Launch

/- The value of the flag after what was found. -/
def flagOf : Found → Option Bool
  | .unasked => some true
  | .notReady => none
  | .flag seen => some seen

/- The fields of `AppInit` are what was read, or defaults. -/
structure FollowsReads (l : Launch) : Prop where
  isFirstSeen : l.isFirstSeen = flagOf l.found
  appConfig :
    l.appConfig = l.configLoaded.getD (some (.obj []))

variable {c : Settings} {wp : WordPress} {l m : Launch}

/- With a flag, only the onboarding can be a bad decision. -/
theorem onNextScreen_good_iff_of_flag
    {isFirstSeen : Bool}
    (hFlag : l.isFirstSeen = some isFirstSeen)
    (before : Bool) :
    GoodDecision before (onNextScreen c l) ↔
      (before = true →
        (isFirstSeen && !c.kIsWeb && l.appConfig.isSome &&
          !c.onBoardingData.isEmpty) = false) := by
  simp only [onNextScreen, hFlag]
  generalize
    (isFirstSeen && !c.kIsWeb && l.appConfig.isSome &&
      !c.onBoardingData.isEmpty) = onboards
  generalize (c.isRequiredLogin && !l.isLoggedIn) = asks
  cases before <;> cases onboards <;> cases asks <;>
    simp [GoodDecision]

/- The decisions that are good are told by what was read. -/
theorem onNextScreen_good_iff
    (hReads : FollowsReads l) :
    GoodDecision l.onBoardedBefore (onNextScreen c l) ↔
      KeepsOnboardingOff c l := by
  have hConfig :
      l.appConfig.isSome = false ↔
        l.configLoaded = some none := by
    rw [hReads.appConfig]
    cases l.configLoaded with
    | none => simp
    | some config => simp
  cases hFound : l.found with
  | notReady =>
      have hNull : l.isFirstSeen = none := by
        rw [hReads.isFirstSeen, hFound]
        rfl
      simp [onNextScreen, hNull, KeepsOnboardingOff, hFound,
        GoodDecision]
  | unasked =>
      have hFlag : l.isFirstSeen = some true := by
        rw [hReads.isFirstSeen, hFound]
        rfl
      rw [onNextScreen_good_iff_of_flag hFlag]
      simp only [KeepsOnboardingOff, hFound, ← hConfig]
      generalize l.appConfig.isSome = loaded
      generalize c.onBoardingData.isEmpty = empty
      cases c.kIsWeb <;> cases loaded <;> cases empty <;> simp
  | flag seen =>
      have hFlag : l.isFirstSeen = some seen := by
        rw [hReads.isFirstSeen, hFound]
        rfl
      rw [onNextScreen_good_iff_of_flag hFlag]
      simp only [KeepsOnboardingOff, hFound, ← hConfig]
      generalize l.appConfig.isSome = loaded
      generalize c.onBoardingData.isEmpty = empty
      cases seen <;> cases c.kIsWeb <;> cases loaded <;>
        cases empty <;> simp

end Launch

end NewsCentral

------------------------------------------------------------
-- Frames
------------------------------------------------------------

namespace NewsCentral

open Dart EventLoop

namespace Launch

variable {c : Settings} {wp : WordPress} {l m : Launch}

/- Neither `AppInit` nor its stored flag is touched. -/
structure SameInit (l m : Launch) : Prop where
  firstSeen : m.firstSeen = l.firstSeen
  isFirstSeen : m.isFirstSeen = l.isFirstSeen
  appConfig : m.appConfig = l.appConfig
  found : m.found = l.found
  configLoaded : m.configLoaded = l.configLoaded
  decisions : m.decisions = l.decisions
  onBoardedBefore : m.onBoardedBefore = l.onBoardedBefore

theorem SameInit.rfl : SameInit l l := by
  constructor <;> rfl

theorem SameInit.trans
    {n : Launch}
    (hFirst : SameInit l m)
    (hSecond : SameInit m n) :
    SameInit l n where
  firstSeen := hSecond.firstSeen.trans hFirst.firstSeen
  isFirstSeen := hSecond.isFirstSeen.trans hFirst.isFirstSeen
  appConfig := hSecond.appConfig.trans hFirst.appConfig
  found := hSecond.found.trans hFirst.found
  configLoaded := hSecond.configLoaded.trans hFirst.configLoaded
  decisions := hSecond.decisions.trans hFirst.decisions
  onBoardedBefore :=
    hSecond.onBoardedBefore.trans hFirst.onBoardedBefore

theorem sameInit_enterTabs
    (below : List Screen) :
    SameInit l (l.enterTabs below) := by
  constructor <;> rfl

theorem sameInit_pushReplacement
    (next : NextScreen) :
    SameInit l (l.pushReplacement next) := by
  cases next <;> constructor <;> rfl

theorem sameInit_back
    (hBack : l.back = some m) :
    SameInit l m := by
  unfold back at hBack
  split at hBack <;> cases hBack <;> constructor <;> rfl

theorem sameInit_welcome
    (id : Nat)
    (point : LoginScreen.Point) :
    SameInit l (l.welcome id point) := by
  unfold welcome
  split
  · exact sameInit_enterTabs _
  · exact sameInit_enterTabs _
  · exact sameInit_enterTabs _
  · exact .rfl

/- A build decides for the splashes that show a home. -/
theorem sameInit_build
    (type : SplashScreenType) :
    SameInit
      (if l.decides (.build type) then l.decide c else l)
      (l.build c type) := by
  cases type <;> constructor <;> rfl

theorem sameInit_splashEnds
    (hEnds : l.splashEnds c = some m) :
    SameInit (if l.decides .splashEnds then l.decide c else l)
      m := by
  unfold splashEnds at hEnds
  unfold decides
  cases hSplash : l.splash with
  | still =>
      rw [hSplash] at hEnds
      cases hEnds
  | flare =>
      rw [hSplash] at hEnds
      cases hNext : onNextScreen c l with
      | error e =>
          rw [hNext] at hEnds
          cases Option.some.inj hEnds
          constructor <;> rfl
      | ok next =>
          rw [hNext] at hEnds
          cases Option.some.inj hEnds
          exact sameInit_pushReplacement next
  | home next =>
      rw [hSplash] at hEnds
      cases Option.some.inj hEnds
      exact sameInit_pushReplacement next

/-
  An operation takes its decision, if it is one that takes
  any, and leaves the rest of `AppInit` alone.
-/
theorem call_sameInit
    {op : Op}
    {points : List Point}
    (hCall : call c op l = some (m, points)) :
    SameInit (if l.decides op then l.decide c else l) m := by
  unfold call at hCall
  split at hCall
  case h_1 type _ =>
      cases Option.some.inj hCall
      refine (sameInit_build type).trans ?_
      constructor <;> rfl
  case h_2 =>
      rcases Option.map_eq_some_iff.mp hCall with
        ⟨t, hEnds, hEq⟩
      cases hEq
      exact sameInit_splashEnds hEnds
  case h_6 =>
      rcases Option.map_eq_some_iff.mp hCall with ⟨_, _, hEq⟩
      cases hEq
      exact .rfl
  case h_12 =>
      rcases Option.map_eq_some_iff.mp hCall with
        ⟨t, hBack, hEq⟩
      cases hEq
      exact sameInit_back hBack
  case h_13 =>
      rcases Option.map_eq_some_iff.mp hCall with ⟨_, _, hEq⟩
      cases hEq
      constructor <;> rfl
  case h_14 => cases hCall
  -- what is left pushes a screen, or tells the onboarding
  all_goals
    repeat' split at hCall
    all_goals cases hCall
    all_goals constructor <;> rfl

/- A turn that is none of `loadInitData` leaves it alone. -/
theorem sameInit_resumeLogin
    (id : Nat)
    (user : Option User)
    (point : LoginScreen.Point)
    (a : Answer) :
    SameInit l (resumeLogin wp id user point a l).1 := by
  simp only [resumeLogin]
  split
  · refine SameInit.trans ?_ (sameInit_welcome id point)
    constructor <;> rfl
  · constructor <;> rfl

theorem sameInit_submitRegister
    (id : Nat)
    (firstName lastName username password : Option String)
    (isChecked : Bool) :
    SameInit l
      (submitRegister id firstName lastName username password
        isChecked l).1 := by
  unfold submitRegister
  split <;> constructor <;> rfl

theorem sameInit_resumeRegister
    (id : Nat)
    (point : Session.Point)
    (a : Answer) :
    SameInit l (resumeRegister wp id point a l).1 := by
  simp only [resumeRegister]
  split
  · unfold pop
    split <;> constructor <;> rfl
  · constructor <;> rfl

/- A turn of `loadInitData` stores and decides nothing. -/
structure OnlyReads (l m : Launch) : Prop where
  firstSeen : m.firstSeen = l.firstSeen
  decisions : m.decisions = l.decisions
  onBoardedBefore : m.onBoardedBefore = l.onBoardedBefore
  follows : FollowsReads l → FollowsReads m

theorem SameInit.onlyReads
    (hSame : SameInit l m) :
    OnlyReads l m := by
  refine ⟨hSame.firstSeen, hSame.decisions,
    hSame.onBoardedBefore, fun hReads => ⟨?_, ?_⟩⟩
  · rw [hSame.isFirstSeen, hSame.found]
    exact hReads.isFirstSeen
  · rw [hSame.appConfig, hSame.configLoaded]
    exact hReads.appConfig

theorem onlyReads_resumeInit
    (point : Point)
    (a : Answer) :
    OnlyReads l (resumeInit point a l).1 := by
  cases point with
  | firstSeenReady =>
      simp only [resumeInit]
      split
      · exact SameInit.rfl.onlyReads
      · split
        · split
          · exact ⟨rfl, rfl, rfl,
              fun hReads => ⟨rfl, hReads.appConfig⟩⟩
          · exact ⟨rfl, rfl, rfl,
              fun hReads => ⟨rfl, hReads.appConfig⟩⟩
          · exact SameInit.rfl.onlyReads
        · exact ⟨rfl, rfl, rfl,
            fun hReads => ⟨rfl, hReads.appConfig⟩⟩
  | loggedIn =>
      simp only [resumeInit]
      split
      · exact SameInit.rfl.onlyReads
      · exact ⟨rfl, rfl, rfl,
          fun hReads => ⟨hReads.isFirstSeen, hReads.appConfig⟩⟩
  | appConfig =>
      simp only [resumeInit]
      split
      · exact SameInit.rfl.onlyReads
      · exact ⟨rfl, rfl, rfl,
          fun hReads => ⟨hReads.isFirstSeen, rfl⟩⟩
  | _ =>
      simp only [resumeInit, ite_self]
      exact SameInit.rfl.onlyReads

theorem onlyReads_resume
    (point : Point)
    (a : Answer) :
    OnlyReads l (resume wp point a l).1 := by
  cases point with
  | firstSeenReady => exact onlyReads_resumeInit _ _
  | loggedIn => exact onlyReads_resumeInit _ _
  | appConfig => exact onlyReads_resumeInit _ _
  | session point =>
      apply SameInit.onlyReads
      cases point <;> constructor <;> rfl
  | login id user point =>
      exact (sameInit_resumeLogin id user point a).onlyReads
  | submitRegister id firstName lastName username password
      isChecked =>
      exact (sameInit_submitRegister id firstName lastName
        username password isChecked).onlyReads
  | register id point =>
      exact (sameInit_resumeRegister id point a).onlyReads

end Launch

end NewsCentral

------------------------------------------------------------
-- All Launches
------------------------------------------------------------

namespace NewsCentral

open Dart EventLoop

namespace Launch

variable {c : Settings} {wp : WordPress} {l m : Launch}

/- A decision that is added is good, or breaks the rest. -/
theorem onboardsOnce_decide_iff
    (hOnce : OnboardsOnce l)
    (hReads : FollowsReads l) :
    OnboardsOnce (l.decide c) ↔ KeepsOnboardingOff c l := by
  rw [← onNextScreen_good_iff hReads]
  simp only [OnboardsOnce, decide, List.mem_append,
    List.mem_singleton]
  constructor
  · intro hAll
    exact hAll _ (.inr rfl)
  · intro hGood d hMem
    rcases hMem with hOld | rfl
    · exact hOnce d hOld
    · exact hGood

/- An operation keeps the onboarding off if it must. -/
theorem onboardsOnce_call_iff
    {op : Op}
    {pending points : List Point}
    (hOnce : OnboardsOnce l)
    (hReads : FollowsReads l)
    (hCall : call c op l = some (m, points)) :
    OnboardsOnce m ↔ onceCall c l pending op := by
  have hSame :
      OnboardsOnce m ↔
        OnboardsOnce
          (if l.decides op then l.decide c else l) := by
    unfold OnboardsOnce
    rw [(call_sameInit hCall).decisions]
  rw [hSame]
  unfold onceCall
  cases l.decides op with
  | false => simpa using hOnce
  | true => simpa using onboardsOnce_decide_iff hOnce hReads

theorem FollowsReads.call
    {op : Op}
    {points : List Point}
    (hReads : FollowsReads l)
    (hCall : call c op l = some (m, points)) :
    FollowsReads m := by
  apply (call_sameInit hCall).onlyReads.follows
  split
  · exact ⟨hReads.isFirstSeen, hReads.appConfig⟩
  · exact hReads

variable {storage : LocalStorage} {prefs : Option Bool}
variable {firstSeen : Option Json}

/- Nothing ever writes the stored flag. -/
theorem firstSeen_of_run
    {es : List (Life Op Answer)}
    {p : Pool Launch Point}
    (hRun :
      (system c wp).Run System.anyStep
        (installed storage prefs firstSeen) es p) :
    p.shared.firstSeen = firstSeen := by
  refine Program.restarting_invariant
    (I := fun l _ => l.firstSeen = firstSeen)
    (Program.run_whenRestarting_true hRun) rfl ?_ ?_ ?_
  · intro l _ hSame _
    exact hSame
  · intro l _ op m points hSame _ hCall
    have hKept : m.firstSeen = l.firstSeen := by
      rw [(call_sameInit hCall).firstSeen]
      split <;> rfl
    rw [hKept]
    exact hSame
  · intro l _ point _ a hSame _
    have hRead :
        OnlyReads l ((program c wp).resume point a l).1 :=
      onlyReads_resume point a
    rw [hRead.firstSeen]
    exact hSame

/-
  Over all launches, from any stores, the onboarding is shown
  once and every decision yields a screen, exactly if each
  decision was taken with the storage not found unready and,
  after a launch in which the onboarding was left, with the
  onboarding off.
-/
theorem onboardsOnce_iff
    {es : List (Life Op Answer)}
    {p : Pool Launch Point}
    (hRun :
      (system c wp).Run System.anyStep
        (installed storage prefs firstSeen) es p) :
    (system c wp).Always
        (fun _ q => q.shared.OnboardsOnce)
        (installed storage prefs firstSeen) es ↔
      (system c wp).Run
        (Program.whenRestarting (fun _ => True) (onceCall c)
          fun _ _ _ _ => True)
        (installed storage prefs firstSeen) es p := by
  refine Program.restarting_always_iff
    (I := fun l _ => OnboardsOnce l ∧ FollowsReads l)
    (G := fun l _ => OnboardsOnce l)
    ?_ ?_ ?_ ?_ ?_ ?_ ?_ hRun
  · exact ⟨by simp [OnboardsOnce, installed], ⟨rfl, rfl⟩⟩
  · intro l _ hInv
    exact ⟨hInv.1, ⟨rfl, rfl⟩⟩
  · intro l pending op m points hInv hOk hCall
    exact ⟨(onboardsOnce_call_iff hInv.1 hInv.2 hCall).mpr
      hOk, hInv.2.call hCall⟩
  · intro l _ point _ a hInv _
    have hRead :
        OnlyReads l ((program c wp).resume point a l).1 :=
      onlyReads_resume point a
    refine ⟨?_, hRead.follows hInv.2⟩
    unfold OnboardsOnce
    rw [hRead.decisions]
    exact hInv.1
  · intro l _ hInv
    exact hInv.1
  · intro l pending op m points hInv hBroken hCall hGood
    exact hBroken
      ((onboardsOnce_call_iff hInv.1 hInv.2 hCall).mp hGood)
  · intro l _ point _ a _ hBroken
    exact absurd trivial hBroken

/- An app with some data for the onboarding. -/
def withOnboarding : Settings where
  onBoardingData := [.obj []]

/- The onboarding is skipped, and the app started again. -/
def skipAndRestart : List (Life Op Answer) :=
  [ .restart, .turn (.call (.build .animated)),
    .turn (.call .splashEnds), .turn (.call .skip),
    .restart ]

/- A stored false is read before the splash ends. -/
theorem onboardsOnce_when_read :
    ∃ p,
      (system withOnboarding (.setAppConfig "https://x")).Run
        System.anyStep
        (installed {} none (some (.bool false)))
        (skipAndRestart ++
          [ .turn (.call (.build .flare)),
            .turn (.resume 1 {}), .turn (.call .splashEnds) ])
        p ∧
      p.shared.onBoardedBefore = true ∧
      (system withOnboarding
          (.setAppConfig "https://x")).Always
        (fun _ q => q.shared.OnboardsOnce)
        (installed {} none (some (.bool false)))
        (skipAndRestart ++
          [ .turn (.call (.build .flare)),
            .turn (.resume 1 {}),
            .turn (.call .splashEnds) ]) := by
  have hRun :
      ∃ p,
        (system withOnboarding
            (.setAppConfig "https://x")).Run
          (Program.whenRestarting (fun _ => True)
            (onceCall withOnboarding) fun _ _ _ _ => True)
          (installed {} none (some (.bool false)))
          (skipAndRestart ++
            [ .turn (.call (.build .flare)),
              .turn (.resume 1 {}),
              .turn (.call .splashEnds) ]) p ∧
        p.shared.onBoardedBefore = true :=
    ⟨_, System.run_iff_exec.mpr ⟨by decide, rfl⟩, rfl⟩
  rcases hRun with ⟨p, hRun, hBefore⟩
  exact ⟨p, hRun.any, hBefore,
    (onboardsOnce_iff hRun.any).mpr hRun⟩

/- The onboarding was skipped, and is shown again. -/
theorem onboarding_shown_again :
    ∃ p,
      (system withOnboarding (.setAppConfig "https://x")).Run
        System.anyStep (installed {} none none)
        (skipAndRestart ++ [.turn (.call (.build .animated))])
        p ∧
      p.shared.decisions =
        [ (false, .ok (.onBoardScreen (some (.obj [])))),
          (true, .ok (.onBoardScreen (some (.obj [])))) ] ∧
      ¬ p.shared.OnboardsOnce := by
  refine ⟨_, System.run_of_exec rfl, rfl, ?_⟩
  intro hOnce
  exact absurd
    (hOnce
      (true, .ok (.onBoardScreen (some (.obj []))))
      (by decide))
    (by simp [GoodDecision])

end Launch

end NewsCentral
