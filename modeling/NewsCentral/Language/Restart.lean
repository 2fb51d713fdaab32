import NewsCentral.Language.Together

/-
  The chosen language after a restart.

  No start-up path reads the preference "language": a new
  `AppModel` has the default locale, and both loads of the
  start-up name their asset by it.

  Key definitions include:
    * `NewsCentral.AppState.chosen`
    * `NewsCentral.AppState.StartUp`
    * `NewsCentral.AppState.Restores`

  Key theorems include:
    * `NewsCentral.AppState.Starting.resume`
    * `NewsCentral.AppState.restores_iff`
-/

------------------------------------------------------------
-- The Choice And The Start-Up
------------------------------------------------------------

namespace NewsCentral

open Dart EventLoop

namespace AppState

/- The last language that was changed to. -/
def chosen (s : AppState) : String :=
  ((s.returned.filter (·.result)).getLast?.map
    (·.country)).getD defaultLanguage

/- `AppInit` loads, and every await completes. -/
def StartUp : Life Op Answer → Prop
  | .turn (.call op) => op = .loadInitData
  | .turn (.resume _ answer) => answer = .done
  | .restart => False

instance :
    (life : Life Op Answer) → Decidable (StartUp life)
  | .turn (.call op) =>
      inferInstanceAs (Decidable (op = .loadInitData))
  | .turn (.resume _ answer) =>
      inferInstanceAs (Decidable (answer = .done))
  | .restart => isFalse id

/- The locale and the configuration are of the choice. -/
def Restores (b : Bundle) (s : AppState) : Prop :=
  s.app.locale = s.chosen ∧
    b.wouldLoad s.chosen = some s.app.configuration

/- A load of the start-up. -/
def Caller.OfStart : Caller → Prop
  | .changeLanguage _ => False
  | _ => True

/- The awaits of a start-up, with what they load. -/
def startPoint (b : Bundle) : Point → Prop
  | .checkFirstSeen => True
  | .checkLogin => True
  | .getItem caller => caller.OfStart
  | .localeAsset caller path =>
      caller.OfStart ∧ path = configPath defaultLanguage
  | .defaultAsset caller =>
      caller.OfStart ∧
        Bundle.shows (b.map kAppConfig) =
          b.wouldLoad defaultLanguage
  | .configLoaded caller _ => caller.OfStart
  | _ => False

/-
  A start-up has the default locale, whose configuration, if
  it can be read, is shown or underway.
-/
structure Starting
    (b : Bundle)
    (s : AppState)
    (pending : List Point) : Prop where
  locale : s.app.locale = defaultLanguage
  points : ∀ k ∈ pending, startPoint b k
  shown :
    (b.wouldLoad defaultLanguage).isSome →
      Follows (willLoad b) (b.wouldLoad s.app.locale)
        (some s.app.configuration) pending

end AppState

end NewsCentral

------------------------------------------------------------
-- The Start-Up
------------------------------------------------------------

namespace NewsCentral

open Dart EventLoop

namespace AppState

variable {b : Bundle} {s : AppState}
variable {earlier later next : List Point} {k : Point}

/- What the asset of the default language loads. -/
theorem wouldLoad_of_ok
    {appConfig : Json}
    (hMap : b.map (configPath defaultLanguage) = .ok appConfig) :
    b.wouldLoad defaultLanguage =
      (configuration appConfig).toOption := by
  simp only [Bundle.wouldLoad, Bundle.loads, hMap,
    Bundle.shows]
  rfl

theorem wouldLoad_of_error
    {e : Thrown}
    (hMap : b.map (configPath defaultLanguage) = .error e) :
    Bundle.shows (b.map kAppConfig) =
      b.wouldLoad defaultLanguage := by
  simp only [Bundle.wouldLoad, Bundle.loads, hMap]

/- Nothing is asked of what a start-up is given. -/
theorem Caller.OfStart.mayReturn
    {caller : Caller}
    {c : Option Configuration}
    (hCaller : caller.OfStart) :
    MayReturn b caller c := by
  cases caller with
  | changeLanguage l => exact hCaller.elim
  | _ => trivial

/- What a start-up awaits completes in order. -/
theorem startPoint.inOrder
    {rest : List Point}
    (hPoint : startPoint b k)
    (hLocale : s.app.locale = defaultLanguage)
    (hSome : (b.wouldLoad defaultLanguage).isSome) :
    InOrder b s rest k .done := by
  cases k with
  | sharedPreferences country => exact hPoint.elim
  | setString country => exact hPoint.elim
  | localeAsset caller path =>
      rcases hPoint with ⟨hCaller, rfl⟩
      simp only [InOrder, Answer.load]
      cases hMap : b.map (configPath defaultLanguage) with
      | ok appConfig =>
          have hLoads := wouldLoad_of_ok hMap
          simp only [Bundle.map] at hMap
          simp only [hMap, Arrives]
          refine ⟨.inl ⟨?_, ?_⟩, ?_⟩
          · rw [← hLoads]
            exact hSome
          · rw [hLocale, hLoads]
          · exact hCaller.mayReturn
      | error e =>
          have hLoads := wouldLoad_of_error hMap
          simp only [Bundle.map] at hMap
          simp only [hMap, Arrives]
          refine .inl ⟨?_, ?_⟩
          · rw [hLoads]
            exact hSome
          · rw [hLocale, hLoads]
  | defaultAsset caller =>
      rcases hPoint with ⟨hCaller, hLoads⟩
      simp only [InOrder, Answer.load]
      cases hMap : b.map kAppConfig with
      | ok appConfig =>
          rw [hMap] at hLoads
          simp only [Bundle.map] at hMap
          simp only [hMap, Arrives]
          refine ⟨.inl ⟨?_, ?_⟩, ?_⟩
          · rw [← hLoads] at hSome
            exact hSome
          · rw [hLocale, ← hLoads]
            rfl
          · exact hCaller.mayReturn
      | error e =>
          rw [← hLoads, hMap] at hSome
          simp [Bundle.shows, Except.bind,
            Except.toOption] at hSome
  | _ => trivial

/- A completed await leaves the default locale. -/
theorem startPoint.locale_resume
    (hLocal : b.builder = .null)
    (hPoint : startPoint b k) :
    (resume b k .done s).1.app.locale = s.app.locale := by
  cases k with
  | sharedPreferences country => exact hPoint.elim
  | getItem caller =>
      simp [resume, hLocal, Json.isNotNull]
  | localeAsset caller path =>
      simp only [resume]
      split
      · rfl
      · exact AppModel.publish_locale
  | defaultAsset caller =>
      exact (loadMap_language caller _).1
  | configLoaded caller config =>
      cases caller <;> rfl
  | _ => rfl

/- A completed await leaves awaits of the start-up. -/
theorem startPoint.points_resume
    (hLocal : b.builder = .null)
    (hLocale : s.app.locale = defaultLanguage)
    (hPoint : startPoint b k) :
    ∀ j ∈ (resume b k .done s).2, startPoint b j := by
  cases k with
  | sharedPreferences country => exact hPoint.elim
  | setString country => exact hPoint.elim
  | checkFirstSeen => simp [resume, startPoint]
  | checkLogin =>
      simp [resume, startPoint, Caller.OfStart]
  | getItem caller =>
      have hPath :
          (resume b (.getItem caller) .done s).2 =
            [.localeAsset caller
              (configPath s.app.locale)] := by
        simp [resume, hLocal, Json.isNotNull]
      rw [hPath, List.forall_mem_singleton, hLocale]
      exact ⟨hPoint, rfl⟩
  | localeAsset caller path =>
      rcases hPoint with ⟨hCaller, rfl⟩
      simp only [resume, Answer.load]
      cases hMap : b.map (configPath defaultLanguage) with
      | ok appConfig =>
          simp only [Bundle.map] at hMap
          simp only [hMap, loaded, List.forall_mem_singleton]
          exact hCaller
      | error e =>
          have hLoads := wouldLoad_of_error hMap
          simp only [Bundle.map] at hMap
          simp only [hMap, List.forall_mem_singleton]
          exact ⟨hCaller, hLoads⟩
  | defaultAsset caller =>
      simp only [resume, loadMap, loadFailed, loaded]
      split <;>
        · simp only [List.forall_mem_singleton]
          exact hPoint.1
  | configLoaded caller config =>
      cases caller with
      | changeLanguage l => exact hPoint.elim
      | _ => simp [resume]

/- A completed await of a start-up keeps the invariant. -/
theorem Starting.resume
    (hLocal : b.builder = .null)
    (hStarting : Starting b s (earlier ++ k :: later)) :
    Starting b (resume b k .done s).1
      (earlier ++ later ++ (resume b k .done s).2) := by
  have hPoint : startPoint b k :=
    hStarting.points k (by simp)
  constructor
  · rw [hPoint.locale_resume hLocal]
    exact hStarting.locale
  · intro j hMem
    rcases List.mem_append.mp hMem with hRest | hNew
    · exact hStarting.points j (mem_of_mem_rest hRest)
    · exact hPoint.points_resume hLocal hStarting.locale j
        hNew
  · intro hSome
    exact shown_resume hLocal (hStarting.shown hSome)
      (hPoint.inOrder hStarting.locale hSome)

/- `AppInit` begins to load. -/
theorem Starting.call
    {s' : AppState}
    {pending : List Point}
    (hStarting : Starting b s pending)
    (hCall : call .loadInitData s = some (s', next)) :
    Starting b s' (pending ++ next) := by
  simp only [AppState.call] at hCall
  split at hCall
  · cases hCall
  · cases hCall
    constructor
    · exact hStarting.locale
    · intro j hMem
      rcases List.mem_append.mp hMem with hOld | hNew
      · exact hStarting.points j hOld
      · rw [List.mem_singleton.mp hNew]
        trivial
    · intro hSome
      exact (hStarting.shown hSome).call

/- A start-up begins with the load of `MyApp`. -/
theorem Starting.boot :
    Starting b (boot s).1 (boot s).2 where
  locale := rfl
  points := by
    simp [AppState.boot, startPoint, Caller.OfStart]
  shown := fun _ =>
    .inr ⟨.getItem .afterFirstLayout, by simp [AppState.boot],
      trivial⟩

end AppState

end NewsCentral

------------------------------------------------------------
-- What A Restart Restores
------------------------------------------------------------

namespace NewsCentral

open Dart EventLoop

namespace AppState

variable {b : Bundle}

/- The process that a restart begins has the invariant. -/
theorem starting_of_run
    {p q : Pool AppState Point}
    {fs : List (Life Op Answer)}
    (hRun :
      ((program b).restarting boot).Run System.anyStep p
        (.restart :: fs) q)
    (hLocal : b.builder = .null)
    (hStart : ∀ life ∈ fs, StartUp life) :
    Starting b q.shared q.pending := by
  rcases hRun.exists_of_cons with ⟨t, _, hNext, hTurns⟩
  cases Option.some.inj hNext
  refine (hTurns.ofLabels hStart).historyInvariant
    (I := fun _ u => Starting b u.shared u.pending)
    Starting.boot ?_
  intro _ t life u hStarting hOk hNext
  cases life with
  | restart => exact hOk.elim
  | turn e =>
      refine Program.turn_cases
        (J := fun e s ks => StartUp (.turn e) →
          Starting b s ks) hNext ?_ ?_ hOk
      · intro op s next hCall hOp
        subst hOp
        exact hStarting.call hCall
      · intro earlier k later answer hSplit _ hDone
        subst hDone
        rw [hSplit] at hStarting
        exact hStarting.resume hLocal

/-
  After any lives of the process, with whatever languages
  changed to, a restart and its complete start-up restore
  the last choice exactly if that is the default language
  and its configuration can be read.
-/
theorem restores_iff
    {language : Option String}
    {es fs : List (Life Op Answer)}
    {q : Pool AppState Point}
    (hLocal : b.builder = .null)
    (hRun :
      ((program b).restarting boot).Run System.anyStep
        (started language) (es ++ .restart :: fs) q)
    (hStart : ∀ life ∈ fs, StartUp life)
    (hRest : q.Quiescent) :
    Restores b q.shared ↔
      q.shared.chosen = defaultLanguage ∧
        (b.wouldLoad defaultLanguage).isSome := by
  rcases hRun.exists_of_append with ⟨p, _, hLast⟩
  have hStarting := starting_of_run hLast hLocal hStart
  constructor
  · rintro ⟨hLocale, hShown⟩
    have hDefault : q.shared.chosen = defaultLanguage := by
      rw [← hLocale, hStarting.locale]
    refine ⟨hDefault, ?_⟩
    rw [← hDefault, hShown]
    rfl
  · rintro ⟨hDefault, hSome⟩
    have hShown := hStarting.shown hSome
    rw [show q.pending = [] from hRest] at hShown
    constructor
    · rw [hDefault, hStarting.locale]
    · rw [hDefault, ← hStarting.locale]
      exact hShown.quiescent.symm

/- Turns of a life. -/
def life
    (es : List (Event Op Answer)) : List (Life Op Answer) :=
  es.map .turn

/- The loads of `MyApp` and of `AppInit`. -/
def startUp : List (Life Op Answer) :=
  life (turns 3 .done ++
    .call .loadInitData :: turns 5 .done)

/- A default language that is chosen again is restored. -/
theorem restores_default :
    ∃ q,
      ((program twoLanguages).restarting boot).Run
        System.anyStep (started none)
        (life (changeTo "en") ++ .restart :: startUp) q ∧
      q.shared.returned.length = 1 ∧
      Restores twoLanguages q.shared := by
  have hRun :
      ∃ q,
        ((program twoLanguages).restarting boot).Run
          System.anyStep (started none)
          (life (changeTo "en") ++ .restart :: startUp) q ∧
        q.Quiescent ∧
        q.shared.returned.length = 1 ∧
        q.shared.chosen = defaultLanguage ∧
        (twoLanguages.wouldLoad defaultLanguage).isSome :=
    ⟨_, System.run_of_exec rfl, rfl, rfl, rfl, rfl⟩
  rcases hRun with ⟨q, hRun, hRest, hOnce, hChosen⟩
  exact ⟨q, hRun, hOnce,
    (restores_iff rfl hRun (by decide) hRest).mpr hChosen⟩

/-
  The language is changed to "ar", which succeeds and is
  stored; after the restart the app is in English.
-/
theorem choice_lost_by_restart :
    ∃ q,
      ((program twoLanguages).restarting boot).Run
        System.anyStep (started none)
        (life (changeTo "ar") ++ .restart :: startUp) q ∧
      q.Quiescent ∧
      q.shared.language = some "ar" ∧
      q.shared.chosen = "ar" ∧
      q.shared.app.locale = "en" ∧
      q.shared.app.productListLayout = some "list" ∧
      ¬ Restores twoLanguages q.shared := by
  refine ⟨_, System.run_of_exec rfl, rfl, rfl, rfl, rfl, rfl,
    ?_⟩
  intro hRestores
  exact absurd hRestores.1 (by decide)

end AppState

end NewsCentral
