import NewsCentral.EventLoop.WriteBehind
import NewsCentral.Language.Program

/-
  Language and configuration together.

  The configuration that is shown and the preference are
  both written behind the locale: by the loads, and by the
  writes that `changeLanguage` has underway.  They follow
  the locale as long as no late answer and no failure is the
  last word, and as long as what a call is given is the
  configuration of its own language.

  Key definitions include:
    * `NewsCentral.Configuration`
    * `NewsCentral.Bundle.wouldLoad`
    * `NewsCentral.AppState.Together`
    * `NewsCentral.AppState.InOrder`

  Key theorems include:
    * `NewsCentral.AppState.TogetherInvariant.resume`
    * `NewsCentral.AppState.together_of_run`
-/

------------------------------------------------------------
-- Whole Configurations
------------------------------------------------------------

namespace NewsCentral

open Dart EventLoop

/- What the readers of `AppModel` see of a configuration. -/
structure Configuration where
  appConfig : Json
  productListLayout : Option String
  drawer : Json
deriving DecidableEq

/- A configuration read as a whole. -/
def configuration (appConfig : Json) :
    Except Thrown Configuration := do
  let layout ← layoutOf appConfig
  let drawer ← drawerOf appConfig
  return ⟨appConfig, layout, drawer⟩

/- What the model shows. -/
def AppModel.configuration (m : AppModel) : Configuration :=
  ⟨m.appConfig, m.productListLayout, m.drawer⟩

namespace Bundle

/- The map that an asset holds. -/
def map
    (b : Bundle)
    (path : String) : Except Thrown Json :=
  (b.asset path).bind Json.asMap

/- An asset if it holds a map, else the default one. -/
def loads
    (b : Bundle)
    (path : String) : Except Thrown Json :=
  match b.map path with
  | .ok appConfig => .ok appConfig
  | .error _ => b.map kAppConfig

/- The configuration of a map, if it can be read. -/
def shows
    (config : Except Thrown Json) : Option Configuration :=
  (config.bind configuration).toOption

/-
  What `loadAppConfig` would load for a locale, nothing if
  it would throw.
-/
def wouldLoad
    (b : Bundle)
    (locale : String) : Option Configuration :=
  shows (b.loads (configPath locale))

end Bundle

namespace AppModel

variable {m : AppModel} {appConfig : Json}

/- A configuration that can be read is shown as a whole. -/
theorem publish_of_ok
    {c : Configuration}
    (hRead : NewsCentral.configuration appConfig = .ok c) :
    (m.publish appConfig).1.configuration = c ∧
      (m.publish appConfig).2 = c.appConfig := by
  unfold NewsCentral.configuration at hRead
  unfold publish
  cases hLayout : layoutOf appConfig with
  | error e => simp [hLayout, bind, Except.bind] at hRead
  | ok layout =>
      cases hDrawer : drawerOf appConfig with
      | error e =>
          simp [hLayout, hDrawer, bind, Except.bind] at hRead
      | ok drawer =>
          simp only [hLayout, hDrawer, bind, Except.bind,
            pure, Except.pure, Except.ok.injEq] at hRead
          subst hRead
          exact ⟨rfl, rfl⟩

/- A load leaves the locale alone. -/
@[simp] theorem publish_locale :
    (m.publish appConfig).1.locale = m.locale := by
  unfold publish
  cases layoutOf appConfig with
  | error e => rfl
  | ok layout => cases drawerOf appConfig <;> rfl

end AppModel

end NewsCentral

------------------------------------------------------------
-- The Property And Its Condition
------------------------------------------------------------

namespace NewsCentral

open Dart EventLoop

namespace AppState

/-
  The configuration, the drawer and the layout are those of
  the locale, and so is the preference, where the default
  language need not be stored.
-/
def LocaleShown (b : Bundle) (s : AppState) : Prop :=
  b.wouldLoad s.app.locale = some s.app.configuration ∧
    s.language.getD defaultLanguage = s.app.locale

/- A load has returned the configuration of a language. -/
def Loaded
    (b : Bundle)
    (country : String)
    (config : Json) : Prop :=
  ∃ c, b.wouldLoad country = some c ∧ c.appConfig = config

/-
  Language and configuration stay together: at rest, and in
  what has been returned.
-/
def Together (b : Bundle) (p : Pool AppState Point) : Prop :=
  (p.Quiescent → LocaleShown b p.shared) ∧
    ∀ r ∈ p.shared.returned, r.result = true →
      Loaded b r.country r.config

/- A point that is going to show this configuration. -/
def willLoad
    (b : Bundle) : Point → Option Configuration → Prop
  | .setString _, _ => True
  | .checkFirstSeen, _ => True
  | .checkLogin, _ => True
  | .getItem _, _ => True
  | .localeAsset _ path, c => Bundle.shows (b.loads path) = c
  | .defaultAsset _, c =>
      Bundle.shows (b.map kAppConfig) = c
  | _, _ => False

instance
    (b : Bundle)
    (k : Point)
    (c : Option Configuration) :
    Decidable (willLoad b k c) := by
  cases k <;> unfold willLoad <;> infer_instance

/- A point that is going to write this language. -/
def willWrite : Point → String → Prop
  | .setString country, locale => country = locale
  | _, _ => False

instance
    (k : Point)
    (locale : String) :
    Decidable (willWrite k locale) := by
  cases k <;> unfold willWrite <;> infer_instance

/-
  It is in order to show `c`: it is what the locale calls
  for, or a load that is underway will show that.
-/
def MayShow
    (b : Bundle)
    (s : AppState)
    (rest : List Point)
    (c : Option Configuration) : Prop :=
  c.isSome ∧ b.wouldLoad s.app.locale = c ∨
    ∃ k ∈ rest, willLoad b k (b.wouldLoad s.app.locale)

/- It is in order that this language is stored. -/
def MayStore
    (s : AppState)
    (rest : List Point)
    (language : Option String) : Prop :=
  MayWrite willWrite s.app.locale
    (language.getD defaultLanguage) rest

/- A caller may be given `c`: it is of its language. -/
def MayReturn
    (b : Bundle)
    (caller : Caller)
    (c : Option Configuration) : Prop :=
  match caller with
  | .changeLanguage country =>
      c.isSome ∧ b.wouldLoad country = c
  | _ => True

/-
  A configuration that arrives is that of the locale and of
  the caller; what is asked of a load that fails is given.
-/
def Arrives
    (b : Bundle)
    (s : AppState)
    (rest : List Point)
    (caller : Caller)
    (failing : Prop) :
    Except Thrown Json → Prop
  | .ok appConfig =>
      MayShow b s rest (configuration appConfig).toOption ∧
        MayReturn b caller (configuration appConfig).toOption
  | .error _ => failing

/-
  The condition on the awaits: a write may store, and what
  arrives may be shown and returned.  A failure may leave
  the store, or the model, as it is.
-/
def InOrder
    (b : Bundle)
    (s : AppState)
    (rest : List Point)
    (point : Point)
    (answer : Answer) : Prop :=
  match point, answer with
  | .setString country, .done =>
      MayStore s rest (some country)
  | .setString _, .refused => MayStore s rest s.language
  | .setString _, .failed _ =>
      MayStore s rest s.language ∧
        MayShow b s rest (some s.app.configuration)
  | .checkFirstSeen, .failed _ =>
      MayShow b s rest (some s.app.configuration)
  | .checkLogin, .failed _ =>
      MayShow b s rest (some s.app.configuration)
  | .localeAsset caller path, _ =>
      Arrives b s rest caller
        (MayShow b s rest (Bundle.shows (b.map kAppConfig)))
        ((answer.load (b.asset path)).bind Json.asMap)
  | .defaultAsset caller, _ =>
      Arrives b s rest caller
        (MayShow b s rest (some s.app.configuration) ∧
          MayReturn b caller none)
        ((answer.load (b.asset kAppConfig)).bind Json.asMap)
  | _, _ => True

/- Calls are not restricted. -/
def anyCall
    (_ : AppState)
    (_ : List Point)
    (_ : Op) : Prop := True

instance
    (s : AppState)
    (rest : List Point)
    (op : Op) :
    Decidable (anyCall s rest op) :=
  isTrue trivial

instance
    (b : Bundle)
    (s : AppState)
    (rest : List Point)
    (c : Option Configuration) :
    Decidable (MayShow b s rest c) := by
  unfold MayShow
  infer_instance

instance
    (s : AppState)
    (rest : List Point)
    (language : Option String) :
    Decidable (MayStore s rest language) := by
  unfold MayStore
  infer_instance

instance
    (b : Bundle)
    (caller : Caller)
    (c : Option Configuration) :
    Decidable (MayReturn b caller c) := by
  cases caller <;> unfold MayReturn <;> infer_instance

instance
    (b : Bundle)
    (s : AppState)
    (rest : List Point)
    (caller : Caller)
    (failing : Prop)
    [Decidable failing]
    (config : Except Thrown Json) :
    Decidable (Arrives b s rest caller failing config) := by
  cases config <;> unfold Arrives <;> infer_instance

instance
    (b : Bundle)
    (s : AppState)
    (rest : List Point)
    (point : Point)
    (answer : Answer) :
    Decidable (InOrder b s rest point answer) := by
  cases point <;> cases answer <;> unfold InOrder <;>
    infer_instance

end AppState

end NewsCentral

------------------------------------------------------------
-- The Invariant
------------------------------------------------------------

namespace NewsCentral

open Dart EventLoop

namespace AppState

/-
  The configuration and the preference follow the locale,
  and what is or will be returned is of the call's language.
-/
structure TogetherInvariant
    (b : Bundle)
    (s : AppState)
    (pending : List Point) : Prop where
  shown :
    Follows (willLoad b) (b.wouldLoad s.app.locale)
      (some s.app.configuration) pending
  stored :
    Follows willWrite s.app.locale
      (s.language.getD defaultLanguage) pending
  given :
    ∀ country config,
      .configLoaded (.changeLanguage country) config ∈
        pending →
      Loaded b country config
  returned :
    ∀ r ∈ s.returned, r.result = true →
      Loaded b r.country r.config

variable {b : Bundle} {s : AppState}
variable {earlier later next : List Point} {k : Point}

/- What may be shown follows the locale. -/
theorem MayShow.follows
    {c stored : Option Configuration}
    (hShow : MayShow b s (earlier ++ later) c)
    (hStored : c.isSome → stored = c) :
    Follows (willLoad b) (b.wouldLoad s.app.locale) stored
      (earlier ++ later ++ next) := by
  rcases hShow with ⟨hSome, hEq⟩ | ⟨j, hMem, hLoads⟩
  · left
    rw [hStored hSome, hEq]
  · exact .inr ⟨j, List.mem_append_left _ hMem, hLoads⟩

/- A configuration that may be returned is loaded. -/
theorem MayReturn.loaded
    {caller : Caller}
    {country : String}
    {appConfig : Json}
    (hReturn :
      MayReturn b caller (configuration appConfig).toOption)
    (hCaller : caller = .changeLanguage country) :
    Loaded b country (s.app.publish appConfig).2 := by
  rw [hCaller] at hReturn
  rcases hReturn with ⟨hSome, hEq⟩
  cases hRead : configuration appConfig with
  | error e => simp [hRead, Except.toOption] at hSome
  | ok c =>
      refine ⟨c, ?_, ?_⟩
      · simpa [hRead, Except.toOption] using hEq
      · exact (AppModel.publish_of_ok hRead).2.symm

/- A call changes neither, and leaves a promise of nothing. -/
theorem TogetherInvariant.call
    {op : Op}
    {s' : AppState}
    {pending : List Point}
    (hInv : TogetherInvariant b s pending)
    (hCall : call op s = some (s', next)) :
    TogetherInvariant b s' (pending ++ next) := by
  have hSame :
      s'.app = s.app ∧ s'.language = s.language ∧
        s'.returned = s.returned ∧
        ∀ country config,
          .configLoaded (.changeLanguage country) config ∉
            next := by
    cases op with
    | changeLanguage country =>
        cases hCall
        simp
    | loadInitData =>
        simp only [AppState.call] at hCall
        split at hCall
        · cases hCall
        · cases hCall
          simp
  rcases hSame with ⟨hApp, hLanguage, hReturned, hNone⟩
  constructor
  · rw [hApp]
    exact hInv.shown.call
  · rw [hApp, hLanguage]
    exact hInv.stored.call
  · intro country config hMem
    rcases List.mem_append.mp hMem with hOld | hNew
    · exact hInv.given country config hOld
    · exact absurd hNew (hNone country config)
  · rw [hReturned]
    exact hInv.returned

------------------------------------------------------------
-- What A Turn Keeps
------------------------------------------------------------

/- What is published may be shown, so it follows. -/
theorem MayShow.publish
    {appConfig : Json}
    (hShow :
      MayShow b s (earlier ++ later)
        (configuration appConfig).toOption) :
    Follows (willLoad b) (b.wouldLoad s.app.locale)
      (some (s.app.publish appConfig).1.configuration)
      (earlier ++ later ++ next) := by
  refine hShow.follows ?_
  intro hSome
  cases hRead : configuration appConfig with
  | error e => simp [hRead, Except.toOption] at hSome
  | ok c =>
      rw [(AppModel.publish_of_ok hRead).1]
      rfl

/- The configuration follows the locale. -/
theorem shown_resume
    {answer : Answer}
    (hLocal : b.builder = .null)
    (hShown :
      Follows (willLoad b) (b.wouldLoad s.app.locale)
        (some s.app.configuration)
        (earlier ++ k :: later))
    (hOk : InOrder b s (earlier ++ later) k answer) :
    Follows (willLoad b)
      (b.wouldLoad (resume b k answer s).1.app.locale)
      (some (resume b k answer s).1.app.configuration)
      (earlier ++ later ++ (resume b k answer s).2) := by
  cases k with
  | sharedPreferences country =>
      cases answer with
      | failed e => exact hShown.keep (by simp [willLoad])
      | _ =>
          exact Follows.announce
            ⟨.setString country, by simp [resume], trivial⟩
  | setString country =>
      cases answer with
      | failed e => exact hOk.2.follows fun _ => rfl
      | _ =>
          exact hShown.keep fun c _ =>
            ⟨.getItem (.changeLanguage country),
              by simp [resume], trivial⟩
  | checkFirstSeen =>
      cases answer with
      | failed e => exact hOk.follows fun _ => rfl
      | _ => exact hShown.keep (by simp [resume, willLoad])
  | checkLogin =>
      cases answer with
      | failed e => exact hOk.follows fun _ => rfl
      | _ => exact hShown.keep (by simp [resume, willLoad])
  | getItem caller =>
      simp only [resume, hLocal, Json.isNotNull]
      exact Follows.announce
        ⟨.localeAsset caller (configPath s.app.locale),
          by simp, rfl⟩
  | localeAsset caller path =>
      simp only [InOrder, Arrives] at hOk
      simp only [resume]
      cases hConfig :
          (answer.load (b.asset path)).bind Json.asMap with
      | ok appConfig =>
          simp only [hConfig] at hOk
          simp only [loaded, AppModel.publish_locale]
          exact hOk.1.publish
      | error e =>
          simp only [hConfig] at hOk
          rcases hOk with ⟨_, hEq⟩ | ⟨j, hMem, hLoads⟩
          · exact Follows.announce
              ⟨.defaultAsset caller, by simp, hEq.symm⟩
          · exact .inr
              ⟨j, List.mem_append_left _ hMem, hLoads⟩
  | defaultAsset caller =>
      simp only [InOrder, Arrives] at hOk
      simp only [resume]
      cases hConfig :
          (answer.load (b.asset kAppConfig)).bind
            Json.asMap with
      | ok appConfig =>
          simp only [hConfig] at hOk
          simp only [loadMap, loaded, AppModel.publish_locale]
          exact hOk.1.publish
      | error e =>
          simp only [hConfig] at hOk
          exact hOk.1.follows fun _ => rfl
  | configLoaded caller config =>
      cases caller <;> cases answer <;>
        exact hShown.keep (by simp [willLoad])

/- A load leaves the locale and the preference alone. -/
theorem loadMap_language
    (caller : Caller)
    (config : Except Thrown Json) :
    (loadMap caller config s).1.app.locale = s.app.locale ∧
      (loadMap caller config s).1.language = s.language := by
  cases config with
  | error e => exact ⟨rfl, rfl⟩
  | ok appConfig =>
      exact ⟨AppModel.publish_locale, rfl⟩

/- Nor does it return to `changeLanguage`'s caller. -/
theorem loadMap_returned
    (caller : Caller)
    (config : Except Thrown Json) :
    (loadMap caller config s).1.returned = s.returned := by
  cases config <;> rfl

/- The preference follows the locale. -/
theorem stored_resume
    {answer : Answer}
    (hStored :
      Follows willWrite s.app.locale
        (s.language.getD defaultLanguage)
        (earlier ++ k :: later))
    (hOk : InOrder b s (earlier ++ later) k answer) :
    Follows willWrite (resume b k answer s).1.app.locale
      ((resume b k answer s).1.language.getD
        defaultLanguage)
      (earlier ++ later ++ (resume b k answer s).2) := by
  cases k with
  | sharedPreferences country =>
      cases answer with
      | failed e => exact hStored.keep (by simp [willWrite])
      | _ =>
          exact Follows.announce
            ⟨.setString country, by simp [resume], rfl⟩
  | setString country =>
      cases answer with
      | failed e => exact Follows.write hOk.1
      | _ => exact Follows.write hOk
  | getItem caller =>
      simp only [resume]
      split
      · have hSame :=
          loadMap_language (s := s) caller b.builder.asMap
        rw [hSame.1, hSame.2]
        exact hStored.keep (by simp [willWrite])
      · exact hStored.keep (by simp [willWrite])
  | localeAsset caller path =>
      simp only [resume]
      cases (answer.load (b.asset path)).bind Json.asMap with
      | error e => exact hStored.keep (by simp [willWrite])
      | ok appConfig =>
          simp only [loaded, AppModel.publish_locale]
          exact hStored.keep (by simp [willWrite])
  | defaultAsset caller =>
      have hSame :=
        loadMap_language (s := s) caller
          ((answer.load (b.asset kAppConfig)).bind
            Json.asMap)
      simp only [resume]
      rw [hSame.1, hSame.2]
      exact hStored.keep (by simp [willWrite])
  | configLoaded caller config =>
      cases caller <;> cases answer <;>
        exact hStored.keep (by simp [willWrite])
  | _ =>
      cases answer <;>
        exact hStored.keep (by simp [willWrite])

/- A call is given the configuration of its language. -/
theorem given_resume
    {answer : Answer}
    {rest : List Point}
    {country : String}
    {config : Json}
    (hLocal : b.builder = .null)
    (hOk : InOrder b s rest k answer)
    (hMem :
      .configLoaded (.changeLanguage country) config ∈
        (resume b k answer s).2) :
    Loaded b country config := by
  cases k with
  | getItem caller =>
      simp [resume, hLocal, Json.isNotNull] at hMem
  | localeAsset caller path =>
      simp only [InOrder, Arrives] at hOk
      simp only [resume] at hMem
      cases hConfig :
          (answer.load (b.asset path)).bind Json.asMap with
      | error e => simp [hConfig] at hMem
      | ok appConfig =>
          simp only [hConfig, loaded, List.mem_singleton,
            Point.configLoaded.injEq] at hOk hMem
          rw [hMem.2]
          exact hOk.2.loaded hMem.1.symm
  | defaultAsset caller =>
      simp only [InOrder, Arrives] at hOk
      simp only [resume] at hMem
      cases hConfig :
          (answer.load (b.asset kAppConfig)).bind
            Json.asMap with
      | error e =>
          simp only [hConfig, loadMap, loadFailed, loaded,
            List.mem_singleton,
            Point.configLoaded.injEq] at hOk hMem
          rw [← hMem.1] at hOk
          simp [MayReturn] at hOk
      | ok appConfig =>
          simp only [hConfig, loadMap, loaded,
            List.mem_singleton,
            Point.configLoaded.injEq] at hOk hMem
          rw [hMem.2]
          exact hOk.2.loaded hMem.1.symm
  | configLoaded caller config =>
      cases caller <;> cases answer <;>
        simp [resume, return_] at hMem
  | _ => cases answer <;> simp [resume, return_] at hMem

/- True is returned behind what the call was given. -/
theorem returned_resume
    {answer : Answer}
    {r : Returned}
    (hMem : r ∈ (resume b k answer s).1.returned)
    (hTrue : r.result = true) :
    r ∈ s.returned ∨
      k = .configLoaded (.changeLanguage r.country)
        r.config := by
  cases k with
  | getItem caller =>
      simp only [resume] at hMem
      split at hMem
      · rw [loadMap_returned] at hMem
        exact .inl hMem
      · exact .inl hMem
  | localeAsset caller path =>
      simp only [resume] at hMem
      split at hMem <;> exact .inl hMem
  | defaultAsset caller =>
      simp only [resume, loadMap_returned] at hMem
      exact .inl hMem
  | configLoaded caller config =>
      cases caller with
      | changeLanguage country =>
          cases answer with
          | failed e =>
              simp only [resume, return_, List.mem_append,
                List.mem_singleton] at hMem
              rcases hMem with hOld | rfl
              · exact .inl hOld
              · cases hTrue
          | _ =>
              simp only [resume, return_, List.mem_append,
                List.mem_singleton] at hMem
              rcases hMem with hOld | rfl
              · exact .inl hOld
              · exact .inr rfl
      | _ => exact .inl hMem
  | checkFirstSeen => cases answer <;> exact .inl hMem
  | checkLogin => cases answer <;> exact .inl hMem
  | _ =>
      cases answer with
      | failed e =>
          simp only [resume, return_, List.mem_append,
            List.mem_singleton] at hMem
          rcases hMem with hOld | rfl
          · exact .inl hOld
          · cases hTrue
      | _ => exact .inl hMem

/- A turn in order keeps the invariant. -/
theorem TogetherInvariant.resume
    {answer : Answer}
    (hLocal : b.builder = .null)
    (hInv : TogetherInvariant b s (earlier ++ k :: later))
    (hOk : InOrder b s (earlier ++ later) k answer) :
    TogetherInvariant b (resume b k answer s).1
      (earlier ++ later ++ (resume b k answer s).2) := by
  constructor
  · exact shown_resume hLocal hInv.shown hOk
  · exact stored_resume hInv.stored hOk
  · intro country config hMem
    rcases List.mem_append.mp hMem with hRest | hNew
    · exact hInv.given country config (mem_of_mem_rest hRest)
    · exact given_resume hLocal hOk hNew
  · intro r hMem hTrue
    rcases returned_resume hMem hTrue with hOld | hGiven
    · exact hInv.returned r hOld hTrue
    · exact hInv.given r.country r.config (by simp [hGiven])

end AppState

end NewsCentral

------------------------------------------------------------
-- Every Run In Order
------------------------------------------------------------

namespace NewsCentral

open Dart EventLoop

namespace AppState

variable {b : Bundle}

/- At rest the invariant is the property. -/
theorem TogetherInvariant.together
    {p : Pool AppState Point}
    (hInv : TogetherInvariant b p.shared p.pending) :
    Together b p := by
  refine ⟨?_, hInv.returned⟩
  intro hRest
  rw [Pool.Quiescent] at hRest
  have hShown := hInv.shown
  have hStored := hInv.stored
  rw [hRest] at hShown hStored
  exact ⟨hShown.quiescent.symm, hStored.quiescent⟩

/- A process starts with its load underway. -/
theorem TogetherInvariant.started
    {language : Option String}
    (hStored :
      language.getD defaultLanguage = defaultLanguage) :
    TogetherInvariant b (started language).shared
      (started language).pending where
  shown :=
    .inr
      ⟨.getItem .afterFirstLayout,
        by simp [AppState.started, boot], trivial⟩
  stored := .inl hStored
  given := by simp [AppState.started, boot]
  returned := by simp [AppState.started, boot]

/-
  In a process that finds the default language, or none,
  stored, language and configuration are together in every
  state of every run whose awaits are in order.
-/
theorem together_of_run
    {language : Option String}
    {es : List (Event Op Answer)}
    {p : Pool AppState Point}
    (hLocal : b.builder = .null)
    (hStored :
      language.getD defaultLanguage = defaultLanguage)
    (hRun :
      (program b).system.Run
        (Program.when anyCall (InOrder b))
        (started language) es p) :
    Together b p := by
  have hInv : TogetherInvariant b p.shared p.pending := by
    refine Program.run_invariant
      (I := fun _ s pending => TogetherInvariant b s pending)
      hRun (TogetherInvariant.started hStored) ?_ ?_
    · intro _ s pending op s' next hInv _ hCall
      exact hInv.call hCall
    · intro _ s earlier k later answer hInv hOk _
      exact hInv.resume hLocal hOk
  exact hInv.together

/- Two configurations that differ in their layouts. -/
def twoLanguages : Bundle where
  asset path :=
    if path = kAppConfig then
      .ok (.obj
        [("Setting",
          .obj [("ProductListLayout", .str "list")])])
    else if path = configPath "ar" then
      .ok (.obj
        [("Setting",
          .obj [("ProductListLayout", .str "card")])])
    else
      .error (.error "FlutterError" path)

/- The start, a call, and its awaits one after another. -/
def changeTo
    (country : String) : List (Event Op Answer) :=
  turns 3 .done ++
    .call (.changeLanguage country) :: turns 5 .done

theorem together_after_change :
    ∃ p,
      (program twoLanguages).system.Run
        (Program.when anyCall (InOrder twoLanguages))
        (started none) (changeTo "ar") p ∧
      p.Quiescent ∧
      p.shared.app.productListLayout = some "card" ∧
      Together twoLanguages p := by
  have hRun :
      ∃ p,
        (program twoLanguages).system.Run
          (Program.when anyCall (InOrder twoLanguages))
          (started none) (changeTo "ar") p ∧
        p.Quiescent ∧
        p.shared.app.productListLayout = some "card" :=
    ⟨_, System.run_iff_exec.mpr ⟨by decide, rfl⟩, rfl, rfl⟩
  rcases hRun with ⟨p, hRun, hRest, hLayout⟩
  exact ⟨p, hRun, hRest, hLayout,
    together_of_run rfl rfl hRun⟩

/-
  Both assets fail to load: the call returns true, with the
  locale and the preference changed and the configuration of
  the other language shown.
-/
theorem not_together_of_failed_load :
    ∃ p,
      (program twoLanguages).system.Run System.anyStep
        (started none)
        (turns 3 .done ++
          [.call (.changeLanguage "ar"), .resume 0 .done,
            .resume 0 .done, .resume 0 .done,
            .resume 0 (.failed (.error "FlutterError" "")),
            .resume 0 (.failed (.error "FlutterError" "")),
            .resume 0 .done]) p ∧
      p.Quiescent ∧
      p.shared.app.locale = "ar" ∧
      p.shared.app.productListLayout = some "list" ∧
      p.shared.returned = [⟨"ar", true, .null⟩] ∧
      ¬ Together twoLanguages p := by
  refine ⟨_, System.run_of_exec rfl, rfl, rfl, rfl, rfl, ?_⟩
  intro hTogether
  exact absurd (hTogether.1 rfl).1 (by decide)

end AppState

end NewsCentral
