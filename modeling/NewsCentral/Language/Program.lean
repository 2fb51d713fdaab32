import NewsCentral.EventLoop.Restart
import NewsCentral.Dart.Json

/-
  The language of the app and its configuration:
  `lib/models/app.dart`, with the two loads of the start-up
  in `lib/app.dart` and `lib/app_init.dart`.

  `loadAppConfig` names the asset by the locale that it
  meets after its first await, and publishes what arrives
  after the last.  Its errors stay with it: the caller is
  given null.

  Key definitions include:
    * `NewsCentral.Bundle`
    * `NewsCentral.AppModel`
    * `NewsCentral.AppModel.publish`
    * `NewsCentral.AppState`
    * `NewsCentral.AppState.program`
    * `NewsCentral.AppState.boot`
-/

------------------------------------------------------------
-- The Configuration
------------------------------------------------------------

namespace NewsCentral

open Dart EventLoop

/- `kAppConfig`, which names an asset and no address. -/
def kAppConfig : String := "lib/config/config_en.json"

/- `kAdvanceConfig['DefaultLanguage']` -/
def defaultLanguage : String := "en"

/- The asset that holds the configuration of a locale. -/
def configPath (locale : String) : String :=
  "lib/config/config_" ++ locale ++ ".json"

/-
  What the app is shipped with: the decoded text of each
  asset, or the error of its load, and the item "config" of
  the storage `builder.json`, null if there is none.
-/
structure Bundle where
  asset : String → Except Thrown Json
  builder : Json := .null

/- `appConfig['Setting']['ProductListLayout']` -/
def layoutOf (appConfig : Json) :
    Except Thrown (Option String) := do
  (← appConfig.index "Setting").text "ProductListLayout"

/- `appConfig['Drawer']`, copied as a map if it is there. -/
def drawerOf (appConfig : Json) : Except Thrown Json := do
  (← appConfig.index "Drawer").asMap

------------------------------------------------------------
-- The Model
------------------------------------------------------------

/- The fields of `AppModel` that a load touches. -/
structure AppModel where
  appConfig : Json := .null
  drawer : Json := .null
  productListLayout : Option String := none
  isLoading : Bool := true
  message : Option String := none
  locale : String := defaultLanguage
deriving DecidableEq

namespace AppModel

/- The error of a load ends it. -/
def failed
    (e : Thrown)
    (m : AppModel) : AppModel :=
  { m with isLoading := false, message := some e.toText }

/-
  A configuration is published: field by field, and an error
  keeps what has been set.  With it goes what
  `loadAppConfig` returns.
-/
def publish
    (appConfig : Json)
    (m : AppModel) : AppModel × Json :=
  let m := { m with appConfig := appConfig }
  match layoutOf appConfig with
  | .error e => (m.failed e, .null)
  | .ok layout =>
      let m := { m with productListLayout := layout }
      match drawerOf appConfig with
      | .error e => (m.failed e, .null)
      | .ok drawer =>
          ({ m with drawer := drawer, isLoading := false },
            appConfig)

end AppModel

------------------------------------------------------------
-- Operations
------------------------------------------------------------

/- A `changeLanguage` that has returned. -/
structure Returned where
  country : String
  result : Bool
  config : Json
deriving DecidableEq

/-
  The model, the preference "language", whether `AppInit`
  has begun to load, and as a history the calls that have
  returned, each with what its `loadAppConfig` returned.
-/
structure AppState where
  app : AppModel := {}
  language : Option String := none
  initialised : Bool := false
  returned : List Returned := []
deriving DecidableEq

namespace AppState

/- `loadInitData` runs when the page is laid out. -/
inductive Op where
  | changeLanguage (country : String)
  | loadInitData
deriving DecidableEq

/- Who awaits a load. -/
inductive Caller where
  | afterFirstLayout
  | loadInitData
  | changeLanguage (country : String)
deriving DecidableEq

/- Where an operation is suspended. -/
inductive Point where
  | sharedPreferences (country : String)
  | setString (country : String)
  | checkFirstSeen
  | checkLogin
  | getItem (caller : Caller)
  | localeAsset (caller : Caller) (path : String)
  | defaultAsset (caller : Caller)
  | configLoaded (caller : Caller) (config : Json)
deriving DecidableEq

/-
  An await completes or throws.  A write may complete
  without having stored.
-/
inductive Answer where
  | done
  | refused
  | failed (e : Thrown)
deriving DecidableEq

/- An asset arrives, unless its load fails. -/
def Answer.load
    (loaded : Except Thrown Json) :
    Answer → Except Thrown Json
  | .failed e => .error e
  | _ => loaded

/- `changeLanguage` returns. -/
def return_
    (country : String)
    (result : Bool)
    (config : Json)
    (s : AppState) : AppState × List Point :=
  ({ s with
      returned := s.returned ++ [⟨country, result, config⟩] },
    [])

/- A load is through with its `try`. -/
def loaded
    (caller : Caller)
    (r : AppModel × Json)
    (s : AppState) : AppState × List Point :=
  ({ s with app := r.1 }, [.configLoaded caller r.2])

/- The `catch` of `loadAppConfig`. -/
def loadFailed
    (caller : Caller)
    (e : Thrown)
    (s : AppState) : AppState × List Point :=
  loaded caller (s.app.failed e, .null) s

/- What a variable of type `Map` takes is published. -/
def loadMap
    (caller : Caller)
    (config : Except Thrown Json)
    (s : AppState) : AppState × List Point :=
  match config with
  | .error e => loadFailed caller e s
  | .ok appConfig => loaded caller (s.app.publish appConfig) s

def call
    (op : Op)
    (s : AppState) : Option (AppState × List Point) :=
  match op with
  | .changeLanguage country =>
      some (s, [.sharedPreferences country])
  | .loadInitData =>
      if s.app.isLoading || s.initialised then
        none
      else
        some ({ s with initialised := true },
          [.checkFirstSeen])

def resume
    (b : Bundle)
    (point : Point)
    (answer : Answer)
    (s : AppState) : AppState × List Point :=
  match point, answer with
  | .sharedPreferences country, .failed _ =>
      return_ country false .null s
  | .sharedPreferences country, _ =>
      ({ s with app := { s.app with locale := country } },
        [.setString country])
  | .setString country, .failed _ =>
      return_ country false .null s
  | .setString country, .refused =>
      (s, [.getItem (.changeLanguage country)])
  | .setString country, .done =>
      ({ s with language := some country },
        [.getItem (.changeLanguage country)])
  | .checkFirstSeen, .failed _ => (s, [])
  | .checkFirstSeen, _ => (s, [.checkLogin])
  | .checkLogin, .failed _ => (s, [])
  | .checkLogin, _ => (s, [.getItem .loadInitData])
  | .getItem caller, _ =>
      if b.builder.isNotNull then
        loadMap caller b.builder.asMap s
      else
        (s, [.localeAsset caller (configPath s.app.locale)])
  | .localeAsset caller path, _ =>
      match (answer.load (b.asset path)).bind Json.asMap with
      | .error _ => (s, [.defaultAsset caller])
      | .ok appConfig =>
          loaded caller (s.app.publish appConfig) s
  | .defaultAsset caller, _ =>
      loadMap caller
        ((answer.load (b.asset kAppConfig)).bind Json.asMap) s
  -- the lookup of `CategoryModel` may throw
  | .configLoaded (.changeLanguage country) config,
      .failed _ =>
      return_ country false config s
  | .configLoaded (.changeLanguage country) config, _ =>
      return_ country true config s
  | .configLoaded _ _, _ => (s, [])

/- The two operations on the event loop. -/
def program
    (b : Bundle) : Program AppState Op Point Answer where
  call := call
  resume := resume b
  queued := fun _ => false

/-
  A process starts: the model is new, the preference is
  kept, and `MyApp` loads the configuration.
-/
def boot (s : AppState) : AppState × List Point :=
  ({ language := s.language, returned := s.returned },
    [.getItem .afterFirstLayout])

/- A process that finds this preference. -/
def started
    (language : Option String) : Pool AppState Point :=
  ⟨(boot { language := language }).1,
    (boot { language := language }).2⟩

end AppState

end NewsCentral
