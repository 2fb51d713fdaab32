import NewsCentral.Language.Together
import NewsCentral.Services.Logins

/-
  What a load that fails leaves behind: `loadAppConfig` with
  all its sources, from its call to its end.

  The configuration comes from the storage, from an address,
  from the asset of the locale or from the default one.  It
  is assigned before it is looked into, so a load that fails
  later has replaced it already, and with it perhaps the
  layout.  Nothing changes exactly if nothing was assigned
  or what was assigned had been there.

  Key definitions include:
    * `NewsCentral.Sources`
    * `NewsCentral.AppModel.loadAppConfig`
    * `NewsCentral.Sources.Gives`
    * `NewsCentral.Whole`

  Key theorems include:
    * `NewsCentral.AppState.drain_getItem`
    * `NewsCentral.Sources.read_eq_ok_iff`
    * `NewsCentral.AppModel.unchanged_loadAppConfig_iff`
-/

------------------------------------------------------------
-- Sources
------------------------------------------------------------

namespace NewsCentral

open Dart EventLoop

/-
  What a load finds: the item "config" of `builder.json`,
  null if there is none; `kAppConfig`, which names an asset
  or an address, with the answer to a request of it; and the
  assets, the default one as it is loaded when that of the
  locale was of no use.
-/
structure Sources where
  builder : Json := .null
  kAppConfig : String := NewsCentral.kAppConfig
  cloud : Except Thrown Response :=
    .error (.error "SocketException" "")
  asset : String → Except Thrown Json
  defaultAsset : Except Thrown Json

/-
  What is assigned to the `Map` variable, or the error that
  prevents it.
-/
def Sources.read
    (sources : Sources)
    (locale : String) : Except Thrown Json :=
  if sources.builder.isNotNull then
    sources.builder.asMap
  else if "http".toList <:+: sources.kAppConfig.toList then do
    let appJson ← sources.cloud
    (← appJson.jsonDecode).asMap
  else
    match
      (sources.asset (configPath locale)).bind Json.asMap with
    | .ok appConfig => .ok appConfig
    | .error _ => sources.defaultAsset.bind Json.asMap

/- A load, with what it returns. -/
def AppModel.loadAppConfig
    (sources : Sources)
    (m : AppModel) : AppModel × Json :=
  match sources.read m.locale with
  | .error e => (m.failed e, .null)
  | .ok appConfig => m.publish appConfig

------------------------------------------------------------
-- Loads On The Event Loop
------------------------------------------------------------

/- A bundle, answered so, as the sources of one load. -/
def Bundle.sources
    (b : Bundle)
    (respond : AppState.Point → AppState.Answer)
    (caller : AppState.Caller) : Sources where
  builder := b.builder
  asset path :=
    (respond (.localeAsset caller path)).load (b.asset path)
  defaultAsset :=
    (respond (.defaultAsset caller)).load (b.asset kAppConfig)

/- The constant names an asset. -/
theorem kAppConfig_is_asset :
    ¬ "http".toList <:+: kAppConfig.toList := by
  decide

namespace AppState

variable {b : Bundle} (respond : Point → Answer)

/- Without a stored item the assets are read. -/
theorem read_sources
    (caller : Caller)
    (locale : String)
    (hBuilder : b.builder.isNotNull = false) :
    (b.sources respond caller).read locale =
      match
        ((respond
          (.localeAsset caller (configPath locale))).load
            (b.asset (configPath locale))).bind Json.asMap with
      | .ok appConfig => .ok appConfig
      | .error _ =>
          ((respond (.defaultAsset caller)).load
            (b.asset kAppConfig)).bind Json.asMap := by
  have hNone :
      ¬ (b.sources respond caller).builder.isNotNull = true := by
    simp [Bundle.sources, hBuilder]
  have hAsset :
      ¬ "http".toList <:+:
        (b.sources respond caller).kAppConfig.toList :=
    kAppConfig_is_asset
  unfold Sources.read
  rw [if_neg hNone, if_neg hAsset]
  rfl

/- A read configuration, or the error, ends the `try`. -/
theorem loadMap_eq
    (caller : Caller)
    (sources : Sources)
    (s : AppState) :
    loadMap caller (sources.read s.app.locale) s =
      loaded caller (s.app.loadAppConfig sources) s := by
  unfold loadMap AppModel.loadAppConfig
  cases sources.read s.app.locale <;> rfl

/- The last turn only tells the caller. -/
theorem drain_loaded
    (fuel : Nat)
    (caller : Caller)
    (r : AppModel × Json)
    (s : AppState) :
    (program b).drain respond (fuel + 1)
        ⟨(loaded caller r s).1, (loaded caller r s).2⟩ =
      ⟨(resume b (.configLoaded caller r.2)
          (respond (.configLoaded caller r.2))
          { s with app := r.1 }).1, []⟩ := by
  have hLast :
      ∀ answer t,
        (resume b (.configLoaded caller r.2) answer t).2 =
          [] := by
    intro answer t
    cases caller <;> cases answer <;> rfl
  simp only [loaded, Program.drain_singleton]
  simp only [program]
  rw [hLast, Program.drain_nil]

/- From the assets on, a load is one from its sources. -/
theorem drain_localeAsset
    (caller : Caller)
    (s : AppState)
    (hBuilder : b.builder.isNotNull = false) :
    let r := s.app.loadAppConfig (b.sources respond caller)
    (program b).drain respond 3
        ⟨s, [.localeAsset caller (configPath s.app.locale)]⟩ =
      ⟨(resume b (.configLoaded caller r.2)
          (respond (.configLoaded caller r.2))
          { s with app := r.1 }).1, []⟩ := by
  intro r
  have hEnd :=
    fun fuel => @drain_loaded b respond fuel caller r s
  have hLoaded : _ = loaded caller r s :=
    loadMap_eq caller (b.sources respond caller) s
  have hRead := read_sources respond caller
    s.app.locale hBuilder
  generalize configPath s.app.locale = path at hRead ⊢
  cases hAsset :
      ((respond (.localeAsset caller path)).load
        (b.asset path)).bind Json.asMap with
  | ok appConfig =>
      simp only [hAsset] at hRead
      have hTurn :
          (program b).resume (.localeAsset caller path)
              (respond (.localeAsset caller path)) s =
            loaded caller r s := by
        rw [← hLoaded, hRead]
        simp only [program, resume, hAsset]
        rfl
      rw [Program.drain_singleton, hTurn, hEnd]
  | error e =>
      simp only [hAsset] at hRead
      have hTurn :
          (program b).resume (.localeAsset caller path)
              (respond (.localeAsset caller path)) s =
            (s, [.defaultAsset caller]) := by
        simp only [program, resume, hAsset]
      have hNext :
          (program b).resume (.defaultAsset caller)
              (respond (.defaultAsset caller)) s =
            loaded caller r s := by
        rw [← hLoaded, hRead]
        rfl
      rw [Program.drain_singleton, hTurn,
        Program.drain_singleton, hNext, hEnd]

/-
  Undisturbed, the awaits of a load amount to one load from
  the sources that the answers make of the bundle.
-/
theorem drain_getItem
    (caller : Caller)
    (s : AppState) :
    let r := s.app.loadAppConfig (b.sources respond caller)
    (program b).drain respond 4 ⟨s, [.getItem caller]⟩ =
      ⟨(resume b (.configLoaded caller r.2)
          (respond (.configLoaded caller r.2))
          { s with app := r.1 }).1, []⟩ := by
  intro r
  cases hBuilder : b.builder.isNotNull with
  | true =>
      have hRead :
          (b.sources respond caller).read s.app.locale =
            b.builder.asMap := by
        simp [Sources.read, Bundle.sources, hBuilder]
      have hTurn :
          (program b).resume (.getItem caller)
              (respond (.getItem caller)) s =
            loaded caller r s := by
        have hLoaded : _ = loaded caller r s :=
          loadMap_eq caller (b.sources respond caller) s
        rw [← hLoaded, hRead]
        simp only [program, resume, hBuilder, if_true]
      rw [Program.drain_singleton, hTurn, drain_loaded]
  | false =>
      have hTurn :
          (program b).resume (.getItem caller)
              (respond (.getItem caller)) s =
            (s, [.localeAsset caller
              (configPath s.app.locale)]) := by
        simp only [program, resume, hBuilder]
        rfl
      rw [Program.drain_singleton, hTurn]
      exact drain_localeAsset respond caller s hBuilder

end AppState

end NewsCentral

------------------------------------------------------------
-- What Can Be Assigned
------------------------------------------------------------

namespace NewsCentral

open Dart Json

/- What a `Map` variable takes. -/
def IsMap (j : Json) : Prop :=
  j = .null ∨ ∃ fields, j = .obj fields

/- A value that the assets hold for a `Map` variable. -/
def Holds (loaded : Except Thrown Json) (j : Json) : Prop :=
  loaded = .ok j ∧ IsMap j

/-
  What is assigned, source by source.  The storage comes
  first; the default asset is asked only if that of the
  locale holds nothing for the variable.
-/
inductive Sources.Gives
    (sources : Sources)
    (locale : String) : Json → Prop
  | stored
      (hStored : sources.builder ≠ .null)
      (hMap : IsMap sources.builder) :
      Gives sources locale sources.builder
  | cloud
      {response : Response}
      {config : Json}
      (hNone : sources.builder = .null)
      (hAddress :
        "http".toList <:+: sources.kAppConfig.toList)
      (hCloud : sources.cloud = .ok response)
      (hDecoded : response.decoded = some config)
      (hMap : IsMap config) :
      Gives sources locale config
  | locale
      {config : Json}
      (hNone : sources.builder = .null)
      (hAsset :
        ¬ "http".toList <:+: sources.kAppConfig.toList)
      (hHolds :
        Holds (sources.asset (configPath locale)) config) :
      Gives sources locale config
  | default
      {config : Json}
      (hNone : sources.builder = .null)
      (hAsset :
        ¬ "http".toList <:+: sources.kAppConfig.toList)
      (hMissing :
        ∀ other,
          ¬ Holds (sources.asset (configPath locale)) other)
      (hHolds : Holds sources.defaultAsset config) :
      Gives sources locale config

theorem holds_iff
    {loaded : Except Thrown Json}
    {config : Json} :
    loaded.bind Json.asMap = .ok config ↔
      Holds loaded config := by
  unfold Holds IsMap
  cases loaded with
  | error e => simp [Except.bind]
  | ok j =>
      simp only [Except.bind, WordPress.asMap_eq_ok_iff,
        Except.ok.injEq]
      constructor
      · rintro ⟨rfl, hMap⟩
        exact ⟨rfl, hMap⟩
      · rintro ⟨rfl, hMap⟩
        exact ⟨rfl, hMap⟩

namespace Sources

variable {sources : Sources} {locale : String}
variable {config : Json}

/- A stored item leaves no choice. -/
theorem gives_stored_iff
    (hStored : sources.builder ≠ .null) :
    sources.Gives locale config ↔
      config = sources.builder ∧ IsMap sources.builder := by
  constructor
  · intro hGives
    cases hGives with
    | stored _ hMap => exact ⟨rfl, hMap⟩
    | cloud hNone => exact absurd hNone hStored
    | locale hNone => exact absurd hNone hStored
    | default hNone => exact absurd hNone hStored
  · rintro ⟨rfl, hMap⟩
    exact .stored hStored hMap

/- Nor does an address. -/
theorem gives_cloud_iff
    (hNone : sources.builder = .null)
    (hAddress :
      "http".toList <:+: sources.kAppConfig.toList) :
    sources.Gives locale config ↔
      ∃ response, sources.cloud = .ok response ∧
        response.decoded = some config ∧ IsMap config := by
  constructor
  · intro hGives
    cases hGives with
    | stored hStored => exact absurd hNone hStored
    | cloud _ _ hCloud hDecoded hMap =>
        exact ⟨_, hCloud, hDecoded, hMap⟩
    | locale _ hAsset => exact absurd hAddress hAsset
    | default _ hAsset => exact absurd hAddress hAsset
  · rintro ⟨response, hCloud, hDecoded, hMap⟩
    exact .cloud hNone hAddress hCloud hDecoded hMap

/- Of the assets, the one of the locale comes first. -/
theorem gives_asset_iff
    (hNone : sources.builder = .null)
    (hAsset :
      ¬ "http".toList <:+: sources.kAppConfig.toList) :
    sources.Gives locale config ↔
      Holds (sources.asset (configPath locale)) config ∨
        (∀ other,
          ¬ Holds (sources.asset (configPath locale)) other) ∧
          Holds sources.defaultAsset config := by
  constructor
  · intro hGives
    cases hGives with
    | stored hStored => exact absurd hNone hStored
    | cloud _ hAddress => exact absurd hAddress hAsset
    | locale _ _ hHolds => exact .inl hHolds
    | default _ _ hMissing hHolds =>
        exact .inr ⟨hMissing, hHolds⟩
  · rintro (hHolds | ⟨hMissing, hHolds⟩)
    · exact .locale hNone hAsset hHolds
    · exact .default hNone hAsset hMissing hHolds

/- An asset that is of no use is stepped over. -/
theorem orDefault_eq_ok_iff
    {loaded default : Except Thrown Json} :
    (match loaded.bind Json.asMap with
      | .ok appConfig => .ok appConfig
      | .error _ => default.bind Json.asMap :
        Except Thrown Json) = .ok config ↔
      Holds loaded config ∨
        (∀ other, ¬ Holds loaded other) ∧
          Holds default config := by
  cases hLoaded : loaded.bind Json.asMap with
  | ok other =>
      have hOther := holds_iff.mp hLoaded
      constructor
      · rintro ⟨rfl⟩
        exact .inl hOther
      · rintro (hHolds | ⟨hMissing, _⟩)
        · exact hLoaded.symm.trans (holds_iff.mpr hHolds)
        · exact absurd hOther (hMissing other)
  | error e =>
      have hMissing : ∀ other, ¬ Holds loaded other := by
        intro other hOther
        rw [holds_iff.mpr hOther] at hLoaded
        cases hLoaded
      rw [holds_iff]
      constructor
      · intro hHolds
        exact .inr ⟨hMissing, hHolds⟩
      · rintro (hHolds | ⟨_, hHolds⟩)
        · exact absurd hHolds (hMissing config)
        · exact hHolds

/- A load assigns what its first source gives. -/
theorem read_eq_ok_iff :
    sources.read locale = .ok config ↔
      sources.Gives locale config := by
  unfold read
  by_cases hNone : sources.builder = .null
  · rw [if_neg (by simp [hNone, isNotNull])]
    by_cases hAddress :
        "http".toList <:+: sources.kAppConfig.toList
    · rw [if_pos hAddress, gives_cloud_iff hNone hAddress]
      simp only [bind_eq_ok_iff,
        WordPress.jsonDecode_eq_ok_iff,
        WordPress.asMap_eq_ok_iff]
      constructor
      · rintro ⟨response, hCloud, j, hDecoded, rfl, hMap⟩
        exact ⟨response, hCloud, hDecoded, hMap⟩
      · rintro ⟨response, hCloud, hDecoded, hMap⟩
        exact ⟨response, hCloud, _, hDecoded, rfl, hMap⟩
    · rw [if_neg hAddress, gives_asset_iff hNone hAddress]
      exact orDefault_eq_ok_iff
  · rw [if_pos (WordPress.isNotNull_iff.mpr hNone),
      gives_stored_iff hNone, WordPress.asMap_eq_ok_iff]
    rfl

end Sources

end NewsCentral

------------------------------------------------------------
-- What A Failed Load Leaves Behind
------------------------------------------------------------

namespace NewsCentral

open Dart Json

/- The layout that the settings of a configuration name. -/
def NamesLayout
    (config : Json)
    (layout : Option String) : Prop :=
  ∃ fields setting,
    config = .obj fields ∧
      field fields "Setting" = .obj setting ∧
      (field setting "ProductListLayout").asString =
        .ok layout

/- The drawer of a configuration is a map or missing. -/
def HasDrawer (config : Json) : Prop :=
  ∃ fields, config = .obj fields ∧
    IsMap (field fields "Drawer")

/- A configuration in which everything is there. -/
def Whole (config : Json) : Prop :=
  (∃ layout, NamesLayout config layout) ∧ HasDrawer config

theorem layoutOf_eq_ok_iff
    {config : Json}
    {layout : Option String} :
    layoutOf config = .ok layout ↔
      NamesLayout config layout := by
  unfold layoutOf text NamesLayout
  simp only [bind_eq_ok_iff,
    WordPress.index_eq_ok_iff]
  constructor
  · rintro ⟨_, ⟨fields, rfl, rfl⟩, _,
      ⟨setting, hSetting, rfl⟩, hLayout⟩
    exact ⟨fields, setting, rfl, hSetting, hLayout⟩
  · rintro ⟨fields, setting, rfl, hSetting, hLayout⟩
    exact ⟨_, ⟨fields, rfl, rfl⟩, _,
      ⟨setting, hSetting, rfl⟩, hLayout⟩

theorem drawerOf_ok_iff
    {config : Json} :
    (∃ drawer, drawerOf config = .ok drawer) ↔
      HasDrawer config := by
  unfold drawerOf HasDrawer IsMap
  simp only [bind_eq_ok_iff,
    WordPress.index_eq_ok_iff, WordPress.asMap_eq_ok_iff]
  constructor
  · rintro ⟨_, _, ⟨fields, rfl, rfl⟩, rfl, hMap⟩
    exact ⟨fields, rfl, hMap⟩
  · rintro ⟨fields, rfl, hMap⟩
    exact ⟨_, _, ⟨fields, rfl, rfl⟩, rfl, hMap⟩

namespace AppModel

variable {m : AppModel} {config : Json}

/- A whole configuration is not null. -/
theorem publish_of_whole
    (hWhole : Whole config) :
    (m.publish config).2 ≠ .null := by
  rcases hWhole with ⟨⟨layout, hLayout⟩, hDrawer⟩
  rcases drawerOf_ok_iff.mpr hDrawer with ⟨drawer, hDrawer⟩
  have hObj : config ≠ .null := by
    rcases hLayout with ⟨fields, _, rfl, _⟩
    simp
  simp only [publish, layoutOf_eq_ok_iff.mpr hLayout, hDrawer]
  exact hObj

/-
  Any other one is assigned before the error, and a layout
  that it names as well.
-/
theorem publish_of_not_whole
    (hNotWhole : ¬ Whole config) :
    (m.publish config).2 = .null ∧
      ((m.publish config).1.configuration =
          m.configuration ↔
        config = m.appConfig ∧
          ∀ layout, NamesLayout config layout →
            layout = m.productListLayout) := by
  unfold publish
  cases hLayout : layoutOf config with
  | error e =>
      have hNone : ∀ layout, ¬ NamesLayout config layout := by
        intro layout hNames
        rw [layoutOf_eq_ok_iff.mpr hNames] at hLayout
        cases hLayout
      refine ⟨rfl, ?_⟩
      simp [configuration, failed, hNone]
  | ok layout =>
      have hNames := layoutOf_eq_ok_iff.mp hLayout
      have hUnique :
          ∀ other, NamesLayout config other →
            other = layout := by
        intro other hOther
        rw [layoutOf_eq_ok_iff.mpr hOther] at hLayout
        exact Except.ok.inj hLayout
      cases hDrawer : drawerOf config with
      | ok drawer =>
          exact absurd
            ⟨⟨layout, hNames⟩, drawerOf_ok_iff.mp ⟨_, hDrawer⟩⟩
            hNotWhole
      | error e =>
          refine ⟨rfl, ?_⟩
          simp only [configuration, failed,
            Configuration.mk.injEq, and_true]
          constructor
          · rintro ⟨hConfig, hSame⟩
            refine ⟨hConfig, ?_⟩
            intro other hOther
            exact (hUnique other hOther).trans hSame
          · rintro ⟨hConfig, hSame⟩
            exact ⟨hConfig, hSame layout hNames⟩

/-
  A load that returns null has changed nothing of the
  configuration exactly if whatever its sources give is
  whole, or is the configuration that was there and names no
  other layout.
-/
theorem unchanged_loadAppConfig_iff
    (sources : Sources)
    (m : AppModel) :
    ((m.loadAppConfig sources).2 = .null →
        (m.loadAppConfig sources).1.configuration =
          m.configuration) ↔
      ∀ config, sources.Gives m.locale config →
        Whole config ∨
          config = m.appConfig ∧
            ∀ layout, NamesLayout config layout →
              layout = m.productListLayout := by
  unfold loadAppConfig
  cases hRead : sources.read m.locale with
  | error e =>
      constructor
      · intro _ config hGives
        rw [Sources.read_eq_ok_iff.mpr hGives] at hRead
        cases hRead
      · intro _ _
        rfl
  | ok config =>
      have hGives := Sources.read_eq_ok_iff.mp hRead
      have hUnique :
          ∀ other, sources.Gives m.locale other →
            other = config := by
        intro other hOther
        rw [Sources.read_eq_ok_iff.mpr hOther] at hRead
        exact Except.ok.inj hRead
      by_cases hWhole : Whole config
      · constructor
        · intro _ other hOther
          rw [hUnique other hOther]
          exact .inl hWhole
        · intro _ hNull
          exact absurd hNull (publish_of_whole hWhole)
      · rcases publish_of_not_whole (m := m) hWhole with
          ⟨hNull, hIff⟩
        constructor
        · intro hSame other hOther
          rw [hUnique other hOther]
          exact .inr (hIff.mp (hSame hNull))
        · intro hSources _
          rcases hSources config hGives with hYes | hSame
          · exact absurd hYes hWhole
          · exact hIff.mpr hSame

/-
  An asset without settings takes the place of the
  configuration that was shown, and the load returns null.
-/
theorem asset_without_setting_replaces :
    let shown : Json :=
      .obj [("Setting", .obj [("MainColor", .str "3FC1BE")])]
    let m : AppModel :=
      { appConfig := shown, isLoading := false }
    let sources : Sources :=
      { asset := fun _ => .ok (.obj [("TabBar", .arr [])])
        defaultAsset := .ok shown }
    (m.loadAppConfig sources).2 = .null ∧
      (m.loadAppConfig sources).1.appConfig =
        .obj [("TabBar", .arr [])] ∧
      (m.loadAppConfig sources).1.configuration ≠
        m.configuration := by
  decide

end AppModel

end NewsCentral
