import NewsCentral.Dart.JsonRoundTrip
import NewsCentral.Session.Program

/-
  The stored user after a restart, and the right to post
  that `lib/screens/settings.dart` reads off the user.

  The storage is written as JSON text and decoded at the
  next launch.  `toJson` writes every field but the role,
  which `fromAuthUser` alone sets.

  Key definitions include:
    * `NewsCentral.LoginAnswer`
    * `NewsCentral.SettingScreen.checkAddPostRole`
    * `NewsCentral.Session.relaunched`
    * `NewsCentral.Session.SurvivesRestart`

  Key theorems include:
    * `NewsCentral.User.fromLocalJson_toJson`
    * `NewsCentral.User.role_fromAuthUser`
    * `NewsCentral.Session.survivesRestart_iff`
-/

------------------------------------------------------------
-- The Right To Post
------------------------------------------------------------

namespace NewsCentral

open Dart

/- The roles of `lib/common/constants.dart`. -/
def addPostAccessibleRoles : List String :=
  ["author", "administrator"]

namespace SettingScreen

/- The flag `isAbleToPostManagement` after the loop. -/
def checkAddPostRole (user : User) : Bool :=
  addPostAccessibleRoles.foldl
    (fun isAble legitRole =>
      if user.role = some legitRole then true else isAble)
    false

/- Without a user the roles are not checked. -/
def afterFirstLayout (user : Option User) : Bool :=
  match user with
  | none => false
  | some user => checkAddPostRole user

end SettingScreen

end NewsCentral

------------------------------------------------------------
-- Login Answers
------------------------------------------------------------

namespace NewsCentral

open Dart

/- The JSON map a login path decodes to a user. -/
inductive LoginAnswer where
  | authUser
      (fields : List (String × Json))
      (cookie : Option String)
  | jsonFB (fields : List (String × Json))
  | jsonSMS (fields : List (String × Json))

namespace LoginAnswer

def json : LoginAnswer → Json
  | .authUser fields _ => .obj fields
  | .jsonFB fields => .obj fields
  | .jsonSMS fields => .obj fields

/- The user the login path makes of it. -/
def user : LoginAnswer → User
  | .authUser fields cookie =>
      .fromAuthUser (.obj fields) cookie
  | .jsonFB fields => .fromJsonFB (.obj fields)
  | .jsonSMS fields => .fromJsonSMS (.obj fields)

/- The value that becomes the user's id. -/
def idJson : LoginAnswer → Json
  | .authUser fields _ => Json.field fields "id"
  | .jsonFB fields => Json.field fields "wp_user_id"
  | .jsonSMS fields => Json.field fields "wp_user_id"

end LoginAnswer

namespace User

/- The texts `fromAuthUser` reads before the role. -/
def authTexts :
    List (String × (User → Option String → User)) :=
  [ ("displayname", fun u v => { u with name := v }),
    ("username", fun u v => { u with username := v }),
    ("firstname", fun u v => { u with firstName := v }),
    ("lastname", fun u v => { u with lastName := v }),
    ("email", fun u v => { u with email := v }),
    ("password", fun u v => { u with password := v }),
    ("avatar", fun u v => { u with picture := v }) ]

/- `j[0]` is a text. -/
def startsWithText : Json → Bool
  | .arr (.str _ :: _) => true
  | .str s => s ≠ ""
  | _ => false

/-
  `fromAuthUser` comes to the role and finds one: whatever
  it reads before is a text or null.
-/
def RoleFound (fields : List (String × Json)) : Prop :=
  (∀ t ∈ authTexts,
      (Json.field fields t.1).isNullableText = true) ∧
    startsWithText (Json.field fields "role") = true

instance (fields : List (String × Json)) :
    Decidable (RoleFound fields) := by
  unfold RoleFound
  infer_instance

end User

/-
  Encoding keeps all there is of the user: the id holds no
  infinite number, and no role was found.
-/
def LoginAnswer.Storable : LoginAnswer → Prop
  | .authUser fields _ =>
      (Json.field fields "id").isFinite = true ∧
        ¬ User.RoleFound fields
  | .jsonFB fields =>
      (Json.field fields "wp_user_id").isFinite = true
  | .jsonSMS fields =>
      (Json.field fields "wp_user_id").isFinite = true

instance (answer : LoginAnswer) :
    Decidable answer.Storable := by
  cases answer <;> unfold LoginAnswer.Storable <;>
    infer_instance

end NewsCentral

------------------------------------------------------------
-- A Restart
------------------------------------------------------------

namespace NewsCentral

open Dart

namespace User

/- The user read back from the stored text. -/
def restored
    (doubles : Doubles)
    (u : User) : Except Thrown User := do
  return fromLocalJson (← reload doubles u.toJson)

end User

namespace Session

/-
  The session at the launch after the user was saved; a text
  that cannot be written is not there.
-/
def relaunched
    (doubles : Doubles)
    (u : User) : Session where
  storage :=
    { userInfo := (reload doubles u.toJson).toOption }

/-
  The stored record is the same user, and the settings
  screen finds the same right to post in the user that
  `getUser` loads.
-/
structure SurvivesRestart
    (doubles : Doubles)
    (u : User) : Prop where
  restored : u.restored doubles = .ok u
  sameRight :
    SettingScreen.afterFirstLayout
        (relaunched doubles u).loadUser.user =
      SettingScreen.afterFirstLayout (some u)

end Session

end NewsCentral

------------------------------------------------------------
-- What Is Stored
------------------------------------------------------------

namespace NewsCentral

open Dart

namespace User

/- Every field but the role is read back as it was. -/
theorem fromLocalJson_toJson
    (u : User) :
    fromLocalJson u.toJson = { u with role := none } := by
  simp [fromLocalJson, toJson, Json.index, Json.field,
    List.lookup_cons, bind, Except.bind]

/- A record is as decoded and as finite as its id. -/
theorem isDecoded_toJson
    {doubles : Doubles}
    {u : User}
    (hId : u.id.isDecoded doubles = true) :
    u.toJson.isDecoded doubles = true := by
  simp only [toJson, Json.isDecoded, Json.isDecodedFields,
    hId, Json.isDecoded_ofString?, Json.isDecoded_ofBool?,
    Bool.and_true, decide_eq_true_iff, List.map_cons,
    List.map_nil]
  decide

theorem isFinite_toJson
    (u : User) :
    u.toJson.isFinite = u.id.isFinite := by
  simp only [toJson, Json.isFinite, Json.isFiniteFields,
    Json.isFinite_ofString?, Json.isFinite_ofBool?,
    Bool.and_true]

/- So a user with a finite id comes back without role. -/
theorem restored_of_isFinite
    {doubles : Doubles}
    {u : User}
    (hId : u.id.isDecoded doubles = true)
    (hFinite : u.id.isFinite = true) :
    u.restored doubles = .ok { u with role := none } := by
  rw [restored,
    reload_of_isFinite (isDecoded_toJson hId)
      (u.isFinite_toJson.trans hFinite)]
  exact congrArg Except.ok u.fromLocalJson_toJson

end User

namespace Session

theorem user_loadUser_relaunched
    {doubles : Doubles}
    {u : User}
    (hId : u.id.isDecoded doubles = true)
    (hFinite : u.id.isFinite = true) :
    (relaunched doubles u).loadUser.user =
      some { u with role := none } := by
  rw [relaunched,
    reload_of_isFinite (User.isDecoded_toJson hId)
      (u.isFinite_toJson.trans hFinite)]
  exact congrArg some u.fromLocalJson_toJson

/- A user survives exactly if nothing is left unwritten. -/
theorem survivesRestart_iff_role
    {doubles : Doubles}
    {u : User}
    (hId : u.id.isDecoded doubles = true) :
    SurvivesRestart doubles u ↔
      u.id.isFinite = true ∧ u.role = none := by
  constructor
  · intro hSurvives
    have hFinite : u.id.isFinite = true := by
      rw [← u.isFinite_toJson]
      have hRestored := hSurvives.restored
      unfold User.restored at hRestored
      cases hReload : reload doubles u.toJson with
      | ok json => exact isFinite_of_reload hReload
      | error e =>
          rw [hReload] at hRestored
          cases hRestored
    have hSame : { u with role := none } = u := by
      have hRestored := hSurvives.restored
      rw [User.restored_of_isFinite hId hFinite] at hRestored
      exact Except.ok.inj hRestored
    exact ⟨hFinite, (congrArg User.role hSame).symm⟩
  · rintro ⟨hFinite, hRole⟩
    have hSame : { u with role := none } = u := by
      cases u
      cases hRole
      rfl
    refine ⟨?_, ?_⟩
    · rw [User.restored_of_isFinite hId hFinite, hSame]
    · rw [user_loadUser_relaunched hId hFinite, hSame]

end Session

end NewsCentral

------------------------------------------------------------
-- Which Answers Give A Role
------------------------------------------------------------

namespace NewsCentral

open Dart

namespace User

theorem role_fromJsonFB
    (json : Json) :
    (fromJsonFB json).role = none := by
  refine @tryEach_view _ _ User.role _ ?_ {}
  intro statement hMem
  simp only [fromJsonFBProfile, List.mem_cons,
    List.not_mem_nil, or_false] at hMem
  rcases hMem with
      rfl | rfl | rfl | rfl | rfl | rfl | rfl | rfl | rfl <;>
    exact hidden_assign fun _ _ => rfl

theorem role_fromJsonSMS
    (json : Json) :
    (fromJsonSMS json).role = none := by
  refine @tryEach_view _ _ User.role _ ?_ {}
  intro statement hMem
  simp only [fromJsonSMSProfile, List.mem_cons,
    List.not_mem_nil, or_false] at hMem
  rcases hMem with
      rfl | rfl | rfl | rfl | rfl | rfl | rfl | rfl <;>
    exact hidden_assign fun _ _ => rfl

/- The two statements behind the texts. -/
def authRole (role : Except Thrown Json) :
    List (User → Except Thrown User) :=
  [ assign (do (← (← role).itemAt 0).asString)
      fun u v => { u with role := v },
    assign (.ok true)
      fun u v => { u with loggedIn := some v } ]

/- They find the role in a value that starts with a text. -/
theorem role_authRole
    (role : Json)
    {u : User}
    (hNone : u.role = none) :
    (tryEach (authRole (.ok role)) u).role.isNone =
      !startsWithText role := by
  cases role with
  | arr items =>
      cases items with
      | nil =>
          simp [authRole, Json.itemAt, bind, Except.bind,
            startsWithText, hNone]
      | cons item items =>
          cases item <;>
            simp [authRole, Json.itemAt, bind, Except.bind,
              startsWithText, hNone, Json.asString]
  | str s =>
      by_cases hEmpty : s = ""
      · subst hEmpty
        simp [authRole, Json.itemAt, bind, Except.bind,
          startsWithText, hNone]
      · have hChars : s.toList ≠ [] := by
          simpa using hEmpty
        rcases List.exists_cons_of_ne_nil hChars with
          ⟨c, cs, hText⟩
        simp [authRole, Json.itemAt, bind, Except.bind,
          startsWithText, hText, hEmpty, Json.asString]
  | _ =>
      simp [authRole, Json.itemAt, bind, Except.bind,
        startsWithText, hNone, Json.asString]

theorem role_authTexts :
    ∀ t ∈ authTexts, ∀ u v,
      (t.2 u v).role.isNone = u.role.isNone := by
  intro t hMem
  simp only [authTexts, List.mem_cons, List.not_mem_nil,
    or_false] at hMem
  rcases hMem with rfl | rfl | rfl | rfl | rfl | rfl | rfl <;>
    exact fun _ _ => rfl

/- `fromAuthUser` leaves a role exactly if it finds one. -/
theorem role_fromAuthUser
    (fields : List (String × Json))
    (cookie : Option String) :
    (fromAuthUser (.obj fields) cookie).role = none ↔
      ¬ RoleFound fields := by
  let start : User :=
    { cookie := cookie, id := Json.field fields "id" }
  let role := Json.field fields "role"
  have hBody :
      fromAuthUser (.obj fields) cookie =
        tryEach
          (authTexts.map
              (fun t =>
                assign ((Json.obj fields).text t.1) t.2) ++
            authRole (.ok role))
          start :=
    rfl
  have hNone :=
    @tryEach_texts_append User Bool
      (fun u => u.role.isNone) fields authTexts
      (authRole (.ok role)) start (!startsWithText role)
      role_authTexts
      fun u hView =>
        role_authRole role (Option.isNone_iff_eq_none.mp hView)
  rw [hBody, ← Option.isNone_iff_eq_none, hNone]
  by_cases hTexts :
      ∀ t ∈ authTexts,
        (Json.field fields t.1).isNullableText = true
  · rw [if_pos hTexts, Bool.not_eq_true', RoleFound,
      and_iff_right hTexts, Bool.not_eq_true]
  · rw [if_neg hTexts]
    exact ⟨fun _ hFound => hTexts hFound.1, fun _ => rfl⟩

end User

namespace LoginAnswer

/- Decoding always comes to the id. -/
theorem id_user
    (answer : LoginAnswer) :
    answer.user.id = answer.idJson := by
  cases answer with
  | authUser fields cookie =>
      have hBody := congrArg Prod.fst
        (tryEach_view (User.hidden_fromAuthUserProfile
          (.obj fields))
          { cookie := cookie, id := Json.field fields "id" })
      exact hBody
  | jsonFB fields =>
      refine @tryEach_view _ _ User.id _ ?_
        { loggedIn := some true
          id := Json.field fields "wp_user_id" }
      intro statement hMem
      simp only [User.fromJsonFBProfile, List.mem_cons,
        List.not_mem_nil, or_false] at hMem
      rcases hMem with rfl | rfl | rfl | rfl | rfl | rfl | rfl <;>
        exact hidden_assign fun _ _ => rfl
  | jsonSMS fields =>
      refine @tryEach_view _ _ User.id _ ?_
        { loggedIn := some true
          id := Json.field fields "wp_user_id" }
      intro statement hMem
      simp only [User.fromJsonSMSProfile, List.mem_cons,
        List.not_mem_nil, or_false] at hMem
      rcases hMem with rfl | rfl | rfl | rfl | rfl | rfl <;>
        exact hidden_assign fun _ _ => rfl

theorem storable_iff
    (answer : LoginAnswer) :
    answer.Storable ↔
      answer.idJson.isFinite = true ∧
        answer.user.role = none := by
  cases answer with
  | authUser fields cookie =>
      exact and_congr_right'
        (User.role_fromAuthUser fields cookie).symm
  | jsonFB fields =>
      exact (and_iff_left (User.role_fromJsonFB _)).symm
  | jsonSMS fields =>
      exact (and_iff_left (User.role_fromJsonSMS _)).symm

theorem isDecoded_idJson
    {doubles : Doubles}
    {answer : LoginAnswer}
    (hDecoded : answer.json.isDecoded doubles = true) :
    answer.idJson.isDecoded doubles = true := by
  cases answer <;> exact Json.isDecoded_field hDecoded _

end LoginAnswer

namespace Session

/-
  The user of a login answer survives a restart exactly if
  all there is of it is stored.
-/
theorem survivesRestart_iff
    (doubles : Doubles)
    (answer : LoginAnswer)
    (hDecoded : answer.json.isDecoded doubles = true) :
    SurvivesRestart doubles answer.user ↔
      answer.Storable := by
  have hId : answer.user.id.isDecoded doubles = true := by
    rw [answer.id_user]
    exact LoginAnswer.isDecoded_idJson hDecoded
  rw [survivesRestart_iff_role hId, answer.storable_iff,
    answer.id_user]

end Session

end NewsCentral

------------------------------------------------------------
-- An Author And A Reader
------------------------------------------------------------

namespace NewsCentral

open Dart

namespace Session

/- An answer of the account service with a role. -/
def accountAnswer (role : String) : LoginAnswer :=
  .authUser
    [ ("id", .int 7), ("displayname", .str "Ada"),
      ("role", .arr [.str role]) ]
    (some "cookie")

/- An answer of the Facebook login, as a text. -/
def facebookText : String :=
  "\x7b\"wp_user_id\": 7, \"user\": \x7b\"name\": \"Ada\"\x7d\x7d"

def facebookAnswer : LoginAnswer :=
  .jsonFB
    [ ("wp_user_id", .int 7),
      ("user", .obj [("name", .str "Ada")]) ]

theorem survivesRestart_facebookAnswer :
    SurvivesRestart .asWritten facebookAnswer.user := by
  have hText :
      jsonDecode .asWritten facebookText =
        .ok facebookAnswer.json := by
    decide +kernel
  exact
    (survivesRestart_iff .asWritten facebookAnswer
      (isDecoded_of_jsonDecode hText)).mpr (by decide)

/- An author may post before the restart only. -/
theorem role_lost_by_restart :
    (accountAnswer "author").json.isDecoded .asWritten =
        true ∧
      ¬ SurvivesRestart .asWritten
          (accountAnswer "author").user ∧
      SettingScreen.afterFirstLayout
          (some (accountAnswer "author").user) =
        true ∧
      SettingScreen.afterFirstLayout
          (relaunched .asWritten
            (accountAnswer "author").user).loadUser.user =
        false := by
  refine ⟨by decide, ?_, rfl, ?_⟩
  · intro hSurvives
    have hRole :=
      (survivesRestart_iff_role (by decide)).mp hSurvives
    exact absurd hRole.2 (by decide)
  · rw [user_loadUser_relaunched (by decide) (by decide)]
    rfl

end Session

end NewsCentral
