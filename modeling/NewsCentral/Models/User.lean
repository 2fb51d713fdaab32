import NewsCentral.Dart.Json

/-
  User records, as `lib/models/user.dart` decodes and stores
  them.

  Three constructors decode the answers of the WordPress
  login plugins and one reads a stored record back.  Each
  swallows its errors and keeps what was assigned before,
  so a malformed answer still yields a user, possibly one
  without id or cookie.

  Key definitions include:
    * `NewsCentral.User`
    * `NewsCentral.User.fromJsonFB`
    * `NewsCentral.User.fromJsonSMS`
    * `NewsCentral.User.fromAuthUser`
    * `NewsCentral.User.HasCredentials`

  Which answers yield credentials:
    * `NewsCentral.User.fromJsonFB_hasCredentials_iff`
    * `NewsCentral.User.fromJsonSMS_hasCredentials_iff`
    * `NewsCentral.User.fromAuthUser_hasCredentials_iff`
-/

------------------------------------------------------------
-- User Records
------------------------------------------------------------

namespace NewsCentral

open Dart

/- A user; the fields are those of the source class. -/
structure User where
  id : Json := .null
  loggedIn : Option Bool := none
  name : Option String := none
  firstName : Option String := none
  lastName : Option String := none
  username : Option String := none
  email : Option String := none
  password : Option String := none
  picture : Option String := none
  cookie : Option String := none
  role : Option String := none
deriving DecidableEq

namespace User

/- `fromJsonFB` after the cookie. -/
def fromJsonFBProfile
    (user : Except Thrown Json) :
    List (User → Except Thrown User) :=
  [ assign (do (← user).text "first_name")
      fun u v => { u with firstName := v },
    assign (do (← user).text "last_name")
      fun u v => { u with lastName := v },
    assign (do (← user).text "email")
      fun u v => { u with email := v },
    assign
      (do
        let picture ← (← user).index "picture"
        (← picture.index "data").text "url")
      fun u v => { u with picture := some (v.getD "") } ]

/- Decode a Google or Facebook login answer. -/
def fromJsonFB (json : Json) : User :=
  let user := json.index "user"
  tryEach
    (assign user
        (fun u _ => { u with loggedIn := some true }) ::
      assign (json.index "wp_user_id")
        (fun u v => { u with id := v }) ::
      assign (do (← user).text "name")
        (fun u v => { u with name := v }) ::
      assign (do (← user).text "user_login")
        (fun u v => { u with username := v }) ::
      assign (json.text "cookie")
        (fun u v => { u with cookie := v }) ::
      fromJsonFBProfile user)
    {}

/- `fromJsonSMS` after the cookie. -/
def fromJsonSMSProfile
    (json : Json)
    (user : Except Thrown Json) :
    List (User → Except Thrown User) :=
  [ assign (do (← user).text "id")
      fun u v => { u with username := v },
    assign (json.text "user_login")
      fun u v => { u with firstName := v },
    assign (.ok "")
      fun u v => { u with lastName := some v },
    assign (do (← user).text "id")
      fun u v => { u with email := v } ]

/- Decode an Apple or SMS login answer. -/
def fromJsonSMS (json : Json) : User :=
  let user := json.index "user"
  tryEach
    (assign user
        (fun u _ => { u with loggedIn := some true }) ::
      assign (json.index "wp_user_id")
        (fun u v => { u with id := v }) ::
      assign (json.text "user_login")
        (fun u v => { u with name := v }) ::
      assign (json.text "cookie")
        (fun u v => { u with cookie := v }) ::
      fromJsonSMSProfile json user)
    {}

/- `fromAuthUser` after cookie and id. -/
def fromAuthUserProfile
    (json : Json) :
    List (User → Except Thrown User) :=
  [ assign (json.text "displayname")
      fun u v => { u with name := v },
    assign (json.text "username")
      fun u v => { u with username := v },
    assign (json.text "firstname")
      fun u v => { u with firstName := v },
    assign (json.text "lastname")
      fun u v => { u with lastName := v },
    assign (json.text "email")
      fun u v => { u with email := v },
    assign (json.text "password")
      fun u v => { u with password := v },
    assign (json.text "avatar")
      fun u v => { u with picture := v },
    assign
      (do
        let role ← (← json.index "role").itemAt 0
        role.asString)
      fun u v => { u with role := v },
    assign (.ok true)
      fun u v => { u with loggedIn := some v } ]

/- Decode the record of an account with a cookie. -/
def fromAuthUser
    (json : Json)
    (cookie : Option String) : User :=
  tryEach
    (assign (.ok cookie)
        (fun u v => { u with cookie := v }) ::
      assign (json.index "id")
        (fun u v => { u with id := v }) ::
      fromAuthUserProfile json)
    {}

/- What is stored of a user. -/
def toJson (u : User) : Json :=
  .obj
    [ ("id", u.id),
      ("loggedIn", .ofBool? u.loggedIn),
      ("name", .ofString? u.name),
      ("firstName", .ofString? u.firstName),
      ("lastName", .ofString? u.lastName),
      ("username", .ofString? u.username),
      ("email", .ofString? u.email),
      ("password", .ofString? u.password),
      ("picture", .ofString? u.picture),
      ("cookie", .ofString? u.cookie) ]

/- Read a stored user back. -/
def fromLocalJson (json : Json) : User :=
  tryEach
    [ assign (do (← json.index "loggedIn").asBool)
        fun u v => { u with loggedIn := v },
      assign (json.index "id")
        fun u v => { u with id := v },
      assign (json.text "name")
        fun u v => { u with name := v },
      assign (json.text "cookie")
        fun u v => { u with cookie := v },
      assign (json.text "username")
        fun u v => { u with username := v },
      assign (json.text "firstName")
        fun u v => { u with firstName := v },
      assign (json.text "lastName")
        fun u v => { u with lastName := v },
      assign (json.text "email")
        fun u v => { u with email := v },
      assign (json.text "password")
        fun u v => { u with password := v },
      assign (json.text "picture")
        fun u v => { u with picture := v } ]
    {}

/- The user carries an id and a cookie. -/
def HasCredentials (u : User) : Prop :=
  u.id ≠ .null ∧ u.cookie ≠ none

instance (u : User) : Decidable u.HasCredentials := by
  unfold HasCredentials
  infer_instance

end User

end NewsCentral

------------------------------------------------------------
-- Which Answers Yield Credentials
------------------------------------------------------------

namespace NewsCentral

open Dart Json

namespace User

/- The part of a user that makes a session. -/
def credentials (u : User) : Json × Option String :=
  (u.id, u.cookie)

theorem hasCredentials_of_credentials_eq
    {u v : User}
    (hEq : u.credentials = v.credentials) :
    u.HasCredentials ↔ v.HasCredentials := by
  simp only [credentials, Prod.mk.injEq] at hEq
  simp [HasCredentials, hEq.1, hEq.2]

/- Profile fields are no credentials. -/
theorem hidden_fromJsonFBProfile
    (user : Except Thrown Json) :
    ∀ statement ∈ fromJsonFBProfile user,
      Hidden credentials statement := by
  intro statement hMem
  simp only [fromJsonFBProfile, List.mem_cons,
    List.not_mem_nil, or_false] at hMem
  rcases hMem with rfl | rfl | rfl | rfl <;>
    exact hidden_assign fun _ _ => rfl

theorem hidden_fromJsonSMSProfile
    (json : Json)
    (user : Except Thrown Json) :
    ∀ statement ∈ fromJsonSMSProfile json user,
      Hidden credentials statement := by
  intro statement hMem
  simp only [fromJsonSMSProfile, List.mem_cons,
    List.not_mem_nil, or_false] at hMem
  rcases hMem with rfl | rfl | rfl | rfl <;>
    exact hidden_assign fun _ _ => rfl

theorem hidden_fromAuthUserProfile
    (json : Json) :
    ∀ statement ∈ fromAuthUserProfile json,
      Hidden credentials statement := by
  intro statement hMem
  simp only [fromAuthUserProfile, List.mem_cons,
    List.not_mem_nil, or_false] at hMem
  rcases hMem with
      rfl | rfl | rfl | rfl | rfl | rfl | rfl | rfl | rfl <;>
    exact hidden_assign fun _ _ => rfl

/-
  What a Google or Facebook answer must hold so that
  decoding reaches the cookie and finds both credentials.
-/
def FBAnswerComplete
    (fields : List (String × Json)) : Prop :=
  field fields "wp_user_id" ≠ .null ∧
    (∃ cookie, field fields "cookie" = .str cookie) ∧
    ∃ user, field fields "user" = .obj user ∧
      (field user "name").isNullableText = true ∧
      (field user "user_login").isNullableText = true

/-
  What an Apple or SMS answer must hold.  The user object
  is read after the cookie only.
-/
def SMSAnswerComplete
    (fields : List (String × Json)) : Prop :=
  field fields "wp_user_id" ≠ .null ∧
    (∃ cookie, field fields "cookie" = .str cookie) ∧
    (field fields "user_login").isNullableText = true

/- A cookie that is no text is not a credential. -/
theorem not_exists_cookie_of_asString
    {j : Json}
    (hResult : ∀ cookie, j.asString ≠ .ok (some cookie)) :
    ¬ ∃ cookie, j = .str cookie := by
  rintro ⟨cookie, hEq⟩
  exact hResult cookie (asString_eq_some_iff.mpr hEq)

theorem fromJsonFB_hasCredentials_iff
    (fields : List (String × Json)) :
    (fromJsonFB (.obj fields)).HasCredentials ↔
      FBAnswerComplete fields := by
  unfold fromJsonFB FBAnswerComplete
  simp only [index, text_obj]
  cases hUser : field fields "user" with
  | obj user =>
      simp only [bind, Except.bind, text_obj,
        tryEach_assign_ok]
      cases hName : (field user "name").asString with
      | error e =>
          have hNot := isNullableText_of_error hName
          simp [HasCredentials, hNot]
      | ok name =>
          cases hLogin :
              (field user "user_login").asString with
          | error e =>
              have hNot := isNullableText_of_error hLogin
              simp [HasCredentials, hNot]
          | ok login =>
              cases hCookie :
                  (field fields "cookie").asString with
              | error e =>
                  have hNot := not_exists_cookie_of_asString
                    (j := field fields "cookie")
                    (by simp [hCookie])
                  simp [HasCredentials, hNot]
              | ok cookie =>
                  simp only [tryEach_assign_ok]
                  rw [hasCredentials_of_credentials_eq
                    (tryEach_view
                      (hidden_fromJsonFBProfile _) _)]
                  have hNameText := isNullableText_of_ok hName
                  have hLoginText :=
                    isNullableText_of_ok hLogin
                  cases cookie with
                  | none =>
                      have hNot :=
                        not_exists_cookie_of_asString
                          (j := field fields "cookie")
                          (by simp [hCookie])
                      simp [HasCredentials, hNot]
                  | some cookie =>
                      have hText :=
                        asString_eq_some_iff.mp hCookie
                      simp [HasCredentials, hNameText,
                        hLoginText, hText]
  | _ =>
      simp [bind, Except.bind, Json.text, index,
        HasCredentials]

theorem fromJsonSMS_hasCredentials_iff
    (fields : List (String × Json)) :
    (fromJsonSMS (.obj fields)).HasCredentials ↔
      SMSAnswerComplete fields := by
  unfold fromJsonSMS SMSAnswerComplete
  simp only [index, text_obj, tryEach_assign_ok]
  cases hLogin : (field fields "user_login").asString with
  | error e =>
      have hNot := isNullableText_of_error hLogin
      simp [HasCredentials, hNot]
  | ok login =>
      have hLoginText := isNullableText_of_ok hLogin
      cases hCookie : (field fields "cookie").asString with
      | error e =>
          have hNot := not_exists_cookie_of_asString
            (j := field fields "cookie")
            (by simp [hCookie])
          simp [HasCredentials, hNot]
      | ok cookie =>
          simp only [tryEach_assign_ok]
          rw [hasCredentials_of_credentials_eq
            (tryEach_view
              (hidden_fromJsonSMSProfile _ _) _)]
          cases cookie with
          | none =>
              have hNot := not_exists_cookie_of_asString
                (j := field fields "cookie")
                (by simp [hCookie])
              simp [HasCredentials, hNot]
          | some cookie =>
              have hText := asString_eq_some_iff.mp hCookie
              simp [HasCredentials, hLoginText, hText]

theorem fromAuthUser_hasCredentials_iff
    (json : Json)
    (cookie : Option String) :
    (fromAuthUser json cookie).HasCredentials ↔
      (∃ fields, json = .obj fields ∧
        field fields "id" ≠ .null) ∧
        cookie ≠ none := by
  unfold fromAuthUser
  rw [tryEach_assign_ok]
  cases json with
  | obj fields =>
      simp only [index, tryEach_assign_ok]
      rw [hasCredentials_of_credentials_eq
        (tryEach_view (hidden_fromAuthUserProfile _) _)]
      simp [HasCredentials]
  | _ => simp [index, HasCredentials]

end User

end NewsCentral
