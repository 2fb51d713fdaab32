import NewsCentral.Dart.Members
import NewsCentral.Services.WordPress

/-
  What the login methods of the service accept.

  A method returns a user only along one path through its
  requests; the equations below say which answers lie on
  that path and which user they yield.

  Key definitions include:
    * `NewsCentral.WordPress.Answers`
    * `NewsCentral.WordPress.Accepted`

  Key theorems include:
    * `NewsCentral.WordPress.socialLogin_eq_ok_iff`
    * `NewsCentral.WordPress.loginApple_eq_ok_iff`
    * `NewsCentral.WordPress.loginSMS_eq_ok_iff`
    * `NewsCentral.WordPress.login_eq_ok_iff`
    * `NewsCentral.WordPress.createUser_eq_ok_iff`
-/

------------------------------------------------------------
-- Answers
------------------------------------------------------------

namespace NewsCentral

open Dart Json

namespace WordPress

/- The request is answered with a body that is JSON. -/
def Answers
    (http : Http)
    (request : Request)
    (body : Json) : Prop :=
  ∃ response, http request = .ok response ∧
    response.decoded = some body

/- The request is answered so, with status 200. -/
def Accepted
    (http : Http)
    (request : Request)
    (body : Json) : Prop :=
  ∃ response, http request = .ok response ∧
    response.statusCode = 200 ∧
    response.decoded = some body

theorem throw_ne_ok
    {α : Type}
    {e : Thrown}
    {a : α} :
    (throw e : Except Thrown α) ≠ .ok a := by
  intro hEq
  cases hEq

theorem jsonDecode_eq_ok_iff
    {response : Response}
    {body : Json} :
    response.jsonDecode = .ok body ↔
      response.decoded = some body := by
  unfold Response.jsonDecode
  cases response.decoded with
  | none => simp
  | some j => simp

/- Only a map has text keys. -/
theorem index_eq_ok_iff
    {j v : Json}
    {key : String} :
    j.index key = .ok v ↔
      ∃ fields, j = .obj fields ∧ v = field fields key := by
  cases j with
  | obj fields =>
      simp only [index, Except.ok.injEq, obj.injEq]
      constructor
      · rintro rfl
        exact ⟨fields, rfl, rfl⟩
      · rintro ⟨_, rfl, rfl⟩
        rfl
  | _ => simp [index]

/- A value that is not null. -/
theorem isNotNull_iff
    {j : Json} :
    j.isNotNull = true ↔ j ≠ .null := by
  cases j <;> simp [isNotNull]

/- The two values a `Map` variable accepts. -/
theorem asMap_eq_ok_iff
    {j v : Json} :
    j.asMap = .ok v ↔
      v = j ∧ (j = .null ∨ ∃ fields, j = .obj fields) := by
  cases j <;> simp [asMap, eq_comm]

/- Setting a key leaves the others alone. -/
theorem field_setIndex_of_ne
    {fields : List (String × Json)}
    {key other : String}
    {value : Json}
    (hNe : other ≠ key) :
    field
        ((key, value) ::
          fields.filter fun entry => entry.1 ≠ key)
        other =
      field fields other := by
  have hKey : (other == key) = false := by
    simpa using hNe
  have hRest :
      (fields.filter fun entry => entry.1 ≠ key).lookup
          other =
        fields.lookup other := by
    induction fields with
    | nil => rfl
    | cons entry rest ih =>
        rcases entry with ⟨k, v⟩
        by_cases hEq : k = key
        · subst hEq
          have hSkip : (other == k) = false := by
            simpa using hNe
          simp only [ne_eq, decide_not, List.lookup_cons,
            hSkip, List.filter_cons, decide_true,
            Bool.not_true]
          simpa using ih
        · simp only [ne_eq, decide_not, List.filter_cons,
            hEq, decide_false, Bool.not_false, if_true,
            List.lookup_cons]
          cases other == k with
          | true => rfl
          | false => simpa using ih
  unfold field
  rw [List.lookup_cons, hKey, hRest]

end WordPress

end NewsCentral

------------------------------------------------------------
-- Accepted Answers
------------------------------------------------------------

namespace NewsCentral

open Dart Json

namespace WordPress

variable {wp : WordPress} {http : Http}

/- An answer with id and cookie is decoded. -/
theorem socialLogin_eq_ok_iff
    {path errorKey : String}
    {token : Option String}
    {user : User} :
    wp.socialLogin http path errorKey token = .ok user ↔
      ∃ fields,
        Answers http (wp.socialRequest path token)
          (.obj fields) ∧
        field fields "wp_user_id" ≠ .null ∧
        field fields "cookie" ≠ .null ∧
        user = User.fromJsonFB (.obj fields) := by
  unfold socialLogin Answers
  simp only [bind_eq_ok_iff, jsonDecode_eq_ok_iff,
    index_eq_ok_iff]
  constructor
  · rintro ⟨response, hHttp, body, hBody, id,
      ⟨fields, rfl, rfl⟩, cookie, ⟨_, hSame, rfl⟩, hTest⟩
    cases hSame
    split at hTest
    next hBoth =>
      simp only [Bool.and_eq_true, isNotNull_iff] at hBoth
      cases hTest
      exact ⟨fields, ⟨response, hHttp, hBody⟩, hBoth.1,
        hBoth.2, rfl⟩
    next =>
      simp [bind_eq_ok_iff, throw_ne_ok] at hTest
  · rintro ⟨fields, ⟨response, hHttp, hBody⟩, hId, hCookie,
      rfl⟩
    refine ⟨response, hHttp, _, hBody, _, ⟨fields, rfl, rfl⟩,
      _, ⟨fields, rfl, rfl⟩, ?_⟩
    have hBoth :
        ((field fields "wp_user_id").isNotNull &&
          (field fields "cookie").isNotNull) = true := by
      simp [isNotNull_iff, hId, hCookie]
    rw [if_pos hBoth]
    rfl

/- Every answer that is a map or null is decoded. -/
theorem decodeSMS_eq_ok_iff
    {request : Request}
    {user : User} :
    (do
        let response ← http request
        let body ← response.jsonDecode
        return User.fromJsonSMS (← body.asMap)) =
        (.ok user : Except Thrown User) ↔
      ∃ body, Answers http request body ∧
        (body = .null ∨ ∃ fields, body = .obj fields) ∧
        user = User.fromJsonSMS body := by
  unfold Answers
  simp only [bind_eq_ok_iff, jsonDecode_eq_ok_iff,
    asMap_eq_ok_iff]
  constructor
  · rintro ⟨response, hHttp, body, hBody, _, ⟨rfl, hMap⟩,
      hUser⟩
    cases hUser
    exact ⟨_, ⟨response, hHttp, hBody⟩, hMap, rfl⟩
  · rintro ⟨body, ⟨response, hHttp, hBody⟩, hMap, rfl⟩
    exact ⟨response, hHttp, body, hBody, body, ⟨rfl, hMap⟩,
      rfl⟩

theorem loginSMS_eq_ok_iff
    {phone : Option String}
    {user : User} :
    wp.loginSMS http phone = .ok user ↔
      ∃ body, Answers http (wp.smsRequest phone) body ∧
        (body = .null ∨ ∃ fields, body = .obj fields) ∧
        user = User.fromJsonSMS body :=
  decodeSMS_eq_ok_iff

theorem loginApple_eq_ok_iff
    {email fullName : Option String}
    {user : User} :
    wp.loginApple http email fullName = .ok user ↔
      ∃ address body, email = some address ∧
        Answers http (wp.appleRequest address fullName)
          body ∧
        (body = .null ∨ ∃ fields, body = .obj fields) ∧
        user = User.fromJsonSMS body := by
  unfold loginApple
  cases email with
  | none => simp [throw_ne_ok]
  | some address =>
      refine decodeSMS_eq_ok_iff.trans ?_
      simp

/- A user object is decoded when the cookie is a text. -/
theorem getUserInfo_eq_ok_iff
    {cookie : Json}
    {password : Option String}
    {user : User} :
    wp.getUserInfo http cookie password = .ok user ↔
      ∃ fields account text,
        Accepted http (wp.userInfoRequest cookie)
          (.obj fields) ∧
        field fields "user" = .obj account ∧
        cookie.asString = .ok text ∧
        user =
          User.fromAuthUser
            (.obj (("password", .ofString? password) ::
              account.filter fun entry =>
                entry.1 ≠ "password"))
            text := by
  unfold getUserInfo Accepted
  simp only [bind_eq_ok_iff, jsonDecode_eq_ok_iff]
  constructor
  · rintro ⟨response, hHttp, body, hBody, hRest⟩
    split at hRest
    next hStatus =>
      simp only [bind_eq_ok_iff, index_eq_ok_iff] at hRest
      rcases hRest with ⟨value, ⟨fields, rfl, rfl⟩, hRest⟩
      split at hRest
      next =>
        simp only [bind_eq_ok_iff] at hRest
        rcases hRest with ⟨changed, hSet, text, hText, hUser⟩
        cases hAccount : field fields "user" with
        | obj account =>
            rw [hAccount] at hSet
            cases hSet
            cases hUser
            exact ⟨fields, account, text,
              ⟨response, hHttp, hStatus, hBody⟩, hAccount,
              hText, rfl⟩
        | _ => simp [hAccount, setIndex] at hSet
      next =>
        simp [bind_eq_ok_iff, throw_ne_ok] at hRest
    next =>
      simp [bind_eq_ok_iff, throw_ne_ok] at hRest
  · rintro ⟨fields, account, text,
      ⟨response, hHttp, hStatus, hBody⟩, hAccount, hText, rfl⟩
    refine ⟨response, hHttp, _, hBody, ?_⟩
    simp [hStatus, hAccount, hText, index, setIndex,
      isNotNull, bind, Except.bind, pure, Except.pure]

/- The account of a text cookie that is not blank is read. -/
theorem login_eq_ok_iff
    {username password : Option String}
    {user : User} :
    wp.login http username password = .ok user ↔
      ∃ fields cookie,
        Accepted http (wp.loginRequest username password)
          (.obj fields) ∧
        field fields "cookie" = .str cookie ∧
        isNotBlank (some cookie) = true ∧
        wp.getUserInfo http (.str cookie) password =
          .ok user := by
  unfold login Accepted
  simp only [bind_eq_ok_iff, jsonDecode_eq_ok_iff]
  constructor
  · rintro ⟨response, hHttp, body, hBody, hRest⟩
    split at hRest
    next hStatus =>
      simp only [bind_eq_ok_iff, index_eq_ok_iff] at hRest
      rcases hRest with
        ⟨value, ⟨fields, rfl, rfl⟩, text, hText, hRest⟩
      split at hRest
      next hBlank =>
        cases text with
        | none => simp [isNotBlank] at hBlank
        | some cookie =>
            have hCookie := asString_eq_some_iff.mp hText
            rw [hCookie] at hRest
            exact ⟨fields, cookie,
              ⟨response, hHttp, hStatus, hBody⟩, hCookie,
              hBlank, hRest⟩
      next => simp [throw_ne_ok] at hRest
    next => simp [throw_ne_ok] at hRest
  · rintro ⟨fields, cookie,
      ⟨response, hHttp, hStatus, hBody⟩, hCookie, hBlank,
      hUser⟩
    refine ⟨response, hHttp, _, hBody, ?_⟩
    simpa [hStatus, hCookie, hBlank, index, asString, bind,
      Except.bind] using hUser

/- A registered account is read with whatever cookie. -/
theorem createUser_eq_ok_iff
    {firstName lastName username password : Option String}
    {user : User} :
    wp.createUser http firstName lastName username password =
        .ok user ↔
      ∃ name fields,
        niceName firstName lastName = .ok name ∧
        Accepted http
          (wp.createUserRequest name username password)
          (.obj fields) ∧
        field fields "message" = .null ∧
        wp.getUserInfo http (field fields "cookie") password =
          .ok user := by
  unfold createUser Accepted
  simp only [bind_eq_ok_iff, jsonDecode_eq_ok_iff]
  constructor
  · rintro ⟨name, hName, response, hHttp, body, hBody, hRest⟩
    split at hRest
    next hStatus =>
      simp only [bind_eq_ok_iff, index_eq_ok_iff] at hRest
      rcases hRest with ⟨value, ⟨fields, rfl, rfl⟩, hRest⟩
      split at hRest
      next => simp [throw_ne_ok] at hRest
      next hMessage =>
        simp only [bind_eq_ok_iff, index_eq_ok_iff] at hRest
        rcases hRest with ⟨_, ⟨_, hSame, rfl⟩, hUser⟩
        cases hSame
        rw [isNotNull_iff, not_not] at hMessage
        exact ⟨name, fields, hName,
          ⟨response, hHttp, hStatus, hBody⟩, hMessage, hUser⟩
    next =>
      simp only [bind_eq_ok_iff] at hRest
      rcases hRest with ⟨_, _, hRest⟩
      split at hRest <;> simp [throw_ne_ok] at hRest
  · rintro ⟨name, fields, hName,
      ⟨response, hHttp, hStatus, hBody⟩, hMessage, hUser⟩
    refine ⟨name, hName, response, hHttp, _, hBody, ?_⟩
    simpa [hStatus, hMessage, index, isNotNull, bind,
      Except.bind] using hUser

end WordPress

end NewsCentral
