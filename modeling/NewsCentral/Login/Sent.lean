import NewsCentral.Dart.UriQuery
import NewsCentral.Login.Ends

/-
  What the requests of a login carry: the methods of
  `lib/services/wordpress.dart` that splice values into a
  URL, and the texts of a password login in
  `lib/screens/login.dart`.

  The values are spliced as they are.  A server decodes the
  query that `Uri.parse` has written anew.

  Key definitions include:
    * `NewsCentral.AuthCall`
    * `NewsCentral.AuthCall.sent`
    * `NewsCentral.AuthCall.entered`
    * `NewsCentral.LoginScreen.BelongsTo`

  Key theorems include:
    * `NewsCentral.AuthCall.sent_eq_entered_iff`
    * `NewsCentral.LoginScreen.belongsTo_of_run`
    * `NewsCentral.sendsEntered_iff`
-/

------------------------------------------------------------
-- Requests
------------------------------------------------------------

namespace NewsCentral

open Dart

/- The calls with values of a user or an identity provider. -/
inductive AuthCall where
  | getJwtAuth (username password : String)
  | loginApple (email fullName : String)
  | loginSMS (token : String)
  | loginGoogle (token : String)
  | loginFacebook (token : String)

namespace AuthCall

def request : AuthCall → Request
  | .getJwtAuth username password =>
      newsService.jwtRequest username password
  | .loginApple email fullName =>
      newsService.appleRequest email (some fullName)
  | .loginSMS token => newsService.smsRequest (some token)
  | .loginGoogle token =>
      newsService.socialRequest "google_login" (some token)
  | .loginFacebook token =>
      newsService.socialRequest "fb_connect" (some token)

/- The values that a call is given. -/
def values : AuthCall → List String
  | .getJwtAuth username password => [username, password]
  | .loginApple email fullName => [email, fullName]
  | .loginSMS token => [token]
  | .loginGoogle token => [token]
  | .loginFacebook token => [token]

/- The site is not secure, which the plugin is told. -/
def insecure : String × String :=
  ("insecure", "cool")

/- The parameters that a call is meant to send. -/
def entered : AuthCall → List (String × String)
  | .getJwtAuth username password =>
      [("username", username), ("password", password)]
  | .loginApple email fullName =>
      [ ("email", email),
        ("display_name", fullName),
        ("user_name",
          String.ofList (email.toList.takeWhile (· ≠ '@'))),
        insecure ]
  | .loginSMS token => [("phone", token), insecure]
  | .loginGoogle token =>
      [ ("second", WordPress.cookieLifeTime),
        ("access_token", token),
        insecure ]
  | .loginFacebook token =>
      [ ("second", WordPress.cookieLifeTime),
        ("access_token", token),
        insecure ]

/- The parameters that the server decodes. -/
def sent (call : AuthCall) : Option (List (String × String)) :=
  (Uri.decodeForm (Uri.query call.request.url.toList)).map
    fun entries =>
      entries.map fun entry =>
        (String.ofList entry.1, String.ofList entry.2)

/- Every value comes out of a query as it was put in. -/
def IsCarried (call : AuthCall) : Prop :=
  ∀ value ∈ call.values, Uri.IsCarried value.toList

end AuthCall

end NewsCentral

------------------------------------------------------------
-- Values In The Requests
------------------------------------------------------------

namespace NewsCentral

open Dart Uri

namespace AuthCall

variable {call : AuthCall}

def toEntry (param : String × String) : Entry :=
  (param.1.toList, param.2.toList)

theorem map_ofEntry_iff
    {entries : List Entry}
    {params : List (String × String)} :
    entries.map (fun entry =>
        (String.ofList entry.1, String.ofList entry.2)) =
        params ↔
      entries = params.map toEntry := by
  constructor
  · rintro rfl
    rw [List.map_map]
    refine (List.map_id' entries).symm.trans ?_
    refine List.map_congr_left fun entry _ => ?_
    simp [toEntry, String.toList_ofList]
  · rintro rfl
    rw [List.map_map]
    refine (List.map_congr_left fun param _ => ?_).trans
      (List.map_id' params)
    simp [toEntry, String.ofList_toList]

/- A text without special characters. -/
def IsPlain (text : List Char) : Prop :=
  '&' ∉ text ∧ '#' ∉ text ∧ '+' ∉ text ∧ '%' ∉ text

theorem IsPlain.isCarried
    {text : List Char}
    (hPlain : IsPlain text) :
    Uri.IsCarried text :=
  ⟨hPlain.1, hPlain.2.1,
    isVerbatim_of_plain hPlain.2.2.1 hPlain.2.2.2⟩

/- The part of an email in front of "@" is carried with it. -/
theorem isCarried_takeWhile
    {text : List Char}
    (hCarried : Uri.IsCarried text) :
    Uri.IsCarried (text.takeWhile (· ≠ '@')) := by
  have hSub := (List.takeWhile_prefix
    (l := text) fun c => decide (c ≠ '@')).subset
  refine
    ⟨fun hMem => hCarried.noAmp (hSub hMem),
      fun hMem => hCarried.noHash (hSub hMem),
      fun hMem => hCarried.verbatim.noPlus (hSub hMem), ?_⟩
  intro byte hEscape
  by_cases hAt : '@' ∈ text
  · rcases List.eq_append_cons_of_mem hAt with
      ⟨a, b, rfl, hNot⟩
    rw [takeWhile_of_split hNot] at hEscape
    refine hCarried.verbatim.noEscape byte ?_
    rw [tokens_append_separator ⟨by decide, by decide⟩]
    exact List.mem_append_left _ hEscape
  · rw [takeWhile_of_not_mem hAt] at hEscape
    exact hCarried.verbatim.noEscape byte hEscape

/- A name without special characters. -/
def isPlainName (name : List Char) : Bool :=
  ['&', '#', '+', '%', '='].all fun c => !name.contains c

theorem isName_of_plain
    {name : List Char}
    (hPlain : isPlainName name = true) :
    IsName name := by
  simp only [isPlainName, List.all_cons, List.all_nil,
    Bool.and_eq_true, Bool.not_eq_true',
    List.contains_eq_mem, decide_eq_false_iff_not] at hPlain
  rcases hPlain with ⟨hAmp, hHash, hPlus, hPercent, hEquals, _⟩
  exact
    ⟨IsPlain.isCarried ⟨hAmp, hHash, hPlus, hPercent⟩,
      hEquals⟩

/- A request whose URL splices what is entered. -/
theorem sent_iff_of_url
    {first : String × String}
    {rest : List (String × String)}
    (front : String)
    (names : List String)
    (hEntered : call.entered = first :: rest)
    (hUrl :
      call.request.url.toList =
        front.toList ++
          '?' :: splice (toEntry first) (rest.map toEntry))
    (hFront : '?' ∉ front.toList ∧ '#' ∉ front.toList)
    (hCall : call.entered.map Prod.fst = names)
    (hNames :
      names.all (fun name => isPlainName name.toList) =
        true) :
    call.sent = some call.entered ↔
      ∀ param ∈ call.entered, Uri.IsCarried param.2.toList := by
  have hEntries :
      call.entered.map toEntry =
        toEntry first :: rest.map toEntry := by
    rw [hEntered]
    rfl
  have hPlain :
      ∀ entry ∈ toEntry first :: rest.map toEntry,
        IsName entry.1 := by
    intro entry hMem
    rw [← hEntries, List.mem_map] at hMem
    rcases hMem with ⟨param, hParam, rfl⟩
    refine isName_of_plain ?_
    rw [← hCall, List.all_eq_true] at hNames
    exact hNames param.1 (List.mem_map_of_mem hParam)
  have hSpliced := decodeForm_splice_iff hPlain
  rw [← hEntries, List.forall_mem_map] at hSpliced
  change _ = _ ↔ ∀ param ∈ call.entered,
    Uri.IsCarried (toEntry param).2
  rw [← hSpliced, sent, query, hUrl,
    rawQuery_append hFront.1 hFront.2, Option.map_eq_some_iff]
  simp only [map_ofEntry_iff, exists_eq_right]

/- What is spliced into the URL of a request. -/
theorem toList_splice
    (front : String)
    (first : String × String)
    (rest : List (String × String)) :
    front.toList ++
        '?' :: splice (toEntry first) (rest.map toEntry) =
      (front ++ "?" ++ first.1 ++ "=" ++ first.2).toList ++
        rest.flatMap fun param =>
          ("&" ++ param.1 ++ "=" ++ param.2).toList := by
  simp only [splice, Entry.text, toEntry, String.toList_append,
    List.flatMap_map, List.append_assoc]
  rfl

theorem isCarried_insecure :
    Uri.IsCarried insecure.2.toList :=
  IsPlain.isCarried ⟨by decide, by decide, by decide, by decide⟩

theorem isCarried_cookieLifeTime :
    Uri.IsCarried WordPress.cookieLifeTime.toList :=
  IsPlain.isCarried ⟨by decide, by decide, by decide, by decide⟩

theorem interpolate_isSecure :
    interpolate newsService.isSecure = "&insecure=cool" := by
  decide +kernel

/- The address of a method of the user plugin. -/
theorem flutterUser_eq
    (path : String) :
    newsService.flutterUser path =
      "http://newscentral.africa/wp-json/api/flutter_user/" ++
        path := by
  rw [WordPress.flutterUser, WordPress.interpolate_url,
    ← String.toList_inj, String.toList_append,
    String.toList_append, String.toList_append]
  rfl

/- A text in front of the query of a URL. -/
def IsFront (text : List Char) : Prop :=
  '?' ∉ text ∧ '#' ∉ text

theorem IsFront.append
    {s t : String}
    (hLeft : IsFront s.toList)
    (hRight : IsFront t.toList) :
    IsFront (s ++ t).toList := by
  simp only [IsFront, String.toList_append, List.mem_append,
    not_or]
  exact ⟨⟨hLeft.1, hRight.1⟩, hLeft.2, hRight.2⟩

theorem isFront_flutterUser :
    IsFront
      (String.toList
        "http://newscentral.africa/wp-json/api/flutter_user/") :=
  ⟨by decide, by decide⟩

/- Both social logins send a token alike. -/
theorem sent_iff_of_social
    {path token : String}
    (hRequest :
      call.request =
        newsService.socialRequest path (some token))
    (hEntered :
      call.entered =
        [ ("second", WordPress.cookieLifeTime),
          ("access_token", token),
          insecure ])
    (hValues : call.values = [token])
    (hPath : IsFront path.toList) :
    call.sent = some call.entered ↔ call.IsCarried := by
  rw [sent_iff_of_url
    ("http://newscentral.africa/wp-json/api/flutter_user/" ++
      path ++ "/")
    ["second", "access_token", "insecure"] hEntered ?_
    ((isFront_flutterUser.append hPath).append
      ⟨by decide, by decide⟩)
    (by rw [hEntered]; rfl) (by decide)]
  · simp only [IsCarried, hValues, hEntered,
      List.forall_mem_cons]
    constructor
    · rintro ⟨_, hToken, _⟩
      exact ⟨hToken, by simp⟩
    · rintro ⟨hToken, _⟩
      exact
        ⟨isCarried_cookieLifeTime, hToken,
          isCarried_insecure, by simp⟩
  · rw [toList_splice, hRequest]
    simp [WordPress.socialRequest, flutterUser_eq,
      interpolate_isSecure, insecure]
    rfl

/-
  The parameters that the server decodes are the entered
  ones exactly if every value is carried.
-/
theorem sent_eq_entered_iff
    (call : AuthCall) :
    call.sent = some call.entered ↔ call.IsCarried := by
  cases call with
  | getJwtAuth username password =>
      rw [sent_iff_of_url
        "http://newscentral.africa/wp-json/jwt-auth/v1/token"
        ["username", "password"] rfl ?_ (by decide) rfl
        (by decide)]
      · simp [IsCarried, values, entered]
      · rw [toList_splice]
        simp [request, WordPress.jwtRequest,
          WordPress.interpolate_url]
  | loginApple email fullName =>
      rw [sent_iff_of_url
        ("http://newscentral.africa/wp-json/api/flutter_user/" ++
          "apple_login")
        ["email", "display_name", "user_name", "insecure"] rfl
        ?_
        (isFront_flutterUser.append ⟨by decide, by decide⟩)
        rfl (by decide)]
      · simp only [IsCarried, values, entered,
          List.forall_mem_cons, String.toList_ofList]
        constructor
        · rintro ⟨hEmail, hName, _⟩
          exact ⟨hEmail, hName, by simp⟩
        · rintro ⟨hEmail, hName, _⟩
          exact
            ⟨hEmail, hName, isCarried_takeWhile hEmail,
              isCarried_insecure, by simp⟩
      · rw [toList_splice]
        simp [request, WordPress.appleRequest,
          flutterUser_eq,
          interpolate_isSecure, insecure]
        rfl
  | loginSMS token =>
      rw [sent_iff_of_url
        ("http://newscentral.africa/wp-json/api/flutter_user/" ++
          "firebase_sms_login")
        ["phone", "insecure"] rfl ?_
        (isFront_flutterUser.append ⟨by decide, by decide⟩)
        rfl (by decide)]
      · simp only [IsCarried, values, entered,
          List.forall_mem_cons]
        constructor
        · rintro ⟨hToken, _⟩
          exact ⟨hToken, by simp⟩
        · rintro ⟨hToken, _⟩
          exact ⟨hToken, isCarried_insecure, by simp⟩
      · rw [toList_splice]
        simp [request, WordPress.smsRequest, flutterUser_eq,
          interpolate_isSecure, insecure]
        rfl
  | loginGoogle token =>
      exact
        sent_iff_of_social rfl rfl rfl ⟨by decide, by decide⟩
  | loginFacebook token =>
      exact
        sent_iff_of_social rfl rfl rfl ⟨by decide, by decide⟩

end AuthCall

end NewsCentral

------------------------------------------------------------
-- Texts Of A Password Login
------------------------------------------------------------

namespace NewsCentral

open Dart EventLoop

namespace LoginScreen

variable {wp : WordPress} {t : LoginScreen}
variable {username password : String}
variable {typedUsername typedPassword : String}

/-
  The points of one password login.  Up to its success they
  carry the login; the posting token is asked for with the
  texts that are typed by then.
-/
def BelongsTo (login : Session.Login) : Point → Prop
  | .playAnimation other => other = login
  | .session (.service other _) => other = login
  | .session (.savePrefs other _) => other = login
  | .session (.saveFlag other _) => other = login
  | .session (.saveReady other _) => other = login
  | .session (.saveItem other _) => other = login
  | .session (.saved other _) => other = login
  | .session (.jwtAuth _ name word _) =>
      ∃ username password,
        login = .login username password name word
  | .session (.jwtReady ..) => True
  | .session .jwtItem => True
  | .signInWithEmail .. => True
  | .createAccount .. => True
  | .signInWithNew .. => True
  | .stopAnimation => True
  | .stopToWelcome => True
  | _ => False

variable {login : Session.Login}

theorem belongsTo_of_accepted
    {point : Session.Point}
    (hAccepted : accepted point = some login) :
    BelongsTo login (.session point) := by
  cases point with
  | savePrefs | saveFlag | saveReady | saveItem | saved =>
      exact Option.some.inj hAccepted
  | _ => cases hAccepted

/- Saving a user goes on with the login. -/
theorem belongsTo_saving
    {point : Session.Point}
    {w : Session.World}
    {s : Session}
    (hAccepted : accepted point = some login)
    (hSaving : ∀ user, point ≠ .saved login user) :
    ∀ next ∈ (Session.resume wp point (calm w) s).2,
      BelongsTo login (.session next) := by
  rcases resume_saving wp w s hAccepted hSaving with
    ⟨next, hNext, hPoints, _⟩
  rw [hPoints, List.forall_mem_singleton]
  exact belongsTo_of_accepted hNext

/- A turn of the session leaves points of the login. -/
theorem belongsTo_session
    {point : Session.Point}
    {w : Session.World}
    {s : Session}
    (hLogin :
      login =
        .login username password typedUsername typedPassword)
    (hPoint : BelongsTo login (.session point)) :
    ∀ next ∈ (Session.resume wp point (calm w) s).2,
      BelongsTo login (.session next) := by
  cases point with
  | service other token =>
      cases hPoint
      simp only [Session.resume]
      split <;> simp [BelongsTo]
  | savePrefs other user | saveFlag other user
  | saveReady other user | saveItem other user =>
      cases hPoint
      exact belongsTo_saving rfl (by simp)
  | saved other user =>
      cases hPoint
      subst hLogin
      simp [Session.resume, Session.succeedLogin, BelongsTo]
  | jwtAuth user name word own =>
      simp only [Session.resume]
      split <;> simp [BelongsTo]
  | jwtReady user token =>
      simp only [Session.resume]
      split <;> simp [BelongsTo]
  | jwtItem => simp [Session.resume]
  | _ => exact hPoint.elim

theorem belongsTo_resumeSession
    {point : Session.Point}
    {w : Session.World}
    (hLogin :
      login =
        .login username password typedUsername typedPassword)
    (hPoint : BelongsTo login (.session point)) :
    ∀ next ∈ (resumeSession wp point w t).2,
      BelongsTo login next := by
  intro next hNext
  simp only [resumeSession, List.mem_append, List.mem_map]
    at hNext
  rcases hNext with ⟨own, hOwn, rfl⟩ | hCalled
  · exact belongsTo_session hLogin hPoint own hOwn
  · rw [(callBacks_callsBack _ _ _).points next hCalled]
    trivial

/- A turn of the screen leaves points of the login. -/
theorem belongsTo_resume
    {point : Point}
    {answer : Answer}
    (hLogin :
      login =
        .login username password typedUsername typedPassword)
    (hPoint : BelongsTo login point) :
    ∀ next ∈ (resume wp point answer t).2,
      BelongsTo login next := by
  cases point with
  | session point =>
      have hSession :=
        @belongsTo_resumeSession wp t username password
          typedUsername typedPassword login point
          answer.toWorld hLogin hPoint
      cases point with
      | jwtAuth user name word own =>
          simp only [resume, afterToken]
          split
          next =>
            intro next hNext
            rw [List.mem_append, List.mem_singleton] at hNext
            rcases hNext with hOld | rfl
            · exact hSession next hOld
            · trivial
          next => exact hSession
      | _ => exact hSession
  | playAnimation other =>
      cases hPoint
      subst hLogin
      simp [resume, callModel, Session.startLogin, BelongsTo]
  | signInWithEmail email word =>
      simp only [resume]
      split
      next => simp [BelongsTo]
      next => simp
      next => split <;> simp [BelongsTo]
  | createAccount email word =>
      simp only [resume]
      split <;> simp [BelongsTo]
  | signInWithNew email word => simp [resume]
  | stopAnimation => simp [resume]
  | stopToWelcome => simp [resume]
  | _ => exact hPoint.elim

/- All that is pending belongs to the login. -/
theorem belongsTo_of_run
    {s : Session}
    {es : List (Event Empty Answer)}
    {q : Pool LoginScreen Point}
    (hRun :
      (program wp).system.Run System.anyStep
        (attempted
          (.login username password typedUsername
            typedPassword) s)
        es q) :
    ∀ point ∈ q.pending,
      BelongsTo
        (.login (trim username) (trim password) typedUsername
          typedPassword) point := by
  refine Program.run_invariant
    (I := fun _ _ pending =>
      ∀ point ∈ pending,
        BelongsTo
          (.login (trim username) (trim password)
            typedUsername typedPassword) point)
    (Program.run_when_true hRun) ?_ ?_ ?_
  · simp [attempted, start, BelongsTo]
  · intro _ t pending op
    exact op.elim
  · intro _ t earlier point later answer hAll _ _ next hNext
    rw [List.mem_append] at hNext
    rcases hNext with hOld | hNew
    · exact hAll next (mem_of_mem_rest hOld)
    · exact belongsTo_resume rfl (hAll point (by simp))
        next hNew

end LoginScreen

end NewsCentral

------------------------------------------------------------
-- What Is Sent
------------------------------------------------------------

namespace NewsCentral

open Dart EventLoop LoginScreen

/-
  A request sends what was entered exactly if every value is
  carried.  A password login authenticates with the trimmed
  texts, and asks for the posting token with them exactly if
  these are the texts that are typed by then.
-/
theorem sendsEntered_iff
    {username password : String}
    {typedUsername typedPassword : String}
    {s : Session}
    {es : List (Event Empty Answer)}
    {q : Pool LoginScreen LoginScreen.Point}
    (hRun :
      (LoginScreen.program newsService).system.Run
        System.anyStep
        (attempted
          (.login username password typedUsername
            typedPassword) s)
        es q) :
    (∀ call : AuthCall,
        call.sent = some call.entered ↔ call.IsCarried) ∧
      (∀ login token,
        .session (.service login token) ∈ q.pending →
          login =
            .login (trim username) (trim password)
              typedUsername typedPassword) ∧
      ∀ user name word own,
        .session (.jwtAuth user name word own) ∈ q.pending →
          ((name = trim username ∧ word = trim password) ↔
            typedUsername = trim username ∧
              typedPassword = trim password) := by
  refine ⟨AuthCall.sent_eq_entered_iff, ?_, ?_⟩
  · intro login token hMem
    exact belongsTo_of_run hRun _ hMem
  · intro user name word own hMem
    rcases belongsTo_of_run hRun _ hMem with
      ⟨_, _, hLogin⟩
    cases hLogin
    exact Iff.rfl

/- An account whose password login succeeds. -/
def account : Answer :=
  { http := fun _ => .ok
      { statusCode := 200
        decoded :=
          some (.obj
            [ ("cookie", .str "cookie"),
              ("user", .obj [("id", .int 1)]) ]) } }

/- A login whose texts have no blanks around them. -/
theorem sendsEntered_trimmed :
    ∃ q user own,
      (LoginScreen.program newsService).system.Run
          System.anyStep
          (attempted (.login "a" "b" "a" "b") {})
          (turns 7 account) q ∧
        .session (.jwtAuth user "a" "b" own) ∈ q.pending ∧
        ("a" = trim "a" ∧ "b" = trim "b") ∧
        (AuthCall.getJwtAuth "a" "b").sent =
          some (AuthCall.getJwtAuth "a" "b").entered := by
  have hRun :
      ∃ q user own,
        (LoginScreen.program newsService).system.Run
            System.anyStep
            (attempted (.login "a" "b" "a" "b") {})
            (turns 7 account) q ∧
          q.pending =
            [.session (.jwtAuth user "a" "b" own)] :=
    ⟨_, _, _, System.run_of_exec rfl, rfl⟩
  rcases hRun with ⟨q, user, own, hRun, hPending⟩
  have hMem :
      .session (.jwtAuth user "a" "b" own) ∈ q.pending := by
    rw [hPending]
    exact List.mem_singleton_self _
  have hAll := sendsEntered_iff hRun
  refine
    ⟨q, user, own, hRun, hMem,
      (hAll.2.2 user "a" "b" own hMem).mpr (by decide),
      (hAll.1 (.getJwtAuth "a" "b")).mpr ?_⟩
  intro value hValue
  simp only [AuthCall.values, List.mem_cons,
    List.not_mem_nil, or_false] at hValue
  rcases hValue with rfl | rfl <;>
    exact AuthCall.IsPlain.isCarried
      ⟨by decide, by decide, by decide, by decide⟩

/-
  A password with an ampersand gives a further parameter,
  and a blank behind the username is sent for the token
  only.
-/
theorem splices_password_and_blank :
    (AuthCall.getJwtAuth "a" "b&c").sent ≠
        some (AuthCall.getJwtAuth "a" "b&c").entered ∧
      ∃ q user own,
        (LoginScreen.program newsService).system.Run
            System.anyStep
            (attempted (.login "a " "b" "a " "b") {})
            (turns 7 account) q ∧
          .session (.jwtAuth user "a " "b" own) ∈ q.pending ∧
          "a " ≠ trim "a " := by
  constructor
  · rw [ne_eq, AuthCall.sent_eq_entered_iff]
    intro hCarried
    have hPassword := hCarried "b&c" (by simp [AuthCall.values])
    exact hPassword.noAmp (by decide)
  · exact
      ⟨_, _, _, System.run_of_exec rfl,
        List.mem_singleton_self _, by decide⟩

end NewsCentral
