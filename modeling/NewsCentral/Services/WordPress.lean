import Mathlib.Data.List.Infix
import NewsCentral.Models.BlogNews
import NewsCentral.Models.User

/-
  The WordPress service of `lib/services/wordpress.dart` and
  `lib/services/helper/blognews_api.dart`.

  The network is a parameter: a function from requests to
  responses or errors.  A response carries the value its
  body decodes to, or none when the body is no JSON.

  Key definitions include:
    * `NewsCentral.Http`
    * `NewsCentral.WordPress`
    * `NewsCentral.WordPress.login` and the other methods
      that return a user
    * `NewsCentral.WordPress.getJwtAuth`
    * `NewsCentral.WordPress.fetchBlogsByCategory`
    * `NewsCentral.WordPress.fetchBlogLayout`
    * `NewsCentral.WordPress.getBlog` and `getBlogs`
    * `NewsCentral.WordPress.searchBlog`
-/

------------------------------------------------------------
-- Requests And Responses
------------------------------------------------------------

namespace NewsCentral

open Dart

inductive Method where
  | get
  | post
deriving DecidableEq

/- What is sent: a body, a bearer token or neither. -/
structure Request where
  method : Method
  url : String
  body : Option Json := none
  bearer : Option String := none
deriving DecidableEq

structure Response where
  statusCode : Int
  decoded : Option Json

/- `convert.jsonDecode(response.body)`. -/
def Response.jsonDecode
    (response : Response) : Except Thrown Json :=
  match response.decoded with
  | some j => .ok j
  | none => .error (.error "FormatException" "")

/- How the network answers. -/
abbrev Http := Request → Except Thrown Response

/- A request is answered, or fails on its way. -/
inductive Delivery where
  | arrives
  | fails
deriving DecidableEq

/- What the caller is given of an answer. -/
def Delivery.deliver
    {α : Type}
    (delivery : Delivery)
    (answer : Except Thrown α) : Except Thrown α :=
  match delivery with
  | .arrives => answer
  | .fails => .error (.error "SocketException" "")

/-
  The configured service.  Both fields are null until
  `setAppConfig` has run.
-/
structure WordPress where
  url : Option String
  isSecure : Option String

/- The service for the configured site. -/
def WordPress.setAppConfig (url : String) : WordPress where
  url := some url
  isSecure :=
    some
      (if "https".toList <:+: url.toList then
        ""
      else
        "&insecure=cool")

/- The site of `serverConfig`. -/
def newsService : WordPress :=
  .setAppConfig "http://newscentral.africa"

theorem WordPress.interpolate_url :
    interpolate newsService.url =
      "http://newscentral.africa" := rfl

end NewsCentral

------------------------------------------------------------
-- Login Methods
------------------------------------------------------------

namespace NewsCentral

open Dart

namespace WordPress

variable (wp : WordPress) (http : Http)

/- The cookie lifetime the login requests ask for. -/
def cookieLifeTime : String := "120960000000"

/- The address of a method of the user plugin. -/
def flutterUser (path : String) : String :=
  interpolate wp.url ++ "/wp-json/api/flutter_user/" ++ path

/- `isNotBlank` of a text: some character is no space. -/
def isNotBlank (s : Option String) : Bool :=
  (s.getD "").toList.any fun c => !isWhitespace c

def userInfoRequest (cookie : Json) : Request where
  method := .get
  url :=
    wp.flutterUser "get_currentuserinfo?cookie=" ++
      cookie.toText ++ "&" ++ interpolate wp.isSecure

/- The account a session cookie belongs to. -/
def getUserInfo
    (cookie : Json)
    (password : Option String) : Except Thrown User := do
  let response ← http (wp.userInfoRequest cookie)
  let body ← response.jsonDecode
  if response.statusCode = 200 then
    let user ← body.index "user"
    if user.isNotNull then
      let user ←
        user.setIndex "password" (.ofString? password)
      return User.fromAuthUser user (← cookie.asString)
    else
      throw (.exception (← body.index "message"))
  else
    throw (.exception (← body.index "message"))

def createUserRequest
    (niceName : String)
    (username password : Option String) : Request where
  method := .post
  url :=
    wp.flutterUser "register/?insecure=cool&" ++
      interpolate wp.isSecure
  body := some (.obj
    [ ("user_email", .ofString? username),
      ("user_login", .ofString? username),
      ("username", .ofString? username),
      ("user_pass", .ofString? password),
      ("email", .ofString? username),
      ("user_nicename", .str niceName),
      ("display_name", .str niceName) ])

/- `firstName + " " + lastName`. -/
def niceName
    (firstName lastName : Option String) :
    Except Thrown String :=
  match firstName, lastName with
  | some first, some last => .ok (first ++ " " ++ last)
  | none, _ => .error (.noSuchMethod "+")
  | some _, none => .error (.typeError "String")

/- Register an account and read it back. -/
def createUser
    (firstName lastName username password : Option String) :
    Except Thrown User := do
  let name ← niceName firstName lastName
  let response ←
    http (wp.createUserRequest name username password)
  let body ← response.jsonDecode
  if response.statusCode = 200 then
    let message ← body.index "message"
    if message.isNotNull then
      throw (.exception message)
    else
      wp.getUserInfo http (← body.index "cookie") password
  else
    let message ← body.index "message"
    if message.isNotNull then
      throw (.exception message)
    else
      throw (.exception (.str "Can not create the user."))

def loginRequest
    (username password : Option String) : Request where
  method := .post
  url :=
    wp.flutterUser
        "generate_auth_cookie/?insecure=cool&" ++
      interpolate wp.isSecure
  body := some (.obj
    [ ("seconds", .str cookieLifeTime),
      ("username", .ofString? username),
      ("password", .ofString? password) ])

def incorrectLogin : Thrown :=
  .exception
    (.str "The username or password is incorrect.")

/- Log in with a password. -/
def login
    (username password : Option String) :
    Except Thrown User := do
  let response ← http (wp.loginRequest username password)
  let body ← response.jsonDecode
  if response.statusCode = 200 then
    let cookie ← body.index "cookie"
    if isNotBlank (← cookie.asString) then
      wp.getUserInfo http cookie password
    else
      throw incorrectLogin
  else
    throw incorrectLogin

def socialRequest
    (path : String)
    (token : Option String) : Request where
  method := .get
  url :=
    wp.flutterUser path ++ "/?second=" ++ cookieLifeTime ++
      "&access_token=" ++ interpolate token ++
      interpolate wp.isSecure

/-
  Both social logins refuse an answer without id or cookie,
  with the text under their own key, and decode the rest
  alike.
-/
def socialLogin
    (path errorKey : String)
    (token : Option String) : Except Thrown User := do
  let response ← http (wp.socialRequest path token)
  let body ← response.jsonDecode
  let id ← body.index "wp_user_id"
  let cookie ← body.index "cookie"
  if id.isNotNull && cookie.isNotNull then
    return User.fromJsonFB body
  else
    throw (.exception (← body.index errorKey))

/- Log in with a Google access token. -/
def loginGoogle
    (token : Option String) : Except Thrown User :=
  wp.socialLogin http "google_login" "error" token

/- Log in with a Facebook access token. -/
def loginFacebook
    (token : Option String) : Except Thrown User :=
  wp.socialLogin http "fb_connect" "msg" token

def appleRequest
    (email : String)
    (fullName : Option String) : Request where
  method := .get
  url :=
    wp.flutterUser "apple_login?email=" ++ email ++
      "&display_name=" ++ interpolate fullName ++
      "&user_name=" ++
      String.ofList (email.toList.takeWhile (· ≠ '@')) ++
      interpolate wp.isSecure

/- Log in with an Apple account; the answer is not checked. -/
def loginApple
    (email fullName : Option String) :
    Except Thrown User := do
  match email with
  | none => throw (.noSuchMethod "split")
  | some email =>
      let response ← http (wp.appleRequest email fullName)
      let body ← response.jsonDecode
      return User.fromJsonSMS (← body.asMap)

def smsRequest (phone : Option String) : Request where
  method := .get
  url :=
    wp.flutterUser "firebase_sms_login?phone=" ++
      interpolate phone ++ interpolate wp.isSecure

/- Log in with a phone number; the answer is not checked. -/
def loginSMS
    (phone : Option String) : Except Thrown User := do
  let response ← http (wp.smsRequest phone)
  let body ← response.jsonDecode
  return User.fromJsonSMS (← body.asMap)

def jwtRequest (username password : String) : Request where
  method := .post
  url :=
    interpolate wp.url ++
      "/wp-json/jwt-auth/v1/token?username=" ++ username ++
      "&password=" ++ password

/- The posting token of an account. -/
def getJwtAuth
    (username password : String) :
    Except Thrown (Option String) := do
  let response ← http (wp.jwtRequest username password)
  let body ← response.jsonDecode
  let token ← body.index "token"
  if token.isNotNull then
    token.asString
  else
    throw (.exception (← body.index "code"))

end WordPress

end NewsCentral

------------------------------------------------------------
-- Posts
------------------------------------------------------------

namespace NewsCentral

open Dart

namespace WordPress

variable (wp : WordPress) (http : Http)

/- The upload of an image file, given by its name. -/
def mediaRequest (file token : String) : Request where
  method := .post
  url := interpolate wp.url ++ "/wp-json/wp/v2/media"
  body := some (.str file)
  bearer := some token

/- Upload an image; the answer is whatever it decodes to. -/
def uploadImage
    (file token : String) : Except Thrown Json := do
  (← http (wp.mediaRequest file token)).jsonDecode

def postRequest
    (endPoint : String)
    (data : Json)
    (token : Option String) : Request where
  method := .post
  url := interpolate wp.url ++ "/wp-json/wp/v2/" ++ endPoint
  body := some data
  bearer := token

def getRequest (endPoint : String) : Request where
  method := .get
  url := interpolate wp.url ++ "/wp-json/wp/v2/" ++ endPoint

/- Read from an end point. -/
def getAsync (endPoint : String) : Except Thrown Json := do
  (← http (wp.getRequest endPoint)).jsonDecode

/- `for (var item in response) list.add(fromJson(item))`. -/
def decodeBlogs
    (unescape : String → String)
    (response : Json) :
    Except Thrown (List BlogNews) := do
  (← response.asIterable).mapM fun item => do
    return BlogNews.fromJson unescape (← item.asMap)

/- Every post of a response is decoded from an item. -/
theorem exists_fromJson_of_decodeBlogs
    {unescape : String → String}
    {response : Json}
    {blogs : List BlogNews}
    (hDecoded : decodeBlogs unescape response = .ok blogs) :
    ∀ blog ∈ blogs, ∃ parsedJson,
      blog = BlogNews.fromJson unescape parsedJson := by
  unfold decodeBlogs at hDecoded
  cases hItems : response.asIterable with
  | error e => simp [hItems, bind, Except.bind] at hDecoded
  | ok items =>
      simp only [hItems, bind, Except.bind] at hDecoded
      have hEach := forall₂_of_mapM hDecoded
      clear hDecoded hItems
      induction hEach with
      | nil => simp
      | @cons item blog _ _ hHead _ ih =>
          rw [List.forall_mem_cons]
          refine ⟨?_, ih⟩
          cases hMap : item.asMap with
          | error e => simp [hMap] at hHead
          | ok parsedJson =>
              simp only [hMap, pure, Except.pure,
                Except.ok.injEq] at hHead
              exact ⟨parsedJson, hHead.symm⟩

def categoryEndPoint
    (categoryId : Option Int)
    (page : Int)
    (lang : String) : String :=
  "posts?_embed&lang=" ++ lang ++ "&per_page=15&page=" ++
    toString page ++
    match categoryId with
    | none => ""
    | some id => "&categories=" ++ toString id

/- One page of the posts of a category. -/
def fetchBlogsByCategory
    (unescape : String → String)
    (categoryId : Option Int)
    (page : Int)
    (lang : String) : Except Thrown (List BlogNews) := do
  decodeBlogs unescape
    (← wp.getAsync http
      (categoryEndPoint categoryId page lang))

/- `"&name=${config[key]}"`, if the key is there. -/
def layoutParameter
    (config : Json)
    (name key : String) : Except Thrown String := do
  if ← config.containsKey key then
    return "&" ++ name ++ "=" ++ (← config.index key).toText
  else
    return ""

def layoutEndPoint
    (config : Json)
    (lang : String) : Except Thrown String := do
  let categories ←
    layoutParameter config "categories" "category"
  let page ← layoutParameter config "page" "page"
  return "posts?_embed&per_page=10&lang=" ++ lang ++
    categories ++ page

/- The posts of a section carry the category of its config. -/
def decodeLayoutBlogs
    (unescape : String → String)
    (config response : Json) :
    Except Thrown (List BlogNews) := do
  (← response.asIterable).mapM fun item => do
    let blog := BlogNews.fromJson unescape (← item.asMap)
    let category ← config.index "category"
    return { blog with categoryId := ← category.asInt }

/- A page of the posts of a home section. -/
def fetchBlogLayout
    (unescape : String → String)
    (config : Json)
    (lang : String) : Except Thrown (List BlogNews) := do
  decodeLayoutBlogs unescape config
    (← wp.getAsync http (← layoutEndPoint config lang))

/- The latest posts. -/
def getBlogs
    (unescape : String → String) :
    Except Thrown (List BlogNews) := do
  decodeBlogs unescape (← wp.getAsync http "posts")

/- The posts of a category. -/
def getBlogsByCategory
    (unescape : String → String)
    (cateId : Int) : Except Thrown (List BlogNews) := do
  decodeBlogs unescape
    (← wp.getAsync http
      ("posts?_embed&categories=" ++ toString cateId))

/- One post. -/
def getBlog
    (unescape : String → String)
    (id : String) : Except Thrown BlogNews := do
  let response ← wp.getAsync http ("posts/" ++ id)
  return BlogNews.fromJson unescape (← response.asMap)

/- The posts matching a text. -/
def searchBlog
    (unescape : String → String)
    (name : String) : Except Thrown (List BlogNews) := do
  decodeBlogs unescape
    (← wp.getAsync http ("posts?_embed&search=" ++ name))

end WordPress

end NewsCentral
