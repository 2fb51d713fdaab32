import NewsCentral.Dart.Members
import NewsCentral.Session.Program

/-
  The form for a new post,
  `lib/screens/post_management/new_post.dart`.

  `createBlog` ends normally without a token and whatever
  the server answers, as long as it is JSON; and the success
  notice stands in `whenComplete`, which errors run too.

  Key definitions include:
    * `NewsCentral.WordPress.createBlog`
    * `NewsCentral.NewPost.submitPost`
    * `NewsCentral.NewPost.Truthful`
    * `NewsCentral.NewPost.postAnswer`

  Key theorems include:
    * `NewsCentral.NewPost.createBlog_eq`
    * `NewsCentral.NewPost.truthful_submitPost_iff`
-/

------------------------------------------------------------
-- Creating A Post
------------------------------------------------------------

namespace NewsCentral

open Dart

namespace WordPress

variable (wp : WordPress) (http : Http)

/- Post data; the status of the answer is not looked at. -/
def postAsync
    (endPoint : String)
    (data : Json)
    (token : Option String) : Except Thrown Json := do
  (← http (wp.postRequest endPoint data token)).jsonDecode

/- The token is what `getJwtAuthToken` has read. -/
def createBlog
    (jwtToken : Option String)
    (file : String)
    (data : Json) : Except Thrown Unit :=
  match jwtToken with
  | none => .ok ()
  | some token => do
      let response ← wp.uploadImage http file token
      let data ← Session.withFeaturedMedia response data
      let _ ← wp.postAsync http "posts" data (some token)

end WordPress

------------------------------------------------------------
-- The Form
------------------------------------------------------------

/- What was entered, and the texts the controllers have. -/
structure NewPost where
  title : Option String := none
  content : Option String := none
  category : Option Int := none
  image : Option String := none
  titleText : String := ""
  contentText : String := ""

namespace NewPost

/- The notices of the screen. -/
inductive Notice where
  | pleaseInput
  | created
  | failed (err : Thrown)
deriving DecidableEq

/- The notices that were shown, and whether it was closed. -/
structure Outcome where
  notices : List Notice := []
  closed : Bool := false
deriving DecidableEq

def data
    (form : NewPost)
    (user : User)
    (category : Int)
    (now : String) : Json :=
  .obj
    [ ("title", .str form.titleText),
      ("content", .str form.contentText),
      ("author", user.id),
      ("date", .str now),
      ("status", .str "draft"),
      ("categories", .int category) ]

/-
  The callbacks on `createBlog`.  `whenComplete` runs in
  either case and closes the screen once the animation has
  been reversed; the second reversal, after an error,
  cancels the first unless the animation was at its start.
-/
def completed
    (atStart : Bool)
    (created : Except Thrown Unit) : Outcome :=
  match created with
  | .ok () => { notices := [.created], closed := true }
  | .error err =>
      { notices := [.created, .failed err]
        closed := atStart }

/- `_submitPost` -/
def submitPost
    (wp : WordPress)
    (http : Http)
    (user : Option User)
    (jwtToken : Option String)
    (now : String)
    (atStart : Bool)
    (form : NewPost) : Outcome :=
  match form.title, form.content, form.category, form.image
    with
  | some _, some _, some category, some image =>
      match user with
      -- `user.id` throws, and the handler ends
      | none => {}
      | some user =>
          completed atStart
            (wp.createBlog http jwtToken image
              (form.data user category now))
  | _, _, _, _ => { notices := [.pleaseInput] }

end NewPost

end NewsCentral

------------------------------------------------------------
-- The Property And Its Condition
------------------------------------------------------------

namespace NewsCentral

open Dart

/- The server did what it was asked. -/
def Response.isSuccess (response : Response) : Bool :=
  200 ≤ response.statusCode && response.statusCode < 300

namespace NewPost

variable (wp : WordPress) (http : Http)
variable (user : Option User) (jwtToken : Option String)
variable (now : String) (form : NewPost)

/- All fields that are asked for were entered. -/
def complete : Bool :=
  form.title.isSome && form.content.isSome &&
    form.category.isSome && form.image.isSome

/- The media is uploaded and has an id or none. -/
def uploaded
    (token file : String)
    (data : Json) : Option Json :=
  (wp.uploadImage http file token >>= fun response =>
    Session.withFeaturedMedia response data).toOption

/- The answer to the post, if one was sent and answered. -/
def postAnswer : Option Response := do
  let _ ← form.title
  let _ ← form.content
  let category ← form.category
  let image ← form.image
  let user ← user
  let token ← jwtToken
  let data ←
    uploaded wp http token image (form.data user category now)
  (http (wp.postRequest "posts" data (some token))).toOption

/-
  One notice is shown: that of the success, and the screen
  is closed, if the server accepted the post, and otherwise
  another one, and the screen stays open.
-/
def Truthful (accepted : Bool) (outcome : Outcome) : Prop :=
  if accepted then
    outcome = { notices := [.created], closed := true }
  else
    (∃ notice, notice ≠ .created ∧
      outcome = { notices := [notice], closed := false })

/- The server accepted the post. -/
def accepted : Bool :=
  (postAnswer wp http user jwtToken now form).any
    Response.isSuccess

/- It accepted the post with an answer that is JSON. -/
def acceptedInJson : Bool :=
  (postAnswer wp http user jwtToken now form).any
    fun response =>
      response.isSuccess && response.decoded.isSome

end NewPost

end NewsCentral

------------------------------------------------------------
-- What Is Reported
------------------------------------------------------------

namespace NewsCentral

open Dart

namespace NewPost

variable {wp : WordPress} {http : Http}
variable {user : Option User} {jwtToken : Option String}
variable {now : String} {form : NewPost} {atStart : Bool}

/- After an error two notices were shown. -/
theorem not_truthful_of_error
    (yes : Bool)
    (err : Thrown) :
    ¬ Truthful yes (completed atStart (.error err)) := by
  unfold Truthful completed
  cases yes with
  | true => simp
  | false => simp

theorem truthful_created_iff
    {yes : Bool} :
    Truthful yes (completed atStart (.ok ())) ↔
      yes = true := by
  unfold Truthful completed
  cases yes with
  | true => simp
  | false => simp

/- With a token the image is uploaded, then the post sent. -/
theorem createBlog_eq
    (token file : String)
    (data : Json) :
    wp.createBlog http (some token) file data =
      (do
        let data ←
          (wp.uploadImage http file token >>= fun response =>
            Session.withFeaturedMedia response data)
        let _ ← wp.postAsync http "posts" data (some token)) := by
  unfold WordPress.createBlog
  rw [bind_assoc]

/- A post that is sent is reported right if accepted so. -/
theorem truthful_completed_iff
    (token file : String)
    (data : Json) :
    let answer :=
      (uploaded wp http token file data).bind fun data =>
        (http
          (wp.postRequest "posts" data
            (some token))).toOption
    Truthful (answer.any Response.isSuccess)
        (completed atStart
          (wp.createBlog http (some token) file data)) ↔
      (answer.any fun response =>
        response.isSuccess && response.decoded.isSome) =
          true := by
  simp only
  rw [createBlog_eq]
  unfold uploaded
  cases (wp.uploadImage http file token >>= fun response =>
    Session.withFeaturedMedia response data) with
  | error err =>
      refine iff_of_false (not_truthful_of_error _ err) ?_
      simp [Except.toOption]
  | ok data =>
      unfold WordPress.postAsync
      simp only [Except.toOption, Option.bind_some,
        ok_bind_eq]
      cases http (wp.postRequest "posts" data (some token)) with
      | error err =>
          refine iff_of_false (not_truthful_of_error _ err) ?_
          simp
      | ok response =>
          simp only [Option.any_some, ok_bind_eq,
            Response.jsonDecode]
          cases response.decoded with
          | none =>
              refine iff_of_false (not_truthful_of_error _ _) ?_
              simp
          | some body =>
              refine truthful_created_iff.trans ?_
              simp

/- Of an incomplete form some field is missing. -/
theorem missing_of_not_complete
    (hIncomplete : form.complete = false) :
    form.title = none ∨ form.content = none ∨
      form.category = none ∨ form.image = none := by
  rcases form with
    ⟨_ | title, _ | content, _ | category, _ | image, _, _⟩
  all_goals simp [complete] at hIncomplete ⊢

/- A complete form has a category and an image. -/
theorem exists_of_complete
    (hComplete : form.complete = true) :
    ∃ title content category image,
      form.title = some title ∧
        form.content = some content ∧
        form.category = some category ∧
        form.image = some image := by
  simp only [complete, Bool.and_eq_true,
    Option.isSome_iff_exists] at hComplete
  rcases hComplete with
    ⟨⟨⟨⟨title, hTitle⟩, content, hContent⟩,
      category, hCategory⟩, image, hImage⟩
  exact ⟨title, content, category, image, hTitle, hContent,
    hCategory, hImage⟩

/- An incomplete form is asked for and sends nothing. -/
theorem submitPost_of_not_complete
    (hIncomplete : form.complete = false) :
    submitPost wp http user jwtToken now atStart form =
        { notices := [.pleaseInput] } ∧
      postAnswer wp http user jwtToken now form = none := by
  unfold submitPost postAnswer
  rcases missing_of_not_complete hIncomplete with
    hNone | hNone | hNone | hNone
  · simp [hNone]
  · cases form.title <;> simp [hNone]
  · cases form.title <;> cases form.content <;> simp [hNone]
  · cases form.title <;> cases form.content <;>
      cases form.category <;> simp [hNone]

/-
  The screen tells the truth exactly about an incomplete
  form and about a post that was accepted with JSON.
-/
theorem truthful_submitPost_iff
    (wp : WordPress)
    (http : Http)
    (user : Option User)
    (jwtToken : Option String)
    (now : String)
    (atStart : Bool)
    (form : NewPost) :
    Truthful (accepted wp http user jwtToken now form)
        (submitPost wp http user jwtToken now atStart form) ↔
      form.complete = false ∨
        acceptedInJson wp http user jwtToken now form =
          true := by
  cases hComplete : form.complete with
  | false =>
      rcases submitPost_of_not_complete hComplete with
        ⟨hSubmit, hAnswer⟩
      rw [accepted, hSubmit, hAnswer]
      refine iff_of_true ?_ (.inl rfl)
      exact ⟨.pleaseInput, by decide, rfl⟩
  | true =>
      rcases exists_of_complete hComplete with
        ⟨title, content, category, image, hTitle, hContent,
          hCategory, hImage⟩
      rw [or_iff_right (by decide)]
      unfold accepted acceptedInJson submitPost postAnswer
      simp only [hTitle, hContent, hCategory, hImage,
        Option.bind_eq_bind, Option.bind_some]
      cases user with
      | none => simp [Truthful]
      | some user =>
          simp only [Option.bind_some]
          cases jwtToken with
          | none => exact truthful_created_iff.trans (by simp)
          | some token =>
              exact truthful_completed_iff token image _

/- A server that refuses everything with an error object. -/
def refusing : Http := fun _ =>
  .ok
    { statusCode := 401
      decoded :=
        some (.obj
          [ ("code", .str "rest_cannot_create"),
            ("message", .str "Sorry, you are not allowed") ]) }

/- A form with all fields. -/
def filled : NewPost where
  title := some "Title"
  content := some "Content"
  category := some 5
  image := some "image.jpg"
  titleText := "Title"
  contentText := "Content"

/- A refused post is announced as created. -/
theorem refused_is_created :
    accepted newsService refusing (some { id := .int 3 })
        (some "token") "2020-08-01" filled = false ∧
      submitPost newsService refusing (some { id := .int 3 })
          (some "token") "2020-08-01" false filled =
        { notices := [.created], closed := true } ∧
      ¬ Truthful
        (accepted newsService refusing (some { id := .int 3 })
          (some "token") "2020-08-01" filled)
        (submitPost newsService refusing
          (some { id := .int 3 }) (some "token") "2020-08-01"
          false filled) := by
  refine ⟨rfl, rfl, ?_⟩
  rintro ⟨notice, _, hOutcome⟩
  cases congrArg Outcome.closed hOutcome

end NewPost

end NewsCentral
