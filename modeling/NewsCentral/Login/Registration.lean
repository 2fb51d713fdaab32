import NewsCentral.EventLoop.Compose
import NewsCentral.Session.Credentials

/-
  The registration of `lib/screens/registration.dart`, which
  opens an account at Firebase and one at WordPress.

  The button asks Firebase first, ignores how that ends, and
  only then looks at the form and calls `createUser`.  What
  Firebase has created stays there when the form is turned
  down or WordPress gives no user; and a user whom WordPress
  gives is logged in without an account at Firebase.  A
  registration is all or nothing exactly if Firebase and
  the rest agree.

  Key definitions include:
    * `NewsCentral.RegistrationScreen`
    * `NewsCentral.RegistrationScreen.program`
    * `NewsCentral.RegistrationScreen.AllOrNothing`
    * `NewsCentral.RegistrationScreen.Agree`

  Key theorems include:
    * `NewsCentral.Session.drain_saving`
    * `NewsCentral.RegistrationScreen.allOrNothing_iff`
-/

------------------------------------------------------------
-- Registrations
------------------------------------------------------------

namespace NewsCentral

open Dart Json EventLoop

namespace RegistrationScreen

/- The form; a text is null until something is typed. -/
structure Form where
  firstName : Option String := none
  lastName : Option String := none
  username : Option String := none
  password : Option String := none
  isChecked : Bool := false

end RegistrationScreen

/-
  The screen over the session.  The last three fields are
  histories: the accounts of Firebase and the registrations
  of WordPress by their addresses, and the snack bars of the
  screen's own checks.
-/
structure RegistrationScreen where
  form : RegistrationScreen.Form := {}
  session : Session := {}
  firebase : List (Option String) := []
  wordPress : List (Option String) := []
  snackBars : List String := []

namespace RegistrationScreen

/- What the user does with the screen. -/
inductive Op where
  | firstNameChanged (value : String)
  | lastNameChanged (value : String)
  | usernameChanged (value : String)
  | passwordChanged (value : String)
  | checkboxChanged
  | pressed

/- Where the handler of the button is suspended. -/
inductive Point where
  | createUserWithEmailAndPassword
      (email password : Option String)
  | session (point : Session.Point)

/-
  What the world answers: further, whether Firebase created
  the account.  How its future ends is not read.
-/
structure Answer extends Session.World where
  created : Bool := false

/- The call of `createUser` for a form. -/
def Form.login (form : Form) : Session.Login :=
  .createUser form.firstName form.lastName form.username
    form.password

/- `_submitRegister` -/
def submitRegister
    (firstName lastName username password : Option String)
    (t : RegistrationScreen) :
    RegistrationScreen × List Point :=
  if firstName.isNone || lastName.isNone ||
      username.isNone || password.isNone then
    ({ t with
        snackBars :=
          t.snackBars ++
            ["Please input fill in all fields"] }, [])
  else if t.form.isChecked == false then
    ({ t with
        snackBars :=
          t.snackBars ++ ["Please agree with our terms"] },
      [])
  else
    let r :=
      Session.startLogin
        (.createUser firstName lastName username password)
        t.session
    ({ t with session := r.1 }, r.2.map .session)

/- An operation up to its first await. -/
def call :
    Op → RegistrationScreen → RegistrationScreen × List Point
  | .firstNameChanged value, t =>
      ({ t with
          form := { t.form with firstName := some value } },
        [])
  | .lastNameChanged value, t =>
      ({ t with
          form := { t.form with lastName := some value } },
        [])
  | .usernameChanged value, t =>
      ({ t with
          form := { t.form with username := some value } },
        [])
  | .passwordChanged value, t =>
      ({ t with
          form := { t.form with password := some value } },
        [])
  | .checkboxChanged, t =>
      ({ t with
          form :=
            { t.form with isChecked := !t.form.isChecked } },
        [])
  | .pressed, t =>
      (t, [.createUserWithEmailAndPassword t.form.username
        t.form.password])

/- The request of a registration is accepted. -/
def isRegistered
    (wp : WordPress)
    (http : Http)
    (firstName lastName username password : Option String) :
    Bool :=
  match WordPress.niceName firstName lastName with
  | .error _ => false
  | .ok name =>
      match
        http (wp.createUserRequest name username password) with
      | .ok ⟨200, some (.obj fields)⟩ =>
          !(field fields "message").isNotNull
      | _ => false

/- The addresses that a turn of the session registers. -/
def registrations
    (wp : WordPress)
    (http : Http) : Session.Point → List (Option String)
  | .service (.createUser first last username password) _ =>
      if isRegistered wp http first last username password then
        [username]
      else
        []
  | _ => []

/- Resume the handler where it is suspended. -/
def resume
    (wp : WordPress)
    (point : Point)
    (a : Answer)
    (t : RegistrationScreen) :
    RegistrationScreen × List Point :=
  match point with
  | .createUserWithEmailAndPassword email _ =>
      submitRegister t.form.firstName t.form.lastName
        t.form.username t.form.password
        { t with
          firebase :=
            if a.created then
              t.firebase ++ [email]
            else
              t.firebase }
  | .session point =>
      let r := Session.resume wp point a.toWorld t.session
      ({ t with
          session := r.1
          wordPress :=
            t.wordPress ++ registrations wp a.http point },
        r.2.map .session)

def program
    (wp : WordPress) :
    Program RegistrationScreen Op Point Answer where
  call := fun op t => some (call op t)
  resume := resume wp
  queued := fun _ => false

/-
  The button is pressed, and the handler and the call of
  `createUser` that it makes run to their ends.
-/
def registered
    (wp : WordPress)
    (respond : Point → Answer)
    (t : RegistrationScreen) :
    Pool RegistrationScreen Point :=
  (program wp).drain respond 10
    ⟨(call .pressed t).1, (call .pressed t).2⟩

end RegistrationScreen

end NewsCentral

------------------------------------------------------------
-- All Or Nothing
------------------------------------------------------------

namespace NewsCentral

open Dart Json EventLoop

/- `UserModel` as a screen reads it. -/
structure Session.Shows
    (s : Session)
    (user : Option User)
    (loggedIn loading : Bool) : Prop where
  user : s.user = user
  loggedIn : s.loggedIn = loggedIn
  loading : s.loading = loading

namespace RegistrationScreen

/- The form passes the checks. -/
def Form.Valid (form : Form) : Prop :=
  form.firstName.isSome = true ∧
    form.lastName.isSome = true ∧
    form.username.isSome = true ∧
    form.password.isSome = true ∧
    form.isChecked = true

instance (form : Form) : Decidable form.Valid :=
  inferInstanceAs (Decidable (_ ∧ _))

/-
  WordPress registers the account of the form and, asked
  with the cookie of its answer, describes the user.
-/
def Gives
    (wp : WordPress)
    (http : Http)
    (form : Form)
    (user : User) : Prop :=
  ∃ name fields body account cookie,
    WordPress.niceName form.firstName form.lastName =
      .ok name ∧
    WordPress.Accepted http
      (wp.createUserRequest name form.username
        form.password)
      (.obj fields) ∧
    field fields "message" = .null ∧
    WordPress.Accepted http
      (wp.userInfoRequest (field fields "cookie"))
      (.obj body) ∧
    field body "user" = .obj account ∧
    (field fields "cookie").asString = .ok cookie ∧
    user =
      User.fromAuthUser
        (.obj (("password", .ofString? form.password) ::
          account.filter fun entry => entry.1 ≠ "password"))
        cookie

/-
  Both accounts exist, the one of WordPress new, and its
  user is the one in session.
-/
structure LoggedInAsNew
    (wp : WordPress)
    (http : Http)
    (t u : RegistrationScreen) : Prop where
  firebase : t.form.username ∈ u.firebase
  wordPress :
    u.wordPress = t.wordPress ++ [t.form.username]
  user :
    ∃ user, Gives wp http t.form user ∧
      u.session.user = some user
  loggedIn : u.session.loggedIn = true

/- `UserModel` is as it was, and Firebase has no more. -/
structure NothingLeft
    (t u : RegistrationScreen) : Prop where
  session :
    u.session.Shows t.session.user t.session.loggedIn
      t.session.loading
  firebase : u.firebase = t.firebase

/-
  A registration is all or nothing, and it creates nothing
  for a form that does not pass the checks.
-/
structure AllOrNothing
    (wp : WordPress)
    (http : Http)
    (t u : RegistrationScreen) : Prop where
  either : LoggedInAsNew wp http t u ∨ NothingLeft t u
  invalid :
    ¬ t.form.Valid →
      u.firebase = t.firebase ∧ u.wordPress = t.wordPress

/- What the two back ends answer to the form of a screen. -/
def created
    (respond : Point → Answer)
    (form : Form) : Bool :=
  (respond
    (.createUserWithEmailAndPassword form.username
      form.password)).created

def service
    (respond : Point → Answer)
    (form : Form) : Answer :=
  respond (.session (.service form.login none))

/- The callbacks for a user throw one after the other. -/
def bothThrow
    (respond : Point → Answer)
    (form : Form)
    (user : User) : Bool :=
  let a := respond (.session (.saved form.login user))
  a.successThrows.isSome && a.failThrows.isSome

/-
  Firebase and the rest agree.  Firebase creates nothing for
  a form that is turned down or for which WordPress gives no
  user, and it has an account when WordPress gives one.  The
  model is left alone by a refusal if its flag is reset to
  what it was.  A user who is in session already does not
  change it either.
-/
structure Agree
    (wp : WordPress)
    (respond : Point → Answer)
    (t : RegistrationScreen) : Prop where
  invalid :
    ¬ t.form.Valid → created respond t.form = false
  refused :
    t.form.Valid →
    (∀ user,
      ¬ Gives wp (service respond t.form).http t.form
        user) →
    created respond t.form = false ∧
      t.session.loading =
        (service respond t.form).failThrows.isSome
  given :
    ∀ user, t.form.Valid →
    Gives wp (service respond t.form).http t.form user →
    created respond t.form = true ∨
      t.form.username ∈ t.firebase ∨
      t.session.Shows (some user) true
        (bothThrow respond t.form user)

end RegistrationScreen

end NewsCentral

------------------------------------------------------------
-- From The Service To The End
------------------------------------------------------------

namespace NewsCentral

open Dart Json EventLoop

namespace Session

/- The points at which a login saves its user. -/
inductive Saving
    (login : Login)
    (user : User) : Point → Prop
  | savePrefs : Saving login user (.savePrefs login user)
  | saveFlag : Saving login user (.saveFlag login user)
  | saveReady : Saving login user (.saveReady login user)
  | saveItem : Saving login user (.saveItem login user)
  | saved : Saving login user (.saved login user)

/-
  A registration on its way through `saveUser`, or at its
  end: the user is in session all the time, and the flag is
  reset unless both callbacks throw.
-/
structure SavingOrSaved
    (respond : Point → World)
    (login : Login)
    (user : User)
    (s : Session)
    (pending : List Point) : Prop where
  inSession : s.user = some user
  loggedIn : s.loggedIn = true
  way :
    (∃ k, pending = [k] ∧ Saving login user k ∧
        s.loading = true) ∨
      pending = [] ∧
        s.loading =
          ((respond (.saved login user)).successThrows.isSome &&
            (respond (.saved login user)).failThrows.isSome)

theorem resume_saving
    {wp : WordPress}
    {respond : Point → World}
    {first last username password : Option String}
    {user : User}
    {s : Session}
    {k : Point}
    (hSaving :
      Saving (.createUser first last username password) user k)
    (hUser : s.user = some user)
    (hLoggedIn : s.loggedIn = true)
    (hLoading : s.loading = true) :
    SavingOrSaved respond
      (.createUser first last username password) user
      (resume wp k (respond k) s).1
      (resume wp k (respond k) s).2 := by
  cases hSaving with
  | savePrefs =>
      simp only [resume, orElseSaved]
      split
      · exact ⟨hUser, hLoggedIn,
          .inl ⟨_, rfl, .saved, hLoading⟩⟩
      · exact ⟨hUser, hLoggedIn,
          .inl ⟨_, rfl, .saveFlag, hLoading⟩⟩
  | saveFlag =>
      simp only [resume, orElseSaved]
      split
      · exact ⟨hUser, hLoggedIn,
          .inl ⟨_, rfl, .saved, hLoading⟩⟩
      · exact ⟨hUser, hLoggedIn,
          .inl ⟨_, rfl, .saveReady, hLoading⟩⟩
  | saveReady =>
      simp only [resume, orElseSaved]
      split
      · exact ⟨hUser, hLoggedIn,
          .inl ⟨_, rfl, .saved, hLoading⟩⟩
      · split
        · exact ⟨hUser, hLoggedIn,
            .inl ⟨_, rfl, .saveItem, hLoading⟩⟩
        · exact ⟨hUser, hLoggedIn,
            .inl ⟨_, rfl, .saved, hLoading⟩⟩
  | saveItem =>
      exact ⟨hUser, hLoggedIn,
        .inl ⟨_, rfl, .saved, hLoading⟩⟩
  | saved =>
      simp only [resume, succeedLogin]
      cases hThrows :
          (respond
            (.saved (.createUser first last username password)
              user)).successThrows with
      | none =>
          exact ⟨hUser, hLoggedIn, .inr ⟨rfl, by simp [hThrows]⟩⟩
      | some e =>
          refine ⟨hUser, hLoggedIn, .inr ⟨rfl, ?_⟩⟩
          simp [failLogin, hThrows, hLoading]

/- The user of a registration stays in session. -/
theorem drain_saving
    (wp : WordPress)
    (respond : Point → World)
    (first last username password : Option String)
    (user : User)
    {s : Session}
    {fuel : Nat}
    (hUser : s.user = some user)
    (hLoggedIn : s.loggedIn = true)
    (hLoading : s.loading = true)
    (hFuel : 7 < fuel) :
    let login :=
      Login.createUser first last username password
    let p :=
      (program wp).drain respond fuel
        ⟨s, [.savePrefs login user]⟩
    p.Quiescent ∧
      p.shared.Shows (some user) true
        ((respond (.saved login user)).successThrows.isSome &&
          (respond (.saved login user)).failThrows.isSome) := by
  intro login p
  have hEnds : p.Quiescent :=
    Program.drain_quiescent Point.rank (resume_rank wp) hFuel
  have hInv :
      SavingOrSaved respond login user p.shared p.pending := by
    refine Program.drain_invariant
      (I := SavingOrSaved respond login user) ?_ fuel
      ⟨hUser, hLoggedIn,
        .inl ⟨_, rfl, .savePrefs, hLoading⟩⟩
    rintro t k later ⟨hUser, hLoggedIn, hOne | ⟨hNone, _⟩⟩
    · rcases hOne with ⟨j, hEq, hSaving, hLoading⟩
      cases hEq
      exact resume_saving hSaving hUser hLoggedIn hLoading
    · cases hNone
  refine ⟨hEnds, hInv.inSession, hInv.loggedIn, ?_⟩
  rcases hInv.way with ⟨k, hOne, _⟩ | ⟨_, hLoading⟩
  · rw [hEnds] at hOne
    cases hOne
  · exact hLoading

end Session

end NewsCentral

------------------------------------------------------------
-- How A Registration Ends
------------------------------------------------------------

namespace NewsCentral

open Dart Json EventLoop

namespace RegistrationScreen

variable {wp : WordPress}

/- The service returns the user WordPress gives. -/
theorem callService_eq_ok_iff
    {http : Http}
    {form : Form}
    {user : User} :
    form.login.callService wp http none = .ok user ↔
      Gives wp http form user := by
  simp only [Form.login, Session.Login.callService,
    WordPress.createUser_eq_ok_iff,
    WordPress.getUserInfo_eq_ok_iff]
  constructor
  · rintro ⟨name, fields, hName, hAccepted, hMessage, body,
      account, cookie, hInfo, hAccount, hCookie, hUser⟩
    exact ⟨name, fields, body, account, cookie, hName,
      hAccepted, hMessage, hInfo, hAccount, hCookie, hUser⟩
  · rintro ⟨name, fields, body, account, cookie, hName,
      hAccepted, hMessage, hInfo, hAccount, hCookie, hUser⟩
    exact ⟨name, fields, hName, hAccepted, hMessage, body,
      account, cookie, hInfo, hAccount, hCookie, hUser⟩

/- WordPress gives at most one user. -/
theorem Gives.unique
    {http : Http}
    {form : Form}
    {user other : User}
    (hUser : Gives wp http form user)
    (hOther : Gives wp http form other) :
    user = other := by
  rw [← callService_eq_ok_iff] at hUser hOther
  rw [hUser] at hOther
  exact Except.ok.inj hOther

/- Whom WordPress gives it has registered. -/
theorem Gives.registrations
    {http : Http}
    {form : Form}
    {user : User}
    (hGives : Gives wp http form user) :
    registrations wp http (.service form.login none) =
      [form.username] := by
  rcases hGives with ⟨name, fields, _, _, _, hName,
    ⟨response, hHttp, hStatus, hBody⟩, hMessage, _⟩
  rcases response with ⟨status, decoded⟩
  simp only at hStatus hBody
  subst hStatus hBody
  simp [RegistrationScreen.registrations, Form.login,
    isRegistered, hName, hHttp, hMessage, isNotNull]

/- The screen when Firebase has answered. -/
def afterFirebase
    (respond : Point → Answer)
    (t : RegistrationScreen) : RegistrationScreen :=
  { t with
    firebase :=
      if created respond t.form then
        t.firebase ++ [t.form.username]
      else
        t.firebase }

theorem afterFirebase_firebase_eq_iff
    {respond : Point → Answer}
    {t : RegistrationScreen} :
    (afterFirebase respond t).firebase = t.firebase ↔
      created respond t.form = false := by
  cases hCreated : created respond t.form <;>
    simp [afterFirebase, hCreated]

theorem mem_afterFirebase_iff
    {respond : Point → Answer}
    {t : RegistrationScreen} :
    t.form.username ∈ (afterFirebase respond t).firebase ↔
      created respond t.form = true ∨
        t.form.username ∈ t.firebase := by
  cases hCreated : created respond t.form <;>
    simp [afterFirebase, hCreated]

/- Firebase is asked first, and the form looked at then. -/
theorem registered_eq
    (respond : Point → Answer)
    (t : RegistrationScreen) :
    registered wp respond t =
      (program wp).drain respond 9
        ⟨(submitRegister t.form.firstName t.form.lastName
            t.form.username t.form.password
            (afterFirebase respond t)).1,
          (submitRegister t.form.firstName t.form.lastName
            t.form.username t.form.password
            (afterFirebase respond t)).2⟩ := rfl

/- A form that is turned down calls nothing. -/
theorem registered_of_not_valid
    (wp : WordPress)
    (respond : Point → Answer)
    {t : RegistrationScreen}
    (hInvalid : ¬ t.form.Valid) :
    ∃ text,
      registered wp respond t =
        ⟨{ afterFirebase respond t with
            snackBars := t.snackBars ++ [text] }, []⟩ := by
  rw [registered_eq]
  unfold submitRegister
  split
  · exact ⟨_, Program.drain_nil _ _⟩
  · split
    · exact ⟨_, Program.drain_nil _ _⟩
    next hTexts hChecked =>
      refine absurd ?_ hInvalid
      simp only [Bool.not_eq_true, Bool.or_eq_false_iff,
        Option.isNone_eq_false_iff] at hTexts
      rcases hTexts with
        ⟨⟨⟨hFirst, hLast⟩, hUsername⟩, hPassword⟩
      exact ⟨hFirst, hLast, hUsername, hPassword,
        by simpa [afterFirebase] using hChecked⟩

/- The screen when the model has been called. -/
def called
    (respond : Point → Answer)
    (t : RegistrationScreen) : RegistrationScreen :=
  { afterFirebase respond t with
    session := { t.session with loading := true } }

/- Any other form is handed to the model. -/
theorem registered_of_valid
    {respond : Point → Answer}
    {t : RegistrationScreen}
    (hValid : t.form.Valid) :
    let r :=
      resume wp (.session (.service t.form.login none))
        (service respond t.form) (called respond t)
    registered wp respond t =
      (program wp).drain respond 8 ⟨r.1, r.2⟩ := by
  rcases hValid with
    ⟨hFirst, hLast, hUsername, hPassword, hChecked⟩
  have hTexts :
      (t.form.firstName.isNone || t.form.lastName.isNone ||
        t.form.username.isNone ||
        t.form.password.isNone) = false := by
    simp only [Bool.or_eq_false_iff,
      Option.isNone_eq_false_iff]
    exact ⟨⟨⟨hFirst, hLast⟩, hUsername⟩, hPassword⟩
  have hCalled :
      submitRegister t.form.firstName t.form.lastName
          t.form.username t.form.password
          (afterFirebase respond t) =
        (called respond t,
          [.session (.service t.form.login none)]) := by
    unfold submitRegister
    rw [hTexts]
    simp [afterFirebase, hChecked, Session.startLogin,
      Form.login, called]
  intro r
  rw [registered_eq, hCalled]
  rfl

/- Saving a user touches no account. -/
theorem drain_accounts
    (wp : WordPress)
    (respond : Point → Answer)
    (fuel : Nat)
    (u : RegistrationScreen)
    (ks : List Session.Point)
    (hAfter : ∀ k ∈ ks, k.afterService = true) :
    let p :=
      (program wp).drain respond fuel ⟨u, ks.map .session⟩
    p.shared.firebase = u.firebase ∧
      p.shared.wordPress = u.wordPress := by
  intro p
  have hInv :
      (p.shared.firebase = u.firebase ∧
        p.shared.wordPress = u.wordPress) ∧
        ∀ k ∈ p.pending,
          ∃ j, k = .session j ∧ j.afterService = true := by
    refine Program.drain_invariant
      (I := fun (v : RegistrationScreen)
          (pending : List Point) =>
        (v.firebase = u.firebase ∧
          v.wordPress = u.wordPress) ∧
          ∀ k ∈ pending,
            ∃ j, k = .session j ∧ j.afterService = true)
      ?_ fuel ⟨⟨rfl, rfl⟩, ?_⟩
    · rintro v k later ⟨⟨hFirebase, hWordPress⟩, hPoints⟩
      rcases hPoints k (by simp) with ⟨j, rfl, hJ⟩
      have hNone :
          ∀ http, registrations wp http j = [] := by
        intro http
        cases j with
        | service => cases hJ
        | _ => rfl
      refine ⟨⟨hFirebase, ?_⟩, ?_⟩
      · simpa [program, resume, hNone] using hWordPress
      · intro i hMem
        rcases List.mem_append.mp hMem with hLater | hNew
        · exact hPoints i (by simp [hLater])
        · rcases List.mem_map.mp hNew with ⟨j', hJ', rfl⟩
          exact ⟨j', rfl,
            (Session.resume_afterService wp hJ _ _).2 j'
              hJ'⟩
    · intro k hMem
      rcases List.mem_map.mp hMem with ⟨j, hJ, rfl⟩
      exact ⟨j, rfl, hAfter j hJ⟩
  exact hInv.1

/- A refusal is reported, and what Firebase did is kept. -/
theorem registered_of_refused
    {respond : Point → Answer}
    {t : RegistrationScreen}
    (hValid : t.form.Valid)
    (hRefused :
      ∀ user,
        ¬ Gives wp (service respond t.form).http t.form
          user) :
    let p := registered wp respond t
    p.Quiescent ∧
      p.shared.firebase =
        (afterFirebase respond t).firebase ∧
      p.shared.session.Shows t.session.user
        t.session.loggedIn
        (service respond t.form).failThrows.isSome := by
  have hResult :
      ∃ e,
        t.form.login.callService wp
          (service respond t.form).http none = .error e := by
    cases hCall :
        t.form.login.callService wp
          (service respond t.form).http none with
    | error e => exact ⟨e, rfl⟩
    | ok user =>
        exact absurd (callService_eq_ok_iff.mp hCall)
          (hRefused user)
  rcases hResult with ⟨e, hResult⟩
  have hTurn :
      resume wp (.session (.service t.form.login none))
          (service respond t.form) (called respond t) =
        ({ called respond t with
            session :=
              Session.failLogin t.form.login e
                (service respond t.form).toWorld
                (called respond t).session
            wordPress :=
              t.wordPress ++
                registrations wp (service respond t.form).http
                  (.service t.form.login none) }, []) := by
    simp only [resume, Session.resume, hResult]
    rfl
  rw [registered_of_valid hValid, hTurn, Program.drain_nil]
  refine ⟨rfl, rfl, rfl, rfl, ?_⟩
  simp only [Form.login, Session.failLogin]
  cases (service respond t.form).failThrows <;> rfl

/- The screen when WordPress has given a user. -/
def given
    (respond : Point → Answer)
    (t : RegistrationScreen)
    (user : User) : RegistrationScreen :=
  { called respond t with
    session :=
      { (called respond t).session with
        user := some user
        loggedIn := true
        passwordLogin :=
          t.session.passwordLogin || t.form.login.isPassword }
    wordPress := t.wordPress ++ [t.form.username] }

/- A user whom WordPress gives is logged in. -/
theorem registered_of_gives
    {respond : Point → Answer}
    {t : RegistrationScreen}
    {user : User}
    (hValid : t.form.Valid)
    (hGives :
      Gives wp (service respond t.form).http t.form user) :
    let p := registered wp respond t
    p.Quiescent ∧
      p.shared.firebase =
        (afterFirebase respond t).firebase ∧
      p.shared.wordPress =
        t.wordPress ++ [t.form.username] ∧
      p.shared.session.Shows (some user) true
        (bothThrow respond t.form user) := by
  have hResult := callService_eq_ok_iff.mpr hGives
  have hTurn :
      resume wp (.session (.service t.form.login none))
          (service respond t.form) (called respond t) =
        (given respond t user,
          [Session.Point.savePrefs t.form.login user].map
            .session) := by
    simp only [resume, Session.resume, hResult,
      hGives.registrations]
    rfl
  -- from here on the turns are those of the session
  rcases Program.drain_view
      (P := Session.program wp) (Q := program wp)
      respond session Point.session Answer.toWorld
      (fun _ _ _ => ⟨rfl, rfl⟩) 8 (given respond t user)
      [.savePrefs t.form.login user] with
    ⟨hSession, hPending⟩
  rcases Session.drain_saving wp
      (fun k => (respond (.session k)).toWorld)
      t.form.firstName t.form.lastName t.form.username
      t.form.password user
      (s := (given respond t user).session)
      rfl rfl rfl (Nat.lt_succ_self 7) with
    ⟨hRest, hShows⟩
  rcases drain_accounts wp respond 8 (given respond t user)
      [.savePrefs t.form.login user]
      (by simp [Session.Point.afterService]) with
    ⟨hFirebase, hWordPress⟩
  rw [registered_of_valid hValid, hTurn]
  refine ⟨?_, hFirebase, hWordPress, ?_⟩
  · rw [Pool.Quiescent, hPending]
    exact List.map_eq_nil_iff.mpr hRest
  · rw [hSession]
    exact hShows

end RegistrationScreen

end NewsCentral

------------------------------------------------------------
-- When A Registration Is All Or Nothing
------------------------------------------------------------

namespace NewsCentral

open Dart Json EventLoop

namespace RegistrationScreen

variable {wp : WordPress} {respond : Point → Answer}
variable {t : RegistrationScreen}

/- A form that is turned down must leave no account. -/
theorem allOrNothing_of_not_valid
    (hInvalid : ¬ t.form.Valid) :
    AllOrNothing wp (service respond t.form).http t
        (registered wp respond t).shared ↔
      created respond t.form = false := by
  rcases registered_of_not_valid wp respond hInvalid with
    ⟨text, hPool⟩
  rw [hPool, ← afterFirebase_firebase_eq_iff]
  constructor
  · intro hAll
    exact (hAll.invalid hInvalid).1
  · intro hSame
    refine ⟨.inr ⟨⟨rfl, rfl, rfl⟩, hSame⟩, ?_⟩
    intro _
    exact ⟨hSame, rfl⟩

/- A refusal must find no account at Firebase. -/
theorem allOrNothing_of_refused
    (hValid : t.form.Valid)
    (hRefused :
      ∀ user,
        ¬ Gives wp (service respond t.form).http t.form
          user) :
    AllOrNothing wp (service respond t.form).http t
        (registered wp respond t).shared ↔
      created respond t.form = false ∧
        t.session.loading =
          (service respond t.form).failThrows.isSome := by
  rcases registered_of_refused hValid hRefused with
    ⟨_, hFirebase, hShows⟩
  constructor
  · intro hAll
    rcases hAll.either with hNew | hNothing
    · rcases hNew.user with ⟨user, hGives, _⟩
      exact absurd hGives (hRefused user)
    · have hSame := hFirebase.symm.trans hNothing.firebase
      exact ⟨afterFirebase_firebase_eq_iff.mp hSame,
        hNothing.session.loading.symm.trans hShows.loading⟩
  · rintro ⟨hCreated, hLoading⟩
    have hSame := afterFirebase_firebase_eq_iff.mpr hCreated
    refine ⟨.inr ⟨?_, hFirebase.trans hSame⟩,
      fun hInvalid => absurd hValid hInvalid⟩
    rw [hLoading]
    exact hShows

/- A user must find an account at Firebase, or be known. -/
theorem allOrNothing_of_gives
    {user : User}
    (hValid : t.form.Valid)
    (hGives :
      Gives wp (service respond t.form).http t.form user) :
    AllOrNothing wp (service respond t.form).http t
        (registered wp respond t).shared ↔
      created respond t.form = true ∨
        t.form.username ∈ t.firebase ∨
        t.session.Shows (some user) true
          (bothThrow respond t.form user) := by
  rcases registered_of_gives hValid hGives with
    ⟨_, hFirebase, hWordPress, hShows⟩
  constructor
  · intro hAll
    rcases hAll.either with hNew | hNothing
    · have hMem := hNew.firebase
      rw [hFirebase, mem_afterFirebase_iff] at hMem
      rcases hMem with hCreated | hEarlier
      · exact .inl hCreated
      · exact .inr (.inl hEarlier)
    · have hSame := hNothing.session
      exact .inr (.inr
        ⟨hSame.user.symm.trans hShows.user,
          hSame.loggedIn.symm.trans hShows.loggedIn,
          hSame.loading.symm.trans hShows.loading⟩)
  · intro hAgree
    refine ⟨?_, fun hInvalid => absurd hValid hInvalid⟩
    by_cases hMem :
        t.form.username ∈ (afterFirebase respond t).firebase
    · refine .inl ⟨?_, hWordPress, ⟨user, hGives, hShows.user⟩,
        hShows.loggedIn⟩
      rw [hFirebase]
      exact hMem
    · rw [mem_afterFirebase_iff, not_or] at hMem
      have hCreated := Bool.eq_false_iff.mpr hMem.1
      have hSame :=
        afterFirebase_firebase_eq_iff.mpr hCreated
      rcases hAgree with hNew | hEarlier | hKnown
      · exact absurd hNew hMem.1
      · exact absurd hEarlier hMem.2
      · refine .inr ⟨?_, hFirebase.trans hSame⟩
        rw [hKnown.user, hKnown.loggedIn, hKnown.loading]
        exact hShows

/-
  A registration comes to its end, and it is all or nothing
  exactly if Firebase and the rest agree.
-/
theorem allOrNothing_iff
    (wp : WordPress)
    (respond : Point → Answer)
    (t : RegistrationScreen) :
    (registered wp respond t).Quiescent ∧
      (AllOrNothing wp (service respond t.form).http t
          (registered wp respond t).shared ↔
        Agree wp respond t) := by
  by_cases hValid : t.form.Valid
  · by_cases hGiven :
        ∃ user,
          Gives wp (service respond t.form).http t.form user
    · rcases hGiven with ⟨user, hGives⟩
      refine ⟨(registered_of_gives hValid hGives).1, ?_⟩
      rw [allOrNothing_of_gives hValid hGives]
      constructor
      · intro hAgree
        refine ⟨fun hInvalid => absurd hValid hInvalid,
          fun _ hRefused => absurd hGives (hRefused user), ?_⟩
        intro other _ hOther
        rw [← hGives.unique hOther]
        exact hAgree
      · intro hAgree
        exact hAgree.given user hValid hGives
    · have hRefused := not_exists.mp hGiven
      refine ⟨(registered_of_refused hValid hRefused).1, ?_⟩
      rw [allOrNothing_of_refused hValid hRefused]
      constructor
      · intro hAgree
        exact ⟨fun hInvalid => absurd hValid hInvalid,
          fun _ _ => hAgree,
          fun user _ hGives =>
            absurd hGives (hRefused user)⟩
      · intro hAgree
        exact hAgree.refused hValid hRefused
  · constructor
    · rcases registered_of_not_valid wp respond hValid with
        ⟨_, hPool⟩
      rw [hPool]
      rfl
    · rw [allOrNothing_of_not_valid hValid]
      constructor
      · intro hCreated
        exact ⟨fun _ => hCreated,
          fun hOther => absurd hOther hValid,
          fun _ hOther => absurd hOther hValid⟩
      · intro hAgree
        exact hAgree.invalid hValid

/-
  Everything is filled in but the box is not ticked: the
  account of Firebase is there all the same.
-/
theorem unticked_form_leaves_account :
    let t : RegistrationScreen :=
      { form :=
          { firstName := some "Ada"
            lastName := some "Obi"
            username := some "ada@example.com"
            password := some "secret" } }
    let u :=
      (registered newsService (fun _ => { created := true })
        t).shared
    (∀ http, ¬ AllOrNothing newsService http t u) ∧
      u.firebase = [some "ada@example.com"] ∧
      u.session.user = none ∧
      u.snackBars = ["Please agree with our terms"] := by
  refine ⟨?_, rfl, rfl, rfl⟩
  intro http hAll
  rcases hAll.either with hNew | hNothing
  · cases hNew.loggedIn
  · cases hNothing.firebase

end RegistrationScreen

end NewsCentral
