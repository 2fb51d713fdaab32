import NewsCentral.Session.Turns

/-
  Whose posting token `createBlog` sends.

  Only a password login obtains a token, and no operation
  ever removes the stored one: a logout leaves it and the
  other logins do not replace it.  The conditions below name
  the steps at which a token can come under another user.

  Key definitions include:
    * `NewsCentral.Session.Owns`
    * `NewsCentral.Session.TokenBelongs`
    * `NewsCentral.Session.tokenCall`
    * `NewsCentral.Session.tokenResume`
    * `NewsCentral.Session.TokenInvariant`

  Key theorems include:
    * `NewsCentral.Session.TokenInvariant.call`
    * `NewsCentral.Session.TokenInvariant.resume`
    * `NewsCentral.Session.tokenBelongs_of_run`
-/

------------------------------------------------------------
-- Owners Of Tokens
------------------------------------------------------------

namespace NewsCentral

open Dart Json EventLoop

namespace Session

/- A password login of this user obtained the token. -/
def Owns
    (obtained : List (User × String))
    (token : String)
    (user : Option User) : Prop :=
  ∃ entry ∈ obtained, entry.2 = token ∧
    user.map User.id = some entry.1.id

instance
    (obtained : List (User × String))
    (token : String)
    (user : Option User) :
    Decidable (Owns obtained token user) := by
  unfold Owns
  infer_instance

/-
  Every request of `createBlog` bears a token that a
  password login obtained for the user who was in session,
  and without a password login since the last logout there
  is no token to be read.
-/
structure TokenBelongs (s : Session) : Prop where
  sent :
    ∀ caller request, (caller, request) ∈ s.sent →
      ∃ token, request.bearer = some token ∧
        Owns s.obtained token caller
  stored :
    s.passwordLogin = false → s.storage.jwtToken = none

/- More tokens take no token away. -/
theorem Owns.append
    {obtained : List (User × String)}
    {token : String}
    {user : Option User}
    (hOwns : Owns obtained token user)
    (more : List (User × String)) :
    Owns (obtained ++ more) token user := by
  rcases hOwns with ⟨entry, hMem, hToken, hId⟩
  exact ⟨entry, List.mem_append_left _ hMem, hToken, hId⟩

/- Users with the same id own the same tokens. -/
theorem Owns.of_id_eq
    {obtained : List (User × String)}
    {token : String}
    {user other : Option User}
    (hOwns : Owns obtained token user)
    (hId : other.map User.id = user.map User.id) :
    Owns obtained token other := by
  rcases hOwns with ⟨entry, hMem, hToken, hEq⟩
  exact ⟨entry, hMem, hToken, hId.trans hEq⟩

------------------------------------------------------------
-- Steps That Keep A Token With Its User
------------------------------------------------------------

/- The session may pass to a user who owns its token. -/
def PassesTo
    (s : Session)
    (user : User) : Prop :=
  match s.storage.jwtToken with
  | none => True
  | some token => Owns s.obtained token (some user)

instance (s : Session) (user : User) :
    Decidable (s.PassesTo user) := by
  unfold PassesTo
  split <;> infer_instance

/- Nobody logs out while a token is stored. -/
def tokenCall
    (s : Session)
    (_ : List Point) : Op → Prop
  | .logout => s.storage.jwtToken = none
  | _ => True

/-
  A session begins only over its own token or over none; a
  token is fetched with the texts of the login and stored
  while its user is in session; a blog is posted while its
  caller is in session and the storage works.
-/
def tokenResume
    (wp : WordPress)
    (s : Session)
    (_ : List Point)
    (k : Point)
    (w : World) : Prop :=
  match k with
  | .service login token =>
      match login.callService wp w.http token with
      | .error _ => True
      | .ok user => s.PassesTo user
  | .getUserReady =>
      w.throws = none → w.ready = true →
        match s.storage.userInfo with
        | some (.obj fields) =>
            s.PassesTo (User.fromLocalJson (.obj fields))
        | _ => True
  | .jwtAuth _ _ _ own => own = true
  | .jwtReady user _ =>
      w.throws = none → w.ready = true →
        s.passwordLogin = true ∧
          s.user.map User.id = some user.id
  | .blogReady caller file _ =>
      file ≠ none →
        w.throws = none ∧ w.ready = true ∧
          (s.storage.jwtToken = none ∨
            caller.map User.id = s.user.map User.id)
  | _ => True

instance (s : Session) (pending : List Point) (op : Op) :
    Decidable (tokenCall s pending op) := by
  unfold tokenCall
  split <;> infer_instance

instance
    (wp : WordPress)
    (s : Session)
    (pending : List Point)
    (k : Point)
    (w : World) :
    Decidable (tokenResume wp s pending k w) := by
  unfold tokenResume
  split
  · split <;> infer_instance
  · split <;> infer_instance
  all_goals infer_instance

end Session

end NewsCentral

------------------------------------------------------------
-- The Invariant
------------------------------------------------------------

namespace NewsCentral

open Dart Json EventLoop

namespace Session

/- A suspended point carries a token of the right user. -/
def TokenPoint
    (obtained : List (User × String)) : Point → Prop
  | .jwtReady user token => (user, token) ∈ obtained
  | .blogUpload caller _ token _ => Owns obtained token caller
  | _ => True

/-
  The stored token belongs to the session, tokens on their
  way belong to the users they travel with, and everything
  sent was sent rightly.
-/
structure TokenInvariant
    (s : Session)
    (pending : List Point) : Prop where
  stored :
    ∀ token, s.storage.jwtToken = some token →
      s.passwordLogin = true ∧ Owns s.obtained token s.user
  points : ∀ k ∈ pending, TokenPoint s.obtained k
  sent :
    ∀ caller request, (caller, request) ∈ s.sent →
      ∃ token, request.bearer = some token ∧
        Owns s.obtained token caller

/- The part of a session that the invariant looks at. -/
def tokenView
    (s : Session) :
    Option User × Option String ×
      List (User × String) ×
      List (Option User × Request) × Bool :=
  (s.user, s.storage.jwtToken, s.obtained, s.sent,
    s.passwordLogin)

/- A point that carries no token and makes no session. -/
def Point.quiet : Point → Bool
  | .service .. => false
  | .getUserReady => false
  | .jwtAuth .. => false
  | .jwtReady .. => false
  | .blogReady .. => false
  | .blogUpload .. => false
  | _ => true

/- A point that has a token to store or to send. -/
def Point.carriesToken : Point → Bool
  | .jwtReady .. => true
  | .blogUpload .. => true
  | _ => false

theorem tokenPoint_of_not_carries
    {k : Point}
    (hFree : k.carriesToken = false)
    (obtained : List (User × String)) :
    TokenPoint obtained k := by
  cases k with
  | jwtReady => simp [Point.carriesToken] at hFree
  | blogUpload => simp [Point.carriesToken] at hFree
  | _ => trivial

theorem TokenPoint.append
    {obtained : List (User × String)}
    {k : Point}
    (hPoint : TokenPoint obtained k)
    (more : List (User × String)) :
    TokenPoint (obtained ++ more) k := by
  cases k with
  | jwtReady => exact List.mem_append_left _ hPoint
  | blogUpload => exact Owns.append hPoint more
  | _ => trivial

/- At launch nobody is in session and no token is stored. -/
theorem TokenInvariant.launched
    {s : Session}
    (hToken : s.storage.jwtToken = none)
    (hSent : s.sent = []) :
    TokenInvariant s (launched s).pending where
  stored := by simp [hToken]
  points := by simp [Session.launched, TokenPoint]
  sent := by simp [hSent]

/- The invariant yields what it is for. -/
theorem TokenInvariant.belongs
    {s : Session}
    {pending : List Point}
    (hInv : TokenInvariant s pending) :
    TokenBelongs s where
  sent := hInv.sent
  stored := by
    intro hNoLogin
    cases hToken : s.storage.jwtToken with
    | none => rfl
    | some token =>
        have hLogin := (hInv.stored token hToken).1
        rw [hNoLogin] at hLogin
        cases hLogin

/-
  A turn that leaves the view alone and carries no token
  away keeps the invariant.
-/
theorem TokenInvariant.of_view_eq
    {s t : Session}
    {rest pending : List Point}
    (hInv : TokenInvariant s pending)
    (hRest : ∀ k ∈ rest, k ∈ pending)
    {next : List Point}
    (hView : t.tokenView = s.tokenView)
    (hNext : ∀ k ∈ next, TokenPoint s.obtained k) :
    TokenInvariant t (rest ++ next) := by
  simp only [tokenView, Prod.mk.injEq] at hView
  rcases hView with
    ⟨hUser, hToken, hObtained, hSent, hLogin⟩
  constructor
  · rw [hToken, hLogin, hObtained, hUser]
    exact hInv.stored
  · intro k hMem
    rw [hObtained]
    rcases List.mem_append.mp hMem with hOld | hNew
    · exact hInv.points k (hRest k hOld)
    · exact hNext k hNew
  · rw [hSent, hObtained]
    exact hInv.sent

end Session

end NewsCentral

------------------------------------------------------------
-- Steps Keep The Invariant
------------------------------------------------------------

namespace NewsCentral

open Dart Json EventLoop

namespace Session

/- Callbacks do not touch the view. -/
theorem tokenView_withCallbacks
    (s : Session)
    (loading : Bool)
    (callbacks : List Callback) :
    (s.withCallbacks loading callbacks).tokenView =
      s.tokenView := rfl

/- Quiet points do nothing to tokens and sessions. -/
theorem resume_quiet
    (wp : WordPress)
    {k : Point}
    (hQuiet : k.quiet = true)
    (w : World)
    (s : Session) :
    (resume wp k w s).1.tokenView = s.tokenView ∧
      ∀ j ∈ (resume wp k w s).2,
        j.carriesToken = false := by
  cases k with
  | service | getUserReady | jwtAuth | jwtReady | blogReady
  | blogUpload => simp [Point.quiet] at hQuiet
  | saved login user =>
      refine
        ⟨view_succeedLogin tokenView tokenView_withCallbacks
          login user w s, ?_⟩
      rcases succeedLogin_points login user w s with
        hNone | ⟨username, password, own, hOne⟩
      · simp [resume, hNone]
      · simp [resume, hOne, Point.carriesToken]
  | _ =>
      simp only [resume, orElseSaved]
      repeat' split
      all_goals
        simp [view_failLogin tokenView tokenView_withCallbacks,
          view_facebookRefused tokenView
            tokenView_withCallbacks,
          Point.carriesToken]
      all_goals rfl

/- A call starts no session and carries no token. -/
theorem TokenInvariant.call
    {s t : Session}
    {pending next : List Point}
    {op : Op}
    (hInv : TokenInvariant s pending)
    (hOk : tokenCall s pending op)
    (hCall : Session.call op s = some (t, next)) :
    TokenInvariant t (pending ++ next) := by
  have hKeep :
      ∀ {u : Session} {k : Point},
        u.tokenView = s.tokenView →
        k.carriesToken = false →
        TokenInvariant u (pending ++ [k]) := by
    intro u k hView hFree
    refine hInv.of_view_eq (fun _ => id) hView ?_
    intro j hMem
    rw [List.mem_singleton.mp hMem]
    exact tokenPoint_of_not_carries hFree _
  cases op with
  | attempt login =>
      cases login <;> cases hCall <;> exact hKeep rfl rfl
  | getUser =>
      cases hCall
      exact hKeep rfl rfl
  | createBlog file data =>
      cases hCall
      exact hKeep rfl rfl
  | logout =>
      cases hCall
      constructor
      · intro token hToken
        have hNone : s.storage.jwtToken = none := hOk
        rw [hNone] at hToken
        cases hToken
      · intro k hMem
        rcases List.mem_append.mp hMem with hOld | hNew
        · exact hInv.points k hOld
        · rw [List.mem_singleton.mp hNew]
          trivial
      · exact hInv.sent

/- A session that takes over keeps the rest. -/
theorem TokenInvariant.passTo
    {s : Session}
    {rest pending next : List Point}
    {user : User}
    (hInv : TokenInvariant s pending)
    (hRest : ∀ k ∈ rest, k ∈ pending)
    (hPass : s.PassesTo user)
    {t : Session}
    (hUser : t.user = some user)
    (hLogin : s.passwordLogin = true → t.passwordLogin = true)
    (hSame :
      t.storage.jwtToken = s.storage.jwtToken ∧
        t.obtained = s.obtained ∧ t.sent = s.sent)
    (hNext : ∀ k ∈ next, k.carriesToken = false) :
    TokenInvariant t (rest ++ next) := by
  rcases hSame with ⟨hToken, hObtained, hSent⟩
  constructor
  · intro token hStored
    rw [hToken] at hStored
    refine ⟨hLogin (hInv.stored token hStored).1, ?_⟩
    rw [hObtained, hUser]
    simpa [PassesTo, hStored] using hPass
  · intro k hMem
    rw [hObtained]
    rcases List.mem_append.mp hMem with hOld | hNew
    · exact hInv.points k (hRest k hOld)
    · exact tokenPoint_of_not_carries (hNext k hNew) _
  · rw [hSent, hObtained]
    exact hInv.sent

/- A token is obtained for the user of the login. -/
theorem TokenInvariant.obtain
    {s : Session}
    {rest pending : List Point}
    (hInv : TokenInvariant s pending)
    (hRest : ∀ k ∈ rest, k ∈ pending)
    (user : User)
    (token : String) :
    TokenInvariant
      { s with obtained := s.obtained ++ [(user, token)] }
      (rest ++ [.jwtReady user token]) := by
  constructor
  · intro stored hStored
    rcases hInv.stored stored hStored with ⟨hLogin, hOwns⟩
    exact ⟨hLogin, hOwns.append _⟩
  · intro k hMem
    rcases List.mem_append.mp hMem with hOld | hNew
    · exact (hInv.points k (hRest k hOld)).append _
    · rw [List.mem_singleton.mp hNew]
      exact List.mem_append_right _ (by simp)
  · intro caller request hSent
    rcases hInv.sent caller request hSent with
      ⟨sent, hBearer, hOwns⟩
    exact ⟨sent, hBearer, hOwns.append _⟩

/- A token is stored while its user is in session. -/
theorem TokenInvariant.store
    {s : Session}
    {rest pending : List Point}
    {user : User}
    {token : String}
    (hInv : TokenInvariant s pending)
    (hRest : ∀ k ∈ rest, k ∈ pending)
    (hMem : .jwtReady user token ∈ pending)
    (hLogin : s.passwordLogin = true)
    (hId : s.user.map User.id = some user.id) :
    TokenInvariant
      { s with
        storage :=
          { s.storage with jwtToken := some token } }
      (rest ++ [.jwtItem]) := by
  constructor
  · intro stored hStored
    cases hStored
    exact ⟨hLogin, (user, token), hInv.points _ hMem, rfl, hId⟩
  · intro k hAny
    rcases List.mem_append.mp hAny with hOld | hNew
    · exact hInv.points k (hRest k hOld)
    · rw [List.mem_singleton.mp hNew]
      trivial
  · exact hInv.sent

/- A blog is posted with the token of its caller. -/
theorem TokenInvariant.send
    {s : Session}
    {rest pending next : List Point}
    {caller : Option User}
    {request : Request}
    {token : String}
    (hInv : TokenInvariant s pending)
    (hRest : ∀ k ∈ rest, k ∈ pending)
    (hOwns : Owns s.obtained token caller)
    (hBearer : request.bearer = some token)
    (hNext : ∀ k ∈ next, TokenPoint s.obtained k) :
    TokenInvariant
      { s with sent := s.sent ++ [(caller, request)] }
      (rest ++ next) := by
  constructor
  · exact hInv.stored
  · intro k hMem
    rcases List.mem_append.mp hMem with hOld | hNew
    · exact hInv.points k (hRest k hOld)
    · exact hNext k hNew
  · intro who what hMem
    rcases List.mem_append.mp hMem with hOld | hNew
    · exact hInv.sent who what hOld
    · cases List.mem_singleton.mp hNew
      exact ⟨token, hBearer, hOwns⟩

/- Every admitted turn keeps the invariant. -/
theorem TokenInvariant.resume
    {wp : WordPress}
    {s : Session}
    {rest pending : List Point}
    {k : Point}
    {w : World}
    (hInv : TokenInvariant s pending)
    (hMem : k ∈ pending)
    (hRest : ∀ j ∈ rest, j ∈ pending)
    (hOk : tokenResume wp s rest k w) :
    TokenInvariant (Session.resume wp k w s).1
      (rest ++ (Session.resume wp k w s).2) := by
  have hSame : TokenInvariant s (rest ++ []) :=
    hInv.of_view_eq hRest rfl (by simp)
  by_cases hQuiet : k.quiet = true
  · rcases resume_quiet wp hQuiet w s with ⟨hView, hFree⟩
    exact hInv.of_view_eq hRest hView fun j hNew =>
      tokenPoint_of_not_carries (hFree j hNew) _
  cases k with
  | service login token =>
      simp only [Session.resume, tokenResume] at hOk ⊢
      cases hResult :
          login.callService wp w.http token with
      | error e =>
          exact hInv.of_view_eq hRest
            (view_failLogin tokenView tokenView_withCallbacks
              login e w s)
            (by simp)
      | ok user =>
          rw [hResult] at hOk
          exact hInv.passTo hRest hOk rfl
            (by intro hLogin; simp [hLogin])
            ⟨rfl, rfl, rfl⟩ (by simp [Point.carriesToken])
  | getUserReady =>
      simp only [Session.resume]
      split
      next hReady =>
        simp only [Bool.and_eq_true,
          Option.isNone_iff_eq_none] at hReady
        have hLoad := hOk hReady.1 hReady.2
        unfold loadUser
        split
        next fields hUserInfo =>
          rw [hUserInfo] at hLoad
          exact hInv.passTo hRest hLoad rfl id
            ⟨rfl, rfl, rfl⟩ (by simp)
        next => exact hSame
      next => exact hSame
  | jwtAuth user username password own =>
      have hOwn : own = true := hOk
      simp only [Session.resume, hOwn, if_true]
      split
      next token hResult =>
        exact hInv.obtain hRest user token
      next => exact hSame
  | jwtReady user token =>
      simp only [Session.resume]
      split
      next hReady =>
        simp only [Bool.and_eq_true,
          Option.isNone_iff_eq_none] at hReady
        rcases hOk hReady.1 hReady.2 with ⟨hLogin, hId⟩
        exact hInv.store hRest hMem hLogin hId
      next => exact hSame
  | blogReady caller file data =>
      simp only [Session.resume]
      cases file with
      | none =>
          generalize
            (if (w.throws.isNone && w.ready) = true then
              s.storage.jwtToken else some "") = token
          cases token <;> exact hSame
      | some file =>
          rcases hOk (by simp) with
            ⟨hThrows, hReady, hCaller⟩
          simp only [hThrows, hReady, Option.isNone_none,
            Bool.and_self, if_true]
          cases hToken : s.storage.jwtToken with
          | none => exact hSame
          | some token =>
              have hId : caller.map User.id =
                  s.user.map User.id := by
                simpa [hToken] using hCaller
              have hOwns : Owns s.obtained token caller :=
                (hInv.stored token hToken).2.of_id_eq hId
              exact hInv.send hRest hOwns rfl
                (by
                  simpa [uploadBlogImage, TokenPoint]
                    using hOwns)
  | blogUpload caller file token data =>
      simp only [Session.resume]
      split
      next => exact hSame
      next =>
        exact hInv.send hRest (hInv.points _ hMem) rfl
          (by simp [TokenPoint])
  | _ => exact absurd rfl hQuiet

/-
  On a device without a stored token, every run that keeps
  tokens with their users posts each blog with a token of
  the user in session, and with none after a logout.
-/
theorem tokenBelongs_of_run
    {wp : WordPress}
    {s : Session}
    {es : List (Event Op World)}
    {p : Pool Session Point}
    (hToken : s.storage.jwtToken = none)
    (hSent : s.sent = [])
    (hRun :
      (program wp).system.Run
        (Program.when tokenCall (tokenResume wp))
        (launched s) es p) :
    TokenBelongs p.shared := by
  have hInv : TokenInvariant p.shared p.pending := by
    refine Program.run_invariant
      (I := fun _ s pending => TokenInvariant s pending)
      hRun (TokenInvariant.launched hToken hSent) ?_ ?_
    · intro _ s pending op t next hInv hOk hCall
      exact hInv.call hOk hCall
    · intro _ s earlier k later w hInv hOk _
      exact hInv.resume (by simp)
        (fun _ hMem => mem_of_mem_rest hMem) hOk
  exact hInv.belongs

/- A service that knows an account with a posting token. -/
def accountWorld (id : Int) : World where
  http := fun _ => .ok
    { statusCode := 200
      decoded := some (.obj
        [ ("cookie", .str "cookie"),
          ("user", .obj [("id", .int id)]),
          ("wp_user_id", .int id),
          ("user_login", .str "reader"),
          ("token", .str "token") ]) }

/- A password login from the launch to its stored token. -/
def loginTurns : List (Event Op World) :=
  .resume 0 {} ::
    .call (.attempt
      (.login "writer" "secret" "writer " "secret")) ::
    turns 9 (accountWorld 1)

/- A blog with an image. -/
def blogTurns : List (Event Op World) :=
  [ .call (.createBlog (some "front.png") (.obj [])),
    .resume 0 {} ]

/- A user who logged in with a password posts a blog. -/
theorem tokenBelongs_after_login :
    ∃ p : Pool Session Point,
      (program newsService).system.Run
        (Program.when tokenCall (tokenResume newsService))
        (launched {}) (loginTurns ++ blogTurns) p ∧
      p.shared.sent.length = 1 ∧
      TokenBelongs p.shared := by
  have hRun :
      (program newsService).system.Run
        (Program.when tokenCall (tokenResume newsService))
        (launched {}) (loginTurns ++ blogTurns) _ :=
    System.run_iff_exec.mpr ⟨by decide, rfl⟩
  exact ⟨_, hRun, rfl, tokenBelongs_of_run rfl rfl hRun⟩

/-
  After the writer logs out, a reader who logs in by phone
  posts with the writer's token.
-/
theorem token_survives_logout :
    ∃ p : Pool Session Point,
      (program newsService).system.Run System.anyStep
        (launched {})
        (loginTurns ++
          .call .logout :: turns 5 ({} : World) ++
          .call (.attempt
            (.loginFirebaseSMS (some "+2348000000000"))) ::
          turns 6 (accountWorld 2) ++ blogTurns)
        p ∧
      ¬ TokenBelongs p.shared ∧
      ∃ reader,
        p.shared.sent =
          [(some reader,
            newsService.mediaRequest "front.png" "token")] ∧
        ¬ Owns p.shared.obtained "token" (some reader) := by
  refine ⟨_, System.run_of_exec rfl, ?_, ?_⟩
  · intro hBelongs
    have hNone := hBelongs.stored (by decide)
    exact absurd hNone (by decide)
  · exact ⟨_, rfl, by decide⟩

end Session

end NewsCentral
