import NewsCentral.Chat.Device

/-
  Whose room the messages of a device go to.

  A `ChatScreen` writes as `loggedInUser`.  The room is that
  of the session as long as no screen is opened with a
  `loggedInUser` of someone else, no screen reads one from
  Firebase, and the session does not pass to another user
  under an open screen.

  Key definitions include:
    * `NewsCentral.Device.SendsOwn`
    * `NewsCentral.Device.roomCall`
    * `NewsCentral.Device.roomResume`

  Key theorems include:
    * `NewsCentral.Device.sendsOwn_iff_knowsUser`
    * `NewsCentral.Device.sendsOwn_iff`
-/

------------------------------------------------------------
-- Own Rooms
------------------------------------------------------------

namespace NewsCentral

open Dart EventLoop

namespace Chat

/- A write to the room of an email, with it as the sender. -/
def Write.OwnedBy (email : String) : Write → Prop
  | .add id message =>
      id = .named email ∧ message.sender = some email
  | .setData id _ => id = .named email
  | .updateData id _ => id = .named email

end Chat

namespace Device

/- Whatever is sent goes to the room of the session's user. -/
def SendsOwn (d : Device) : Prop :=
  ∀ messagesText addedAt mergedAt addKey mergeKey,
    ∀ w ∈ d.send messagesText addedAt mergedAt addKey mergeKey,
      ∃ user email, d.session.user = some user ∧
        user.email = some email ∧ w.OwnedBy email

/- The Firebase user is the user with this email. -/
def Same (user : Option User) (other : FirebaseUser) : Prop :=
  other.email ≠ none ∧ user.bind User.email = other.email

instance
    (user : Option User)
    (other : FirebaseUser) :
    Decidable (Same user other) := by
  unfold Same
  infer_instance

/- The variable is null, or holds the user with this email. -/
def Knows
    (user : Option User)
    (loggedInUser : Option FirebaseUser) : Prop :=
  ∀ other ∈ loggedInUser, Same user other

instance
    (user : Option User)
    (loggedInUser : Option FirebaseUser) :
    Decidable (Knows user loggedInUser) := by
  unfold Knows
  infer_instance

/- An open screen holds the session's user. -/
def KnowsUser (d : Device) : Prop :=
  d.chatScreen ≠ none → Knows d.session.user d.loggedInUser

/- What is sent shows whom the screen holds. -/
theorem sendsOwn_iff_knowsUser
    {d : Device} :
    d.SendsOwn ↔ d.KnowsUser := by
  constructor
  · intro hSends hOpen other hOther
    rcases Option.ne_none_iff_exists'.mp hOpen with
      ⟨screen, hScreen⟩
    have hFirst :=
      hSends "hello" .noon .noon 0 0
        (.add (Chat.document other.email 0)
          { text := "hello"
            sender := other.email
            createdAt := DateTime.noon.toText })
        (by
          rw [Option.mem_def] at hOther
          simp [send, hScreen, hOther, Chat.Screen.send])
    rcases hFirst with ⟨user, email, hUser, hEmail, hOwned⟩
    have hSender : other.email = some email := hOwned.2
    refine ⟨by simp [hSender], ?_⟩
    rw [hUser, hSender]
    exact hEmail
  · intro hKnows text addedAt mergedAt addKey mergeKey w hMem
    unfold send at hMem
    cases hScreen : d.chatScreen with
    | none => simp [hScreen] at hMem
    | some screen =>
        cases hOther : d.loggedInUser with
        | none => simp [hScreen, hOther] at hMem
        | some other =>
            have hSame :=
              hKnows (by simp [hScreen]) other hOther
            rcases Option.ne_none_iff_exists'.mp hSame.1 with
              ⟨email, hEmail⟩
            have hBind := hSame.2
            rw [hEmail, Option.bind_eq_some_iff] at hBind
            rcases hBind with ⟨user, hUser, hTheirs⟩
            refine ⟨user, email, hUser, hTheirs, ?_⟩
            simp only [hScreen, hOther, hEmail,
              Chat.Screen.send] at hMem
            by_cases hEmpty : text = ""
            · simp [hEmpty] at hMem
            · rw [if_neg hEmpty, if_neg (by decide),
                List.mem_cons, List.mem_singleton] at hMem
              rcases hMem with rfl | rfl
              · exact ⟨rfl, rfl⟩
              · rfl

/-
  Nobody logs out under a screen that knows its user, and a
  screen is opened by the user whom the variable holds, if
  it holds one.
-/
def roomCall
    (d : Device)
    (_ : List Point) : Op → Prop
  | .drawerLogout =>
      d.chatScreen = none ∨ d.loggedInUser = none
  | .profileLogout =>
      d.chatScreen = none ∨ d.loggedInUser = none
  | .buildChatTab =>
      ∀ user ∈ d.session.user,
        user.email ≠ some Chat.adminEmail →
          Knows (some user) d.loggedInUser
  | _ => True

/-
  Under an open screen the session passes only to the user
  whom the variable holds; Firebase tells an open screen of
  the session's user or of nobody.
-/
def roomResume
    (wp : WordPress)
    (d : Device)
    (_ : List Point)
    (point : Point)
    (a : Answer) : Prop :=
  match point with
  | .session point _ =>
      ∀ user ∈ Session.begun wp point a.toWorld d.session,
        d.chatScreen ≠ none →
          Knows (some user) d.loggedInUser
  | .currentUser screen user =>
      a.throws = none → d.chatScreen = some screen →
        Knows d.session.user user
  | _ => True

instance
    (d : Device)
    (pending : List Point)
    (op : Op) :
    Decidable (roomCall d pending op) :=
  match op with
  | .drawerLogout =>
      inferInstanceAs (Decidable
        (d.chatScreen = none ∨ d.loggedInUser = none))
  | .profileLogout =>
      inferInstanceAs (Decidable
        (d.chatScreen = none ∨ d.loggedInUser = none))
  | .buildChatTab =>
      inferInstanceAs (Decidable
        (∀ user ∈ d.session.user,
          user.email ≠ some Chat.adminEmail →
            Knows (some user) d.loggedInUser))
  | .login _ => isTrue trivial
  | .register .. => isTrue trivial
  | .verify => isTrue trivial
  | .getUser => isTrue trivial
  | .closeChatTab => isTrue trivial

instance
    (wp : WordPress)
    (d : Device)
    (pending : List Point)
    (point : Point)
    (a : Answer) :
    Decidable (roomResume wp d pending point a) :=
  match point with
  | .session point _ =>
      inferInstanceAs (Decidable
        (∀ user ∈ Session.begun wp point a.toWorld d.session,
          d.chatScreen ≠ none →
            Knows (some user) d.loggedInUser))
  | .currentUser screen user =>
      inferInstanceAs (Decidable
        (a.throws = none → d.chatScreen = some screen →
          Knows d.session.user user))
  | .signOut => isTrue trivial
  | .signInWithEmail .. => isTrue trivial
  | .createAccount .. => isTrue trivial
  | .signInWithNew .. => isTrue trivial
  | .createUser .. => isTrue trivial
  | .signInWithCredential => isTrue trivial
  | .delayed _ => isTrue trivial

end Device

end NewsCentral

------------------------------------------------------------
-- Steps
------------------------------------------------------------

namespace NewsCentral

open Dart EventLoop

namespace Device

variable {wp : WordPress} {d e : Device}

/- The session's user is all that a screen is compared with. -/
theorem KnowsUser.of_same
    (hKnows : d.KnowsUser)
    (hUser : e.session.user = d.session.user)
    (hScreen : e.chatScreen = d.chatScreen)
    (hOther : e.loggedInUser = d.loggedInUser) :
    e.KnowsUser := by
  unfold KnowsUser
  rw [hUser, hScreen, hOther]
  exact hKnows

/- Starting a login touches nobody. -/
theorem user_startLogin
    (login : Session.Login)
    (s : Session) :
    (Session.startLogin login s).1.user = s.user := by
  cases login <;> rfl

theorem user_callSession
    {op : Session.Op}
    {fromProfile : Bool}
    {points : List Point}
    (hCall : callSession op fromProfile d = some (e, points)) :
    e.chatScreen = d.chatScreen ∧
      e.loggedInUser = d.loggedInUser ∧
      (e.session.user = d.session.user ∨
        op = .logout ∧ e.session.user = none) := by
  unfold callSession at hCall
  cases op with
  | attempt login =>
      cases hCall
      exact ⟨rfl, rfl, .inl (user_startLogin login d.session)⟩
  | getUser =>
      cases hCall
      exact ⟨rfl, rfl, .inl rfl⟩
  | logout =>
      cases hCall
      exact ⟨rfl, rfl, .inr ⟨rfl, rfl⟩⟩
  | createBlog file data =>
      cases hCall
      exact ⟨rfl, rfl, .inl rfl⟩

/- Nobody is known to a screen without a session. -/
theorem knowsUser_iff_of_logged_out
    (hUser : d.session.user = none) :
    d.KnowsUser ↔
      d.chatScreen = none ∨ d.loggedInUser = none := by
  unfold KnowsUser
  rw [hUser]
  constructor
  · intro hKnows
    by_cases hScreen : d.chatScreen = none
    · exact .inl hScreen
    · cases hOther : d.loggedInUser with
      | none => exact .inr rfl
      | some other =>
          have hSame := hKnows hScreen other hOther
          exact absurd hSame.2.symm hSame.1
  · rintro (hScreen | hOther) hOpen
    · exact absurd hScreen hOpen
    · simp [Knows, hOther]

theorem knowsUser_logout_iff
    {fromProfile : Bool}
    {points : List Point}
    (hCall :
      callSession .logout fromProfile d = some (e, points)) :
    e.KnowsUser ↔
      d.chatScreen = none ∨ d.loggedInUser = none := by
  cases hCall
  exact knowsUser_iff_of_logged_out rfl

/- A screen is opened, or stays, for a user who is no admin. -/
theorem knowsUser_buildChatTab_iff
    (hKnows : d.KnowsUser) :
    (buildChatTab d).1.KnowsUser ↔
      ∀ user ∈ d.session.user,
        user.email ≠ some Chat.adminEmail →
          Knows (some user) d.loggedInUser := by
  unfold buildChatTab
  cases hUser : d.session.user with
  | none => exact iff_of_true (absurd rfl) (by simp)
  | some user =>
      by_cases hAdmin : user.email = some Chat.adminEmail
      · simp only [if_pos hAdmin]
        refine iff_of_true (absurd rfl) ?_
        intro other hOther hNot
        cases hOther
        exact absurd hAdmin hNot
      · simp only [if_neg hAdmin]
        have hFor :
            (∀ other ∈ some user,
              other.email ≠ some Chat.adminEmail →
                Knows (some other) d.loggedInUser) ↔
              Knows (some user) d.loggedInUser := by
          constructor
          · intro hAll
            exact hAll user rfl hAdmin
          · intro hThis other hOther _
            cases hOther
            exact hThis
        rw [hFor]
        cases hScreen : d.chatScreen with
        | some screen =>
            refine iff_of_true hKnows ?_
            have hOpen := hKnows (by simp [hScreen])
            rw [hUser] at hOpen
            exact hOpen
        | none =>
            unfold KnowsUser
            simp only [hUser]
            constructor
            · intro hOpen
              exact hOpen (by simp)
            · intro hThis _
              exact hThis

/- A call leaves the screen knowing its user or breaks it. -/
theorem knowsUser_call_iff
    {op : Op}
    {points pending : List Point}
    (hKnows : d.KnowsUser)
    (hCall : call op d = some (e, points)) :
    e.KnowsUser ↔ roomCall d pending op := by
  cases op with
  | login login =>
      simp only [call] at hCall
      split at hCall
      next =>
        rcases user_callSession hCall with
          ⟨hScreen, hOther, hUser | ⟨hOp, _⟩⟩
        · exact iff_of_true
            (hKnows.of_same hUser hScreen hOther) trivial
        · cases hOp
      next => cases hCall
  | register firstName lastName username password isChecked =>
      cases hCall
      exact iff_of_true hKnows trivial
  | verify =>
      cases hCall
      exact iff_of_true hKnows trivial
  | getUser =>
      cases hCall
      exact iff_of_true hKnows trivial
  | drawerLogout => exact knowsUser_logout_iff hCall
  | profileLogout => exact knowsUser_logout_iff hCall
  | buildChatTab =>
      simp only [call, Option.some.injEq] at hCall
      have hBuild := knowsUser_buildChatTab_iff hKnows
      rw [hCall] at hBuild
      exact hBuild
  | closeChatTab =>
      cases hCall
      exact iff_of_true (absurd rfl) trivial

/- Firebase alone does not change what a screen knows. -/
theorem KnowsUser.signIn
    {a : Answer}
    (hKnows : d.KnowsUser) :
    (signIn a d).KnowsUser := hKnows

theorem KnowsUser.beginSession
    {login : Session.Login}
    (hKnows : d.KnowsUser) :
    (beginSession login d).1.KnowsUser :=
  hKnows.of_same (user_startLogin login d.session) rfl rfl

/- A turn of the session may begin a session. -/
theorem knowsUser_session_iff
    {point : Session.Point}
    {fromProfile : Bool}
    {a : Answer}
    (hKnows : d.KnowsUser) :
    (resume wp (.session point fromProfile) a d).1.KnowsUser ↔
      ∀ user ∈ Session.begun wp point a.toWorld d.session,
        d.chatScreen ≠ none →
          Knows (some user) d.loggedInUser := by
  have hFrame :
      (credentialSignIn a d point).chatScreen =
          d.chatScreen ∧
        (credentialSignIn a d point).loggedInUser =
          d.loggedInUser := by
    cases point with
    | facebookCredential token =>
        simp only [credentialSignIn]
        split <;> exact ⟨rfl, rfl⟩
    | _ => exact ⟨rfl, rfl⟩
  have hBegun :=
    Session.resume_begun wp point a.toWorld d.session
  simp only [resume, KnowsUser]
  rw [hFrame.1, hFrame.2]
  cases hUser : Session.begun wp point a.toWorld d.session with
  | none =>
      simp only [hUser, Session.identity,
        Prod.mk.injEq] at hBegun
      rw [hBegun.1]
      exact iff_of_true hKnows (by simp)
  | some user =>
      simp only [hUser, Session.identity,
        Prod.mk.injEq] at hBegun
      rw [hBegun.1]
      constructor
      · intro hAfter other hOther
        cases hOther
        exact hAfter
      · intro hAll
        exact hAll user rfl

/- A screen learns of the user whom Firebase tells. -/
theorem knowsUser_currentUser_iff
    {screen : Nat}
    {user : Option FirebaseUser}
    {a : Answer}
    (hKnows : d.KnowsUser) :
    (resume wp (.currentUser screen user) a d).1.KnowsUser ↔
      (a.throws = none → d.chatScreen = some screen →
        Knows d.session.user user) := by
  simp only [resume]
  by_cases hTold :
      (a.throws.isNone && user.isSome &&
        decide (d.chatScreen = some screen)) = true
  · rw [if_pos hTold]
    simp only [Bool.and_eq_true, Option.isNone_iff_eq_none,
      decide_eq_true_eq] at hTold
    rcases hTold with ⟨⟨hThrows, _⟩, hScreen⟩
    unfold KnowsUser
    simp [hThrows, hScreen]
  · rw [if_neg hTold]
    refine iff_of_true hKnows ?_
    intro hThrows hScreen other hOther
    refine absurd ?_ hTold
    rw [Option.mem_def] at hOther
    simp [hThrows, hScreen, hOther]

theorem knowsUser_resume_iff
    {point : Point}
    {pending : List Point}
    {a : Answer}
    (hKnows : d.KnowsUser) :
    (resume wp point a d).1.KnowsUser ↔
      roomResume wp d pending point a := by
  cases point with
  | session point fromProfile =>
      exact knowsUser_session_iff hKnows
  | currentUser screen user =>
      exact knowsUser_currentUser_iff hKnows
  | createUser firstName lastName username password isChecked =>
      have hSigned :
          KnowsUser
            (if a.throws.isSome then d else signIn a d) := by
        split
        · exact hKnows
        · exact hKnows.signIn
      refine iff_of_true ?_ trivial
      simp only [resume]
      split
      · exact hSigned.beginSession
      · exact hSigned
  | signInWithCredential =>
      refine iff_of_true ?_ trivial
      simp only [resume]
      split
      · exact hKnows
      · split
        · exact hKnows
        · exact hKnows.signIn.beginSession
  | _ =>
      refine iff_of_true ?_ trivial
      simp only [resume]
      repeat' split
      all_goals exact hKnows

/-
  In every state of a run, whatever a `ChatScreen` sends
  goes to the room of the session's user, exactly if every
  step of the run meets the conditions.
-/
theorem sendsOwn_iff
    {storage : LocalStorage}
    {prefs : Option Bool}
    {currentUser : Option FirebaseUser}
    {es : List (Event Op Answer)}
    {p : Pool Device Point}
    (hRun :
      (program wp).system.Run System.anyStep
        (launched storage prefs currentUser) es p) :
    (program wp).system.Always
        (fun _ q => q.shared.SendsOwn)
        (launched storage prefs currentUser) es ↔
      (program wp).system.Run
        (Program.when roomCall (roomResume wp))
        (launched storage prefs currentUser) es p := by
  refine Program.always_iff_run
    (I := fun d _ => d.KnowsUser)
    (G := fun d _ => d.SendsOwn)
    (absurd rfl) ?_ ?_ ?_ ?_ ?_ hRun
  · intro d _ op e _ hKnows hOk hCall
    exact (knowsUser_call_iff hKnows hCall).mpr hOk
  · intro d _ point _ a hKnows hOk
    exact (knowsUser_resume_iff hKnows).mpr hOk
  · intro d _ hKnows
    exact sendsOwn_iff_knowsUser.mpr hKnows
  · intro d _ op e _ hKnows hBroken hCall hSends
    exact hBroken
      ((knowsUser_call_iff hKnows hCall).mp
        (sendsOwn_iff_knowsUser.mp hSends))
  · intro d _ point _ a hKnows hBroken hSends
    exact hBroken
      ((knowsUser_resume_iff hKnows).mp
        (sendsOwn_iff_knowsUser.mp hSends))

/- A service that knows an account of this email. -/
def accountOf (email : String) : Session.World where
  http := fun _ => .ok
    { statusCode := 200
      decoded := some (.obj
        [ ("cookie", .str "cookie"),
          ("user",
            .obj
              [ ("id", .int 1),
                ("email", .str email),
                ("role", .arr [.str "subscriber"]) ]),
          ("wp_user_id", .int 1),
          ("token", .str "token") ]) }

/- Firebase and the service know the same account. -/
def answerOf (email : String) : Answer :=
  { accountOf email with
    firebaseUser := some { email := some email } }

/- A password login, and then the chat is opened. -/
def loginAndChat (email : String) :
    List (Event Op Answer) :=
  .resume 0 {} ::
    .call (.login (.login email "secret" email "secret")) ::
    turns 10 (answerOf email) ++
    [ .call .buildChatTab, .resume 0 {}, .resume 0 {} ]

/- One user throughout: what is sent goes to her room. -/
theorem sendsOwn_after_login :
    ∃ p,
      (program (.setAppConfig "https://x")).system.Run
        System.anyStep (launched {} none none)
        (loginAndChat "ada@x") p ∧
      p.shared.loggedInUser = some { email := some "ada@x" } ∧
      (program (.setAppConfig "https://x")).system.Always
        (fun _ q => q.shared.SendsOwn) (launched {} none none)
        (loginAndChat "ada@x") := by
  have hRun :
      ∃ p,
        (program (.setAppConfig "https://x")).system.Run
          (Program.when roomCall
            (roomResume (.setAppConfig "https://x")))
          (launched {} none none) (loginAndChat "ada@x") p ∧
        p.shared.loggedInUser =
          some { email := some "ada@x" } :=
    ⟨_, System.run_iff_exec.mpr ⟨by decide, rfl⟩, rfl⟩
  rcases hRun with ⟨p, hRun, hOther⟩
  exact ⟨p, hRun.any, hOther,
    (sendsOwn_iff hRun.any).mpr hRun⟩

/-
  The first user leaves the chat and logs out in the drawer;
  the second one logs in with Google and opens the chat.
-/
def otherUserChats : List (Event Op Answer) :=
  .call .closeChatTab :: .call .drawerLogout ::
    turns 5 ({} : Answer) ++
    .call (.login .loginGoogle) ::
    turns 8 (answerOf "bob@x") ++ [.call .buildChatTab]

/- The second user's message goes to the first one's room. -/
theorem message_goes_to_previous_user :
    ∃ p,
      (program (.setAppConfig "https://x")).system.Run
        System.anyStep (launched {} none none)
        (loginAndChat "ada@x" ++ otherUserChats) p ∧
      p.shared.session.user.bind User.email = some "bob@x" ∧
      Chat.Write.add (.named "ada@x")
          { text := "hello"
            sender := some "ada@x"
            createdAt := DateTime.noon.toText } ∈
        p.shared.send "hello" .noon .noon 0 0 ∧
      ¬ p.shared.SendsOwn := by
  refine ⟨_, System.run_of_exec rfl, rfl, ?_, ?_⟩
  · exact List.mem_cons_self
  · rw [sendsOwn_iff_knowsUser]
    intro hKnows
    exact absurd (hKnows (by decide)) (by decide)

end Device

end NewsCentral
