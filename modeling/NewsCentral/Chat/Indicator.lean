import NewsCentral.Chat.Preview
import NewsCentral.Chat.Typing

/-
  When the other party is shown as typing.

  `TypingStream` reads the flag of the other party.  Either
  party may reset it, but on identified screens only its
  owner sets it, and what the owner does next takes it back,
  so that it does not stick once the owner's writes have
  taken effect.

  Key definitions include:
    * `NewsCentral.Chat.IsFlag`
    * `NewsCentral.Chat.Write.gives`
    * `NewsCentral.Chat.Screen.showsTyping`
    * `NewsCentral.Chat.typed`
    * `NewsCentral.Chat.Write.Proper`
    * `NewsCentral.Chat.TypedInvariant`

  Key theorems include:
    * `NewsCentral.Chat.gives_of_flag_apply`
    * `NewsCentral.Chat.proper_of_issues`
    * `NewsCentral.Chat.TypedInvariant.step`
    * `NewsCentral.Chat.typed_of_shown`
-/

------------------------------------------------------------
-- Flags
------------------------------------------------------------

namespace NewsCentral

open Dart EventLoop

namespace Chat

/- A flag of a room, which one field of a write sets. -/
structure IsFlag (flag : Room → Option Bool) : Prop where
  empty : flag {} = none
  set :
    ∀ (r : Room) (field : Field),
      flag (r.set field) =
        (flag (Room.set {} field)).or (flag r)

theorem isFlag_userTyping : IsFlag Room.userTyping where
  empty := rfl
  set := fun r field => by cases field <;> rfl

theorem isFlag_adminTyping : IsFlag Room.adminTyping where
  empty := rfl
  set := fun r field => by cases field <;> rfl

theorem isFlag_isSeenByAdmin :
    IsFlag Room.isSeenByAdmin where
  empty := rfl
  set := fun r field => by cases field <;> rfl

/- What a write gives to a flag of a document. -/
def Write.gives
    (flag : Room → Option Bool)
    (id : DocumentId)
    (w : Write) : Option Bool :=
  if w.id = id then flag (Room.merge {} w.fields) else none

variable {flag : Room → Option Bool} {id : DocumentId}
variable {w : Write}

/- A flag that is not written stays. -/
theorem IsFlag.merge
    (hFlag : IsFlag flag)
    (r : Room)
    (fields : List Field) :
    flag (r.merge fields) =
      (flag (Room.merge {} fields)).or (flag r) := by
  unfold Room.merge
  induction fields generalizing r with
  | nil => simp [hFlag.empty]
  | cons field fields ih =>
      rw [List.foldl_cons, List.foldl_cons, ih (r.set field),
        ih (Room.set {} field), hFlag.set r field,
        Option.or_assoc]

theorem gives_of_ne
    (hNe : w.id ≠ id) :
    w.gives flag id = none :=
  if_neg hNe

theorem IsFlag.gives_add
    (hFlag : IsFlag flag)
    (other : DocumentId)
    (message : Message) :
    (Write.add other message).gives flag id = none := by
  unfold Write.gives
  split
  · exact hFlag.empty
  · rfl

/- What is merged into a document. -/
theorem IsFlag.of_merge
    (hFlag : IsFlag flag)
    {r : Room}
    (hSame : w.id = id)
    (hTrue : flag (r.merge w.fields) = some true) :
    w.gives flag id = some true ∨
      w.gives flag id = none ∧ flag r = some true := by
  rw [hFlag.merge, Option.or_eq_some_iff] at hTrue
  rwa [Write.gives, if_pos hSame]

/-
  A flag that is set after a write was set by it, or the
  write has left it as it was.
-/
theorem gives_of_flag_apply
    (hFlag : IsFlag flag)
    {store : Firestore}
    (hTrue :
      ((store.apply w).rooms id).bind flag = some true) :
    w.gives flag id = some true ∨
      w.gives flag id = none ∧
        (store.rooms id).bind flag = some true := by
  cases w with
  | add other message =>
      exact .inr ⟨hFlag.gives_add other message, hTrue⟩
  | setData other fields =>
      by_cases hSame : id = other
      · subst hSame
        simp only [Firestore.apply, put, if_true,
          Option.bind_some] at hTrue
        have hMerged :=
          hFlag.of_merge
            (show (Write.setData id fields).id = id from rfl)
            hTrue
        cases hRoom : store.rooms id with
        | some r => simpa [hRoom] using hMerged
        | none => simpa [hRoom, hFlag.empty] using hMerged
      · simp only [Firestore.apply, put,
          if_neg hSame] at hTrue
        exact .inr ⟨gives_of_ne (Ne.symm hSame), hTrue⟩
  | updateData other fields =>
      by_cases hSame : id = other
      · subst hSame
        simp only [Firestore.apply, put, if_true] at hTrue
        cases hRoom : store.rooms id with
        | some r =>
            rw [hRoom] at hTrue
            exact hFlag.of_merge
              (show (Write.updateData id fields).id = id
                from rfl)
              hTrue
        | none => simp [hRoom] at hTrue
      · simp only [Firestore.apply, put,
          if_neg hSame] at hTrue
        exact .inr ⟨gives_of_ne (Ne.symm hSame), hTrue⟩

/- What keeps a flag gives it nothing. -/
theorem IsFlag.gives_of_keeps
    (hFlag : IsFlag flag)
    (hKeeps : KeepsFlag flag w.fields) :
    w.gives flag id = none := by
  unfold Write.gives
  split
  · exact (hKeeps {}).trans hFlag.empty
  · rfl

/- What resets a flag does not set it. -/
theorem gives_of_resets
    (hResets : ResetsFlag flag w.fields) :
    w.gives flag id ≠ some true := by
  unfold Write.gives
  split
  · simp [hResets {}]
  · simp

end Chat

end NewsCentral

------------------------------------------------------------
-- Typing
------------------------------------------------------------

namespace NewsCentral

open Dart EventLoop

namespace Chat

/- The flag that tells of a client that it types. -/
def Client.typing : Client → Room → Option Bool
  | .user _ => Room.userTyping
  | .admin => Room.adminTyping

/-
  Whether `TypingStream` shows that somebody types, which is
  the other party.
-/
def Screen.showsTyping
    (s : Screen)
    (room : Option Room) : Bool :=
  match room with
  | none => false
  | some r =>
      match r.userTyping, r.adminTyping with
      | some userTyping, some adminTyping =>
          if s.loggedInUser = some adminEmail then
            userTyping
          else
            adminTyping
      | _, _ => false

/- The other party of a screen on the room of an email. -/
def Screen.partner (path : String) (s : Screen) : Client :=
  if s.isAdmin then .user (some path) else .admin

/- Whether the one who acts is typing from then on. -/
def Action.typing : Action → Option Bool
  | .updateTyping status _ => some status
  | .send messagesText _ _ _ _ =>
      if messagesText = "" then none else some false
  | .initTyping _ => some false

/- Whether a client types in a room, as of a step of its. -/
def typed
    (c : Client)
    (path : String)
    (t : State) : Event → List Bool
  | .act screen action =>
      if c = screen.client ∧ screen.room = some path then
        action.typing.toList
      else
        []
  | .openRoom id _ =>
      match t.store.rooms id with
      | none => []
      | some r =>
          if c = .admin ∧ r.userEmail = some path then
            [false]
          else
            []
  | .apply _ => []

variable {path : String} {t u : State} {e : Event}
variable {c d : Client} {w : Write}

theorem isFlag_typing
    (c : Client) :
    IsFlag c.typing := by
  cases c with
  | user email => exact isFlag_userTyping
  | admin => exact isFlag_adminTyping

/-
  A user's write goes to the user's room, and leaves the
  administrator's flag or resets both; and conversely.
-/
def Write.Proper : Client → Write → Prop
  | .user email, w =>
      (∃ key, w.id = document email key) ∧
        (KeepsFlag Room.adminTyping w.fields ∨
          w.ResetsTyping)
  | .admin, w =>
      KeepsFlag Room.userTyping w.fields ∨ w.ResetsTyping

/- The typing of an identified screen is proper. -/
theorem proper_updateTyping
    {s : Screen}
    {status : Bool}
    {key : Nat}
    (hIdentified : s.Identified)
    (hMem : w ∈ s.updateTyping status key) :
    w.Proper s.client := by
  have hFlag := flag_updateTyping hMem
  have hParty := has_of_identified hIdentified key
  rw [Screen.updateTyping, List.mem_singleton] at hMem
  unfold Screen.client Screen.room at *
  by_cases hAdmin : s.isAdmin = true
  · simp only [if_pos hAdmin, Party.Has] at hParty ⊢
    exact .inl fun r =>
      (hFlag .user r).trans (if_neg (by simp [hParty]))
  · simp only [if_neg hAdmin, Party.Has] at hParty hMem ⊢
    subst hMem
    exact ⟨⟨key, rfl⟩, .inl fun r =>
      (hFlag .admin r).trans (if_neg (by simp [hParty.1]))⟩

/- So is what an identified step has a client issue. -/
theorem proper_of_issues
    (hIdentified : e.Identified)
    (hIssues : e.Issues c w) :
    w.Proper c := by
  rcases effect_of_issues hIssues with ⟨⟨q, hHas⟩, hEffect⟩
  have hLeaves
      (flag : Room → Option Bool)
      (hElse : w.fields = [] ∨ w.ResetsTyping) :
      KeepsFlag flag w.fields ∨ w.ResetsTyping := by
    rcases hElse with hNone | hResets
    · exact .inl fun r => by rw [hNone]; rfl
    · exact .inr hResets
  rcases hEffect with
    ⟨screen, status, key, rfl, rfl, _, hMem⟩ | hElse
  · exact proper_updateTyping hIdentified hMem
  · cases c with
    | user email => exact ⟨hHas.2, hLeaves _ hElse⟩
    | admin => exact hLeaves _ hElse

/- The other parties do not say that a client types. -/
theorem gives_of_proper
    (hWriter : c ∈ writers path)
    (hNe : d ≠ c)
    (hProper : w.Proper d) :
    w.gives c.typing (.named path) ≠ some true := by
  rw [writers, List.mem_cons, List.mem_singleton] at hWriter
  rcases hWriter with rfl | rfl
  · cases d with
    | user email =>
        rcases hProper.1 with ⟨key, hRoom⟩
        have hOther : w.id ≠ .named path := by
          rw [hRoom, Ne, document_eq_named_iff]
          rintro rfl
          exact hNe rfl
        simp [gives_of_ne hOther]
    | admin =>
        rcases hProper with hKeeps | hResets
        · simp [Client.typing,
            isFlag_userTyping.gives_of_keeps hKeeps]
        · exact gives_of_resets (hResets .user)
  · cases d with
    | admin => exact absurd rfl hNe
    | user email =>
        rcases hProper.2 with hKeeps | hResets
        · simp [Client.typing,
            isFlag_adminTyping.gives_of_keeps hKeeps]
        · exact gives_of_resets (hResets .admin)

/- A write that is the only one to give something. -/
theorem filterMap_gives_singleton
    {flag : Room → Option Bool}
    {email : Option String}
    {key : Nat}
    {value : Bool}
    (hRoom : w.id = document email key)
    (hValue :
      flag (Room.merge {} w.fields) = some value) :
    [w].filterMap (Write.gives flag (.named path)) =
      if email = some path then [value] else [] := by
  by_cases hSame : email = some path
  · have hGives : w.gives flag (.named path) = some value := by
      rw [Write.gives, hRoom,
        if_pos (document_eq_named_iff.mpr hSame), hValue]
    simp [hGives, hSame]
  · have hGives : w.gives flag (.named path) = none := by
      rw [Write.gives, hRoom,
        if_neg (mt document_eq_named_iff.mp hSame)]
    simp [hGives, hSame]

/- An identified screen's writes tell of its client. -/
theorem gives_act
    {s : Screen}
    (hIdentified : s.Identified)
    (action : Action) :
    (s.act action).filterMap
        (Write.gives s.client.typing (.named path)) =
      if s.room = some path then
        action.typing.toList
      else
        [] := by
  unfold Screen.Identified at hIdentified
  unfold Screen.client
  cases action with
  | updateTyping status key =>
      refine filterMap_gives_singleton rfl ?_
      by_cases hAdmin : s.isAdmin = true
      · simp [Write.fields, hAdmin, hIdentified.mp hAdmin,
          Client.typing, Room.merge, Room.set]
      · simp [Write.fields, hAdmin,
          mt hIdentified.mpr hAdmin, Client.typing,
          Room.merge, Room.set]
  | initTyping key =>
      refine filterMap_gives_singleton rfl ?_
      by_cases hAdmin : s.isAdmin = true
      · rw [if_pos hAdmin]
        rfl
      · rw [if_neg hAdmin]
        rfl
  | send text addedAt mergedAt addKey mergeKey =>
      by_cases hEmpty : text = ""
      · simp [Screen.act, Screen.send, Action.typing, hEmpty]
      · by_cases hAdmin : s.isAdmin = true
        · simp only [Screen.act, Screen.send, Screen.room,
            Action.typing, if_neg hEmpty, if_pos hAdmin,
            List.filterMap_cons,
            (isFlag_typing _).gives_add]
          exact filterMap_gives_singleton rfl rfl
        · simp only [Screen.act, Screen.send, Screen.room,
            Action.typing, if_neg hEmpty, if_neg hAdmin,
            List.filterMap_cons,
            (isFlag_typing _).gives_add]
          exact filterMap_gives_singleton rfl rfl

/- What a step of a client tells, by the writes it issues. -/
theorem typed_act
    {s : Screen}
    (hIdentified : s.Identified)
    (action : Action) :
    typed c path t (.act s action) =
      if c = s.client then
        (s.act action).filterMap
          (Write.gives c.typing (.named path))
      else
        [] := by
  unfold typed
  by_cases hClient : c = s.client
  · subst hClient
    simp [gives_act hIdentified action]
  · simp [hClient]

theorem typed_openRoom
    {id : DocumentId}
    {r : Room}
    {key : Nat}
    (hRoom : t.store.rooms id = some r) :
    typed c path t (.openRoom id key) =
      if c = .admin then
        (openRoom r key).filterMap
          (Write.gives c.typing (.named path))
      else
        [] := by
  simp only [typed, hRoom]
  by_cases hClient : c = .admin
  · subst hClient
    simp only [true_and, if_true]
    exact (filterMap_gives_singleton rfl rfl).symm
  · simp [hClient]

/-
  A client that is shown as typing, or will be by its last
  write underway, has said so last.
-/
structure TypedInvariant
    (c : Client)
    (path : String)
    (said : List Bool)
    (t : State) : Prop where
  proper : t.outbox.All fun d w => w.Proper d
  last :
    (t.outbox.picked
          (Write.gives c.typing (.named path)) c).getLast?.or
        ((t.store.rooms (.named path)).bind c.typing) =
      some true →
    said.getLast? = some true

variable {said : List Bool}

/- A client issues writes, and has said what they tell. -/
theorem TypedInvariant.issue
    {ws : List Write}
    (opened : List (Option String))
    (hInv : TypedInvariant c path said t)
    (hProper : ∀ w ∈ ws, w.Proper d) :
    TypedInvariant c path
      (said ++
        if c = d then
          ws.filterMap
            (Write.gives c.typing (.named path))
        else
          [])
      { t with
        outbox := t.outbox.issue d ws
        opened := opened } := by
  refine ⟨hInv.proper.issue hProper, ?_⟩
  intro hTrue
  simp only [Outbox.picked_issue,
    List.getLast?_append] at hTrue ⊢
  generalize (if c = d then
      ws.filterMap (Write.gives c.typing (.named path))
    else []).getLast? = new at hTrue ⊢
  cases new with
  | some status => simpa using hTrue
  | none => exact hInv.last hTrue

/- A write takes effect, which only the client can set. -/
theorem TypedInvariant.apply
    {ws : List Write}
    (hWriter : c ∈ writers path)
    (hInv : TypedInvariant c path said t)
    (hFirst : t.outbox d = w :: ws) :
    TypedInvariant c path said
      { t with
        store := t.store.apply w
        outbox := t.outbox.rest d } := by
  refine ⟨hInv.proper.rest, fun hTrue => hInv.last ?_⟩
  have hProper : w.Proper d :=
    hInv.proper d w (by simp [hFirst])
  have hPicked :=
    Outbox.picked_of_first
      (Write.gives c.typing (.named path)) c hFirst
  rw [hPicked, List.getLast?_append]
  rw [Option.or_eq_some_iff] at hTrue
  rcases hTrue with hLater | ⟨hLast, hNow⟩
  · -- a later write of the client tells
    rw [hLater]
    rfl
  · rw [hLast, Option.none_or]
    rcases gives_of_flag_apply (isFlag_typing c) hNow with
      hGives | ⟨hGives, hBefore⟩
    · by_cases hSame : d = c
      · subst hSame
        simp [hGives]
      · exact absurd hGives
          (gives_of_proper hWriter hSame hProper)
    · simp [hGives, hBefore]

theorem TypedInvariant.step
    (hWriter : c ∈ writers path)
    (hInv : TypedInvariant c path said t)
    (hIdentified : identified t e)
    (hNext : system.step t e = some u) :
    TypedInvariant c path (said ++ typed c path t e) u := by
  cases e with
  | act screen action =>
      rcases step_act_iff.mp hNext with ⟨_, rfl⟩
      rw [typed_act hIdentified]
      exact hInv.issue t.opened fun w hMem =>
        proper_of_issues hIdentified ⟨rfl, hMem⟩
  | openRoom id key =>
      rcases step_openRoom_iff.mp hNext with
        ⟨r, hRoom, _, rfl⟩
      rw [typed_openRoom hRoom]
      exact hInv.issue (r.userEmail :: t.opened)
        fun w hMem => proper_of_issues hIdentified
          ⟨rfl, r, hMem⟩
  | apply d =>
      rcases step_apply_iff.mp hNext with
        ⟨w, ws, hFirst, rfl⟩
      rw [typed, List.append_nil]
      exact hInv.apply hWriter hFirst

/- What is shown of the other party is its flag. -/
theorem flag_of_shown
    {s : Screen}
    (hIdentified : s.Identified)
    (hShown :
      s.showsTyping (t.store.rooms (.named path)) = true) :
    (t.store.rooms (.named path)).bind
        (s.partner path).typing =
      some true := by
  unfold Screen.Identified at hIdentified
  unfold Screen.showsTyping at hShown
  unfold Screen.partner
  split at hShown
  next => cases hShown
  next r hRoom =>
    rw [hRoom]
    split at hShown
    next userTyping adminTyping hUser hAdmin =>
      by_cases hIs : s.isAdmin = true
      · rw [if_pos hIs]
        rw [if_pos (hIdentified.mp hIs)] at hShown
        subst hShown
        exact hUser
      · rw [if_neg hIs]
        rw [if_neg (mt hIdentified.mpr hIs)] at hShown
        subst hShown
        exact hAdmin
    next => cases hShown

/-
  The indicator does not stick: in every run of identified
  screens, if one on the room of an email shows that the
  other party types, and no write of that party is on its
  way, then the last thing the party did in the room was to
  type.
-/
theorem typed_of_shown
    (path : String)
    {s : Screen}
    {es : List Event}
    (hRun : system.Run identified {} es t)
    (hIdentified : s.Identified)
    (hRest : t.outbox (s.partner path) = [])
    (hShown :
      s.showsTyping (t.store.rooms (.named path)) = true) :
    (system.trace (typed (s.partner path) path) {}
      es).getLast? = some true := by
  have hWriter : s.partner path ∈ writers path := by
    unfold Screen.partner
    split <;> simp [writers]
  have hInv :
      TypedInvariant (s.partner path) path
        (system.trace (typed (s.partner path) path) {} es)
        t := by
    refine hRun.traceInvariant
      (I := TypedInvariant (s.partner path) path) ?_ ?_
    · exact ⟨Outbox.all_empty, fun hTrue => by cases hTrue⟩
    · intro said v e w hInv hEvent hNext
      exact hInv.step hWriter hEvent hNext
  refine hInv.last ?_
  have hNone :
      t.outbox.picked
        (Write.gives (s.partner path).typing (.named path))
        (s.partner path) = [] := by
    simp [Outbox.picked, hRest]
  rw [hNone]
  exact flag_of_shown hIdentified hShown

/- The administrator sees that a user types again. -/
def adaTypes : List Event :=
  [ .act ⟨false, some "ada@x", some "ada@x"⟩
      (.send "hello" .noon .noon 0 0),
    .apply (.user (some "ada@x")),
    .apply (.user (some "ada@x")),
    .openRoom (.named "ada@x") 0, .apply .admin,
    .act ⟨false, some "ada@x", some "ada@x"⟩
      (.updateTyping true 0),
    .apply (.user (some "ada@x")) ]

theorem typed_of_ada :
    (system.trace (typed (.user (some "ada@x")) "ada@x") {}
      adaTypes).getLast? = some true := by
  have hRun :
      ∃ t, system.Run identified {} adaTypes t ∧
        t.outbox (.user (some "ada@x")) = [] ∧
        Screen.showsTyping
          ⟨true, some "ada@x", some adminEmail⟩
          (t.store.rooms (.named "ada@x")) = true :=
    ⟨_, System.run_iff_exec.mpr ⟨by decide, rfl⟩, by decide,
      by decide⟩
  rcases hRun with ⟨t, hRun, hRest, hShown⟩
  exact
    typed_of_shown
      (s := ⟨true, some "ada@x", some adminEmail⟩)
      "ada@x" hRun (by decide) hRest hShown

end Chat

end NewsCentral
