import NewsCentral.Chat.Preview
import NewsCentral.Chat.Rooms
import NewsCentral.Chat.Typing

/-
  What becomes of the messages that are sent.

  A message is written with its sender, so on identified
  screens the messages of a room tell which client added
  them.  Those of one client are exactly what its screens
  sent, each once and in their order, save those that are
  still on their way.

  The room of an email holds messages of its user and of the
  administrator alone, and once nothing is on its way each
  room with a message is in the administrator's list.

  Key definitions include:
    * `NewsCentral.Chat.Message.author`
    * `NewsCentral.Chat.sent`
    * `NewsCentral.Chat.received`
    * `NewsCentral.Chat.ListedInvariant`

  Key theorems include:
    * `NewsCentral.Chat.addition_act`
    * `NewsCentral.Chat.received_append_picked`
    * `NewsCentral.Chat.ListedInvariant.step`
    * `NewsCentral.Chat.conversations_listed`
-/

------------------------------------------------------------
-- Messages Sent And Received
------------------------------------------------------------

namespace NewsCentral

open Dart EventLoop

namespace Chat

/- The client that adds messages of this sender. -/
def Message.author (message : Message) : Client :=
  if message.sender = some adminEmail then
    .admin
  else
    .user message.sender

/- What an action on a screen sends to a room. -/
def Screen.sends
    (s : Screen)
    (id : DocumentId) : Action → List Message
  | .send messagesText addedAt _ addKey _ =>
      if messagesText ≠ "" ∧ document s.room addKey = id then
        [ { text := messagesText
            sender :=
              if s.isAdmin then
                some adminEmail
              else
                s.loggedInUser
            createdAt := addedAt.toText } ]
      else
        []
  | .updateTyping .. => []
  | .initTyping .. => []

/- What a client sends to a room in a step. -/
def sent
    (c : Client)
    (id : DocumentId)
    (_ : State) : Event → List Message
  | .act screen action =>
      if c = screen.client then screen.sends id action else []
  | .openRoom .. => []
  | .apply _ => []

/- The messages of a room that a client has added. -/
def received
    (c : Client)
    (id : DocumentId)
    (store : Firestore) : List Message :=
  (store.messages id).filter fun message =>
    message.author = c

/- The writes of an action add what it sends. -/
theorem addition_act
    (s : Screen)
    (action : Action)
    (id : DocumentId) :
    (s.act action).filterMap (Write.addition id) =
      s.sends id action := by
  cases action with
  | updateTyping status key => rfl
  | initTyping key => rfl
  | send text addedAt mergedAt addKey mergeKey =>
      simp only [Screen.act, Screen.send, Screen.sends,
        Screen.room]
      by_cases hEmpty : text = ""
      · simp [hEmpty]
      · rw [if_neg hEmpty]
        by_cases hAdmin : s.isAdmin = true
        · by_cases hRoom : document s.userEmail addKey = id
          · simp [hEmpty, hAdmin, hRoom, Write.addition]
          · simp [hAdmin, hRoom, Write.addition]
        · by_cases hRoom :
            document s.loggedInUser addKey = id
          · simp [hEmpty, hAdmin, hRoom, Write.addition]
          · simp [hAdmin, hRoom, Write.addition]

/- An identified screen sends under its client's name. -/
theorem author_of_mem_sends
    {s : Screen}
    {action : Action}
    {id : DocumentId}
    {message : Message}
    (hIdentified : s.Identified)
    (hMem : message ∈ s.sends id action) :
    message.author = s.client := by
  cases action with
  | updateTyping status key => cases hMem
  | initTyping key => cases hMem
  | send text addedAt mergedAt addKey mergeKey =>
      simp only [Screen.sends] at hMem
      split at hMem
      next =>
        rw [List.mem_singleton] at hMem
        subst hMem
        unfold Screen.Identified at hIdentified
        by_cases hAdmin : s.isAdmin = true
        · simp [Message.author, Screen.client, hAdmin]
        · simp [Message.author, Screen.client, hAdmin,
            mt hIdentified.mpr hAdmin]
      next => cases hMem

/- A write adds at most one message to one room. -/
theorem messages_apply
    (store : Firestore)
    (w : Write)
    (id : DocumentId) :
    (store.apply w).messages id =
      store.messages id ++ (w.addition id).toList := by
  cases w with
  | add other message =>
      by_cases hSame : other = id
      · subst hSame
        simp [Firestore.apply, put, Write.addition]
      · simp [Firestore.apply, put, Write.addition, hSame,
          Ne.symm hSame]
  | setData other fields =>
      simp [Firestore.apply, Write.addition]
  | updateData other fields =>
      simp [Firestore.apply, Write.addition]

end Chat

end NewsCentral

------------------------------------------------------------
-- Delivery
------------------------------------------------------------

namespace NewsCentral

open Dart EventLoop

namespace Chat

/- The write adds messages of the client alone. -/
def Write.AuthoredBy (c : Client) (w : Write) : Prop :=
  ∀ id, ∀ message ∈ w.addition id, message.author = c

variable {t u : State} {e : Event}

theorem authoredBy_act
    {s : Screen}
    (hIdentified : s.Identified)
    (action : Action) :
    ∀ w ∈ s.act action, w.AuthoredBy s.client := by
  intro w hWrite id message hAdds
  have hSends : message ∈ s.sends id action := by
    rw [← addition_act]
    exact List.mem_filterMap.mpr ⟨w, hWrite, hAdds⟩
  exact author_of_mem_sends hIdentified hSends

theorem authoredBy_openRoom
    (r : Room)
    (key : Nat)
    (c : Client) :
    ∀ w ∈ openRoom r key, w.AuthoredBy c := by
  intro w hWrite id message hAdds
  rw [openRoom, List.mem_singleton] at hWrite
  subst hWrite
  cases hAdds

/-
  What is underway bears the name of its client, and follows
  upon what has arrived.
-/
structure Delivered
    (start : Firestore)
    (c : Client)
    (id : DocumentId)
    (seen : List Message)
    (t : State) : Prop where
  authored : t.outbox.All fun d w => w.AuthoredBy d
  delivered :
    received c id t.store ++
        t.outbox.picked (Write.addition id) c =
      received c id start ++ seen

variable {start : Firestore} {c : Client} {id : DocumentId}
variable {seen : List Message}

/- The screens of a client issue writes. -/
theorem Delivered.issue
    {d : Client}
    {ws : List Write}
    (opened : List (Option String))
    (hInv : Delivered start c id seen t)
    (hAuthored : ∀ w ∈ ws, w.AuthoredBy d) :
    Delivered start c id
      (seen ++
        if c = d then
          ws.filterMap (Write.addition id)
        else
          [])
      { t with
        outbox := t.outbox.issue d ws
        opened := opened } := by
  refine ⟨hInv.authored.issue hAuthored, ?_⟩
  simp only [Outbox.picked_issue]
  rw [← List.append_assoc, hInv.delivered,
    List.append_assoc]

/- What takes effect is received by its client's name. -/
theorem received_apply
    {d : Client}
    {w : Write}
    (hAuthored : w.AuthoredBy d) :
    received c id (start.apply w) =
      received c id start ++
        if c = d then (w.addition id).toList else [] := by
  unfold received
  rw [messages_apply, List.filter_append]
  cases hAdds : w.addition id with
  | none => simp
  | some message =>
      have hAuthor : message.author = d :=
        hAuthored id message hAdds
      by_cases hSame : c = d
      · simp [hAuthor, hSame]
      · simp [hAuthor, hSame, Ne.symm hSame]

theorem Delivered.step
    (hInv : Delivered start c id seen t)
    (hIdentified : identified t e)
    (hNext : system.step t e = some u) :
    Delivered start c id (seen ++ sent c id t e) u := by
  cases e with
  | act screen action =>
      rcases step_act_iff.mp hNext with ⟨_, rfl⟩
      simp only [sent, ← addition_act]
      exact hInv.issue t.opened
        (authoredBy_act hIdentified action)
  | openRoom other key =>
      rcases step_openRoom_iff.mp hNext with ⟨r, _, _, rfl⟩
      have hNone :
          (openRoom r key).filterMap (Write.addition id) =
            [] := rfl
      have hIssued :=
        hInv.issue (r.userEmail :: t.opened)
          (authoredBy_openRoom r key .admin)
      rw [hNone, ite_self] at hIssued
      exact hIssued
  | apply d =>
      rcases step_apply_iff.mp hNext with
        ⟨w, ws, hFirst, rfl⟩
      have hAuthored : w.AuthoredBy d :=
        hInv.authored d w (by simp [hFirst])
      refine ⟨hInv.authored.rest, ?_⟩
      have hPicked :=
        Outbox.picked_of_first (Write.addition id) c hFirst
      rw [received_apply hAuthored, List.append_assoc,
        ← hPicked, hInv.delivered]
      simp [sent]

/-
  In any run of any number of users and the administrator on
  identified screens, what a room holds of a client, and
  what of it is still underway to the room, is what the room
  held at the start and then what the client has sent to it:
  nothing is lost, doubled, reordered or made up.
-/
theorem received_append_picked
    (start : Firestore)
    (c : Client)
    (id : DocumentId)
    {es : List Event}
    (hRun :
      system.Run identified { store := start } es t) :
    received c id t.store ++
        t.outbox.picked (Write.addition id) c =
      received c id start ++
        system.trace (sent c id) { store := start } es := by
  have hDelivered :
      Delivered start c id
        (system.trace (sent c id) { store := start } es)
        t := by
    refine hRun.traceInvariant
      (I := Delivered start c id) ?_ ?_
    · exact ⟨Outbox.all_empty, by simp⟩
    · intro seen v e w hInv hIdentified hNext
      exact hInv.step hIdentified hNext
  exact hDelivered.delivered

/- One message has arrived, and another one is underway. -/
def adaWritesTwice : List Event :=
  [ .act ⟨false, some "ada@x", some "ada@x"⟩
      (.send "hello" .noon .noon 0 0),
    .apply (.user (some "ada@x")),
    .act ⟨false, some "ada@x", some "ada@x"⟩
      (.send "anyone?" .noon .noon 0 0) ]

theorem received_of_ada :
    ∃ t, system.Run identified {} adaWritesTwice t ∧
      received (.user (some "ada@x")) (.named "ada@x")
          t.store ++
        t.outbox.picked (Write.addition (.named "ada@x"))
          (.user (some "ada@x")) =
      received (.user (some "ada@x")) (.named "ada@x") {} ++
        system.trace
          (sent (.user (some "ada@x")) (.named "ada@x")) {}
          adaWritesTwice := by
  have hRun :
      ∃ t, system.Run identified {} adaWritesTwice t :=
    ⟨_, System.run_iff_exec.mpr ⟨by decide, rfl⟩⟩
  rcases hRun with ⟨t, hRun⟩
  exact ⟨t, hRun, received_append_picked {} _ _ hRun⟩

end Chat

end NewsCentral

------------------------------------------------------------
-- The Writes To A User's Room
------------------------------------------------------------

namespace NewsCentral

open Dart EventLoop

namespace Chat

variable {path : String} {t u : State} {e : Event}

/- The write makes the list show the room. -/
def Write.Lists (path : String) : Write → Prop
  | .add .. => False
  | .setData id fields =>
      id = .named path ∧
        ∀ r : Room, (r.merge fields).createdAt.isSome = true
  | .updateData .. => False

/-
  A message to the room is signed by one of its writers, and
  the administrator's by the administrator.
-/
def Write.Signed
    (path : String)
    (c : Client)
    (w : Write) : Prop :=
  ∀ message ∈ w.addition (.named path),
    message.author ∈ writers path ∧
      (c = .admin → message.author = .admin)

/- What holds of each write to the room of an email. -/
structure Write.Sound
    (path : String)
    (c : Client)
    (w : Write) : Prop where
  own : w.Own path c
  signed : w.Signed path c
  lists :
    (w.preview (.named path)).isSome = true → w.Lists path
  keeps : w.Keeps
  named : w.id = .named path → w.Named

theorem signed_act
    (s : Screen)
    (action : Action) :
    ∀ w ∈ s.act action, w.Signed path s.client := by
  intro w hWrite message hAdds
  have hMem : message ∈ s.sends (.named path) action := by
    rw [← addition_act]
    exact List.mem_filterMap.mpr ⟨w, hWrite, hAdds⟩
  cases action with
  | updateTyping status key => cases hMem
  | initTyping key => cases hMem
  | send text addedAt mergedAt addKey mergeKey =>
      simp only [Screen.sends] at hMem
      split at hMem
      next hSent =>
        rw [List.mem_singleton] at hMem
        subst hMem
        have hRoom := document_eq_named_iff.mp hSent.2
        unfold Screen.room at hRoom
        by_cases hAdmin : s.isAdmin = true
        · simp [Message.author, writers, hAdmin]
        · -- Whoever else acts does so in a room of its own.
          rw [if_neg hAdmin] at hRoom
          by_cases hEmail : path = adminEmail
          · simp [Message.author, writers, Screen.client,
              hAdmin, hRoom, hEmail]
          · simp [Message.author, writers, Screen.client,
              hAdmin, hRoom, hEmail]
      next => cases hMem

/- The writes of Send give a preview and a date at once. -/
theorem lists_room
    {email : Option String}
    {key : Nat}
    {fields : List Field}
    (hDate :
      ∀ r : Room, (r.merge fields).createdAt.isSome = true)
    (hPreview :
      ((Write.setData (document email key) fields).preview
        (.named path)).isSome = true) :
    (Write.setData (document email key) fields).Lists
      path := by
  simp only [Write.preview] at hPreview
  split at hPreview
  next hSame => exact ⟨hSame, hDate⟩
  next => cases hPreview

theorem lists_act
    (s : Screen)
    (action : Action) :
    ∀ w ∈ s.act action,
      (w.preview (.named path)).isSome = true →
        w.Lists path := by
  intro w hMem hPreview
  cases action with
  | updateTyping status key =>
      simp only [Screen.act, Screen.updateTyping,
        List.mem_singleton] at hMem
      subst hMem
      cases hPreview
  | initTyping key =>
      simp only [Screen.act, Screen.initTyping,
        List.mem_singleton] at hMem
      subst hMem
      simp [Write.preview, Room.merge, Room.set] at hPreview
  | send text addedAt mergedAt addKey mergeKey =>
      simp only [Screen.act, Screen.send] at hMem
      split at hMem
      next => simp at hMem
      next =>
        split at hMem
        all_goals
          rw [List.mem_cons, List.mem_singleton] at hMem
          rcases hMem with rfl | rfl
          · cases hPreview
          · exact lists_room (fun r => rfl) hPreview

/- A named document is written with its email. -/
theorem named_act
    (s : Screen)
    (action : Action) :
    ∀ w ∈ s.act action, w.id = .named path → w.Named := by
  intro w hMem hName
  cases action with
  | updateTyping status key =>
      simp only [Screen.act, Screen.updateTyping,
        List.mem_singleton] at hMem
      subst hMem
      trivial
  | initTyping key =>
      simp only [Screen.act, Screen.initTyping,
        List.mem_singleton] at hMem
      subst hMem
      simp [Write.Named]
  | send text addedAt mergedAt addKey mergeKey =>
      simp only [Screen.act, Screen.send] at hMem
      split at hMem
      next => simp at hMem
      next =>
        split at hMem
        all_goals
          rw [List.mem_cons, List.mem_singleton] at hMem
          rcases hMem with rfl | rfl
          · trivial
          · rw [Write.id, document_eq_named_iff] at hName
            simp [Write.Named, hName]

theorem sound_act
    (s : Screen)
    (action : Action) :
    ∀ w ∈ s.act action, w.Sound path s.client := by
  intro w hMem
  exact
    { own := own_act s action w hMem
      signed := signed_act s action w hMem
      lists := lists_act s action w hMem
      keeps := keeps_act s action w hMem
      named := named_act s action w hMem }

theorem sound_openRoom
    (r : Room)
    (key : Nat) :
    ∀ w ∈ openRoom r key, w.Sound path .admin := by
  intro w hMem
  have hKeeps := keeps_openRoom r key w hMem
  rw [openRoom, List.mem_singleton] at hMem
  subst hMem
  exact
    { own := fun hSome => by cases hSome
      signed := fun message hAdds => by cases hAdds
      lists := fun hSome => by cases hSome
      keeps := hKeeps
      named := fun _ => trivial }

/- A date that is written stays written. -/
theorem createdAt_merge
    {r : Room}
    (fields : List Field)
    (hDate : r.createdAt.isSome = true) :
    (r.merge fields).createdAt.isSome = true := by
  unfold Room.merge
  induction fields generalizing r with
  | nil => exact hDate
  | cons field fields ih =>
      refine ih ?_
      cases field with
      | createdAt value => rfl
      | adminTyping value => exact hDate
      | lastestMessage value => exact hDate
      | userEmail value => exact hDate
      | isSeenByAdmin value => exact hDate
      | userTyping value => exact hDate
      | image value => exact hDate

end Chat

end NewsCentral

------------------------------------------------------------
-- Conversations And The Administrator's List
------------------------------------------------------------

namespace NewsCentral

open Dart EventLoop

namespace Chat

variable {path : String} {t u : State} {e : Event}

/- The list shows the room of the email. -/
def Firestore.Listed
    (store : Firestore)
    (path : String) : Prop :=
  ∃ r, store.rooms (.named path) = some r ∧
    r.createdAt.isSome = true

/-
  The messages of the room are its writers', what is listed
  is complete, and a room with messages is listed or one of
  its writers is about to have it listed.
-/
structure ListedInvariant (path : String) (t : State) :
    Prop where
  paired : ∀ c, Paired (.named path) (t.outbox c)
  sound : t.outbox.All fun c w => w.Sound path c
  authors :
    ∀ message ∈ t.store.messages (.named path),
      message.author ∈ writers path
  complete :
    ∀ r, t.store.rooms (.named path) = some r →
      KeptComplete (.named path) r
  listed :
    t.store.messages (.named path) ≠ [] →
      t.store.Listed path ∨
        t.outbox.Carries (writers path) (Write.Lists path)

theorem ListedInvariant.issue
    {c : Client}
    {ws : List Write}
    (opened : List (Option String))
    (hInv : ListedInvariant path t)
    (hPaired : Paired (.named path) ws)
    (hSound : ∀ w ∈ ws, w.Sound path c) :
    ListedInvariant path
      { t with
        outbox := t.outbox.issue c ws
        opened := opened } := by
  refine ⟨fun d => ?_, hInv.sound.issue hSound,
    hInv.authors, hInv.complete, fun hMessages => ?_⟩
  · change Paired (.named path) (t.outbox.issue c ws d)
    by_cases hSame : d = c
    · subst hSame
      rw [Outbox.issue_same]
      exact (hInv.paired d).append hPaired
    · rw [Outbox.issue_of_ne hSame]
      exact hInv.paired d
  · rcases hInv.listed hMessages with hListed | hCarries
    · exact .inl hListed
    · exact .inr hCarries.issue

/- What the list shows stays shown. -/
theorem Firestore.Listed.apply
    {store : Firestore}
    (w : Write)
    (hListed : store.Listed path) :
    (store.apply w).Listed path := by
  rcases hListed with ⟨r, hRoom, hDate⟩
  cases w with
  | add id message => exact ⟨r, hRoom, hDate⟩
  | setData id fields =>
      by_cases hSame : .named path = id
      · refine ⟨r.merge fields, ?_,
          createdAt_merge fields hDate⟩
        simp [Firestore.apply, put, ← hSame, hRoom]
      · refine ⟨r, ?_, hDate⟩
        simp [Firestore.apply, put, hSame, hRoom]
  | updateData id fields =>
      by_cases hSame : .named path = id
      · refine ⟨r.merge fields, ?_,
          createdAt_merge fields hDate⟩
        simp [Firestore.apply, put, ← hSame, hRoom]
      · refine ⟨r, ?_, hDate⟩
        simp [Firestore.apply, put, hSame, hRoom]

/- A write that lists the room does so. -/
theorem Write.Lists.apply
    {store : Firestore}
    {w : Write}
    (hLists : w.Lists path) :
    (store.apply w).Listed path := by
  cases w with
  | add id message => cases hLists
  | updateData id fields => cases hLists
  | setData id fields =>
      rcases hLists with ⟨rfl, hDate⟩
      exact ⟨_, by simp [Firestore.apply, put],
        hDate ((store.rooms (.named path)).getD {})⟩

/- A sound write leaves the room of the email complete. -/
theorem complete_apply
    {store : Firestore}
    {c : Client}
    {w : Write}
    (hSound : w.Sound path c)
    (hComplete :
      ∀ r, store.rooms (.named path) = some r →
        KeptComplete (.named path) r) :
    ∀ r, (store.apply w).rooms (.named path) = some r →
      KeptComplete (.named path) r := by
  intro r hRoom
  have hKeeps := hSound.keeps
  have hNamed := hSound.named
  cases w with
  | add id message => exact hComplete r hRoom
  | setData id fields =>
      by_cases hSame : .named path = id
      · subst hSame
        simp only [Firestore.apply, put, if_true,
          Option.some.injEq] at hRoom
        subst hRoom
        refine hKeeps.1 (hNamed rfl) _ ?_
        cases hBefore : store.rooms (.named path) with
        | none => exact fun hDate => by cases hDate
        | some before => exact hComplete before hBefore
      · simp only [Firestore.apply, put, if_neg hSame] at hRoom
        exact hComplete r hRoom
  | updateData id fields =>
      by_cases hSame : .named path = id
      · subst hSame
        simp only [Firestore.apply, put, if_true] at hRoom
        rcases Option.map_eq_some_iff.mp hRoom with
          ⟨before, hBefore, rfl⟩
        exact hKeeps before (hComplete before hBefore)
      · simp only [Firestore.apply, put, if_neg hSame] at hRoom
        exact hComplete r hRoom

theorem ListedInvariant.apply
    {c : Client}
    {w : Write}
    {ws : List Write}
    (hInv : ListedInvariant path t)
    (hFirst : t.outbox c = w :: ws) :
    ListedInvariant path
      { t with
        store := t.store.apply w
        outbox := t.outbox.rest c } := by
  have hSound : w.Sound path c :=
    hInv.sound c w (by simp [hFirst])
  have hPair : Paired (.named path) (w :: ws) :=
    hFirst ▸ hInv.paired c
  refine ⟨fun d => ?_, hInv.sound.rest, ?_,
    complete_apply hSound hInv.complete, fun hMessages => ?_⟩
  · change Paired (.named path) (t.outbox.rest c d)
    by_cases hSame : d = c
    · subst hSame
      rw [Outbox.rest_same, hFirst]
      exact hPair.2
    · rw [Outbox.rest_of_ne hSame]
      exact hInv.paired d
  · intro message hMem
    change message ∈ (t.store.apply w).messages _ at hMem
    rw [messages_apply, List.mem_append] at hMem
    rcases hMem with hOld | hAdded
    · exact hInv.authors message hOld
    · have hAdds :
          message ∈ w.addition (.named path) := by
        simpa using hAdded
      exact (hSound.signed message hAdds).1
  · change (t.store.apply w).messages _ ≠ [] at hMessages
    rw [messages_apply] at hMessages
    cases hAdds : w.addition (.named path) with
    | some message =>
        -- The room write of the message comes behind it.
        have hOwn : c ∈ writers path :=
          hSound.own (by rw [hAdds]; rfl)
        rcases hPair.1 message hAdds with ⟨v, hLater, hText⟩
        have hLater' : v ∈ t.outbox c := by
          rw [hFirst]
          exact List.mem_cons_of_mem w hLater
        have hLists : v.Lists path :=
          (hInv.sound c v hLater').lists (by rw [hText]; rfl)
        exact .inr
          (Outbox.carries_rest_of_mem hFirst hOwn hLater
            hLists)
    | none =>
        have hBefore :
            t.store.messages (.named path) ≠ [] := by
          simpa [hAdds] using hMessages
        rcases hInv.listed hBefore with hListed | hCarries
        · exact .inl (hListed.apply w)
        · rcases hCarries.rest hFirst with hNow | hLater
          · exact .inl hNow.apply
          · exact .inr hLater

theorem ListedInvariant.step
    (hInv : ListedInvariant path t)
    (hNext : system.step t e = some u) :
    ListedInvariant path u := by
  cases e with
  | act screen action =>
      rcases step_act_iff.mp hNext with ⟨_, rfl⟩
      exact hInv.issue t.opened (paired_act screen action)
        (sound_act screen action)
  | openRoom id key =>
      rcases step_openRoom_iff.mp hNext with ⟨r, _, _, rfl⟩
      exact hInv.issue (r.userEmail :: t.opened)
        (paired_of_no_addition
          (by simp [openRoom, Write.addition]))
        (sound_openRoom r key)
  | apply c =>
      rcases step_apply_iff.mp hNext with
        ⟨w, ws, hFirst, rfl⟩
      exact hInv.apply hFirst

/-
  Once nothing of the writers of a room is on its way, a
  room with a message holds the messages of its user and of
  the administrator alone, and the list shows its item under
  the email of the user.
-/
theorem conversations_listed
    (path : String)
    {es : List Event}
    (hRun : system.Run System.anyStep {} es t)
    (hRest : ∀ c ∈ writers path, t.outbox c = [])
    (hMessages : t.store.messages (.named path) ≠ []) :
    (∀ message ∈ t.store.messages (.named path),
        message.author ∈ writers path) ∧
      ∃ r, t.store.rooms (.named path) = some r ∧
        r.createdAt.isSome = true ∧
        r.userEmail = some path ∧
        r.chatItem.isSome = true := by
  have hInv : ListedInvariant path t := by
    refine hRun.historyInvariant
      (I := fun _ => ListedInvariant path) ?_ ?_
    · exact
        { paired := fun _ => trivial
          sound := Outbox.all_empty
          authors := fun message hMem => by cases hMem
          complete := fun r hRoom => by cases hRoom
          listed := fun hNonempty => absurd rfl hNonempty }
    · intro _ v e w hInv _ hNext
      exact hInv.step hNext
  refine ⟨hInv.authors, ?_⟩
  rcases hInv.listed hMessages with
    ⟨r, hRoom, hDate⟩ | ⟨c, hWriter, w, hMem, _⟩
  · have hComplete := hInv.complete r hRoom hDate
    rcases hComplete.userEmail with ⟨email, hName, hEmail⟩
    cases hName
    exact ⟨r, hRoom, hDate, hEmail, hComplete.chatItem⟩
  · rw [hRest c hWriter] at hMem
    cases hMem

/- A user writes, and both writes take effect. -/
def adaWrites : List Event :=
  [ .act ⟨false, some "ada@x", some "ada@x"⟩
      (.send "hello" .noon .noon 0 0),
    .apply (.user (some "ada@x")),
    .apply (.user (some "ada@x")) ]

theorem conversation_of_ada :
    ∃ t, system.Run System.anyStep {} adaWrites t ∧
      (∀ message ∈ t.store.messages (.named "ada@x"),
        message.author ∈ writers "ada@x") ∧
      ∃ r, t.store.rooms (.named "ada@x") = some r ∧
        r.createdAt.isSome = true ∧
        r.userEmail = some "ada@x" ∧
        r.chatItem.isSome = true := by
  have hRun :
      ∃ t, system.Run System.anyStep {} adaWrites t ∧
        (∀ c ∈ writers "ada@x", t.outbox c = []) ∧
        t.store.messages (.named "ada@x") ≠ [] :=
    ⟨_, System.run_of_exec rfl, by decide, by decide⟩
  rcases hRun with ⟨t, hRun, hRest, hMessages⟩
  exact ⟨t, hRun,
    conversations_listed "ada@x" hRun hRest hMessages⟩

end Chat

end NewsCentral
