import NewsCentral.Dart.DateTime
import NewsCentral.EventLoop.Outbox
import NewsCentral.EventLoop.System

/-
  The chat of `lib/screens/chat`: the documents of the
  collection `chatRooms`, the screens' writes to them, and
  the runs of any number of users and the administrator.

  No write is awaited.  A client's writes take effect in the
  order in which it issues them; `setData` with `merge`
  creates or merges at once, and `updateData` fails on a
  document that does not exist.

  Key definitions include:
    * `NewsCentral.Chat.Room` and `Message`
    * `NewsCentral.Chat.Room.chatItem`
    * `NewsCentral.Chat.Write`
    * `NewsCentral.Chat.Screen.updateTyping`
    * `NewsCentral.Chat.Screen.send`
    * `NewsCentral.Chat.Screen.initTyping`
    * `NewsCentral.Chat.openRoom`
    * `NewsCentral.Chat.system`
    * `NewsCentral.Chat.Screen.Identified`
-/

------------------------------------------------------------
-- Documents
------------------------------------------------------------

namespace NewsCentral

open Dart EventLoop

namespace Chat

/- The names of documents: given ones, and made-up ones. -/
inductive DocumentId where
  | named (path : String)
  | auto (key : Nat)
deriving DecidableEq

/- `document(path)`; without a path, a name is made up. -/
def document (path : Option String) (key : Nat) : DocumentId :=
  match path with
  | some path => .named path
  | none => .auto key

/- A document of `chatRooms`; missing fields read as null. -/
structure Room where
  adminTyping : Option Bool := none
  lastestMessage : Option String := none
  userEmail : Option String := none
  createdAt : Option String := none
  isSeenByAdmin : Option Bool := none
  userTyping : Option Bool := none
  image : Option String := none

/- One entry of the data that is written to a room. -/
inductive Field where
  | adminTyping (value : Bool)
  | lastestMessage (value : String)
  | userEmail (value : Option String)
  | createdAt (value : String)
  | isSeenByAdmin (value : Bool)
  | userTyping (value : Bool)
  | image (value : String)
deriving DecidableEq

def Room.set (r : Room) : Field → Room
  | .adminTyping value => { r with adminTyping := some value }
  | .lastestMessage value =>
      { r with lastestMessage := some value }
  | .userEmail value => { r with userEmail := value }
  | .createdAt value => { r with createdAt := some value }
  | .isSeenByAdmin value =>
      { r with isSeenByAdmin := some value }
  | .userTyping value => { r with userTyping := some value }
  | .image value => { r with image := some value }

/- The fields that are not written stay as they are. -/
def Room.merge (r : Room) (fields : List Field) : Room :=
  fields.foldl Room.set r

/- What the administrator's list shows of a room. -/
structure ChatItem where
  userEmail : String
  createdAt : DateTime
  subtitle : String
  enabled : Bool

/-
  `ChatItem.build`, which fails on a field that is null,
  save the last message, which is printed as it is.
-/
def Room.chatItem (r : Room) : Option ChatItem := do
  let createdAt ← DateTime.parse (← r.createdAt)
  let userEmail ← r.userEmail
  let userTyping ← r.userTyping
  let isSeenByAdmin ← r.isSeenByAdmin
  let name :=
    String.ofList (userEmail.toList.takeWhile (· ≠ '@'))
  some
    { userEmail := userEmail
      createdAt := createdAt
      subtitle :=
        if userTyping then
          name ++ " is typing ..."
        else
          r.lastestMessage.getD "null"
      enabled := isSeenByAdmin }

/- A document of a room's collection `chatScreen`. -/
structure Message where
  text : String
  sender : Option String
  createdAt : String
deriving DecidableEq

/- The rooms, and the messages of each as they were added. -/
structure Firestore where
  rooms : DocumentId → Option Room := fun _ => none
  messages : DocumentId → List Message := fun _ => []

/- What the screens write. -/
inductive Write where
  | add (id : DocumentId) (message : Message)
  | setData (id : DocumentId) (fields : List Field)
  | updateData (id : DocumentId) (fields : List Field)
deriving DecidableEq

/- Replace what belongs to one name. -/
def put
    {α : Type}
    (f : DocumentId → α)
    (id : DocumentId)
    (value : α) : DocumentId → α :=
  fun other => if other = id then value else f other

def Firestore.apply
    (store : Firestore) : Write → Firestore
  | .add id message =>
      { store with
        messages :=
          put store.messages id
            (store.messages id ++ [message]) }
  | .setData id fields =>
      { store with
        rooms :=
          put store.rooms id
            (some (((store.rooms id).getD {}).merge fields)) }
  | .updateData id fields =>
      { store with
        rooms :=
          put store.rooms id
            ((store.rooms id).map fun r => r.merge fields) }

/- The message a write adds to a room. -/
def Write.addition
    (id : DocumentId) : Write → Option Message
  | .add other message =>
      if other = id then some message else none
  | .setData .. => none
  | .updateData .. => none

theorem document_eq_named_iff
    {email : Option String}
    {path : String}
    {key : Nat} :
    document email key = .named path ↔ email = some path := by
  cases email with
  | none => simp [document]
  | some email => simp [document]

------------------------------------------------------------
-- Screens
------------------------------------------------------------

def adminEmail : String :=
  "itsupport@newscentral.ng"

/-
  A `ChatScreen`.  Of `loggedInUser`, which is not null, it
  reads the email.
-/
structure Screen where
  isAdmin : Bool := false
  userEmail : Option String
  loggedInUser : Option String
deriving DecidableEq

namespace Screen

/- The path of the room that is shown. -/
def room (s : Screen) : Option String :=
  if s.isAdmin then s.userEmail else s.loggedInUser

/- `updateTyping` -/
def updateTyping
    (s : Screen)
    (status : Bool)
    (key : Nat) : List Write :=
  [ .updateData (document s.room key)
      [ if s.loggedInUser = some adminEmail then
          .adminTyping status
        else
          .userTyping status ] ]

/-
  What the button Send writes: the message, then the room.
  Each of the two reads the clock.
-/
def send
    (s : Screen)
    (messagesText : String)
    (addedAt mergedAt : DateTime)
    (addKey mergeKey : Nat) : List Write :=
  if messagesText = "" then
    []
  else if s.isAdmin then
    [ .add (document s.userEmail addKey)
        { text := messagesText
          sender := some adminEmail
          createdAt := addedAt.toText },
      .setData (document s.userEmail mergeKey)
        [ .adminTyping false,
          .lastestMessage messagesText,
          .userEmail s.userEmail,
          .createdAt mergedAt.toIso8601String,
          .isSeenByAdmin true,
          .userTyping false,
          .image "" ] ]
  else
    [ .add (document s.loggedInUser addKey)
        { text := messagesText
          sender := s.loggedInUser
          createdAt := addedAt.toText },
      .setData (document s.loggedInUser mergeKey)
        [ .lastestMessage messagesText,
          .userTyping false,
          .userEmail s.loggedInUser,
          .createdAt mergedAt.toIso8601String,
          .isSeenByAdmin false,
          .adminTyping false,
          .image "" ] ]

/- `TypingStream` built before its snapshot has come. -/
def initTyping (s : Screen) (key : Nat) : List Write :=
  [ .setData (document s.room key)
      [.userTyping false, .adminTyping false] ]

end Screen

/- A tap on the item of a room in the list of the admin. -/
def openRoom (r : Room) (key : Nat) : List Write :=
  [ .updateData (document r.userEmail key)
      [ .isSeenByAdmin true,
        .userTyping false,
        .adminTyping false ] ]

end Chat

end NewsCentral

------------------------------------------------------------
-- Runs
------------------------------------------------------------

namespace NewsCentral

open Dart EventLoop

namespace Chat

/- Who writes. -/
inductive Client where
  | user (email : Option String)
  | admin
deriving DecidableEq

/- What is done on an open screen. -/
inductive Action where
  | updateTyping (status : Bool) (key : Nat)
  | send
      (messagesText : String)
      (addedAt mergedAt : DateTime)
      (addKey mergeKey : Nat)
  | initTyping (key : Nat)

def Screen.act (s : Screen) : Action → List Write
  | .updateTyping status key => s.updateTyping status key
  | .send messagesText addedAt mergedAt addKey mergeKey =>
      s.send messagesText addedAt mergedAt addKey mergeKey
  | .initTyping key => s.initTyping key

/-
  The store, the writes on their way, and the rooms whose
  screens the administrator has opened from the list.
-/
structure State where
  store : Firestore := {}
  outbox : Outbox Client Write := .empty
  opened : List (Option String) := []

/- The client a screen belongs to. -/
def Screen.client (s : Screen) : Client :=
  if s.isAdmin then .admin else .user s.loggedInUser

/- The administrator's screens are opened from the list. -/
def Screen.IsOpen (s : Screen) (t : State) : Prop :=
  s.isAdmin = true → s.userEmail ∈ t.opened

instance
    (s : Screen)
    (t : State) :
    Decidable (s.IsOpen t) := by
  unfold Screen.IsOpen
  infer_instance

/- What happens next. -/
inductive Event where
  | act (screen : Screen) (action : Action)
  | openRoom (id : DocumentId) (key : Nat)
  | apply (c : Client)

/-
  One step.  The list shows the rooms that have a field
  `createdAt`, by which it is ordered.
-/
def step (t : State) : Event → Option State
  | .act screen action =>
      if screen.IsOpen t then
        some
          { t with
            outbox :=
              t.outbox.issue screen.client
                (screen.act action) }
      else
        none
  | .openRoom id key =>
      match t.store.rooms id with
      | none => none
      | some r =>
          if r.createdAt.isSome then
            some
              { t with
                outbox :=
                  t.outbox.issue .admin (openRoom r key)
                opened := r.userEmail :: t.opened }
          else
            none
  | .apply c =>
      match t.outbox c with
      | [] => none
      | w :: _ =>
          some
            { t with
              store := t.store.apply w
              outbox := t.outbox.rest c }

def system : System State Event where
  step := step

/-
  The device is signed in to Firebase as the administrator
  exactly where the screen is the administrator's.  Nothing
  in the source makes it so: whose screen it is comes from
  `UserModel`, and `loggedInUser` from Firebase.
-/
def Screen.Identified (s : Screen) : Prop :=
  s.isAdmin = true ↔ s.loggedInUser = some adminEmail

instance
    (s : Screen) :
    Decidable s.Identified := by
  unfold Screen.Identified
  infer_instance

/- The screen that acts, if any, is of that kind. -/
def Event.Identified : Event → Prop
  | .act screen _ => screen.Identified
  | .openRoom .. => True
  | .apply _ => True

def identified (_ : State) (e : Event) : Prop :=
  e.Identified

instance
    (t : State)
    (e : Event) :
    Decidable (identified t e) :=
  match e with
  | .act screen _ =>
      inferInstanceAs (Decidable screen.Identified)
  | .openRoom .. => isTrue trivial
  | .apply _ => isTrue trivial

end Chat

end NewsCentral

------------------------------------------------------------
-- What One Step Does
------------------------------------------------------------

namespace NewsCentral

open Dart EventLoop

namespace Chat

variable {t u : State}

theorem step_act_iff
    {screen : Screen}
    {action : Action} :
    system.step t (.act screen action) = some u ↔
      screen.IsOpen t ∧
        u =
          { t with
            outbox :=
              t.outbox.issue screen.client
                (screen.act action) } := by
  simp only [system, step]
  by_cases hOpen : screen.IsOpen t
  · rw [if_pos hOpen, Option.some.injEq]
    exact ⟨fun hEq => ⟨hOpen, hEq.symm⟩, fun hBoth =>
      hBoth.2.symm⟩
  · simp [hOpen]

theorem step_openRoom_iff
    {id : DocumentId}
    {key : Nat} :
    system.step t (.openRoom id key) = some u ↔
      ∃ r, t.store.rooms id = some r ∧
        r.createdAt.isSome = true ∧
        u =
          { t with
            outbox := t.outbox.issue .admin (openRoom r key)
            opened := r.userEmail :: t.opened } := by
  simp only [system, step]
  cases hRoom : t.store.rooms id with
  | none => simp
  | some r =>
      constructor
      · intro hNext
        by_cases hListed : r.createdAt.isSome = true
        · simp only [if_pos hListed] at hNext
          exact ⟨r, rfl, hListed,
            (Option.some.inj hNext).symm⟩
        · simp [hListed] at hNext
      · rintro ⟨_, hSame, hListed, rfl⟩
        cases hSame
        simp [hListed]

theorem step_apply_iff
    {c : Client} :
    system.step t (.apply c) = some u ↔
      ∃ w ws, t.outbox c = w :: ws ∧
        u =
          { t with
            store := t.store.apply w
            outbox := t.outbox.rest c } := by
  simp only [system, step]
  cases hFirst : t.outbox c with
  | nil => simp
  | cons w ws =>
      constructor
      · intro hNext
        exact ⟨w, ws, rfl, (Option.some.inj hNext).symm⟩
      · rintro ⟨_, _, hSplit, rfl⟩
        cases hSplit
        rfl

end Chat

end NewsCentral
