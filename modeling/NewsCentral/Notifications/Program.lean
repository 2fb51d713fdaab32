import NewsCentral.Dart.Heap
import NewsCentral.EventLoop.Program
import NewsCentral.Lists.Keyed
import NewsCentral.Models.Notification
import NewsCentral.Services.LocalStorage

/-
  The stored notifications, their three push handlers and
  the two announcement screens.

  The handlers are those of `lib/screens/home/home.dart`,
  `lib/app.dart` and `one_signal_wapper.dart`; the screens
  are `lib/screens/notification.dart`, which shows the
  stored list object itself, and `settings/notification.dart`,
  which shows what it parsed at its last build.  The stored
  texts are given as the notifications they encode.

  Key definitions include:
    * `NewsCentral.Notifications`
    * `NewsCentral.Notifications.Delivery.received`
    * `NewsCentral.Notifications.call` and `resume`
    * `NewsCentral.Notifications.program` and `handlers`
-/

------------------------------------------------------------
-- State
------------------------------------------------------------

namespace NewsCentral

open Dart EventLoop

/-
  What identifies an entry of the list: the count of the
  deliveries before it, its message id, and what it said
  when it arrived.
-/
structure Arrival where
  serial : Nat
  id : Option String
  said : Option String × Option String × Option String
deriving DecidableEq

/- A stored notification, with its origin. -/
structure NotificationEntry where
  arrival : Arrival
  note : FStoreNotification
deriving DecidableEq

/-
  The storage keys "notifications" and "message-id", the
  list object `_data` of the announcement screen, and the
  entries either screen showed at its last build.  The last
  three fields are histories: how many notifications came
  in, the entries as the user's actions and the arrivals
  would have them, and the message ids of the entries there
  were and of those stored since, the latest first.
-/
structure Notifications where
  heap : Heap NotificationEntry := ⟨[]⟩
  list : Option Ref := none
  messageId : Option String := none
  data : Option Ref := none
  announcements : List NotificationEntry := []
  settings : List NotificationEntry := []
  arrivals : Nat := 0
  intended : List NotificationEntry := []
  takenUp : List (Option String) := []

namespace Notifications

/- The contents of a list object, none when there is none. -/
def listed
    (s : Notifications)
    (list : Option Ref) : List NotificationEntry :=
  match list with
  | none => []
  | some r => s.heap.read r

/- The stored entries. -/
def entries (s : Notifications) : List NotificationEntry :=
  s.listed s.list

/- The contents of the stored list object. -/
theorem entries_of_list
    {s : Notifications}
    {r : Ref}
    (hList : s.list = some r) :
    s.entries = s.heap.read r := by
  simp [entries, listed, hList]

------------------------------------------------------------
-- Push Handlers
------------------------------------------------------------

/- What the handlers are given. -/
inductive Delivery where
  | firebase (message : Json) (now : String)
  | oneSignal
      (title body notificationId : Option String)
      (now : String)

/- The message id a Firebase handler reads. -/
def firebaseId
    (message : Json) : Except Thrown (Option String) := do
  let notification ← message.index "notification"
  if notification.isNotNull then
    (← notification.index "tag").asString
  else
    (← (← message.index "data").index
      "google.message_id").asString

/-
  The notification and the id with which a handler calls
  `saveToLocal`.
-/
def Delivery.received :
    Delivery →
      Except Thrown (FStoreNotification × Option String)
  | .firebase message now => do
      return (.fromJsonFirebase now message,
        ← firebaseId message)
  | .oneSignal title body notificationId now =>
      .ok (.fromOneSignal now title body,
        some (notificationId.getD now))

------------------------------------------------------------
-- Operations
------------------------------------------------------------

inductive Screen where
  | announcements
  | settings
deriving DecidableEq

/- Builds of a screen, taps, swipes and deliveries. -/
inductive Op where
  | build (screen : Screen)
  | showAlert (screen : Screen) (index : Nat)
  | dismiss (screen : Screen) (index : Nat)
  | deliver (delivery : Delivery)

/- Where an operation is suspended. -/
inductive Point where
  | seenReady
      (note : FStoreNotification)
      (index : Nat)
      (tapped : Arrival)
  | seenItem
  | removeReady (index : Nat) (swiped : Arrival)
  | removeItem
  | saveReady (note : FStoreNotification) (arrival : Arrival)
  | saveMessageId
      (note : FStoreNotification)
      (arrival : Arrival)
      (list : Option Ref)
  | saveItem
deriving DecidableEq

/- Mark an entry as seen. -/
def markSeen (e : NotificationEntry) : NotificationEntry :=
  { e with note := { e.note with seen := some true } }

/- Put a notification into an entry's place. -/
def overwrite
    (note : FStoreNotification)
    (e : NotificationEntry) : NotificationEntry :=
  { e with note := note }

/-
  The entry a screen shows at an index, with what the tap
  reads there: the announcement screen decodes its list
  object again, the settings screen has its parsed entries.
  An entry without date is not shown.
-/
def tapped
    (reparse : String → Option String)
    (s : Notifications) :
    Screen → Nat →
      Option (Arrival × Option FStoreNotification)
  | .announcements, index =>
      match s.announcements[index]? with
      | none => none
      | some shown =>
          if shown.note.date = none then
            none
          else
            some (shown.arrival,
              (s.listed s.data)[index]?.map fun e =>
                .fromLocalStorage reparse e.note.toJson)
  | .settings, index =>
      match s.settings[index]? with
      | none => none
      | some shown =>
          let note :=
            FStoreNotification.fromLocalStorage reparse
              shown.note.toJson
          if note.date = none then
            none
          else
            some (shown.arrival, some note)

/- Run a handler up to the first await of `saveToLocal`. -/
def deliver
    (delivery : Delivery)
    (s : Notifications) : Notifications × List Point :=
  match delivery.received with
  | .error _ => (s, [])
  | .ok (note, id) =>
      ({ s with arrivals := s.arrivals + 1 },
        [.saveReady note ⟨s.arrivals, id, note.said⟩])

/- Start an operation. -/
def call
    (reparse : String → Option String) :
    Op → Notifications → Option (Notifications × List Point)
  | .build .announcements, s =>
      some
        ({ s with data := s.list, announcements := s.entries },
          [])
  | .build .settings, s =>
      some ({ s with settings := s.entries }, [])
  | .showAlert screen index, s =>
      match s.tapped reparse screen index with
      | none => none
      | some (_, none) => some (s, [])
      | some (arrival, some note) =>
          some
            (s,
              [.seenReady { note with seen := some true } index
                arrival])
  | .dismiss screen index, s =>
      match s.tapped reparse screen index with
      | none => none
      | some (arrival, _) =>
          some (s, [.removeReady index arrival])
  | .deliver delivery, s => some (s.deliver delivery)

/- `list[index] = ...`; past the end it throws. -/
def updateSeen
    (note : FStoreNotification)
    (index : Nat)
    (s : Notifications) : Notifications × List Point :=
  match s.list with
  | none => (s, [])
  | some r =>
      match (s.heap.read r)[index]? with
      | none => (s, [])
      | some e =>
          ({ s with
              heap :=
                s.heap.write r
                  ((s.heap.read r).set index
                    (overwrite note e)) },
            [.seenItem])

/- `list.removeAt(index)`; past the end it throws. -/
def removeItem
    (index : Nat)
    (s : Notifications) : Notifications × List Point :=
  match s.list with
  | none => (s, [])
  | some r =>
      if index < (s.heap.read r).length then
        ({ s with
            heap :=
              s.heap.write r
                ((s.heap.read r).eraseIdx index) },
          [.removeItem])
      else
        (s, [])

/-
  `saveToLocal` once the storage is ready.  The last id is
  compared as the text `toString` gives, so a missing one
  reads "null".
-/
def checkMessageId
    (note : FStoreNotification)
    (arrival : Arrival)
    (s : Notifications) : Notifications × List Point :=
  let old := s.messageId.getD "null"
  if old ≠ "" ∧ arrival.id ≠ some "null" ∧
      some old = arrival.id then
    (s, [])
  else
    ({ s with
        messageId := arrival.id
        takenUp := arrival.id :: s.takenUp },
      [.saveMessageId note arrival s.list])

/-
  `saveToLocal` once the id is stored: the list read before
  is inserted into and stored, a new one if there was none.
-/
def insertEntry
    (note : FStoreNotification)
    (arrival : Arrival)
    (list : Option Ref)
    (s : Notifications) : Notifications × List Point :=
  match list with
  | none =>
      let made := s.heap.alloc [⟨arrival, note⟩]
      ({ s with heap := made.1, list := some made.2 },
        [.saveItem])
  | some r =>
      ({ s with
          heap :=
            s.heap.write r (⟨arrival, note⟩ :: s.heap.read r)
          list := some r },
        [.saveItem])

/- What the user and the arrivals want of the entries. -/
def intend
    (change : List NotificationEntry → List NotificationEntry)
    (s : Notifications) : Notifications :=
  { s with intended := change s.intended }

/- Resume an operation where it is suspended. -/
def resume
    (point : Point)
    (ready : Ready)
    (s : Notifications) : Notifications × List Point :=
  if ready.works then
    match point with
    | .seenReady note index tapped =>
        (s.intend
          (Keyed.update NotificationEntry.arrival tapped
            markSeen)).updateSeen note index
    | .removeReady index swiped =>
        (s.intend
          (Keyed.erase NotificationEntry.arrival
            swiped)).removeItem index
    | .saveReady note arrival => s.checkMessageId note arrival
    | .saveMessageId note arrival list =>
        (s.intend
          (⟨arrival, note⟩ :: ·)).insertEntry note arrival list
    | _ => (s, [])
  else
    (s, [])

/-
  The notifications as a program of the event loop, with no
  order among the waiters.
-/
def program
    (reparse : String → Option String) :
    Program Notifications Op Point Ready where
  call := call reparse
  resume := resume
  queued := fun _ => false

/- The push handlers alone. -/
def handlers :
    Program Notifications Delivery Point Ready where
  call := fun delivery s => some (s.deliver delivery)
  resume := resume
  queued := fun _ => false

/- What the handlers make of some messages. -/
def received
    (deliveries : List Delivery) :
    List (FStoreNotification × Option String) :=
  deliveries.filterMap fun delivery =>
    delivery.received.toOption

/- Their ids. -/
def messageIds
    (deliveries : List Delivery) : List (Option String) :=
  (received deliveries).map Prod.snd

/- The entries of a list stored before the launch. -/
def storedBefore
    (notes : List FStoreNotification) :
    List NotificationEntry :=
  notes.zipIdx.map fun (note, i) =>
    ⟨⟨i, none, note.said⟩, note⟩

/-
  The launch of the app over a stored list, if any, and the
  last message id.
-/
def launched
    (notes : Option (List FStoreNotification))
    (messageId : Option String) :
    Pool Notifications Point where
  shared :=
    match notes with
    | none => { messageId := messageId }
    | some notes =>
        { heap := ⟨[storedBefore notes]⟩
          list := some 0
          messageId := messageId
          arrivals := notes.length
          intended := storedBefore notes }
  pending := []

end Notifications

end NewsCentral
