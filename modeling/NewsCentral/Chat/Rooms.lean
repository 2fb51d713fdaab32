import NewsCentral.Chat.Program

/-
  When the rooms in the administrator's list are complete.

  A room is listed once it has a field `createdAt`, which
  only the button Send writes, with all other fields.  Those
  name the room by the sender's email; a Firebase user that
  has none, as after a login by phone, makes a room that the
  list cannot show.

  Key definitions include:
    * `NewsCentral.Chat.Complete`
    * `NewsCentral.Chat.ListedComplete`
    * `NewsCentral.Chat.appliesNamed`
    * `NewsCentral.Chat.RoomsInvariant`

  Key theorems include:
    * `NewsCentral.Chat.Complete.chatItem`
    * `NewsCentral.Chat.RoomsInvariant.step`
    * `NewsCentral.Chat.listedComplete_iff`
-/

------------------------------------------------------------
-- Complete Rooms
------------------------------------------------------------

namespace NewsCentral

open Dart EventLoop

namespace Chat

/- The fields that the item of a room needs. -/
structure Complete (id : DocumentId) (r : Room) : Prop where
  lastestMessage :
    ∃ text, r.lastestMessage = some text ∧ text ≠ ""
  userEmail :
    ∃ email, id = .named email ∧ r.userEmail = some email
  createdAt :
    ∃ text, r.createdAt = some text ∧
      (DateTime.parse text).isSome = true
  isSeenByAdmin : r.isSeenByAdmin.isSome = true
  userTyping : r.userTyping.isSome = true
  adminTyping : r.adminTyping.isSome = true

/- A room that is listed has them. -/
def KeptComplete (id : DocumentId) (r : Room) : Prop :=
  r.createdAt.isSome = true → Complete id r

/- So do all rooms that are listed. -/
def ListedComplete (store : Firestore) : Prop :=
  ∀ id r, store.rooms id = some r → KeptComplete id r

/- The item of a complete room is built. -/
theorem Complete.chatItem
    {id : DocumentId}
    {r : Room}
    (hComplete : Complete id r) :
    r.chatItem.isSome = true := by
  rcases hComplete.createdAt with ⟨text, hCreated, hParse⟩
  rcases hComplete.userEmail with ⟨email, _, hEmail⟩
  rcases Option.isSome_iff_exists.mp hParse with
    ⟨createdAt, hDate⟩
  rcases Option.isSome_iff_exists.mp hComplete.userTyping with
    ⟨userTyping, hTyping⟩
  rcases Option.isSome_iff_exists.mp
      hComplete.isSeenByAdmin with
    ⟨isSeenByAdmin, hSeen⟩
  unfold Room.chatItem
  simp [hCreated, hDate, hEmail, hTyping, hSeen]

/- The write gives a room no missing email. -/
def Write.Named : Write → Prop
  | .add .. => True
  | .setData _ fields => .userEmail none ∉ fields
  | .updateData .. => True

instance (w : Write) : Decidable w.Named :=
  match w with
  | .add .. => isTrue trivial
  | .setData _ fields =>
      inferInstanceAs
        (Decidable (Field.userEmail none ∉ fields))
  | .updateData .. => isTrue trivial

/- No write of a sender without an email takes effect. -/
def appliesNamed (t : State) : Event → Prop
  | .act .. => True
  | .openRoom .. => True
  | .apply c => ∀ w ∈ (t.outbox c).head?, w.Named

instance
    (t : State)
    (e : Event) :
    Decidable (appliesNamed t e) :=
  match e with
  | .act .. => isTrue trivial
  | .openRoom .. => isTrue trivial
  | .apply c =>
      inferInstanceAs
        (Decidable (∀ w ∈ (t.outbox c).head?, w.Named))

end Chat

end NewsCentral

------------------------------------------------------------
-- What The Writes Keep
------------------------------------------------------------

namespace NewsCentral

open Dart EventLoop

namespace Chat

/-
  Named writes keep rooms complete; the others make a room
  that is listed without an email.
-/
def Write.Keeps : Write → Prop
  | .add .. => True
  | .setData id fields =>
      (.userEmail none ∉ fields →
          ∀ r, KeptComplete id r →
            KeptComplete id (r.merge fields)) ∧
        (.userEmail none ∈ fields →
          ∀ r : Room,
            (r.merge fields).createdAt.isSome = true ∧
              (r.merge fields).userEmail = none)
  | .updateData id fields =>
      ∀ r, KeptComplete id r →
        KeptComplete id (r.merge fields)

/- Setting flags leaves the fields that matter. -/
theorem KeptComplete.flags
    {id : DocumentId}
    {r : Room}
    (hKept : KeptComplete id r)
    (userTyping adminTyping isSeenByAdmin : Option Bool)
    (hUser : r.userTyping.isSome → userTyping.isSome)
    (hAdmin : r.adminTyping.isSome → adminTyping.isSome)
    (hSeen : r.isSeenByAdmin.isSome → isSeenByAdmin.isSome) :
    KeptComplete id
      { r with
        userTyping := userTyping
        adminTyping := adminTyping
        isSeenByAdmin := isSeenByAdmin } := by
  intro hListed
  have hComplete := hKept hListed
  exact
    { lastestMessage := hComplete.lastestMessage
      userEmail := hComplete.userEmail
      createdAt := hComplete.createdAt
      isSeenByAdmin := hSeen hComplete.isSeenByAdmin
      userTyping := hUser hComplete.userTyping
      adminTyping := hAdmin hComplete.adminTyping }

theorem keeps_updateTyping
    (s : Screen)
    (status : Bool)
    (key : Nat) :
    ∀ w ∈ s.updateTyping status key, w.Keeps := by
  intro w hMem
  rw [Screen.updateTyping, List.mem_singleton] at hMem
  subst hMem
  intro r hKept
  split
  · exact hKept.flags r.userTyping (some status)
      r.isSeenByAdmin id (by simp) id
  · exact hKept.flags (some status) r.adminTyping
      r.isSeenByAdmin (by simp) id id

theorem keeps_initTyping
    (s : Screen)
    (key : Nat) :
    ∀ w ∈ s.initTyping key, w.Keeps := by
  intro w hMem
  rw [Screen.initTyping, List.mem_singleton] at hMem
  subst hMem
  constructor
  · intro _ r hKept
    exact hKept.flags (some false) (some false)
      r.isSeenByAdmin (by simp) (by simp) id
  · intro hNone
    simp at hNone

theorem keeps_openRoom
    (room : Room)
    (key : Nat) :
    ∀ w ∈ openRoom room key, w.Keeps := by
  intro w hMem
  rw [openRoom, List.mem_singleton] at hMem
  subst hMem
  intro r hKept
  exact hKept.flags (some false) (some false) (some true)
    (by simp) (by simp) (by simp)

/- The room that Send writes is complete if it is named. -/
theorem keeps_room
    {email : Option String}
    {key : Nat}
    {text : String}
    {mergedAt : DateTime}
    {fields : List Field}
    (hText : text ≠ "")
    (hNamed : .userEmail none ∈ fields ↔ email = none)
    (hFields :
      ∀ r : Room, ∃ seen image,
        r.merge fields =
          { adminTyping := some false
            lastestMessage := some text
            userEmail := email
            createdAt := some mergedAt.toIso8601String
            isSeenByAdmin := some seen
            userTyping := some false
            image := some image }) :
    (Write.setData (document email key) fields).Keeps := by
  constructor
  · intro hSome r _ _
    rw [hNamed] at hSome
    cases email with
    | none => exact absurd rfl hSome
    | some email =>
        rcases hFields r with ⟨seen, image, hMerged⟩
        rw [hMerged]
        exact
          { lastestMessage := ⟨text, rfl, hText⟩
            userEmail := ⟨email, rfl, rfl⟩
            createdAt :=
              ⟨_, rfl, by
                rw [DateTime.parse_toIso8601String]
                rfl⟩
            isSeenByAdmin := rfl
            userTyping := rfl
            adminTyping := rfl }
  · intro hNone r
    rw [hNamed] at hNone
    rcases hFields r with ⟨seen, image, hMerged⟩
    rw [hMerged]
    exact ⟨rfl, hNone⟩

theorem keeps_send
    (s : Screen)
    (text : String)
    (addedAt mergedAt : DateTime)
    (addKey mergeKey : Nat) :
    ∀ w ∈ s.send text addedAt mergedAt addKey mergeKey,
      w.Keeps := by
  intro w hMem
  unfold Screen.send at hMem
  by_cases hText : text = ""
  · simp [hText] at hMem
  · rw [if_neg hText] at hMem
    split at hMem
    all_goals
      rw [List.mem_cons, List.mem_singleton] at hMem
      rcases hMem with rfl | rfl
    · trivial
    · exact keeps_room hText (by simp [eq_comm])
        fun r => ⟨true, "", rfl⟩
    · trivial
    · exact keeps_room hText (by simp [eq_comm])
        fun r => ⟨false, "", rfl⟩

theorem keeps_act
    (s : Screen)
    (action : Action) :
    ∀ w ∈ s.act action, w.Keeps := by
  cases action with
  | updateTyping status key =>
      exact keeps_updateTyping s status key
  | send text addedAt mergedAt addKey mergeKey =>
      exact keeps_send s text addedAt mergedAt addKey mergeKey
  | initTyping key => exact keeps_initTyping s key

end Chat

end NewsCentral

------------------------------------------------------------
-- Runs
------------------------------------------------------------

namespace NewsCentral

open Dart EventLoop

namespace Chat

/- The listed rooms and the writes on their way. -/
structure RoomsInvariant (t : State) : Prop where
  listed : ListedComplete t.store
  writes : t.outbox.All fun _ w => w.Keeps

variable {t u : State} {e : Event}

/- A write to one room leaves the others. -/
theorem ListedComplete.put
    {store : Firestore}
    {id : DocumentId}
    {room : Option Room}
    (hListed : ListedComplete store)
    (hRoom : ∀ r, room = some r → KeptComplete id r) :
    ListedComplete
      { store with rooms := put store.rooms id room } := by
  intro other r hOther
  by_cases hSame : other = id
  · subst hSame
    simp only [Chat.put, if_true] at hOther
    exact hRoom r hOther
  · simp only [Chat.put, if_neg hSame] at hOther
    exact hListed other r hOther

/- Before it is written, a room is not listed. -/
theorem keptComplete_getD
    {store : Firestore}
    (hListed : ListedComplete store)
    (id : DocumentId) :
    KeptComplete id ((store.rooms id).getD {}) := by
  cases hRoom : store.rooms id with
  | none =>
      intro hSome
      cases hSome
  | some r => exact hListed id r hRoom

/- A write that keeps rooms complete, once it is named. -/
theorem ListedComplete.apply
    {store : Firestore}
    {w : Write}
    (hListed : ListedComplete store)
    (hKeeps : w.Keeps)
    (hNamed : w.Named) :
    ListedComplete (store.apply w) := by
  cases w with
  | add id message => exact hListed
  | setData id fields =>
      refine hListed.put fun r hRoom => ?_
      cases hRoom
      exact hKeeps.1 hNamed _ (keptComplete_getD hListed id)
  | updateData id fields =>
      refine hListed.put fun r hRoom => ?_
      rcases Option.map_eq_some_iff.mp hRoom with
        ⟨before, hBefore, rfl⟩
      exact hKeeps before (hListed id before hBefore)

/- Every step keeps the writes on their way. -/
theorem RoomsInvariant.step
    (hInv : RoomsInvariant t)
    (hOk : appliesNamed t e)
    (hNext : system.step t e = some u) :
    RoomsInvariant u := by
  cases e with
  | act screen action =>
      rcases step_act_iff.mp hNext with ⟨_, rfl⟩
      exact ⟨hInv.listed,
        hInv.writes.issue (keeps_act screen action)⟩
  | openRoom id key =>
      rcases step_openRoom_iff.mp hNext with ⟨r, _, _, rfl⟩
      exact ⟨hInv.listed,
        hInv.writes.issue (keeps_openRoom r key)⟩
  | apply c =>
      rcases step_apply_iff.mp hNext with
        ⟨w, ws, hFirst, rfl⟩
      have hKeeps := hInv.writes c w (by simp [hFirst])
      have hNamed : w.Named := hOk w (by simp [hFirst])
      exact ⟨hInv.listed.apply hKeeps hNamed,
        hInv.writes.rest⟩

/- Without an email, a room is listed that has none. -/
theorem not_listedComplete_of_not_named
    {store : Firestore}
    {w : Write}
    (hKeeps : w.Keeps)
    (hNot : ¬ w.Named) :
    ¬ ListedComplete (store.apply w) := by
  intro hListed
  cases w with
  | add id message => exact hNot trivial
  | updateData id fields => exact hNot trivial
  | setData id fields =>
      rcases hKeeps.2 (not_not.mp hNot)
          ((store.rooms id).getD {}) with
        ⟨hCreated, hNone⟩
      have hComplete :=
        hListed id _ (by simp [Firestore.apply, put])
          hCreated
      rcases hComplete.userEmail with ⟨email, _, hEmail⟩
      rw [hNone] at hEmail
      cases hEmail

/-
  From an empty collection, all listed rooms of a run are
  complete at every moment exactly if no write of a sender
  without an email takes effect.
-/
theorem listedComplete_iff
    {es : List Event}
    (hRun : system.Run System.anyStep {} es t) :
    system.Always (fun _ u => ListedComplete u.store) {} es ↔
      system.Run appliesNamed {} es t := by
  refine System.always_iff_run (I := RoomsInvariant)
    (G := fun u => ListedComplete u.store)
    ?_ ?_ ?_ ?_ hRun
  · constructor
    · intro id r hRoom
      cases hRoom
    · exact Outbox.all_empty
  · intro u e v hInv hOk hNext
    exact hInv.step hOk hNext
  · intro u hInv
    exact hInv.listed
  · intro u e v hInv hBroken hNext
    cases e with
    | act screen action => exact absurd trivial hBroken
    | openRoom id key => exact absurd trivial hBroken
    | apply c =>
        rcases step_apply_iff.mp hNext with
          ⟨w, ws, hFirst, rfl⟩
        have hKeeps := hInv.writes c w (by simp [hFirst])
        refine not_listedComplete_of_not_named hKeeps ?_
        intro hNamed
        refine hBroken fun v hMem => ?_
        rw [hFirst] at hMem
        cases hMem
        exact hNamed

/- A user with an email writes, and the list is opened. -/
theorem listedComplete_of_email :
    system.Always (fun _ u => ListedComplete u.store) {}
      [ .act ⟨false, some "ada@x", some "ada@x"⟩
          (.send "hello" .noon .noon 0 0),
        .apply (.user (some "ada@x")),
        .apply (.user (some "ada@x")),
        .openRoom (.named "ada@x") 0, .apply .admin ] := by
  have hRun :
      ∃ t, system.Run appliesNamed {}
        [ .act ⟨false, some "ada@x", some "ada@x"⟩
            (.send "hello" .noon .noon 0 0),
          .apply (.user (some "ada@x")),
          .apply (.user (some "ada@x")),
          .openRoom (.named "ada@x") 0, .apply .admin ] t :=
    ⟨_, System.run_iff_exec.mpr ⟨by decide, rfl⟩⟩
  rcases hRun with ⟨t, hRun⟩
  exact (listedComplete_iff hRun.any).mpr hRun

/- A user signed in by phone makes a room without an email. -/
theorem phone_user_breaks_list :
    ∃ t r,
      system.Run System.anyStep {}
        [ .act ⟨false, none, none⟩
            (.send "hello" .noon .noon 0 1),
          .apply (.user none), .apply (.user none) ] t ∧
      t.store.rooms (.auto 1) = some r ∧
      r.createdAt.isSome = true ∧
      r.userEmail = none ∧
      r.chatItem.isNone = true ∧
      ¬ ListedComplete t.store := by
  refine ⟨_, _, System.run_of_exec rfl, rfl, rfl, rfl, ?_, ?_⟩
  · unfold Room.chatItem
    simp [Room.merge, Room.set]
  · intro hListed
    rcases (hListed (.auto 1) _ rfl rfl).userEmail with
      ⟨email, hName, _⟩
    cases hName

end Chat

end NewsCentral
