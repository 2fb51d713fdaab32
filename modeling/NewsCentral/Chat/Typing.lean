import NewsCentral.Chat.Program

/-
  Whose action changes a typing flag.

  Typing sets `adminTyping` alone on a device signed in to
  Firebase as the administrator, and `userTyping` alone on
  any other.  Sending, opening a room and building
  `TypingStream` reset both flags, so that either party also
  resets the other's.

  Each write on its way is traced to the action of the run
  that issued it.

  Key definitions include:
    * `NewsCentral.Chat.Party`
    * `NewsCentral.Chat.State.typing`
    * `NewsCentral.Chat.Event.Issues`
    * `NewsCentral.Chat.TypedBy`
    * `NewsCentral.Chat.ChangedBy`
    * `NewsCentral.Chat.TypingOwned`

  Key theorems include:
    * `NewsCentral.Chat.effect_of_issues`
    * `NewsCentral.Chat.issued_step`
    * `NewsCentral.Chat.typingOwned_of_run`
-/

------------------------------------------------------------
-- Flags And Their Parties
------------------------------------------------------------

namespace NewsCentral

open Dart EventLoop

namespace Chat

/- The parties of a room, each with a flag of its own. -/
inductive Party where
  | user
  | admin
deriving DecidableEq

def Party.flag : Party → Room → Option Bool
  | .user => Room.userTyping
  | .admin => Room.adminTyping

/- The flag of a party as it is stored. -/
def State.typing
    (t : State)
    (p : Party)
    (id : DocumentId) : Option Bool :=
  (t.store.rooms id).bind p.flag

/- The client is the party in the room of that name. -/
def Party.Has (p : Party) (id : DocumentId) : Client → Prop
  | .user email =>
      p = .user ∧ ∃ key, id = document email key
  | .admin => p = .admin

/- The party whom Firebase takes the screen's user for. -/
def Screen.party (s : Screen) : Party :=
  if s.loggedInUser = some adminEmail then .admin else .user

/- What a write gives to a room. -/
def Write.fields : Write → List Field
  | .add .. => []
  | .setData _ fields => fields
  | .updateData _ fields => fields

/- The document a write belongs to. -/
def Write.id : Write → DocumentId
  | .add id _ => id
  | .setData id _ => id
  | .updateData id _ => id

/- The write leaves a flag, whatever the room. -/
def KeepsFlag
    (flag : Room → Option Bool)
    (fields : List Field) : Prop :=
  ∀ r : Room, flag (r.merge fields) = flag r

/- The write sets a flag to false, whatever the room. -/
def ResetsFlag
    (flag : Room → Option Bool)
    (fields : List Field) : Prop :=
  ∀ r : Room, flag (r.merge fields) = some false

/- The write sets both flags to false. -/
def Write.ResetsTyping (w : Write) : Prop :=
  ∀ p : Party, ResetsFlag p.flag w.fields

/- The step has a client issue the write. -/
def Event.Issues
    (c : Client)
    (w : Write) : Event → Prop
  | .act screen action =>
      screen.client = c ∧ w ∈ screen.act action
  | .openRoom _ key =>
      c = .admin ∧ ∃ r, w ∈ Chat.openRoom r key
  | .apply _ => False

/-
  In the course of the events the client has typed in the
  room, or finished editing, on a screen whose device is
  signed in as the party, and the write is what it issued.
-/
def TypedBy
    (p : Party)
    (es : List Event)
    (c : Client)
    (w : Write)
    (id : DocumentId)
    (status : Bool) : Prop :=
  ∃ screen key,
    .act screen (.updateTyping status key) ∈ es ∧
      screen.client = c ∧
      screen.party = p ∧
      id = document screen.room key ∧
      w ∈ screen.updateTyping status key ∧
      (screen.Identified → p.Has id c)

/-
  The step has a write take effect that was issued in the
  course of the events, by the room's user or by the
  administrator: the party's typing with that value, or one
  that resets both flags.
-/
def ChangedBy
    (p : Party)
    (es : List Event)
    (t : State)
    (e : Event)
    (id : DocumentId)
    (value : Option Bool) : Prop :=
  ∃ c, ∃ w ∈ (t.outbox c).head?, e = .apply c ∧
    (∃ f ∈ es, f.Issues c w) ∧
    (∃ q : Party, q.Has id c) ∧
    ((∃ status, TypedBy p es c w id status ∧
        value = some status) ∨
      w.ResetsTyping ∧ value = some false)

/-
  How a step after the events may change a party's flag.  It
  is set by the party's typing alone, and the typing of the
  other party leaves it.
-/
structure TypingOwned
    (p : Party)
    (es : List Event)
    (t : State)
    (e : Event)
    (u : State) : Prop where
  changed :
    ∀ id, u.typing p id ≠ t.typing p id →
      ChangedBy p es t e id (u.typing p id)
  typed :
    ∀ id, t.typing p id ≠ some true →
      u.typing p id = some true →
      ∃ c, ∃ w ∈ (t.outbox c).head?, e = .apply c ∧
        TypedBy p es c w id true
  kept :
    ∀ c, ∀ w ∈ (t.outbox c).head?, e = .apply c →
      ∀ (screen : Screen) (status : Bool) (key : Nat),
        w ∈ screen.updateTyping status key →
        screen.party ≠ p →
        ∀ id, u.typing p id = t.typing p id

end Chat

end NewsCentral

------------------------------------------------------------
-- The Effect Of The Writes
------------------------------------------------------------

namespace NewsCentral

open Dart EventLoop

namespace Chat

variable {s : Screen} {c : Client} {w : Write}

/- The writes of a screen go to the room of its client. -/
theorem has_client
    (s : Screen)
    (key : Nat) :
    ∃ q : Party, q.Has (document s.room key) s.client := by
  unfold Screen.room Screen.client
  split
  · exact ⟨.admin, rfl⟩
  · exact ⟨.user, rfl, key, rfl⟩

/- The party of an identified screen is its client. -/
theorem has_of_identified
    (hIdentified : s.Identified)
    (key : Nat) :
    s.party.Has (document s.room key) s.client := by
  unfold Screen.Identified at hIdentified
  unfold Screen.party Screen.room Screen.client
  by_cases hAdmin : s.isAdmin = true
  · simp only [if_pos hAdmin,
      if_pos (hIdentified.mp hAdmin), Party.Has]
  · simp only [if_neg hAdmin,
      if_neg (mt hIdentified.mpr hAdmin)]
    exact ⟨rfl, key, rfl⟩

/- Typing sets the flag of the screen's party alone. -/
theorem flag_updateTyping
    {status : Bool}
    {key : Nat}
    (hMem : w ∈ s.updateTyping status key)
    (p : Party)
    (r : Room) :
    p.flag (r.merge w.fields) =
      if s.party = p then some status else p.flag r := by
  rw [Screen.updateTyping, List.mem_singleton] at hMem
  subst hMem
  unfold Screen.party
  by_cases hEmail : s.loggedInUser = some adminEmail
  · cases p <;>
      simp [hEmail, Write.fields, Room.merge, Room.set,
        Party.flag]
  · cases p <;>
      simp [hEmail, Write.fields, Room.merge, Room.set,
        Party.flag]

/-
  What a screen writes goes to its room, and is typing, or a
  message, or resets both flags.
-/
theorem effect_of_act
    {action : Action}
    (hMem : w ∈ s.act action) :
    ∃ key, w.id = document s.room key ∧
      ((∃ status, action = .updateTyping status key) ∨
        w.fields = [] ∨ w.ResetsTyping) := by
  cases action with
  | updateTyping status key =>
      have hWrite := List.mem_singleton.mp hMem
      subst hWrite
      exact ⟨key, rfl, .inl ⟨status, rfl⟩⟩
  | initTyping key =>
      have hWrite := List.mem_singleton.mp hMem
      subst hWrite
      exact ⟨key, rfl, .inr (.inr fun p r => by
        cases p <;> rfl)⟩
  | send text addedAt mergedAt addKey mergeKey =>
      simp only [Screen.act, Screen.send] at hMem
      unfold Screen.room
      by_cases hText : text = ""
      · simp [hText] at hMem
      · rw [if_neg hText] at hMem
        split at hMem
        all_goals
          rw [List.mem_cons, List.mem_singleton] at hMem
          rcases hMem with rfl | rfl
          · exact ⟨addKey, by simp [Write.id, *],
              .inr (.inl rfl)⟩
          · exact ⟨mergeKey, by simp [Write.id, *],
              .inr (.inr fun p r => by cases p <;> rfl)⟩

/- So with any write of a client in a step. -/
theorem effect_of_issues
    {f : Event}
    (hIssues : f.Issues c w) :
    (∃ q : Party, q.Has w.id c) ∧
      ((∃ screen status key,
          f = .act screen (.updateTyping status key) ∧
            screen.client = c ∧
            w.id = document screen.room key ∧
            w ∈ screen.updateTyping status key) ∨
        w.fields = [] ∨ w.ResetsTyping) := by
  cases f with
  | act screen action =>
      rcases hIssues with ⟨rfl, hMem⟩
      rcases effect_of_act hMem with ⟨key, hRoom, hEffect⟩
      refine ⟨hRoom ▸ has_client screen key, ?_⟩
      rcases hEffect with ⟨status, rfl⟩ | hElse
      · exact .inl
          ⟨screen, status, key, rfl, rfl, hRoom, hMem⟩
      · exact .inr hElse
  | openRoom id key =>
      rcases hIssues with ⟨rfl, r, hMem⟩
      have hWrite := List.mem_singleton.mp hMem
      subst hWrite
      exact ⟨⟨.admin, rfl⟩, .inr (.inr fun p r => by
        cases p <;> rfl)⟩
  | apply d => cases hIssues

/-
  A flag after a write: the same, or that of the room with
  the fields merged, where a missing room has no flag.
-/
theorem flag_apply
    (p : Party)
    (store : Firestore)
    (w : Write)
    (id : DocumentId) :
    ((store.apply w).rooms id).bind p.flag =
        (store.rooms id).bind p.flag ∨
      id = w.id ∧ ∃ r : Room,
        (store.rooms id).bind p.flag = p.flag r ∧
          ((store.apply w).rooms id).bind p.flag =
            p.flag (r.merge w.fields) := by
  cases w with
  | add other message => exact .inl rfl
  | setData other fields =>
      by_cases hSame : id = other
      · subst hSame
        refine .inr ⟨rfl, (store.rooms id).getD {}, ?_, ?_⟩
        · cases store.rooms id with
          | none => cases p <;> rfl
          | some r => rfl
        · simp [Firestore.apply, put, Write.fields]
      · left
        simp [Firestore.apply, put, hSame]
  | updateData other fields =>
      by_cases hSame : id = other
      · subst hSame
        cases hRoom : store.rooms id with
        | none =>
            left
            simp [Firestore.apply, put, hRoom]
        | some r =>
            refine .inr ⟨rfl, r, rfl, ?_⟩
            simp [Firestore.apply, put, hRoom, Write.fields]
      · left
        simp [Firestore.apply, put, hSame]

/- A flag that a write leaves stays as it is stored. -/
theorem flag_apply_of_keeps
    {p : Party}
    (hKeeps : KeepsFlag p.flag w.fields)
    (store : Firestore)
    (id : DocumentId) :
    ((store.apply w).rooms id).bind p.flag =
      (store.rooms id).bind p.flag := by
  rcases flag_apply p store w id with
    hSame | ⟨_, r, hBefore, hAfter⟩
  · exact hSame
  · rw [hAfter, hKeeps r, hBefore]

end Chat

end NewsCentral

------------------------------------------------------------
-- Steps And Runs
------------------------------------------------------------

namespace NewsCentral

open Dart EventLoop

namespace Chat

variable {t u : State} {e : Event} {es : List Event}

/- Every write on its way was issued in the run. -/
theorem issued_step
    (hIssued :
      t.outbox.All fun c w => ∃ f ∈ es, f.Issues c w)
    (hNext : system.step t e = some u) :
    u.outbox.All fun c w =>
      ∃ f ∈ es ++ [e], f.Issues c w := by
  have hBefore :
      t.outbox.All fun c w =>
        ∃ f ∈ es ++ [e], f.Issues c w := by
    intro c w hMem
    rcases hIssued c w hMem with ⟨f, hEvent, hWrite⟩
    exact ⟨f, List.mem_append_left _ hEvent, hWrite⟩
  have hLast : e ∈ es ++ [e] := by simp
  cases e with
  | act screen action =>
      rcases step_act_iff.mp hNext with ⟨_, rfl⟩
      exact hBefore.issue fun w hMem =>
        ⟨_, hLast, rfl, hMem⟩
  | openRoom id key =>
      rcases step_openRoom_iff.mp hNext with ⟨r, _, _, rfl⟩
      exact hBefore.issue fun w hMem =>
        ⟨_, hLast, rfl, r, hMem⟩
  | apply c =>
      rcases step_apply_iff.mp hNext with ⟨w, ws, _, rfl⟩
      exact hBefore.rest

/- A change of a flag by a write that the run has issued. -/
theorem changed_of_apply
    {p : Party}
    {c : Client}
    {w : Write}
    {id : DocumentId}
    {store : Firestore}
    (hIssued : ∃ f ∈ es, f.Issues c w)
    (hChange :
      ((store.apply w).rooms id).bind p.flag ≠
        (store.rooms id).bind p.flag) :
    (∃ q : Party, q.Has id c) ∧
      ((∃ status, TypedBy p es c w id status ∧
          ((store.apply w).rooms id).bind p.flag =
            some status) ∨
        w.ResetsTyping ∧
          ((store.apply w).rooms id).bind p.flag =
            some false) := by
  rcases hIssued with ⟨f, hEvent, hIssues⟩
  rcases effect_of_issues hIssues with ⟨hHas, hEffect⟩
  rcases flag_apply p store w id with
    hSame | ⟨rfl, r, hBefore, hAfter⟩
  · exact absurd hSame hChange
  · refine ⟨hHas, ?_⟩
    rw [hBefore, hAfter] at hChange
    rw [hAfter]
    rcases hEffect with
      ⟨screen, status, key, rfl, rfl, hRoom, hMem⟩ |
        hNone | hResets
    · have hFlag := flag_updateTyping hMem p r
      by_cases hParty : screen.party = p
      · subst hParty
        rw [if_pos rfl] at hFlag
        refine .inl ⟨status, ⟨screen, key, hEvent, rfl, rfl,
          hRoom, hMem, fun hIdentified => ?_⟩, hFlag⟩
        rw [hRoom]
        exact has_of_identified hIdentified key
      · rw [if_neg hParty] at hFlag
        exact absurd hFlag hChange
    · rw [hNone] at hChange
      exact absurd rfl hChange
    · exact .inr ⟨hResets, hResets p r⟩

theorem changedBy_step
    {p : Party}
    {id : DocumentId}
    (hIssued :
      t.outbox.All fun c w => ∃ f ∈ es, f.Issues c w)
    (hNext : system.step t e = some u)
    (hChange : u.typing p id ≠ t.typing p id) :
    ChangedBy p es t e id (u.typing p id) := by
  cases e with
  | act screen action =>
      rcases step_act_iff.mp hNext with ⟨_, rfl⟩
      exact absurd rfl hChange
  | openRoom other key =>
      rcases step_openRoom_iff.mp hNext with ⟨r, _, _, rfl⟩
      exact absurd rfl hChange
  | apply c =>
      rcases step_apply_iff.mp hNext with
        ⟨w, ws, hFirst, rfl⟩
      have hWrite := hIssued c w (by simp [hFirst])
      exact ⟨c, w, by simp [hFirst], rfl, hWrite,
        changed_of_apply hWrite hChange⟩

/- The other party's typing leaves the flag. -/
theorem typing_of_other
    {p : Party}
    {c : Client}
    {w : Write}
    {screen : Screen}
    {status : Bool}
    {key : Nat}
    (hHead : w ∈ (t.outbox c).head?)
    (hNext : system.step t (.apply c) = some u)
    (hMem : w ∈ screen.updateTyping status key)
    (hOther : screen.party ≠ p)
    (id : DocumentId) :
    u.typing p id = t.typing p id := by
  rcases step_apply_iff.mp hNext with ⟨v, ws, hFirst, rfl⟩
  rw [hFirst, List.head?_cons, Option.mem_some_iff] at hHead
  subst hHead
  refine flag_apply_of_keeps (fun r => ?_) t.store id
  rw [flag_updateTyping hMem p r, if_neg hOther]

/- The writes that the run has issued keep to the rule. -/
theorem typingOwned_step
    (p : Party)
    (hIssued :
      t.outbox.All fun c w => ∃ f ∈ es, f.Issues c w)
    (hNext : system.step t e = some u) :
    TypingOwned p es t e u := by
  refine ⟨fun id => changedBy_step hIssued hNext, ?_, ?_⟩
  · intro id hBefore hAfter
    have hChange : u.typing p id ≠ t.typing p id := by
      rw [hAfter]
      exact Ne.symm hBefore
    rcases changedBy_step hIssued hNext hChange with
      ⟨c, w, hHead, hApply, _, _, hCause⟩
    rcases hCause with ⟨status, hTyped, hFlag⟩ | ⟨_, hFalse⟩
    · rw [hAfter, Option.some.injEq] at hFlag
      exact ⟨c, w, hHead, hApply, hFlag ▸ hTyped⟩
    · rw [hAfter] at hFalse
      cases hFalse
  · rintro c w hHead rfl screen status key hMem hOther
    exact typing_of_other hHead hNext hMem hOther

/-
  In every run from an empty collection, each step changes
  the typing flags only as their parties may.
-/
theorem typingOwned_of_run
    (p : Party)
    (hRun : system.Run System.anyStep {} es t)
    (hNext : system.step t e = some u) :
    TypingOwned p es t e u := by
  have hIssued :
      t.outbox.All fun c w => ∃ f ∈ es, f.Issues c w := by
    refine hRun.historyInvariant
      (I := fun es t =>
        t.outbox.All fun c w => ∃ f ∈ es, f.Issues c w)
      ?_ ?_
    · exact Outbox.all_empty
    · intro _ _ _ _ hBefore _ hStep
      exact issued_step hBefore hStep
  exact typingOwned_step p hIssued hNext

/- A user's room, in which the user types after writing. -/
def typingUser : List Event :=
  [ .act ⟨false, some "ada@x", some "ada@x"⟩
      (.send "hello" .noon .noon 0 0),
    .apply (.user (some "ada@x")),
    .apply (.user (some "ada@x")),
    .openRoom (.named "ada@x") 0, .apply .admin,
    .act ⟨false, some "ada@x", some "ada@x"⟩
      (.updateTyping true 0) ]

/- The user's typing sets the user's flag. -/
theorem typing_sets_own_flag :
    ∃ t u,
      system.step t (.apply (.user (some "ada@x"))) = some u ∧
      t.typing .user (.named "ada@x") = some false ∧
      u.typing .user (.named "ada@x") = some true ∧
      TypingOwned .user typingUser t
        (.apply (.user (some "ada@x"))) u := by
  have hRun :
      ∃ t, system.Run System.anyStep {} typingUser t ∧
        ∃ u,
          system.step t (.apply (.user (some "ada@x"))) =
              some u ∧
            t.typing .user (.named "ada@x") = some false ∧
            u.typing .user (.named "ada@x") = some true :=
    ⟨_, System.run_of_exec rfl, _, rfl, rfl, rfl⟩
  rcases hRun with ⟨t, hRun, u, hNext, hBefore, hAfter⟩
  exact ⟨t, u, hNext, hBefore, hAfter,
    typingOwned_of_run .user hRun hNext⟩

/-
  The administrator sends, and the user's flag is reset.  On
  a device that is signed in to Firebase as somebody else,
  the administrator's typing even sets the user's flag.
-/
theorem send_resets_other_flag :
    (∃ t u,
      system.Run System.anyStep {}
        (typingUser ++
          [ .apply (.user (some "ada@x")),
            .act ⟨true, some "ada@x", some adminEmail⟩
              (.send "welcome" .noon .noon 0 0),
            .apply .admin ]) t ∧
      system.step t (.apply .admin) = some u ∧
      t.typing .user (.named "ada@x") = some true ∧
      u.typing .user (.named "ada@x") = some false) ∧
    ∃ t u,
      system.Run System.anyStep {}
        (typingUser ++
          [ .act ⟨true, some "ada@x", some "bob@x"⟩
              (.updateTyping true 0) ]) t ∧
      system.step t (.apply .admin) = some u ∧
      t.typing .user (.named "ada@x") = some false ∧
      u.typing .user (.named "ada@x") = some true :=
  ⟨⟨_, _, System.run_of_exec rfl, rfl, rfl, rfl⟩,
    ⟨_, _, System.run_of_exec rfl, rfl, rfl, rfl⟩⟩

end Chat

end NewsCentral
