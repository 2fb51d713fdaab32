import NewsCentral.Chat.Program

/-
  When the preview of a room is its newest message.

  Send writes the message and then the room.  Two clients'
  writes interleave, so that the older of two messages may
  be the one whose room write comes last.  The preview
  follows the newest message as long as a room write gives
  its text, or comes before the one that does.

  Key definitions include:
    * `NewsCentral.Chat.State.preview` and `newest`
    * `NewsCentral.Chat.previewInOrder`
    * `NewsCentral.Chat.PreviewInvariant`

  Key theorems include:
    * `NewsCentral.Chat.PreviewInvariant.step`
    * `NewsCentral.Chat.preview_eq_newest_of_run`
-/

------------------------------------------------------------
-- Previews
------------------------------------------------------------

namespace NewsCentral

open Dart EventLoop

namespace Chat

/- The message shown for a room in the list. -/
def State.preview
    (t : State)
    (id : DocumentId) : Option String :=
  (t.store.rooms id).bind Room.lastestMessage

/- The text of the message added last to a room. -/
def State.newest
    (t : State)
    (id : DocumentId) : Option String :=
  (t.store.messages id).getLast?.map Message.text

/- The two clients that write to a user's room. -/
def writers (path : String) : List Client :=
  [.user (some path), .admin]

/- The preview that a write gives to a room. -/
def Write.preview
    (id : DocumentId) : Write → Option String
  | .add .. => none
  | .setData other fields =>
      if other = id then
        (Room.merge {} fields).lastestMessage
      else
        none
  | .updateData .. => none

/- The room write of the newest message is still underway. -/
def Announced
    (path : String)
    (newest : Option String)
    (o : Outbox Client Write) : Prop :=
  ∃ text ∈ newest,
    o.Carries (writers path) fun w =>
      w.preview (.named path) = some text

instance
    (path : String)
    (newest : Option String)
    (o : Outbox Client Write) :
    Decidable (Announced path newest o) := by
  unfold Announced
  infer_instance

/-
  A write to the room gives it the newest text, or the room
  write of the newest message comes behind it.
-/
def previewInOrder
    (path : String)
    (t : State) : Event → Prop
  | .act .. => True
  | .openRoom .. => True
  | .apply c =>
      ∀ w ∈ (t.outbox c).head?,
        ∀ text ∈ w.preview (.named path),
          t.newest (.named path) = some text ∨
            Announced path (t.newest (.named path))
              (t.outbox.rest c)

instance
    (path : String)
    (t : State)
    (e : Event) :
    Decidable (previewInOrder path t e) :=
  match e with
  | .act .. => isTrue trivial
  | .openRoom .. => isTrue trivial
  | .apply c =>
      inferInstanceAs (Decidable
        (∀ w ∈ (t.outbox c).head?,
          ∀ text ∈ w.preview (.named path),
            t.newest (.named path) = some text ∨
              Announced path (t.newest (.named path))
                (t.outbox.rest c)))

end Chat

end NewsCentral

------------------------------------------------------------
-- The Writes Of A Room
------------------------------------------------------------

namespace NewsCentral

open Dart EventLoop

namespace Chat

/- Each message is followed by a room write of its text. -/
def Paired (id : DocumentId) : List Write → Prop
  | [] => True
  | w :: ws =>
      (∀ message ∈ w.addition id,
        ∃ v ∈ ws, v.preview id = some message.text) ∧
        Paired id ws

/- A write to a room comes from the room's clients. -/
def Write.Own
    (path : String)
    (c : Client)
    (w : Write) : Prop :=
  (w.addition (.named path)).isSome = true → c ∈ writers path

/- No update gives a preview. -/
def Write.Silent : Write → Prop
  | .add .. => True
  | .setData .. => True
  | .updateData _ fields =>
      ∀ r : Room,
        (r.merge fields).lastestMessage = r.lastestMessage

variable {id : DocumentId} {path : String}
variable {ws vs : List Write} {w : Write}

theorem Paired.append
    (hLeft : Paired id ws)
    (hRight : Paired id vs) :
    Paired id (ws ++ vs) := by
  induction ws with
  | nil => exact hRight
  | cons w ws ih =>
      refine ⟨fun message hMem => ?_, ih hLeft.2⟩
      rcases hLeft.1 message hMem with ⟨v, hLater, hText⟩
      exact ⟨v, List.mem_append_left _ hLater, hText⟩

/- Writes without messages are paired. -/
theorem paired_of_no_addition
    (hNone : ∀ w ∈ ws, w.addition id = none) :
    Paired id ws := by
  induction ws with
  | nil => trivial
  | cons w ws ih =>
      refine ⟨fun message hMem => ?_, ih fun v hLater =>
        hNone v (List.mem_cons_of_mem w hLater)⟩
      rw [hNone w (by simp)] at hMem
      cases hMem

/- A preview that is not written stays. -/
theorem lastestMessage_merge
    (r : Room)
    (fields : List Field) :
    (r.merge fields).lastestMessage =
      ((Room.merge {} fields).lastestMessage).or
        r.lastestMessage := by
  induction fields generalizing r with
  | nil => rfl
  | cons field fields ih =>
      have hSet :
          (r.set field).lastestMessage =
            ((Room.set {} field).lastestMessage).or
              r.lastestMessage := by
        cases field <;> rfl
      have hLeft := ih (r.set field)
      have hRight := ih (Room.set {} field)
      unfold Room.merge at hLeft hRight ⊢
      rw [List.foldl_cons, List.foldl_cons, hLeft, hRight,
        hSet, Option.or_assoc]

/- The message and the room that Send writes. -/
theorem paired_room
    {email : Option String}
    {message : Message}
    {addKey mergeKey : Nat}
    {fields : List Field}
    (hText :
      (Room.merge {} fields).lastestMessage =
        some message.text) :
    Paired (.named path)
      [ .add (document email addKey) message,
        .setData (document email mergeKey) fields ] := by
  refine ⟨fun other hMem => ?_,
    paired_of_no_addition (by simp [Write.addition])⟩
  rw [Write.addition] at hMem
  split at hMem
  next hSame =>
    cases hMem
    rw [document_eq_named_iff] at hSame
    refine ⟨_, List.mem_singleton_self _, ?_⟩
    rw [Write.preview,
      if_pos (document_eq_named_iff.mpr hSame), hText]
  next => cases hMem

theorem paired_act
    (s : Screen)
    (action : Action) :
    Paired (.named path) (s.act action) := by
  cases action with
  | updateTyping status key =>
      exact paired_of_no_addition
        (by simp [Screen.act, Screen.updateTyping,
          Write.addition])
  | initTyping key =>
      exact paired_of_no_addition
        (by simp [Screen.act, Screen.initTyping,
          Write.addition])
  | send text addedAt mergedAt addKey mergeKey =>
      simp only [Screen.act, Screen.send]
      split
      next => trivial
      next =>
        split
        next => exact paired_room rfl
        next => exact paired_room rfl

/- The messages a screen adds are for a room of its own. -/
theorem own_act
    (s : Screen)
    (action : Action) :
    ∀ w ∈ s.act action, w.Own path s.client := by
  intro w hMem hSome
  unfold Screen.client
  split
  next => simp [writers]
  next hUser =>
    cases action with
    | updateTyping status key =>
        simp only [Screen.act, Screen.updateTyping,
          List.mem_singleton] at hMem
        subst hMem
        cases hSome
    | initTyping key =>
        simp only [Screen.act, Screen.initTyping,
          List.mem_singleton] at hMem
        subst hMem
        cases hSome
    | send text addedAt mergedAt addKey mergeKey =>
        simp only [Screen.act, Screen.send,
          if_neg hUser] at hMem
        split at hMem
        next => simp at hMem
        next =>
          rw [List.mem_cons, List.mem_singleton] at hMem
          rcases hMem with rfl | rfl
          · rw [Write.addition] at hSome
            split at hSome
            next hSame =>
              rw [document_eq_named_iff] at hSame
              simp [writers, hSame]
            next => cases hSome
          · cases hSome

theorem silent_act
    (s : Screen)
    (action : Action) :
    ∀ w ∈ s.act action, w.Silent := by
  intro w hMem
  cases action with
  | updateTyping status key =>
      simp only [Screen.act, Screen.updateTyping,
        List.mem_singleton] at hMem
      subst hMem
      intro r
      split <;> rfl
  | initTyping key =>
      simp only [Screen.act, Screen.initTyping,
        List.mem_singleton] at hMem
      subst hMem
      trivial
  | send text addedAt mergedAt addKey mergeKey =>
      simp only [Screen.act, Screen.send] at hMem
      split at hMem
      next => simp at hMem
      next =>
        split at hMem
        all_goals
          rw [List.mem_cons, List.mem_singleton] at hMem
          rcases hMem with rfl | rfl <;> trivial

end Chat

end NewsCentral

------------------------------------------------------------
-- Steps
------------------------------------------------------------

namespace NewsCentral

open Dart EventLoop

namespace Chat

/-
  The preview is the newest message, or its room write is
  still underway; so are those of all messages underway.
-/
structure PreviewInvariant (path : String) (t : State) :
    Prop where
  paired : ∀ c, Paired (.named path) (t.outbox c)
  own : t.outbox.All fun c w => w.Own path c
  silent : t.outbox.All fun _ w => w.Silent
  follows :
    t.preview (.named path) = t.newest (.named path) ∨
      Announced path (t.newest (.named path)) t.outbox

variable {path : String} {t u : State} {e : Event}

/- Further writes are issued by one client. -/
theorem PreviewInvariant.issue
    {c : Client}
    {ws : List Write}
    {opened : List (Option String)}
    (hInv : PreviewInvariant path t)
    (hPaired : Paired (.named path) ws)
    (hOwn : ∀ w ∈ ws, w.Own path c)
    (hSilent : ∀ w ∈ ws, w.Silent) :
    PreviewInvariant path
      { t with
        outbox := t.outbox.issue c ws
        opened := opened } := by
  refine ⟨fun d => ?_, hInv.own.issue hOwn,
    hInv.silent.issue hSilent, ?_⟩
  · change Paired (.named path) (t.outbox.issue c ws d)
    by_cases hSame : d = c
    · subst hSame
      rw [Outbox.issue_same]
      exact (hInv.paired d).append hPaired
    · rw [Outbox.issue_of_ne hSame]
      exact hInv.paired d
  · rcases hInv.follows with
      hSame | ⟨text, hMem, hCarries⟩
    · exact .inl hSame
    · exact .inr ⟨text, hMem, hCarries.issue⟩

/- A write without a preview leaves what is announced. -/
theorem Announced.rest
    {c : Client}
    {w : Write}
    {ws : List Write}
    {newest : Option String}
    {o : Outbox Client Write}
    (hAnnounced : Announced path newest o)
    (hFirst : o c = w :: ws)
    (hNone : w.preview (.named path) = none) :
    Announced path newest (o.rest c) := by
  rcases hAnnounced with ⟨text, hMem, hCarries⟩
  rcases hCarries.rest hFirst with hNow | hLater
  · rw [hNone] at hNow
    cases hNow
  · exact ⟨text, hMem, hLater⟩

/- The preview after a write. -/
theorem preview_apply
    {store : Firestore}
    {w : Write}
    {id : DocumentId}
    (hSilent : w.Silent) :
    ((store.apply w).rooms id).bind Room.lastestMessage =
      (w.preview id).or
        ((store.rooms id).bind Room.lastestMessage) := by
  cases w with
  | add other message => rfl
  | setData other fields =>
      by_cases hSame : id = other
      · subst hSame
        simp only [Firestore.apply, put, Write.preview,
          if_true, Option.bind_some]
        rw [lastestMessage_merge]
        cases store.rooms id <;> rfl
      · simp [Firestore.apply, put, Write.preview, hSame,
          Ne.symm hSame]
  | updateData other fields =>
      by_cases hSame : id = other
      · subst hSame
        simp only [Firestore.apply, put, Write.preview,
          if_true]
        cases store.rooms id with
        | none => rfl
        | some r => exact hSilent r
      · simp [Firestore.apply, put, Write.preview, hSame]

/- The newest message after a write. -/
theorem newest_apply
    (store : Firestore)
    (w : Write)
    (id : DocumentId) :
    ((store.apply w).messages id).getLast?.map Message.text =
      ((w.addition id).map Message.text).or
        ((store.messages id).getLast?.map Message.text) := by
  cases w with
  | add other message =>
      by_cases hSame : id = other
      · subst hSame
        simp [Firestore.apply, put, Write.addition]
      · simp [Firestore.apply, put, Write.addition, hSame,
          Ne.symm hSame]
  | setData other fields => rfl
  | updateData other fields => rfl

/- A write that takes effect in order. -/
theorem PreviewInvariant.apply
    {c : Client}
    {w : Write}
    {ws : List Write}
    (hInv : PreviewInvariant path t)
    (hFirst : t.outbox c = w :: ws)
    (hOk :
      ∀ text ∈ w.preview (.named path),
        t.newest (.named path) = some text ∨
          Announced path (t.newest (.named path))
            (t.outbox.rest c)) :
    PreviewInvariant path
      { t with
        store := t.store.apply w
        outbox := t.outbox.rest c } := by
  have hMem : w ∈ t.outbox c := by simp [hFirst]
  have hPaired := hInv.paired c
  rw [hFirst] at hPaired
  refine ⟨fun d => ?_, hInv.own.rest, hInv.silent.rest, ?_⟩
  · change Paired (.named path) (t.outbox.rest c d)
    by_cases hSame : d = c
    · subst hSame
      rw [Outbox.rest_same, hFirst]
      exact hPaired.2
    · rw [Outbox.rest_of_ne hSame]
      exact hInv.paired d
  · simp only [State.preview, State.newest]
    rw [preview_apply (hInv.silent c w hMem), newest_apply]
    cases hAdds : w.addition (.named path) with
    | some message =>
        -- its own room write comes behind it
        rcases hPaired.1 message hAdds with
          ⟨v, hLater, hText⟩
        have hClient : c ∈ writers path :=
          hInv.own c w hMem (by simp [hAdds])
        exact .inr ⟨message.text, rfl,
          Outbox.carries_rest_of_mem hFirst hClient hLater
            hText⟩
    | none =>
        cases hShows : w.preview (.named path) with
        | some text =>
            rcases hOk text hShows with hNewest | hLater
            · exact .inl hNewest.symm
            · exact .inr hLater
        | none =>
            rcases hInv.follows with hSame | hAnnounced
            · exact .inl hSame
            · exact .inr (hAnnounced.rest hFirst hShows)

/- Every step in order keeps the invariant. -/
theorem PreviewInvariant.step
    (hInv : PreviewInvariant path t)
    (hOk : previewInOrder path t e)
    (hNext : system.step t e = some u) :
    PreviewInvariant path u := by
  cases e with
  | act screen action =>
      rcases step_act_iff.mp hNext with ⟨_, rfl⟩
      exact hInv.issue (paired_act screen action)
        (own_act screen action) (silent_act screen action)
  | openRoom id key =>
      rcases step_openRoom_iff.mp hNext with ⟨r, _, _, rfl⟩
      refine hInv.issue (paired_of_no_addition ?_) ?_ ?_
      · simp [openRoom, Write.addition]
      · simp [openRoom, Write.Own, Write.addition]
      · intro w hMem
        rw [openRoom, List.mem_singleton] at hMem
        subst hMem
        exact fun _ => rfl
  | apply c =>
      rcases step_apply_iff.mp hNext with
        ⟨w, ws, hFirst, rfl⟩
      exact hInv.apply hFirst (hOk w (by simp [hFirst]))

/-
  Once all writes of a room's clients have taken effect in
  a run whose room writes come in order, the preview of the
  room is its newest message.
-/
theorem preview_eq_newest_of_run
    {es : List Event}
    (hRun : system.Run (previewInOrder path) {} es t)
    (hRest : ∀ c ∈ writers path, t.outbox c = []) :
    t.preview (.named path) = t.newest (.named path) := by
  have hInv : PreviewInvariant path t := by
    refine hRun.historyInvariant
      (I := fun _ u => PreviewInvariant path u) ?_ ?_
    · exact ⟨fun _ => trivial, Outbox.all_empty,
        Outbox.all_empty, .inl rfl⟩
    · intro _ _ _ _ hBefore hOk hStep
      exact hBefore.step hOk hStep
  rcases hInv.follows with
    hSame | ⟨text, _, c, hClient, w, hMem, _⟩
  · exact hSame
  · rw [hRest c hClient] at hMem
    cases hMem

/- The user opens the room, and both write in turn. -/
theorem preview_in_turn :
    ∃ es t,
      system.Run System.anyStep {} es t ∧
      t.newest (.named "ada@x") = some "welcome" ∧
      t.preview (.named "ada@x") =
        t.newest (.named "ada@x") := by
  have hRun :
      ∃ t, system.Run (previewInOrder "ada@x") {}
          [ .act ⟨false, some "ada@x", some "ada@x"⟩
              (.send "hello" .noon .noon 0 0),
            .apply (.user (some "ada@x")),
            .apply (.user (some "ada@x")),
            .openRoom (.named "ada@x") 0, .apply .admin,
            .act ⟨true, some "ada@x", some adminEmail⟩
              (.send "welcome" .noon .noon 0 0),
            .apply .admin, .apply .admin ] t ∧
        (∀ c ∈ writers "ada@x", t.outbox c = []) ∧
        t.newest (.named "ada@x") = some "welcome" :=
    ⟨_, System.run_iff_exec.mpr ⟨by decide, rfl⟩,
      by decide, rfl⟩
  rcases hRun with ⟨t, hRun, hRest, hNewest⟩
  exact ⟨_, t, hRun.any, hNewest,
    preview_eq_newest_of_run hRun hRest⟩

/-
  Both write at once: the user's message is added first, and
  its room write takes effect last.
-/
theorem late_room_write_shows_older :
    ∃ t,
      system.Run System.anyStep {}
        [ .act ⟨false, some "ada@x", some "ada@x"⟩
            (.send "hello" .noon .noon 0 0),
          .apply (.user (some "ada@x")),
          .apply (.user (some "ada@x")),
          .openRoom (.named "ada@x") 0, .apply .admin,
          .act ⟨false, some "ada@x", some "ada@x"⟩
            (.send "one" .noon .noon 0 0),
          .act ⟨true, some "ada@x", some adminEmail⟩
            (.send "two" .noon .noon 0 0),
          .apply (.user (some "ada@x")), .apply .admin,
          .apply .admin, .apply (.user (some "ada@x")) ] t ∧
      (∀ c ∈ writers "ada@x", t.outbox c = []) ∧
      t.newest (.named "ada@x") = some "two" ∧
      t.preview (.named "ada@x") = some "one" :=
  ⟨_, System.run_of_exec rfl, by decide, rfl, rfl⟩

end Chat

end NewsCentral
