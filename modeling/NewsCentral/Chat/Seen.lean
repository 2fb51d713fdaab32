import NewsCentral.Chat.Delivery
import NewsCentral.Chat.Indicator

/-
  When a room is marked as seen by the administrator.

  Opening a room marks it, and so does a message of the
  administrator.  Behind each message of its user comes the
  write that takes the mark back, so that a room is not
  marked before the administrator has opened it or written
  to it since.

  Key definitions include:
    * `NewsCentral.Chat.Arrival` and `arrived`
    * `NewsCentral.Chat.unseen`
    * `NewsCentral.Chat.Write.Unsees`
    * `NewsCentral.Chat.SeenInvariant`

  Key theorems include:
    * `NewsCentral.Chat.SeenInvariant.unread_apply`
    * `NewsCentral.Chat.SeenInvariant.step`
    * `NewsCentral.Chat.seen_since_message`
-/

------------------------------------------------------------
-- Arrivals
------------------------------------------------------------

namespace NewsCentral

open Dart EventLoop

namespace Chat

/-
  What arrives in a room: a message, or that the
  administrator has opened the room or written to it.
-/
inductive Arrival where
  | message (message : Message)
  | seen
deriving DecidableEq

def Arrival.message? : Arrival → Option Message
  | .message added => some added
  | .seen => none

/- The messages that have come since the last sight. -/
def unseen (arrivals : List Arrival) : List Message :=
  arrivals.foldl
    (fun messages arrival =>
      match arrival with
      | .message added => messages ++ [added]
      | .seen => [])
    []

/- What a client's write brings to a document. -/
def Write.brings
    (id : DocumentId)
    (c : Client)
    (w : Write) : List Arrival :=
  (w.addition id).toList.map .message ++
    if c = .admin ∧
        w.gives Room.isSeenByAdmin id = some true then
      [.seen]
    else
      []

/- What arrives in a document in a step. -/
def arrived
    (id : DocumentId)
    (t : State) : Event → List Arrival
  | .act .. => []
  | .openRoom .. => []
  | .apply c =>
      (t.outbox c).head?.toList.flatMap (Write.brings id c)

/-
  A user's write does not say that its room is seen; the one
  behind a message takes it back.
-/
def Write.Unsees
    (path : String)
    (c : Client)
    (w : Write) : Prop :=
  c ≠ .admin →
    w.gives Room.isSeenByAdmin (.named path) ≠ some true ∧
      ((w.preview (.named path)).isSome = true →
        w.gives Room.isSeenByAdmin (.named path) =
          some false)

variable {path : String} {t u : State} {e : Event}
variable {c : Client} {w : Write}

theorem unsees_of_none
    (hNone : ∀ r : Room,
      (r.merge w.fields).isSeenByAdmin = r.isSeenByAdmin)
    (hPreview : w.preview (.named path) = none) :
    w.Unsees path c := by
  intro _
  have hGives :
      w.gives Room.isSeenByAdmin (.named path) = none :=
    isFlag_isSeenByAdmin.gives_of_keeps hNone
  simp [hGives, hPreview]

theorem unsees_act
    (s : Screen)
    (action : Action) :
    ∀ w ∈ s.act action, w.Unsees path s.client := by
  intro w hMem
  cases action with
  | updateTyping status key =>
      simp only [Screen.act, Screen.updateTyping,
        List.mem_singleton] at hMem
      subst hMem
      refine unsees_of_none (fun r => ?_) rfl
      simp only [Write.fields]
      split <;> rfl
  | initTyping key =>
      simp only [Screen.act, Screen.initTyping,
        List.mem_singleton] at hMem
      subst hMem
      refine unsees_of_none (fun r => rfl) ?_
      simp [Write.preview, Room.merge, Room.set]
  | send text addedAt mergedAt addKey mergeKey =>
      simp only [Screen.act, Screen.send] at hMem
      split at hMem
      next => simp at hMem
      next =>
        by_cases hAdmin : s.isAdmin = true
        · intro hUser
          simp [Screen.client, hAdmin] at hUser
        · rw [if_neg hAdmin, List.mem_cons,
            List.mem_singleton] at hMem
          rcases hMem with rfl | rfl
          · exact unsees_of_none (fun r => rfl) rfl
          · intro _
            by_cases hSame :
                document s.loggedInUser mergeKey =
                  .named path
            · simp [Write.gives, Write.id, Write.fields,
                Write.preview, Room.merge, Room.set, hSame]
            · simp [Write.gives, Write.id, Write.preview,
                hSame]

/- What holds of each write, as to what is seen. -/
structure Write.Marks
    (path : String)
    (c : Client)
    (w : Write) : Prop where
  sound : w.Sound path c
  unsees : w.Unsees path c

/- The room is marked as seen. -/
def State.isSeen (t : State) (path : String) : Prop :=
  (t.store.rooms (.named path)).bind Room.isSeenByAdmin =
    some true

/- The user is about to take the mark back. -/
def State.Unseeing (t : State) (path : String) : Prop :=
  t.outbox.Carries [.user (some path)] fun w =>
    w.gives Room.isSeenByAdmin (.named path) = some false

/-
  The room holds the messages that arrived in it, and is not
  seen, or not for long, as long as one of its user is new.
-/
structure SeenInvariant
    (path : String)
    (arrivals : List Arrival)
    (t : State) : Prop where
  paired :
    ∀ c, Paired (.named path) (t.outbox c)
  marks : t.outbox.All fun c w => w.Marks path c
  stored :
    arrivals.filterMap Arrival.message? =
      t.store.messages (.named path)
  unread :
    (∀ message ∈ unseen arrivals, message.author = .admin) ∨
      ¬ t.isSeen path ∨ t.Unseeing path

variable {arrivals : List Arrival} {ws : List Write}

theorem SeenInvariant.issue
    (opened : List (Option String))
    (hInv : SeenInvariant path arrivals t)
    (hPaired : Paired (.named path) ws)
    (hMarks : ∀ w ∈ ws, w.Marks path c) :
    SeenInvariant path arrivals
      { t with
        outbox := t.outbox.issue c ws
        opened := opened } := by
  refine ⟨fun d => ?_, hInv.marks.issue hMarks,
    hInv.stored, ?_⟩
  · change Paired (.named path) (t.outbox.issue c ws d)
    by_cases hSame : d = c
    · subst hSame
      rw [Outbox.issue_same]
      exact (hInv.paired d).append hPaired
    · rw [Outbox.issue_of_ne hSame]
      exact hInv.paired d
  · rcases hInv.unread with hNone | hNot | hUnseeing
    · exact .inl hNone
    · exact .inr (.inl hNot)
    · exact .inr (.inr hUnseeing.issue)

/- What a write brings, and adds to the messages. -/
theorem message?_brings
    (id : DocumentId)
    (c : Client)
    (w : Write) :
    (w.brings id c).filterMap Arrival.message? =
      (w.addition id).toList := by
  unfold Write.brings
  cases w.addition id <;>
    split <;> simp [Arrival.message?]

/- A sight leaves no message unseen. -/
theorem unseen_brings_of_seen
    (hSeen :
      c = .admin ∧
        w.gives Room.isSeenByAdmin (.named path) =
          some true) :
    unseen (arrivals ++ w.brings (.named path) c) = [] := by
  unfold Write.brings unseen
  rw [if_pos hSeen]
  simp

/- Without one, what is added is unseen as well. -/
theorem unseen_brings_of_not_seen
    (hNot :
      ¬ (c = .admin ∧
        w.gives Room.isSeenByAdmin (.named path) =
          some true)) :
    unseen (arrivals ++ w.brings (.named path) c) =
      unseen arrivals ++
        (w.addition (.named path)).toList := by
  unfold Write.brings unseen
  rw [if_neg hNot]
  cases w.addition (.named path) <;> simp

/- A room that is not seen stays so by other writes. -/
theorem not_isSeen_apply
    {o : Outbox Client Write}
    (hGives :
      w.gives Room.isSeenByAdmin (.named path) ≠ some true)
    (hNot :
      ¬ t.isSeen path ∨
        w.gives Room.isSeenByAdmin (.named path) =
          some false) :
    ¬ State.isSeen
      { t with store := t.store.apply w, outbox := o }
      path := by
  intro hSeen
  rcases gives_of_flag_apply isFlag_isSeenByAdmin hSeen with
    hTrue | ⟨hNone, hBefore⟩
  · exact hGives hTrue
  · rcases hNot with hNot | hFalse
    · exact hNot hBefore
    · rw [hNone] at hFalse
      cases hFalse

/- The room write behind a message of the user is to come. -/
theorem SeenInvariant.unseeing_of_addition
    {message : Message}
    (hInv : SeenInvariant path arrivals t)
    (hFirst : t.outbox c = w :: ws)
    (hAdds : w.addition (.named path) = some message)
    (hUser : c ≠ .admin) :
    State.Unseeing
      { t with
        store := t.store.apply w
        outbox := t.outbox.rest c }
      path := by
  have hMarks : w.Marks path c :=
    hInv.marks c w (by simp [hFirst])
  have hOwn : c ∈ writers path :=
    hMarks.sound.own (by rw [hAdds]; rfl)
  have hClient : c = .user (some path) := by
    rw [writers, List.mem_cons, List.mem_singleton] at hOwn
    exact hOwn.resolve_right hUser
  have hPaired : Paired (.named path) (w :: ws) :=
    hFirst ▸ hInv.paired c
  rcases hPaired.1 message hAdds with ⟨v, hLater, hText⟩
  have hBehind : v.Unsees path c :=
    (hInv.marks c v (by
      rw [hFirst]
      exact List.mem_cons_of_mem w hLater)).unsees
  exact Outbox.carries_rest_of_mem hFirst
    (List.mem_singleton.mpr hClient) hLater
    ((hBehind hUser).2 (by rw [hText]; rfl))

/- Nothing of the user stays unseen under the mark. -/
theorem SeenInvariant.unread_apply
    (hInv : SeenInvariant path arrivals t)
    (hFirst : t.outbox c = w :: ws) :
    (∀ message ∈
        unseen (arrivals ++ w.brings (.named path) c),
      message.author = .admin) ∨
      ¬ State.isSeen
          { t with
            store := t.store.apply w
            outbox := t.outbox.rest c }
          path ∨
      State.Unseeing
        { t with
          store := t.store.apply w
          outbox := t.outbox.rest c }
        path := by
  have hMarks : w.Marks path c :=
    hInv.marks c w (by simp [hFirst])
  by_cases hSeen :
      c = .admin ∧
        w.gives Room.isSeenByAdmin (.named path) = some true
  · left
    rw [unseen_brings_of_seen hSeen]
    simp
  · have hGives :
        w.gives Room.isSeenByAdmin (.named path) ≠
          some true := by
      intro hTrue
      by_cases hAdmin : c = .admin
      · exact hSeen ⟨hAdmin, hTrue⟩
      · exact (hMarks.unsees hAdmin).1 hTrue
    rw [unseen_brings_of_not_seen hSeen]
    rcases hInv.unread with hNone | hNot | hUnseeing
    · cases hAdds : w.addition (.named path) with
      | none => simpa using .inl hNone
      | some message =>
          have hSigned :=
            (hMarks.sound.signed message hAdds).2
          by_cases hAdmin : c = .admin
          · left
            intro other hMem
            rw [List.mem_append] at hMem
            rcases hMem with hOld | hNew
            · exact hNone other hOld
            · have hSame : other = message := by
                simpa using hNew
              rw [hSame, hSigned hAdmin]
          · exact .inr (.inr
              (hInv.unseeing_of_addition hFirst hAdds
                hAdmin))
    · exact .inr (.inl (not_isSeen_apply hGives (.inl hNot)))
    · rcases Outbox.Carries.rest hFirst hUnseeing with
        hNow | hLater
      · exact .inr (.inl
          (not_isSeen_apply hGives (.inr hNow)))
      · exact .inr (.inr hLater)

theorem SeenInvariant.apply
    (hInv : SeenInvariant path arrivals t)
    (hFirst : t.outbox c = w :: ws) :
    SeenInvariant path
      (arrivals ++ w.brings (.named path) c)
      { t with
        store := t.store.apply w
        outbox := t.outbox.rest c } := by
  refine ⟨fun d => ?_, hInv.marks.rest, ?_,
    hInv.unread_apply hFirst⟩
  · change Paired (.named path) (t.outbox.rest c d)
    by_cases hSame : d = c
    · subst hSame
      have hPaired : Paired (.named path) (w :: ws) :=
        hFirst ▸ hInv.paired d
      rw [Outbox.rest_same, hFirst]
      exact hPaired.2
    · rw [Outbox.rest_of_ne hSame]
      exact hInv.paired d
  · rw [List.filterMap_append, hInv.stored,
      message?_brings, messages_apply]

theorem SeenInvariant.step
    (hInv : SeenInvariant path arrivals t)
    (hNext : system.step t e = some u) :
    SeenInvariant path
      (arrivals ++ arrived (.named path) t e) u := by
  cases e with
  | act screen action =>
      rcases step_act_iff.mp hNext with ⟨_, rfl⟩
      rw [arrived, List.append_nil]
      exact hInv.issue t.opened (paired_act screen action)
        fun w hMem =>
          ⟨sound_act screen action w hMem,
            unsees_act screen action w hMem⟩
  | openRoom id key =>
      rcases step_openRoom_iff.mp hNext with ⟨r, _, _, rfl⟩
      rw [arrived, List.append_nil]
      exact hInv.issue (r.userEmail :: t.opened)
        (paired_of_no_addition
          (by simp [openRoom, Write.addition]))
        fun w hMem =>
          ⟨sound_openRoom r key w hMem,
            fun hUser => absurd rfl hUser⟩
  | apply c =>
      rcases step_apply_iff.mp hNext with
        ⟨w, ws, hFirst, rfl⟩
      have hArrived :
          arrived (.named path) t (.apply c) =
            w.brings (.named path) c := by
        simp [arrived, hFirst]
      rw [hArrived]
      exact hInv.apply hFirst

/-
  No message is marked as seen too early: in every run, the
  messages of the room of an email are those that arrived in
  it, and if the room is marked as seen, and nothing of its
  user is on its way, then all messages that have come since
  the administrator last opened the room or wrote to it are
  the administrator's own.
-/
theorem seen_since_message
    (path : String)
    {es : List Event}
    (hRun : system.Run System.anyStep {} es t)
    (hRest : t.outbox (.user (some path)) = [])
    (hSeen : t.isSeen path) :
    (system.trace (arrived (.named path)) {}
        es).filterMap Arrival.message? =
      t.store.messages (.named path) ∧
    ∀ message ∈
        unseen (system.trace (arrived (.named path)) {} es),
      message.author = .admin := by
  have hInv :
      SeenInvariant path
        (system.trace (arrived (.named path)) {} es) t := by
    refine hRun.traceInvariant
      (I := SeenInvariant path) ?_ ?_
    · exact
        { paired := fun _ => trivial
          marks := Outbox.all_empty
          stored := rfl
          unread := .inl fun message hMem => by cases hMem }
    · intro arrivals v e w hInv _ hNext
      exact hInv.step hNext
  refine ⟨hInv.stored, ?_⟩
  rcases hInv.unread with hNone | hNot | hUnseeing
  · exact hNone
  · exact absurd hSeen hNot
  · rcases hUnseeing with ⟨c, hClient, w, hMem, _⟩
    rw [List.mem_singleton.mp hClient, hRest] at hMem
    cases hMem

/- The administrator opens a room after its user wrote. -/
def adaIsRead : List Event :=
  [ .act ⟨false, some "ada@x", some "ada@x"⟩
      (.send "hello" .noon .noon 0 0),
    .apply (.user (some "ada@x")),
    .apply (.user (some "ada@x")),
    .openRoom (.named "ada@x") 0, .apply .admin ]

theorem seen_of_ada :
    ∃ t, system.Run System.anyStep {} adaIsRead t ∧
      (system.trace (arrived (.named "ada@x")) {}
          adaIsRead).filterMap Arrival.message? =
        t.store.messages (.named "ada@x") ∧
      ∀ message ∈
          unseen
            (system.trace (arrived (.named "ada@x")) {}
              adaIsRead),
        message.author = .admin := by
  have hRun :
      ∃ t, system.Run System.anyStep {} adaIsRead t ∧
        t.outbox (.user (some "ada@x")) = [] ∧
        t.isSeen "ada@x" :=
    ⟨_, System.run_of_exec rfl, by decide, rfl⟩
  rcases hRun with ⟨t, hRun, hRest, hSeen⟩
  exact ⟨t, hRun, seen_since_message "ada@x" hRun hRest hSeen⟩

end Chat

end NewsCentral
