import NewsCentral.Chat.Delivery

/-
  The bubbles of a transcript.

  `MessagesStream` builds one `MessageBubble` for each
  message of the room.  The message bears its sender's email
  and the text of its time, from which the bubble finds out
  on which side it stands and what time it shows.

  Key definitions include:
    * `NewsCentral.Chat.MessageBubble`
    * `NewsCentral.Chat.Screen.bubble`
    * `NewsCentral.Chat.bubbles`

  Key theorems include:
    * `NewsCentral.Chat.bubble_eq_bubbleOf`
    * `NewsCentral.Chat.bubbles_of_run`
-/

------------------------------------------------------------
-- Bubbles
------------------------------------------------------------

namespace NewsCentral

open Dart EventLoop

namespace Chat

/- The address of the picture of a sender. -/
def avatar (sender : Option String) : String :=
  "https://api.adorable.io/avatars/60/" ++
    sender.getD "null" ++ ".png"

/-
  What is built of a message, none of which has an image.
  The picture stands beside the messages of others only.
-/
structure MessageBubble where
  isMe : Bool
  avatar : Option String
  date : DateTime
  text : String
deriving DecidableEq

/-
  `MessageBubble.build` on a screen, which fails on a date
  that it cannot read.
-/
def Screen.bubble
    (s : Screen)
    (message : Message) : Option MessageBubble := do
  let date ← DateTime.parseText message.createdAt
  let isMe := s.loggedInUser = message.sender
  some
    { isMe := isMe
      avatar :=
        if isMe then none else some (avatar message.sender)
      date := date
      text := message.text }

/- The email under which a client sends. -/
def Client.sender : Client → Option String
  | .user email => email
  | .admin => some adminEmail

/- The bubble of what a client has typed, at some time. -/
def Screen.bubbleOf
    (s : Screen)
    (c : Client)
    (text : String)
    (date : DateTime) : MessageBubble where
  isMe := c = s.client
  avatar :=
    if c = s.client then none else some (avatar c.sender)
  date := date
  text := text

/-
  The bubbles on a screen of what a client sends to a room:
  the text that was typed, at the time of the tap on Send.
-/
def bubbles
    (s : Screen)
    (c : Client)
    (id : DocumentId)
    (_ : State) : Event → List MessageBubble
  | .act screen (.send messagesText addedAt _ addKey _) =>
      if c = screen.client ∧ messagesText ≠ "" ∧
          document screen.room addKey = id then
        [s.bubbleOf c messagesText addedAt]
      else
        []
  | .act .. => []
  | .openRoom .. => []
  | .apply _ => []

end Chat

end NewsCentral

------------------------------------------------------------
-- Their Sides And Times
------------------------------------------------------------

namespace NewsCentral

open Dart EventLoop

namespace Chat

variable {s screen : Screen}

/- Who looks at an identified screen has its email. -/
theorem loggedInUser_of_identified
    (hIdentified : s.Identified) :
    s.loggedInUser = s.client.sender := by
  by_cases hAdmin : s.isAdmin = true
  · simp [Screen.client, Client.sender, hAdmin,
      hIdentified.mp hAdmin]
  · simp [Screen.client, Client.sender, hAdmin]

/- The emails tell the clients of such screens apart. -/
theorem sender_eq_sender_iff
    (hIdentified : s.Identified)
    (hOther : screen.Identified) :
    s.client.sender = screen.client.sender ↔
      screen.client = s.client := by
  by_cases hAdmin : s.isAdmin = true
  · by_cases hBoth : screen.isAdmin = true
    · simp [Screen.client, hAdmin, hBoth]
    · have hEmail := mt hOther.mpr hBoth
      simp [Screen.client, Client.sender, hAdmin, hBoth,
        Ne.symm hEmail]
  · have hEmail := mt hIdentified.mpr hAdmin
    by_cases hBoth : screen.isAdmin = true
    · simp [Screen.client, Client.sender, hAdmin, hBoth,
        hEmail]
    · simp [Screen.client, Client.sender, hAdmin, hBoth,
        eq_comm]

/- A message under the name of its client has its bubble. -/
theorem bubble_eq_bubbleOf
    (hIdentified : s.Identified)
    (hOther : screen.Identified)
    (text : String)
    (date : DateTime) :
    s.bubble
        { text := text
          sender := screen.client.sender
          createdAt := date.toText } =
      some (s.bubbleOf screen.client text date) := by
  have hSide :
      s.loggedInUser = screen.client.sender ↔
        screen.client = s.client := by
    rw [loggedInUser_of_identified hIdentified]
    exact sender_eq_sender_iff hIdentified hOther
  simp only [Screen.bubble, Screen.bubbleOf,
    DateTime.parseText_toText, Option.bind_eq_bind,
    Option.bind_some, hSide]

end Chat

end NewsCentral

------------------------------------------------------------
-- The Bubbles Of A Run
------------------------------------------------------------

namespace NewsCentral

open Dart EventLoop

namespace Chat

variable {s screen : Screen} {t u : State} {e : Event}

/- What is sent on an identified screen is drawn. -/
theorem map_bubble_sends
    (hIdentified : s.Identified)
    (hOther : screen.Identified)
    (action : Action)
    (id : DocumentId) :
    (screen.sends id action).map s.bubble =
      (bubbles s screen.client id u
        (.act screen action)).map some := by
  cases action with
  | updateTyping status key => rfl
  | initTyping key => rfl
  | send text addedAt mergedAt addKey mergeKey =>
      have hSender :
          (if screen.isAdmin then
            some adminEmail
          else
            screen.loggedInUser) = screen.client.sender := by
        unfold Screen.client
        split <;> rfl
      simp only [Screen.sends, bubbles, true_and, hSender]
      split
      · rw [List.map_singleton, List.map_singleton,
          bubble_eq_bubbleOf hIdentified hOther]
      · rfl

/-
  What is stored and underway of a client is drawn as it was
  sent, on the screen that is looked at.
-/
structure Drawn
    (s : Screen)
    (start : Firestore)
    (c : Client)
    (id : DocumentId)
    (drawn : List MessageBubble)
    (t : State) : Prop where
  seen :
    ∃ seen, Delivered start c id seen t ∧
      seen.map s.bubble = drawn.map some

variable {start : Firestore} {c : Client} {id : DocumentId}
variable {drawn : List MessageBubble}

theorem Drawn.step
    (hIdentified : s.Identified)
    (hInv : Drawn s start c id drawn t)
    (hEvent : identified t e)
    (hNext : system.step t e = some u) :
    Drawn s start c id (drawn ++ bubbles s c id t e) u := by
  rcases hInv.seen with ⟨seen, hDelivered, hSeen⟩
  refine
    ⟨seen ++ sent c id t e, hDelivered.step hEvent hNext, ?_⟩
  rw [List.map_append, List.map_append, hSeen]
  congr 1
  cases e with
  | act screen action =>
      by_cases hClient : c = screen.client
      · subst hClient
        simp only [sent, if_true]
        exact map_bubble_sends hIdentified hEvent action id
      · cases action <;> simp [sent, bubbles, hClient]
  | openRoom other key => rfl
  | apply d => rfl

/-
  No bubble of what was sent in a run of identified screens
  fails to be built.  On any such screen the messages of a
  client to a room appear as that client typed them, at the
  times of its taps, and on the screen's own side if and
  only if they are its own.
-/
theorem bubbles_of_run
    (start : Firestore)
    (c : Client)
    (id : DocumentId)
    {es : List Event}
    (hRun :
      system.Run identified { store := start } es t)
    (hIdentified : s.Identified) :
    (received c id t.store ++
        t.outbox.picked (Write.addition id) c).map s.bubble =
      (received c id start).map s.bubble ++
        (system.trace (bubbles s c id) { store := start }
          es).map some := by
  have hDrawn :
      Drawn s start c id
        (system.trace (bubbles s c id) { store := start } es)
        t := by
    refine hRun.traceInvariant
      (I := Drawn s start c id) ?_ ?_
    · exact ⟨[], ⟨Outbox.all_empty, by simp⟩, rfl⟩
    · intro shown t e w hInv hEvent hNext
      exact hInv.step hIdentified hEvent hNext
  rcases hDrawn.seen with ⟨seen, hDelivered, hSeen⟩
  rw [hDelivered.delivered, List.map_append, hSeen]

/- The administrator opens the room of who has written. -/
def adminReads : List Event :=
  [ .act ⟨false, some "ada@x", some "ada@x"⟩
      (.send "hello" .noon .noon 0 0),
    .apply (.user (some "ada@x")),
    .apply (.user (some "ada@x")),
    .openRoom (.named "ada@x") 0 ]

theorem bubbles_of_ada :
    ∃ t, system.Run identified {} adminReads t ∧
      (received (.user (some "ada@x")) (.named "ada@x")
            t.store ++
          t.outbox.picked (Write.addition (.named "ada@x"))
            (.user (some "ada@x"))).map
          (Screen.bubble
            ⟨true, some "ada@x", some adminEmail⟩) =
        [ some
            { isMe := false
              avatar := some (avatar (some "ada@x"))
              date := .noon
              text := "hello" } ] := by
  have hRun :
      ∃ t, system.Run identified {} adminReads t :=
    ⟨_, System.run_iff_exec.mpr ⟨by decide, rfl⟩⟩
  rcases hRun with ⟨t, hRun⟩
  have hRead :=
    bubbles_of_run
      (s := ⟨true, some "ada@x", some adminEmail⟩)
      {} (.user (some "ada@x")) (.named "ada@x") hRun
      (by decide)
  exact ⟨t, hRun, hRead.trans (by decide)⟩

end Chat

end NewsCentral
