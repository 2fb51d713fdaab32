import NewsCentral.Chat.Program
import NewsCentral.Dart.Calendar
import NewsCentral.Lists.Sorted

/-
  When the transcript of a room is in the order of sending.

  The stored text of a message's time is what the sender's
  clock showed, without the offset of its time zone.  The
  transcript is ordered by these texts; messages with the
  same text may come in any order.

  Key definitions include:
    * `NewsCentral.Chat.Sent`
    * `NewsCentral.Chat.MessagesStream`
    * `NewsCentral.Chat.ClockBefore`

  Key theorems include:
    * `NewsCentral.Chat.shownInOrder_iff`
    * `NewsCentral.Chat.clockBefore_iff_reading_lt`
-/

------------------------------------------------------------
-- Messages And Their Transcript
------------------------------------------------------------

namespace NewsCentral

open Dart

namespace Chat

/- A document of `chatScreen`, with its made-up name. -/
structure Posted where
  name : Nat
  message : Message
deriving DecidableEq

/-
  A tap on Send with a text, and the moments at which it
  reads the clock.
-/
structure Sent where
  screen : Screen
  messagesText : String
  addedAt : Moment
  mergedAt : Moment
  name : Nat
  isNotEmpty : messagesText ≠ ""

/- What it adds to the messages of a room. -/
def Sent.posts
    (path : String)
    (s : Sent) : List Posted :=
  let writes :=
    s.screen.send s.messagesText s.addedAt.now
      s.mergedAt.now 0 0
  (writes.filterMap (Write.addition (.named path))).map
    fun message => ⟨s.name, message⟩

def posted
    (path : String)
    (sends : List Sent) : List Posted :=
  sends.flatMap (Sent.posts path)

/- What `MessagesStream` shows, from the bottom upwards. -/
def MessagesStream (posts shown : List Posted) : Prop :=
  shown.Perm posts ∧
    shown.Pairwise fun p q =>
      q.message.createdAt ≤ p.message.createdAt

/- Read from the top, the messages are as they were sent. -/
def ShownInOrder (posts : List Posted) : Prop :=
  ∀ shown, MessagesStream posts shown → shown.reverse = posts

/-
  A clock shows an earlier time than another one does later:
  in an earlier year, as the texts of years are ordered, or
  in the same one.
-/
def ClockBefore (m l : Moment) : Prop :=
  DateTime.fourDigits m.year < DateTime.fourDigits l.year ∨
    m.year = l.year ∧ m.reading < l.reading

instance
    (m l : Moment) :
    Decidable (ClockBefore m l) := by
  unfold ClockBefore
  infer_instance

/- In years of four digits, only the readings count. -/
theorem clockBefore_iff_reading_lt
    {m l : Moment}
    (hm : 0 ≤ m.year ∧ m.year ≤ 9999)
    (hl : 0 ≤ l.year ∧ l.year ≤ 9999) :
    ClockBefore m l ↔ m.reading < l.reading := by
  rw [← Moment.toText_lt_toText_iff_reading_lt hm hl,
    Moment.toText_lt_toText_iff]
  rfl

end Chat

end NewsCentral

------------------------------------------------------------
-- The Order Of The Transcript
------------------------------------------------------------

namespace NewsCentral

open Dart

namespace Chat

variable {path : String} {sends : List Sent}

/- The message, at the time that its sender's clock shows. -/
def Sent.post (s : Sent) : Posted where
  name := s.name
  message :=
    { text := s.messagesText
      sender :=
        if s.screen.isAdmin then
          some adminEmail
        else
          s.screen.loggedInUser
      createdAt := s.addedAt.now.toText }

theorem posts_eq
    {s : Sent}
    (hRoom : s.screen.room = some path) :
    s.posts path = [s.post] := by
  unfold Screen.room at hRoom
  unfold Sent.posts Sent.post Screen.send
  rw [if_neg s.isNotEmpty]
  by_cases hAdmin : s.screen.isAdmin = true
  · rw [if_pos hAdmin] at hRoom
    simp [Write.addition, document_eq_named_iff, hAdmin,
      hRoom]
  · rw [if_neg hAdmin] at hRoom
    simp [Write.addition, document_eq_named_iff, hAdmin,
      hRoom]

theorem posted_eq_map
    (hRoom : ∀ s ∈ sends, s.screen.room = some path) :
    posted path sends = sends.map Sent.post := by
  unfold posted
  induction sends with
  | nil => rfl
  | cons s sends ih =>
      rw [List.flatMap_cons, List.map_cons,
        posts_eq (hRoom s (by simp)),
        ih fun r hMem => hRoom r (by simp [hMem])]
      rfl

/- The order of the query, read from the top. -/
theorem shownInOrder_iff_byKey
    {posts : List Posted} :
    ShownInOrder posts ↔
      ∀ shown,
        Sorted.ByKey
            (fun p : Posted => p.message.createdAt)
            posts shown →
          shown = posts := by
  constructor
  · intro hOrder shown hSorted
    have hShown : MessagesStream posts shown.reverse :=
      ⟨shown.reverse_perm.trans hSorted.1,
        List.pairwise_reverse.mpr hSorted.2⟩
    simpa using hOrder shown.reverse hShown
  · intro hOrder shown hShown
    exact hOrder shown.reverse
      ⟨shown.reverse_perm.trans hShown.1,
        List.pairwise_reverse.mpr hShown.2⟩

/-
  The transcript of messages in a room is in the order in
  which they were sent if and only if the clock of each
  showed an earlier time than those of all later ones.
-/
theorem shownInOrder_iff
    (hRoom : ∀ s ∈ sends, s.screen.room = some path)
    (hNames : (sends.map Sent.name).Nodup) :
    ShownInOrder (posted path sends) ↔
      sends.Pairwise fun s r =>
        ClockBefore s.addedAt r.addedAt := by
  have hNodup : (sends.map Sent.post).Nodup := by
    apply List.Nodup.of_map Posted.name
    rw [List.map_map]
    exact hNames
  rw [shownInOrder_iff_byKey, posted_eq_map hRoom,
    Sorted.forall_eq_iff_pairwise_lt hNodup,
    List.pairwise_map]
  have hClock (s r : Sent) :
      s.post.message.createdAt < r.post.message.createdAt ↔
        ClockBefore s.addedAt r.addedAt :=
    Moment.toText_lt_toText_iff
  simp only [hClock]

/- Noon in Lagos, and half an hour later in Accra. -/
def noonInLagos : Moment where
  instant := 1601550000000000
  offset := 3600000000
  instant_bounds := by norm_num
  offset_bounds := by norm_num

def laterInAccra : Moment where
  instant := 1601551800000000
  offset := 0
  instant_bounds := by norm_num
  offset_bounds := by norm_num

/- The user asks, and the administrator answers. -/
def asked (moment : Moment) : Sent where
  screen := ⟨false, some "ada@x", some "ada@x"⟩
  messagesText := "question"
  addedAt := moment
  mergedAt := moment
  name := 0
  isNotEmpty := by decide

def answered (moment : Moment) : Sent where
  screen := ⟨true, some "ada@x", some adminEmail⟩
  messagesText := "answer"
  addedAt := moment
  mergedAt := moment
  name := 1
  isNotEmpty := by decide

/- Half an hour later by the same clock. -/
theorem shownInOrder_in_zone :
    let later := { laterInAccra with
      offset := 3600000000
      offset_bounds := by norm_num }
    ShownInOrder
      (posted "ada@x" [asked noonInLagos, answered later]) :=
  (shownInOrder_iff (by decide) (by decide)).mpr (by decide)

/- Half an hour later by a clock that is an hour behind. -/
theorem answer_shown_above_question :
    let sends := [asked noonInLagos, answered laterInAccra]
    (∀ s ∈ sends, s.screen.room = some "ada@x") ∧
      (sends.map Sent.name).Nodup ∧
      noonInLagos.instant < laterInAccra.instant ∧
      ¬ ShownInOrder (posted "ada@x" sends) := by
  refine ⟨by decide, by decide,
    by norm_num [noonInLagos, laterInAccra], ?_⟩
  intro hOrder
  have hSwapped :=
    hOrder
      [(asked noonInLagos).post, (answered laterInAccra).post]
      ⟨List.Perm.refl _, by decide⟩
  exact absurd hSwapped (by decide)

end Chat

end NewsCentral
