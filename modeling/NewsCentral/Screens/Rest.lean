import NewsCentral.EventLoop.Rest
import NewsCentral.Dart.Members

/-
  Whether two screens come to rest:
  `lib/screens/post_management/post_management.dart` and the
  messages of `lib/screens/chat/messages.dart`.

  Both builds start something asynchronous whose completion
  calls `setState`, which builds again.  The first screen
  goes on as long as it is mounted, the second one as long
  as its query finds a room with a message.

  Key definitions include:
    * `NewsCentral.Element`
    * `NewsCentral.PostManagementScreen.program`
    * `NewsCentral.MessagesStream.program`
    * `NewsCentral.MessagesStream.GoesOn`

  Key theorems include:
    * `NewsCentral.PostManagementScreen.bounded_iff`
    * `NewsCentral.MessagesStream.bounded_iff`
    * `NewsCentral.comesToRest_iff`
-/

------------------------------------------------------------
-- Elements
------------------------------------------------------------

namespace NewsCentral

open Dart EventLoop

/-
  The element of a screen.  A frame is due while it is
  dirty.  How often it was built and `setState` was called
  is a history.
-/
structure Element where
  mounted : Bool := true
  dirty : Bool := true
  builds : Nat := 0
  setStates : Nat := 0

namespace Element

variable {κ : Type}

/- A dirty element waits for its frame already. -/
def markNeedsBuild
    (frame : κ)
    (e : Element) : Element × List κ :=
  if e.dirty then (e, []) else ({ e with dirty := true }, [frame])

/- `setState`; it throws once the element is disposed. -/
def setState
    (frame : κ)
    (e : Element) : Option (Element × List κ) :=
  if e.mounted then
    some
      ({ e with setStates := e.setStates + 1 }.markNeedsBuild
        frame)
  else
    none

/- What a frame does; a disposed element is not built. -/
def build (e : Element) : Element :=
  { e with
    dirty := false
    builds := if e.mounted then e.builds + 1 else e.builds }

/- The screen is left. -/
def dispose (e : Element) : Element :=
  { e with mounted := false }

end Element

end NewsCentral

------------------------------------------------------------
-- The Screens
------------------------------------------------------------

namespace NewsCentral

open Dart EventLoop

/- The screen of a user's posts; the memoizer runs once. -/
structure PostManagementScreen where
  element : Element := {}
  hasRun : Bool := false

namespace PostManagementScreen

/- Something above builds the screen again, or it is left. -/
inductive Op where
  | rebuild
  | pop
deriving DecidableEq

/- A frame, the delayed callback of a build, the request. -/
inductive Point where
  | frame
  | delayed
  | getBlogsByUserId
deriving DecidableEq

/- A request completes. -/
inductive Answer where
  | arrives
  | fails
deriving DecidableEq

def call
    (op : Op)
    (s : PostManagementScreen) :
    Option (PostManagementScreen × List Point) :=
  match op with
  | .rebuild =>
      if s.element.mounted then
        let r := s.element.markNeedsBuild Point.frame
        some ({ s with element := r.1 }, r.2)
      else
        none
  | .pop => some ({ s with element := s.element.dispose }, [])

/- The request is made in the first callback only. -/
def runOnce
    (s : PostManagementScreen) :
    PostManagementScreen × List Point :=
  if s.hasRun then
    (s, [])
  else
    ({ s with hasRun := true }, [.getBlogsByUserId])

/- The answer is for the `FutureBuilder` of the body. -/
def resume
    (point : Point)
    (_ : Answer)
    (s : PostManagementScreen) :
    PostManagementScreen × List Point :=
  match point with
  | .frame =>
      ({ s with element := s.element.build },
        if s.element.mounted then [.delayed] else [])
  | .delayed =>
      match s.element.setState Point.frame with
      | none => (s, [])
      | some (element, frames) =>
          let r := s.runOnce
          ({ r.1 with element := element }, r.2 ++ frames)
  | .getBlogsByUserId => (s, [])

def program : Program PostManagementScreen Op Point Answer where
  call := call
  resume := resume
  queued := fun _ => false

/- The screen is mounted, its first frame is due. -/
def opened : Pool PostManagementScreen Point :=
  ⟨{}, [.frame]⟩

/- The work that the screen has caused. -/
def work (s : PostManagementScreen) : Nat :=
  s.element.builds + s.element.setStates

end PostManagementScreen

/-
  The messages of a chat.  `rooms` is what the query for the
  user's room finds, `hasUser` whether `widget.user` is not
  null, and `reads` a history.
-/
structure MessagesStream where
  element : Element := {}
  hasUser : Bool
  rooms : List Json
  isAtTopOfChatList : Bool := true
  lastestMessage : Option String := some ""
  reads : Nat := 0

namespace MessagesStream

/-
  The chat builds its messages again, a scroll, a change of
  the rooms, or the screen is left.
-/
inductive Op where
  | rebuild (hasUser : Bool)
  | scroll (atMinExtent : Bool)
  | firestore (rooms : List Json)
  | pop

/- A frame, or a read that a build has issued. -/
inductive Point where
  | frame
  | getDocuments
deriving DecidableEq

/- A read completes. -/
inductive Answer where
  | arrives
  | fails
deriving DecidableEq

def call
    (op : Op)
    (s : MessagesStream) :
    Option (MessagesStream × List Point) :=
  match op with
  | .rebuild hasUser =>
      if s.element.mounted then
        let r := s.element.markNeedsBuild Point.frame
        some ({ s with element := r.1, hasUser := hasUser }, r.2)
      else
        none
  | .scroll atMinExtent =>
      match s.element.setState Point.frame with
      | none => none
      | some (element, frames) =>
          some
            ({ s with
                element := element
                isAtTopOfChatList := atMinExtent },
              frames)
  | .firestore rooms => some ({ s with rooms := rooms }, [])
  | .pop => some ({ s with element := s.element.dispose }, [])

/-
  What is done with the documents of a read.  A message is
  assigned inside of `setState`, and throws there if it is
  no text.
-/
def gotDocuments
    (documents : List Json)
    (s : MessagesStream) : MessagesStream × List Point :=
  match documents with
  | [] => (s, [])
  | room :: _ =>
      match room.text "lastestMessage" with
      | .error _ => (s, [])
      | .ok message =>
          match s.element.setState Point.frame with
          | none => (s, [])
          | some (element, frames) =>
              ({ s with
                  element := element
                  lastestMessage := message },
                frames)

/-
  A build reads the room of the user; without one it throws
  before.
-/
def resume
    (point : Point)
    (answer : Answer)
    (s : MessagesStream) : MessagesStream × List Point :=
  match point, answer with
  | .frame, _ =>
      if s.element.mounted && s.hasUser then
        ({ s with
            element := s.element.build
            reads := s.reads + 1 },
          [.getDocuments])
      else
        ({ s with element := s.element.build }, [])
  | .getDocuments, .fails => (s, [])
  | .getDocuments, .arrives => s.gotDocuments s.rooms

def program : Program MessagesStream Op Point Answer where
  call := call
  resume := resume
  queued := fun _ => false

/- The messages are mounted, their first frame is due. -/
def opened
    (hasUser : Bool)
    (rooms : List Json) : Pool MessagesStream Point :=
  ⟨{ hasUser := hasUser, rooms := rooms }, [.frame]⟩

/- The work that the messages have caused. -/
def work (s : MessagesStream) : Nat :=
  s.element.builds + s.element.setStates + s.reads

/- The query finds a room whose message can be shown. -/
def FindsMessage (rooms : List Json) : Prop :=
  ∃ room ∈ rooms.head?,
    ∃ message, room.text "lastestMessage" = .ok message

/-
  A build or a read is pending, and nothing ends the chain
  of builds and reads.
-/
structure GoesOn
    (s : MessagesStream)
    (pending : List Point) : Prop where
  mounted : s.element.mounted = true
  hasUser : s.hasUser = true
  finds : FindsMessage s.rooms
  pending : pending ≠ []

end MessagesStream

end NewsCentral

------------------------------------------------------------
-- Frames That Are Due
------------------------------------------------------------

namespace NewsCentral

open Dart EventLoop

namespace Element

variable {κ : Type} {e : Element} {frame : κ}

/- A dirty element has a frame among what is pending. -/
def Due
    (frame : κ)
    (e : Element)
    (pending : List κ) : Prop :=
  e.dirty = true → frame ∈ pending

theorem Due.append
    {pending : List κ}
    (hDue : e.Due frame pending)
    (more : List κ) :
    e.Due frame (pending ++ more) :=
  fun hDirty => List.mem_append_left _ (hDue hDirty)

/- The element stays due if another point is taken out. -/
theorem Due.rest
    {earlier later : List κ}
    {k : κ}
    (hDue : e.Due frame (earlier ++ k :: later))
    (hOther : frame ≠ k) :
    e.Due frame (earlier ++ later) := by
  intro hDirty
  have hMem := hDue hDirty
  rw [List.mem_append, List.mem_cons] at hMem
  rcases hMem with hLeft | hHere | hRight
  · exact List.mem_append_left _ hLeft
  · exact absurd hHere hOther
  · exact List.mem_append_right _ hRight

/- Marking an element leaves its frame pending. -/
theorem markNeedsBuild_spec
    {pending : List κ}
    (hDue : e.Due frame pending) :
    let r := e.markNeedsBuild frame
    r.1.mounted = e.mounted ∧
      r.1.builds = e.builds ∧
      r.1.setStates = e.setStates ∧
      frame ∈ pending ++ r.2 ∧
      (r.2 = [] ∨ r.2 = [frame]) := by
  unfold markNeedsBuild
  cases hDirty : e.dirty with
  | true =>
      simpa using hDue hDirty
  | false => simp

/- `setState` of a mounted element. -/
theorem setState_spec
    {pending : List κ}
    {t : Element}
    {frames : List κ}
    (hDue : e.Due frame pending)
    (hSet : e.setState frame = some (t, frames)) :
    e.mounted = true ∧ t.mounted = true ∧
      t.builds = e.builds ∧
      t.setStates = e.setStates + 1 ∧
      frame ∈ pending ++ frames ∧
      (frames = [] ∨ frames = [frame]) := by
  unfold setState at hSet
  split at hSet
  next hMounted =>
    rcases Option.some.inj hSet with hMark
    have hSame :
        ({ e with setStates := e.setStates + 1 } :
          Element).Due frame pending := hDue
    have hSpec := markNeedsBuild_spec hSame
    rw [hMark] at hSpec
    rcases hSpec with ⟨hM, hBuilds, hSetStates, hRest⟩
    exact
      ⟨hMounted, hM.trans hMounted, hBuilds, hSetStates, hRest⟩
  next => cases hSet

theorem setState_of_mounted
    (frame : κ)
    (hMounted : e.mounted = true) :
    ∃ t frames, e.setState frame = some (t, frames) := by
  unfold setState
  rw [if_pos hMounted]
  exact ⟨_, _, rfl⟩

theorem setState_of_disposed
    (hDisposed : e.mounted = false) :
    e.setState frame = none := by
  simp [setState, hDisposed]

end Element

end NewsCentral

------------------------------------------------------------
-- The Screen Of Posts
------------------------------------------------------------

namespace NewsCentral

open Dart EventLoop

namespace PostManagementScreen

variable {s : PostManagementScreen} {pending : List Point}
variable {earlier later : List Point} {point : Point}

/-
  While the screen is mounted a frame or a delayed callback
  is pending.
-/
structure Busy
    (s : PostManagementScreen)
    (pending : List Point) : Prop where
  due : s.element.Due .frame pending
  next :
    s.element.mounted = true →
      .frame ∈ pending ∨ .delayed ∈ pending

theorem Busy.call
    {op : Op}
    {t : PostManagementScreen}
    {next : List Point}
    (hBusy : Busy s pending)
    (hCall : PostManagementScreen.call op s = some (t, next)) :
    Busy t (pending ++ next) := by
  cases op with
  | rebuild =>
      simp only [PostManagementScreen.call] at hCall
      split at hCall
      next hMounted =>
        cases hCall
        rcases Element.markNeedsBuild_spec hBusy.due with
          ⟨_, _, _, hFrame, _⟩
        exact ⟨fun _ => hFrame, fun _ => .inl hFrame⟩
      next => cases hCall
  | pop =>
      cases hCall
      refine ⟨hBusy.due.append [], ?_⟩
      intro hMounted
      cases hMounted

theorem Busy.resume
    (hBusy : Busy s (earlier ++ point :: later))
    (answer : Answer) :
    Busy (PostManagementScreen.resume point answer s).1
      (earlier ++ later ++
        (PostManagementScreen.resume point answer s).2) := by
  cases point with
  | frame =>
      constructor
      · intro hDirty
        cases hDirty
      · intro hMounted
        simp only [PostManagementScreen.resume,
          Element.build] at hMounted ⊢
        simp [hMounted]
  | getBlogsByUserId =>
      constructor
      · rw [PostManagementScreen.resume, List.append_nil]
        exact hBusy.due.rest (by decide)
      · intro hMounted
        simpa [PostManagementScreen.resume]
          using hBusy.next hMounted
  | delayed =>
      have hDue := hBusy.due.rest (by decide)
      simp only [PostManagementScreen.resume]
      cases hSet : s.element.setState Point.frame with
      | none =>
          constructor
          · exact hDue.append []
          · intro hMounted
            rcases Element.setState_of_mounted
                Point.frame hMounted with
              ⟨t, frames, hSome⟩
            rw [hSet] at hSome
            cases hSome
      | some r =>
          rcases r with ⟨t, frames⟩
          rcases Element.setState_spec hDue hSet with
            ⟨_, _, _, _, hFrame, _⟩
          have hMem :
              Point.frame ∈
                earlier ++ later ++
                  (s.runOnce.2 ++ frames) := by
            rw [List.mem_append] at hFrame
            rcases hFrame with hOld | hNew
            · exact List.mem_append_left _ hOld
            · exact List.mem_append_right _
                (List.mem_append_right _ hNew)
          exact ⟨fun _ => hMem, fun _ => .inl hMem⟩

theorem busy_of_run
    {es : List (Event Op Answer)}
    {p : Pool PostManagementScreen Point}
    (hRun : program.system.Run System.anyStep opened es p) :
    Busy p.shared p.pending := by
  refine Program.run_invariant
    (I := fun _ s pending => Busy s pending)
    (Program.run_when_true hRun) ?_ ?_ ?_
  · exact ⟨fun _ => by simp [opened], fun _ => .inl (by
      simp [opened])⟩
  · intro _ s pending op t next hBusy _ hCall
    change PostManagementScreen.call op s = _ at hCall
    exact hBusy.call hCall
  · intro _ s earlier point later answer hBusy _ _
    exact hBusy.resume answer

/- A mounted screen always does some more work. -/
theorem Busy.more
    (hBusy : Busy s pending)
    (hMounted : s.element.mounted = true) :
    ∃ es r,
      program.system.Run Program.LeftAlone ⟨s, pending⟩ es r ∧
        (Busy r.shared r.pending ∧
          r.shared.element.mounted = true) ∧
        s.work < r.shared.work := by
  have hTurn :
      ∃ point ∈ pending,
        (PostManagementScreen.resume point .arrives
            s).1.element.mounted = true ∧
          s.work <
            (PostManagementScreen.resume point .arrives
              s).1.work := by
    rcases hBusy.next hMounted with hFrame | hDelayed
    · refine ⟨.frame, hFrame, hMounted, ?_⟩
      simp only [PostManagementScreen.resume, work,
        Element.build, hMounted, if_true]
      omega
    · refine ⟨.delayed, hDelayed, ?_⟩
      simp only [PostManagementScreen.resume]
      cases hSet : s.element.setState Point.frame with
      | none =>
          rcases Element.setState_of_mounted
              Point.frame hMounted with
            ⟨t, frames, hSome⟩
          rw [hSet] at hSome
          cases hSome
      | some r =>
          rcases r with ⟨t, frames⟩
          rcases Element.setState_spec hBusy.due hSet with
            ⟨_, hM, hBuilds, hSetStates, _⟩
          refine ⟨hM, ?_⟩
          simp only [work, hBuilds, hSetStates]
          omega
  rcases hTurn with ⟨point, hMem, hStill, hLess⟩
  rcases List.append_of_mem hMem with ⟨earlier, later, rfl⟩
  exact
    ⟨_, _, Program.run_resume .arrives (by simp [program]),
      ⟨hBusy.resume .arrives, hStill⟩, hLess⟩

/- The screen comes to rest exactly if it has been left. -/
theorem bounded_iff
    {p : Pool PostManagementScreen Point}
    (hBusy : Busy p.shared p.pending) :
    program.Bounded work p ↔
      p.shared.element.mounted = false := by
  constructor
  · intro hBounded
    by_contra hMounted
    rw [Bool.not_eq_false] at hMounted
    refine Program.not_bounded
      (I := fun q =>
        Busy q.shared q.pending ∧
          q.shared.element.mounted = true)
      ⟨hBusy, hMounted⟩ ?_ hBounded
    intro q hI
    exact hI.1.more hI.2
  · intro hLeft
    refine Program.bounded_of_rank
      (I := fun s => s.element.mounted = false)
      (fun _ => 0) hLeft ?_
    intro s point _ hGone
    cases point with
    | frame =>
        refine ⟨hGone, ?_⟩
        simp [program, PostManagementScreen.resume, work,
          Element.build, hGone]
    | getBlogsByUserId => exact ⟨hGone, Nat.le_refl _⟩
    | delayed =>
        simp only [program, PostManagementScreen.resume,
          Element.setState_of_disposed hGone]
        exact ⟨hGone, Nat.le_refl _⟩

end PostManagementScreen

end NewsCentral

------------------------------------------------------------
-- The Messages
------------------------------------------------------------

namespace NewsCentral

open Dart EventLoop

namespace MessagesStream

variable {s : MessagesStream} {pending : List Point}
variable {earlier later : List Point} {point : Point}

/- What a turn can do. -/
inductive Turn
    (s : MessagesStream) :
    Point → Answer → MessagesStream × List Point → Prop where
  | read
      {answer : Answer}
      (hMounted : s.element.mounted = true)
      (hUser : s.hasUser = true) :
      Turn s .frame answer
        ({ s with
            element := s.element.build
            reads := s.reads + 1 },
          [.getDocuments])
  | noRead
      {answer : Answer}
      (hNot : s.element.mounted = true → s.hasUser = false) :
      Turn s .frame answer
        ({ s with element := s.element.build }, [])
  | nothing
      {answer : Answer}
      (hNot :
        answer = .arrives → s.element.mounted = true →
          ¬ FindsMessage s.rooms) :
      Turn s .getDocuments answer (s, [])
  | again
      {element : Element}
      {frames : List Point}
      (message : Option String)
      (hFinds : FindsMessage s.rooms)
      (hSet :
        s.element.setState Point.frame =
          some (element, frames)) :
      Turn s .getDocuments .arrives
        ({ s with
            element := element
            lastestMessage := message },
          frames)

/- The documents do nothing, or `setState` is called. -/
theorem turn_arrives
    {documents : List Json}
    (hRooms : s.rooms = documents) :
    Turn s .getDocuments .arrives
      (s.gotDocuments documents) := by
  unfold gotDocuments
  cases documents with
  | nil =>
      refine .nothing ?_
      rintro _ _ ⟨room, hRoom, _⟩
      rw [hRooms] at hRoom
      cases hRoom
  | cons room rooms =>
      dsimp only
      cases hText : room.text "lastestMessage" with
      | error e =>
          refine .nothing ?_
          rintro _ _ ⟨other, hRoom, message, hOk⟩
          rw [hRooms] at hRoom
          cases hRoom
          rw [hText] at hOk
          cases hOk
      | ok message =>
          dsimp only
          cases hSet : s.element.setState Point.frame with
          | none =>
              refine .nothing ?_
              intro _ hMounted
              rcases Element.setState_of_mounted Point.frame
                  hMounted with ⟨t, frames, hSome⟩
              rw [hSet] at hSome
              cases hSome
          | some r =>
              rcases r with ⟨element, frames⟩
              refine .again message ?_ hSet
              exact ⟨room, by simp [hRooms], message, hText⟩

theorem turn_cases
    (s : MessagesStream)
    (point : Point)
    (answer : Answer) :
    Turn s point answer (program.resume point answer s) := by
  change Turn s point answer
    (MessagesStream.resume point answer s)
  cases point with
  | frame =>
      simp only [MessagesStream.resume]
      split
      next hBoth =>
        rw [Bool.and_eq_true] at hBoth
        exact .read hBoth.1 hBoth.2
      next hNot =>
        refine .noRead fun hMounted => ?_
        simpa [hMounted] using hNot
  | getDocuments =>
      cases answer with
      | fails => exact .nothing fun hArrives => by cases hArrives
      | arrives => exact turn_arrives rfl

/- A dirty element has its frame pending throughout. -/
theorem due_call
    {op : Op}
    {t : MessagesStream}
    {next : List Point}
    (hDue : s.element.Due .frame pending)
    (hCall : MessagesStream.call op s = some (t, next)) :
    t.element.Due .frame (pending ++ next) := by
  cases op with
  | rebuild hasUser =>
      simp only [MessagesStream.call] at hCall
      split at hCall
      next =>
        cases hCall
        rcases Element.markNeedsBuild_spec hDue with
          ⟨_, _, _, hFrame, _⟩
        exact fun _ => hFrame
      next => cases hCall
  | scroll atMinExtent =>
      simp only [MessagesStream.call] at hCall
      cases hSet : s.element.setState Point.frame with
      | none => simp [hSet] at hCall
      | some r =>
          rw [hSet] at hCall
          cases hCall
          rcases Element.setState_spec hDue hSet with
            ⟨_, _, _, _, hFrame, _⟩
          exact fun _ => hFrame
  | firestore rooms =>
      cases hCall
      exact hDue.append []
  | pop =>
      cases hCall
      exact hDue.append []

theorem due_resume
    (hDue : s.element.Due .frame (earlier ++ point :: later))
    (answer : Answer) :
    (program.resume point answer s).1.element.Due .frame
      (earlier ++ later ++
        (program.resume point answer s).2) := by
  have hTurn := turn_cases s point answer
  generalize program.resume point answer s = r at hTurn ⊢
  cases hTurn with
  | read => exact fun hDirty => by cases hDirty
  | noRead => exact fun hDirty => by cases hDirty
  | nothing => exact (hDue.rest (by decide)).append []
  | again message _ hSet =>
      rcases Element.setState_spec
          (hDue.rest (by decide)) hSet with
        ⟨_, _, _, _, hFrame, _⟩
      exact fun _ => hFrame

theorem due_of_run
    {hasUser : Bool}
    {rooms : List Json}
    {es : List (Event Op Answer)}
    {p : Pool MessagesStream Point}
    (hRun :
      program.system.Run System.anyStep
        (opened hasUser rooms) es p) :
    p.shared.element.Due .frame p.pending := by
  refine Program.run_invariant
    (I := fun _ s pending => s.element.Due .frame pending)
    (Program.run_when_true hRun) ?_ ?_ ?_
  · exact fun _ => by simp [opened]
  · intro _ s pending op t next hDue _ hCall
    change MessagesStream.call op s = _ at hCall
    exact due_call hDue hCall
  · intro _ s earlier point later answer hDue _ _
    exact due_resume hDue answer

/- `setState` counts one, and leaves one frame at most. -/
theorem work_again
    {element : Element}
    {frames : List Point}
    (message : Option String)
    (hSet :
      s.element.setState Point.frame =
        some (element, frames)) :
    ({ s with
        element := element
        lastestMessage := message } : MessagesStream).work =
        s.work + 1 ∧
      (frames = [] ∨ frames = [.frame]) := by
  have hDue : s.element.Due Point.frame [.frame] :=
    fun _ => List.mem_singleton_self _
  rcases Element.setState_spec hDue hSet with
    ⟨_, _, hBuilds, hSetStates, _, hFrames⟩
  refine ⟨?_, hFrames⟩
  simp only [work, hBuilds, hSetStates]
  omega

/- The chain of builds and reads does some more work. -/
theorem GoesOn.more
    (hDue : s.element.Due .frame pending)
    (hGoes : GoesOn s pending) :
    ∃ es r,
      program.system.Run Program.LeftAlone ⟨s, pending⟩ es r ∧
        (r.shared.element.Due .frame r.pending ∧
          GoesOn r.shared r.pending) ∧
        s.work < r.shared.work := by
  rcases List.exists_mem_of_ne_nil _ hGoes.pending with
    ⟨point, hMem⟩
  rcases List.append_of_mem hMem with ⟨earlier, later, rfl⟩
  refine
    ⟨_, _,
      Program.run_resume Answer.arrives (by simp [program]),
      ⟨due_resume hDue .arrives, ?_⟩, ?_⟩
  all_goals
    have hTurn := turn_cases s point .arrives
    generalize program.resume point .arrives s = r at hTurn ⊢
  · cases hTurn with
    | read =>
        exact
          ⟨hGoes.mounted, hGoes.hasUser, hGoes.finds,
            by simp⟩
    | noRead hNot =>
        have hNone := hNot hGoes.mounted
        rw [hGoes.hasUser] at hNone
        cases hNone
    | nothing hNot =>
        exact absurd hGoes.finds (hNot rfl hGoes.mounted)
    | again message _ hSet =>
        rcases Element.setState_spec
            (hDue.rest (by decide)) hSet with
          ⟨_, hM, _, _, hFrame, _⟩
        exact
          ⟨hM, hGoes.hasUser, hGoes.finds,
            List.ne_nil_of_mem hFrame⟩
  · cases hTurn with
    | read hMounted =>
        simp only [work, Element.build, hMounted, if_true]
        omega
    | noRead hNot =>
        have hNone := hNot hGoes.mounted
        rw [hGoes.hasUser] at hNone
        cases hNone
    | nothing hNot =>
        exact absurd hGoes.finds (hNot rfl hGoes.mounted)
    | again message _ hSet =>
        rw [(work_again message hSet).1]
        exact Nat.lt_succ_self _

/- Messages that were left do nothing any more. -/
theorem bounded_of_left
    {p : Pool MessagesStream Point}
    (hLeft : p.shared.element.mounted = false) :
    program.Bounded work p := by
  refine Program.bounded_of_rank
    (I := fun s => s.element.mounted = false)
    (fun _ => 0) hLeft ?_
  intro s point answer hGone
  have hTurn := turn_cases s point answer
  generalize program.resume point answer s = r at hTurn ⊢
  cases hTurn with
  | read hMounted =>
      rw [hGone] at hMounted
      cases hMounted
  | noRead =>
      refine ⟨hGone, ?_⟩
      simp [work, Element.build, hGone]
  | nothing => exact ⟨hGone, Nat.le_refl _⟩
  | again message _ hSet =>
      rw [Element.setState_of_disposed hGone] at hSet
      cases hSet

/- A build without a user reads nothing. -/
theorem bounded_of_noUser
    {p : Pool MessagesStream Point}
    (hNone : p.shared.hasUser = false) :
    program.Bounded work p := by
  refine Program.bounded_of_rank
    (I := fun s => s.hasUser = false)
    (fun point => if point = .frame then 1 else 2) hNone ?_
  intro s point answer hNone
  have hTurn := turn_cases s point answer
  generalize program.resume point answer s = r at hTurn ⊢
  cases hTurn with
  | read _ hUser =>
      rw [hNone] at hUser
      cases hUser
  | noRead =>
      refine ⟨hNone, ?_⟩
      simp only [work, Element.build]
      split <;> simp
      omega
  | nothing => exact ⟨hNone, Nat.le_add_right _ _⟩
  | again message _ hSet =>
      refine ⟨hNone, ?_⟩
      rcases work_again message hSet with ⟨hWork, hNo | hOne⟩
      · simp [hWork, hNo]
      · simp [hWork, hOne]

/- A read that finds no message ends the chain. -/
theorem bounded_of_noMessage
    {p : Pool MessagesStream Point}
    (hNone : ¬ FindsMessage p.shared.rooms) :
    program.Bounded work p := by
  refine Program.bounded_of_rank
    (I := fun s => ¬ FindsMessage s.rooms)
    (fun point => if point = .frame then 2 else 0) hNone ?_
  intro s point answer hNone
  have hTurn := turn_cases s point answer
  generalize program.resume point answer s = r at hTurn ⊢
  cases hTurn with
  | read hMounted =>
      refine ⟨hNone, ?_⟩
      simp [work, Element.build, hMounted]
      omega
  | noRead =>
      refine ⟨hNone, ?_⟩
      simp only [work, Element.build]
      split <;> simp
      omega
  | nothing => exact ⟨hNone, Nat.le_add_right _ _⟩
  | again _ hFinds => exact absurd hFinds hNone

/- The messages come to rest unless the chain goes on. -/
theorem bounded_iff
    {p : Pool MessagesStream Point}
    (hDue : p.shared.element.Due .frame p.pending) :
    program.Bounded work p ↔ ¬ GoesOn p.shared p.pending := by
  constructor
  · intro hBounded hGoes
    refine Program.not_bounded
      (I := fun q =>
        q.shared.element.Due .frame q.pending ∧
          GoesOn q.shared q.pending)
      ⟨hDue, hGoes⟩ ?_ hBounded
    intro q hI
    exact hI.2.more hI.1
  · intro hEnds
    by_cases hMounted : p.shared.element.mounted = true
    · by_cases hUser : p.shared.hasUser = true
      · by_cases hFinds : FindsMessage p.shared.rooms
        · apply Program.bounded_of_quiescent
          by_contra hPending
          exact hEnds ⟨hMounted, hUser, hFinds, hPending⟩
        · exact bounded_of_noMessage hFinds
      · rw [Bool.not_eq_true] at hUser
        exact bounded_of_noUser hUser
    · rw [Bool.not_eq_true] at hMounted
      exact bounded_of_left hMounted

end MessagesStream

end NewsCentral

------------------------------------------------------------
-- Coming To Rest
------------------------------------------------------------

namespace NewsCentral

open Dart EventLoop

/-
  After any run the screen of posts comes to rest exactly if
  it has been left, and the messages exactly if their chain
  of builds and reads does not go on.
-/
theorem comesToRest_iff
    {hasUser : Bool}
    {rooms : List Json}
    {es :
      List (Event PostManagementScreen.Op
        PostManagementScreen.Answer)}
    {fs :
      List (Event MessagesStream.Op MessagesStream.Answer)}
    {p : Pool PostManagementScreen PostManagementScreen.Point}
    {q : Pool MessagesStream MessagesStream.Point}
    (hPosts :
      PostManagementScreen.program.system.Run System.anyStep
        PostManagementScreen.opened es p)
    (hMessages :
      MessagesStream.program.system.Run System.anyStep
        (MessagesStream.opened hasUser rooms) fs q) :
    (PostManagementScreen.program.Bounded
          PostManagementScreen.work p ↔
        p.shared.element.mounted = false) ∧
      (MessagesStream.program.Bounded
          MessagesStream.work q ↔
        ¬ MessagesStream.GoesOn q.shared q.pending) :=
  ⟨PostManagementScreen.bounded_iff
      (PostManagementScreen.busy_of_run hPosts),
    MessagesStream.bounded_iff
      (MessagesStream.due_of_run hMessages)⟩

/- The posts are left at once, the user has no room yet. -/
theorem comesToRest_noRoom :
    ∃ p q,
      PostManagementScreen.program.system.Run System.anyStep
          PostManagementScreen.opened
          [.resume 0 .arrives, .call .pop] p ∧
        MessagesStream.program.system.Run System.anyStep
          (MessagesStream.opened true [])
          [.resume 0 .arrives, .call (.scroll false)] q ∧
        PostManagementScreen.program.Bounded
          PostManagementScreen.work p ∧
        MessagesStream.program.Bounded
          MessagesStream.work q := by
  have hPosts :
      PostManagementScreen.program.system.Run System.anyStep
        PostManagementScreen.opened
        [.resume 0 .arrives, .call .pop] _ :=
    System.run_of_exec rfl
  have hMessages :
      MessagesStream.program.system.Run System.anyStep
        (MessagesStream.opened true [])
        [.resume 0 .arrives, .call (.scroll false)] _ :=
    System.run_of_exec rfl
  have hBoth := comesToRest_iff hPosts hMessages
  refine
    ⟨_, _, hPosts, hMessages, hBoth.1.mpr rfl,
      hBoth.2.mpr ?_⟩
  rintro ⟨_, _, ⟨room, hRoom, _⟩, _⟩
  cases hRoom

/- A screen of posts, and a room with a message. -/
theorem screens_do_not_rest :
    ¬ PostManagementScreen.program.Bounded
        PostManagementScreen.work
        PostManagementScreen.opened ∧
      ¬ MessagesStream.program.Bounded MessagesStream.work
        (MessagesStream.opened true
          [.obj [("lastestMessage", .str "Hello")]]) := by
  constructor
  · rw [PostManagementScreen.bounded_iff
      (PostManagementScreen.busy_of_run .nil)]
    simp [PostManagementScreen.opened]
  · rw [MessagesStream.bounded_iff
      (MessagesStream.due_of_run .nil), not_not]
    exact
      ⟨rfl, rfl, ⟨_, rfl, some "Hello", rfl⟩,
        by simp [MessagesStream.opened]⟩

end NewsCentral
