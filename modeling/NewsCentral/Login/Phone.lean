import NewsCentral.EventLoop.Animation
import NewsCentral.Lists.Follows

/-
  The screen that asks for a phone number:
  `lib/screens/login_sms/index.dart`.

  A tap plays the animation of the button and then requests
  a code; the callbacks of the request play it back and
  unlock the button.  The callbacks of older requests may
  still come, and one that comes during the animation of a
  tap gives up what the tap was about.

  Key definitions include:
    * `NewsCentral.LoginSMS`
    * `NewsCentral.LoginSMS.step`
    * `NewsCentral.LoginSMS.Orderly`
    * `NewsCentral.LoginSMS.Phase`

  Key theorems include:
    * `NewsCentral.LoginSMS.Marked.step`
    * `NewsCentral.LoginSMS.locked_iff_sent`
-/

------------------------------------------------------------
-- The Screen
------------------------------------------------------------

namespace NewsCentral

open EventLoop

namespace LoginSMS

/- Who awaits the animation. -/
inductive Point where
  | verifyPhoneNumber
  | unlock
deriving DecidableEq

/- The snack bars. -/
inductive Notice where
  | pleaseInput
  | failure (message : String)
deriving DecidableEq

end LoginSMS

/-
  `_LoginSMSState`.  The last three fields are histories:
  the snack bars shown, the numbers that codes were
  requested for, and the pages pushed, each with the id of
  its verification.
-/
structure LoginSMS where
  phoneNumber : Option String := none
  isLoading : Bool := false
  controller : Animation LoginSMS.Point := {}
  notices : List LoginSMS.Notice := []
  requests : List (Option String) := []
  pages : List String := []
deriving DecidableEq

namespace LoginSMS

/-
  The number is edited, the button tapped, a frame drawn,
  or a callback called, of the request with a number.
-/
inductive Step where
  | phoneNumberChange (internationalized : String)
  | tap
  | frame (completes : Bool)
  | autoRetrieve (request : Nat)
  | codeSent (request : Nat) (verId : String)
  | verified (request : Nat)
  | failed (request : Nat) (message : String)

/- Go on behind an animation. -/
def resume
    (s : LoginSMS) : Point → LoginSMS
  | .verifyPhoneNumber =>
      { s with requests := s.requests ++ [s.phoneNumber] }
  | .unlock => { s with isLoading := false }

/- What an animation that is told to play does at once. -/
def animated
    (s : LoginSMS)
    (r : Animation Point × List Point) : LoginSMS :=
  r.2.foldl resume { s with controller := r.1 }

/- `_playAnimation` -/
def playAnimation (s : LoginSMS) : LoginSMS :=
  { s with isLoading := true }.animated
    (s.controller.play .forward .verifyPhoneNumber)

/- `_stopAnimation` -/
def stopAnimation (s : LoginSMS) : LoginSMS :=
  s.animated (s.controller.play .reverse .unlock)

def onPhoneNumberChange
    (internationalized : String)
    (s : LoginSMS) : LoginSMS :=
  { s with
    phoneNumber :=
      if internationalized ≠ "" then
        some internationalized
      else
        none }

/- `_loginSMS`, up to its request. -/
def loginSMS (s : LoginSMS) : LoginSMS :=
  match s.phoneNumber with
  | none => { s with notices := s.notices ++ [.pleaseInput] }
  | some _ => s.playAnimation

/- The request of a callback. -/
def Step.request : Step → Option Nat
  | .autoRetrieve request => some request
  | .codeSent request _ => some request
  | .verified request => some request
  | .failed request _ => some request
  | _ => none

/- What a callback does. -/
def callBack
    (s : LoginSMS) : Step → LoginSMS
  | .autoRetrieve _ => s.stopAnimation
  | .codeSent _ verId =>
      let stopped := s.stopAnimation
      { stopped with pages := stopped.pages ++ [verId] }
  | .failed _ message =>
      let stopped := s.stopAnimation
      { stopped with
        notices := stopped.notices ++ [.failure message] }
  | _ => s

/- A callback is one of a request that was made. -/
def step (s : LoginSMS) : Step → Option LoginSMS
  | .phoneNumberChange internationalized =>
      some (s.onPhoneNumberChange internationalized)
  | .tap => some (if s.isLoading then s else s.loginSMS)
  | .frame completes =>
      (s.controller.frame completes).map s.animated
  | e =>
      match e.request with
      | none => none
      | some request =>
          if request < s.requests.length then
            some (s.callBack e)
          else
            none

def system : System LoginSMS Step where
  step := step

------------------------------------------------------------
-- What Is Seen
------------------------------------------------------------

/- A tap is taken, a code requested, or the tap given up. -/
inductive Mark where
  | tapped
  | sent (phoneNumber : Option String)
  | stopped
deriving DecidableEq

/- What is seen of a step. -/
def see (s : LoginSMS) : Step → List Mark
  | .tap =>
      if s.isLoading = false ∧ s.phoneNumber.isSome then
        [.tapped]
      else
        []
  | .frame true =>
      match s.controller.playing with
      | some (_, .verifyPhoneNumber) => [.sent s.phoneNumber]
      | _ => []
  | .autoRetrieve _ => [.stopped]
  | .codeSent _ _ => [.stopped]
  | .failed _ _ => [.stopped]
  | _ => []

/- The number of a request. -/
def Mark.sent? : Mark → Option (Option String)
  | .sent phoneNumber => some phoneNumber
  | _ => none

/- What may be seen after a mark, and at first. -/
def mayFollow : Option Mark → Mark → Bool
  | none, .tapped => true
  | some .tapped, .sent _ => true
  | some .stopped, .tapped => true
  | some _, .stopped => true
  | _, _ => false

/-
  No tap is taken before a callback has come since the last
  one, and only a tap that no callback has stopped requests
  a code.
-/
def Orderly (marks : List Mark) : Prop :=
  ∀ earlier mark later,
    marks = earlier ++ mark :: later →
    mayFollow earlier.getLast? mark = true

/- No animation is played. -/
def AtRest (s : LoginSMS) : Prop :=
  s.controller.playing = none

/- What the screen does after the last mark. -/
inductive Phase (s : LoginSMS) : Option Mark → Prop where
  | idle
      (last : Option Mark)
      (hLast : last = none ∨ last = some .stopped)
      (hUnlocked : s.isLoading = false)
      (hRest : s.controller = ⟨.start, none⟩) :
      Phase s last
  | playing
      (hLocked : s.isLoading = true)
      (hPlace : s.controller.place ≠ .finish)
      (hPlaying :
        s.controller.playing =
          some (.forward, .verifyPhoneNumber)) :
      Phase s (some .tapped)
  | awaiting
      (phoneNumber : Option String)
      (hLocked : s.isLoading = true)
      (hRest : s.controller = ⟨.finish, none⟩) :
      Phase s (some (.sent phoneNumber))
  | stopping
      (hLocked : s.isLoading = true)
      (hPlace : s.controller.place ≠ .start)
      (hPlaying :
        s.controller.playing = some (.reverse, .unlock)) :
      Phase s (some .stopped)

/- The marks so far fit the screen. -/
structure Marked
    (marks : List Mark)
    (s : LoginSMS) : Prop where
  orderly : Orderly marks
  phase : Phase s marks.getLast?
  requests : s.requests = marks.filterMap Mark.sent?

end LoginSMS

end NewsCentral

------------------------------------------------------------
-- Steps
------------------------------------------------------------

namespace NewsCentral

open EventLoop

namespace LoginSMS

variable {s t : LoginSMS} {marks : List Mark}
variable {last : Option Mark} {mark : Mark}

/- A mark that may follow is put behind the others. -/
theorem Orderly.snoc
    (hOrderly : Orderly marks)
    (hFollow : mayFollow marks.getLast? mark = true) :
    Orderly (marks ++ [mark]) :=
  Follows.snoc hOrderly hFollow

/- Anything but a callback has been seen before one. -/
theorem mayFollow_stopped
    (mark : Mark) :
    mayFollow (some mark) .stopped = true := by
  cases mark <;> rfl

/- The lock and the animation are all that counts. -/
theorem Phase.congr
    (hPhase : Phase s last)
    (hLoading : t.isLoading = s.isLoading)
    (hController : t.controller = s.controller) :
    Phase t last := by
  cases hPhase with
  | idle last hLast hUnlocked hRest =>
      exact .idle last hLast (hLoading.trans hUnlocked)
        (hController.trans hRest)
  | playing hLocked hPlace hPlaying =>
      refine .playing (hLoading.trans hLocked) ?_ ?_
      · rwa [hController]
      · rwa [hController]
  | awaiting phoneNumber hLocked hRest =>
      exact .awaiting phoneNumber (hLoading.trans hLocked)
        (hController.trans hRest)
  | stopping hLocked hPlace hPlaying =>
      refine .stopping (hLoading.trans hLocked) ?_ ?_
      · rwa [hController]
      · rwa [hController]

/- A callback plays back whatever there is. -/
theorem Phase.stopAnimation
    (hPhase : Phase s last)
    (hSome : last ≠ none) :
    Phase s.stopAnimation (some .stopped) := by
  unfold LoginSMS.stopAnimation
  by_cases hStart : s.controller.place = .start
  · -- nothing is left to play back
    rw [Animation.play_of_end hStart, hStart]
    exact .idle _ (.inr rfl) rfl rfl
  · rw [Animation.play_of_ne_end hStart]
    refine .stopping ?_ hStart rfl
    cases hPhase with
    | idle _ _ _ hRest => simp [hRest] at hStart
    | playing hLocked => exact hLocked
    | awaiting _ hLocked => exact hLocked
    | stopping hLocked => exact hLocked

theorem stopAnimation_requests
    (s : LoginSMS) :
    s.stopAnimation.requests = s.requests := by
  unfold LoginSMS.stopAnimation Animation.play
  split <;> rfl

/- A step that leaves no mark. -/
theorem Marked.unseen
    (hMarked : Marked marks s)
    (hPhase : Phase t marks.getLast?)
    (hRequests : t.requests = s.requests) :
    Marked (marks ++ []) t := by
  rw [List.append_nil]
  exact ⟨hMarked.orderly, hPhase,
    hRequests.trans hMarked.requests⟩

/- A step that leaves a mark. -/
theorem Marked.seen
    (hMarked : Marked marks s)
    (hFollow : mayFollow marks.getLast? mark = true)
    (hPhase : Phase t (some mark))
    (hRequests :
      t.requests = s.requests ++ mark.sent?.toList) :
    Marked (marks ++ [mark]) t := by
  refine ⟨hMarked.orderly.snoc hFollow, ?_, ?_⟩
  · rw [List.getLast?_concat]
    exact hPhase
  · rw [hRequests, hMarked.requests, List.filterMap_append]
    cases mark <;> rfl

/- Where a request was made there is a mark. -/
theorem Marked.getLast?_ne_none
    {request : Nat}
    (hMarked : Marked marks s)
    (hRequest : request < s.requests.length) :
    marks.getLast? ≠ none := by
  rw [Ne, List.getLast?_eq_none_iff]
  rintro rfl
  rw [hMarked.requests] at hRequest
  simp at hRequest

/- A callback that plays back, and what it does besides. -/
theorem Marked.stop
    {request : Nat}
    (hMarked : Marked marks s)
    (hRequest : request < s.requests.length)
    (hLoading : t.isLoading = s.stopAnimation.isLoading)
    (hController : t.controller = s.stopAnimation.controller)
    (hRequests : t.requests = s.stopAnimation.requests) :
    Marked (marks ++ [.stopped]) t := by
  have hSome := hMarked.getLast?_ne_none hRequest
  refine hMarked.seen ?_ ?_ ?_
  · rcases Option.ne_none_iff_exists'.mp hSome with
      ⟨mark, hMark⟩
    rw [hMark]
    exact mayFollow_stopped mark
  · exact (hMarked.phase.stopAnimation hSome).congr
      hLoading hController
  · rw [hRequests, stopAnimation_requests]
    exact (List.append_nil _).symm

/- A tap is taken when the button is unlocked. -/
theorem Marked.tap
    (hMarked : Marked marks s) :
    Marked (marks ++ see s .tap)
      (if s.isLoading then s else s.loginSMS) := by
  cases hLoading : s.isLoading with
  | true =>
      simp only [see, hLoading]
      exact hMarked.unseen hMarked.phase rfl
  | false =>
      cases hNumber : s.phoneNumber with
      | none =>
          simp only [see, hLoading, hNumber, loginSMS]
          exact hMarked.unseen
            (hMarked.phase.congr hLoading.symm rfl) rfl
      | some phoneNumber =>
          simp only [see, hLoading, hNumber, loginSMS,
            playAnimation]
          generalize hLast : marks.getLast? = last
          have hPhase := hMarked.phase
          rw [hLast] at hPhase
          cases hPhase with
          | idle last hLast' hUnlocked hRest =>
              have hPlays :
                  (⟨.start, none⟩ : Animation Point).place ≠
                    Direction.forward.goal := by
                decide
              rw [hRest, Animation.play_of_ne_end hPlays]
              refine hMarked.seen ?_ ?_ ?_
              · rw [hLast]
                rcases hLast' with rfl | rfl <;> rfl
              · exact .playing rfl (by simp [animated]) rfl
              · simp [animated, Mark.sent?]
          | playing hLocked => simp [hLoading] at hLocked
          | awaiting _ hLocked => simp [hLoading] at hLocked
          | stopping hLocked => simp [hLoading] at hLocked

/- A frame goes on, or ends the animation. -/
theorem Marked.frame
    {completes : Bool}
    (hMarked : Marked marks s)
    (hNext :
      (s.controller.frame completes).map s.animated =
        some t) :
    Marked (marks ++ see s (.frame completes)) t := by
  generalize hLast : marks.getLast? = last
  have hPhase := hMarked.phase
  rw [hLast] at hPhase
  cases hPhase with
  | idle _ _ _ hRest => simp [hRest, Animation.frame] at hNext
  | awaiting _ _ hRest =>
      simp [hRest, Animation.frame] at hNext
  | playing hLocked hPlace hPlaying =>
      rw [Animation.frame_of_playing completes hPlaying]
        at hNext
      cases completes with
      | true =>
          cases hNext
          simp only [see, hPlaying]
          refine hMarked.seen ?_ ?_ rfl
          · rw [hLast]
            rfl
          · exact .awaiting _ hLocked rfl
      | false =>
          cases hNext
          refine hMarked.unseen ?_ rfl
          rw [hLast]
          exact .playing hLocked (by simp [animated]) rfl
  | stopping hLocked hPlace hPlaying =>
      rw [Animation.frame_of_playing completes hPlaying]
        at hNext
      cases completes with
      | true =>
          cases hNext
          simp only [see, hPlaying]
          refine hMarked.unseen ?_ rfl
          rw [hLast]
          exact .idle _ (.inr rfl) rfl rfl
      | false =>
          cases hNext
          refine hMarked.unseen ?_ rfl
          rw [hLast]
          exact .stopping hLocked (by simp [animated]) rfl

/- Every step fits its marks. -/
theorem Marked.step
    {e : Step}
    (hMarked : Marked marks s)
    (hNext : s.step e = some t) :
    Marked (marks ++ see s e) t := by
  have hCallBack
      {request : Nat}
      (hRequest : e.request = some request)
      (hCall :
        request < s.requests.length ∧ s.callBack e = t) :
      Marked (marks ++ see s e) t := by
    rcases hCall with ⟨hMade, rfl⟩
    cases e with
    | phoneNumberChange => cases hRequest
    | tap => cases hRequest
    | frame => cases hRequest
    | autoRetrieve => exact hMarked.stop hMade rfl rfl rfl
    | codeSent => exact hMarked.stop hMade rfl rfl rfl
    | failed => exact hMarked.stop hMade rfl rfl rfl
    | verified => exact hMarked.unseen hMarked.phase rfl
  cases e with
  | phoneNumberChange =>
      cases hNext
      exact hMarked.unseen (hMarked.phase.congr rfl rfl) rfl
  | tap =>
      cases hNext
      exact hMarked.tap
  | frame => exact hMarked.frame hNext
  | _ =>
      exact hCallBack rfl
        (Option.ite_none_right_eq_some.mp hNext |>.imp_right
          Option.some.inj)

/-
  In every run of the screen: no tap is taken before a
  callback has come since the last one; a tap requests one
  code, unless a callback comes during its animation; and
  whenever nothing is played, the button is locked exactly
  if no callback has come since the last request.
-/
theorem locked_iff_sent
    {es : List Step}
    {s : LoginSMS}
    (hRun : system.Run System.anyStep {} es s) :
    Orderly (system.trace see {} es) ∧
      s.requests =
        (system.trace see {} es).filterMap Mark.sent? ∧
      (s.AtRest →
        (s.isLoading = true ↔
          ∃ phoneNumber,
            (system.trace see {} es).getLast? =
              some (.sent phoneNumber))) := by
  have hMarked : Marked (system.trace see {} es) s := by
    refine hRun.traceInvariant ?_ ?_
    · refine ⟨?_, .idle _ (.inl rfl) rfl rfl, rfl⟩
      intro earlier mark later hSplit
      simp at hSplit
    · intro marks t e u hMarked _ hNext
      exact hMarked.step hNext
  refine ⟨hMarked.orderly, hMarked.requests, ?_⟩
  intro hRest
  generalize hLast :
    (system.trace see {} es).getLast? = last
  have hPhase := hMarked.phase
  rw [hLast] at hPhase
  cases hPhase with
  | idle last hLast' hUnlocked =>
      rcases hLast' with rfl | rfl <;> simp [hUnlocked]
  | playing _ _ hPlaying => simp [AtRest, hPlaying] at hRest
  | awaiting phoneNumber hLocked => simp [hLocked]
  | stopping _ _ hPlaying => simp [AtRest, hPlaying] at hRest

/-
  The first code times out while the user, who came back for
  another number, waits for the second one: it is never
  requested, and the third tap is.
-/
def secondNumber : List Step :=
  [ .phoneNumberChange "+234", .tap, .frame false,
    .frame true, .codeSent 0 "v", .frame true,
    .phoneNumberChange "+233", .tap, .frame false,
    .autoRetrieve 0, .frame true, .tap, .frame true ]

/- The button waits for the code of the second number. -/
theorem locked_of_secondNumber :
    ∃ s,
      system.Run System.anyStep {} secondNumber s ∧
      s.requests = [some "+234", some "+233"] ∧
      s.isLoading = true := by
  have hRun :
      system.Run System.anyStep {} secondNumber _ :=
    System.run_of_exec rfl
  refine ⟨_, hRun, rfl, ?_⟩
  exact ((locked_iff_sent hRun).2.2 rfl).mpr
    ⟨some "+233", by decide⟩

end LoginSMS

end NewsCentral
