import NewsCentral.Dart.Json
import NewsCentral.EventLoop.Animation
import NewsCentral.Lists.Follows

/-
  The buttons of the login screen, `lib/screens/login.dart`.

  All buttons share one animation and one lock, which only
  the button of the password login heeds, so that several
  attempts may be made at once.  A tap or a callback during
  an animation gives up what the animation was played for.

  Key definitions include:
    * `NewsCentral.LoginPage`
    * `NewsCentral.LoginPage.step`
    * `NewsCentral.LoginPage.Mark` and `mayFollow`
    * `NewsCentral.LoginPage.Phase`

  Key theorems include:
    * `NewsCentral.LoginPage.Marked.step`
    * `NewsCentral.LoginPage.settled_of_run`
-/

------------------------------------------------------------
-- The Screen
------------------------------------------------------------

namespace NewsCentral

open Dart EventLoop

namespace LoginPage

/-
  The buttons; that of Apple has its tap when its dialog is
  authorized.
-/
inductive Tap where
  | login
  | loginFacebook
  | loginGoogle
  | loginApple (email : Option String) (fullName : String)
deriving DecidableEq

/- The calls of `UserModel`. -/
inductive Call where
  | login (username password : Option String)
  | loginFB
  | loginGoogle
  | loginApple (email : Option String) (fullName : String)
deriving DecidableEq

def Call.tap : Call → Tap
  | .login .. => .login
  | .loginFB => .loginFacebook
  | .loginGoogle => .loginGoogle
  | .loginApple email fullName => .loginApple email fullName

/- The snack bars. -/
inductive Notice where
  | pleaseInput
  | welcome
  | failure (message : String)
deriving DecidableEq

/-
  How a callback comes to `_stopAnimation`: as a success, at
  the end of that of the password login, or as a failure.
-/
inductive Outcome where
  | success
  | finish
  | fail (message : String)
deriving DecidableEq

/- Who awaits the animation. -/
inductive Point where
  | callModel (tap : Tap)
  | unlock (outcome : Outcome)
deriving DecidableEq

end LoginPage

/-
  `_LoginPageState`.  The last two fields are histories: the
  calls of the model, and the snack bars shown.
-/
structure LoginPage where
  username : Option String := none
  password : Option String := none
  isLoading : Bool := false
  controller : Animation LoginPage.Point := {}
  calls : List LoginPage.Call := []
  notices : List LoginPage.Notice := []
deriving DecidableEq

namespace LoginPage

/- A text is edited, or the next thing happens. -/
inductive Step where
  | usernameChanged (value : String)
  | passwordChanged (value : String)
  | tap (tap : Tap)
  | frame (completes : Bool)
  | callBack (call : Nat) (outcome : Outcome)

/- The call a button makes, with the texts as they are. -/
def callOf
    (s : LoginPage) : Tap → Call
  | .login => .login (s.username.map trim) (s.password.map trim)
  | .loginFacebook => .loginFB
  | .loginGoogle => .loginGoogle
  | .loginApple email fullName => .loginApple email fullName

/- What is shown at once when a callback comes. -/
def Outcome.notices : Outcome → List Notice
  | .success => [.welcome]
  | .finish => []
  | .fail message => [.failure message]

/- What is shown once the animation is played back. -/
def Outcome.later : Outcome → List Notice
  | .success => []
  | .finish => [.welcome]
  | .fail _ => []

/- Go on behind an animation. -/
def resume
    (s : LoginPage) : Point → LoginPage
  | .callModel tap =>
      { s with calls := s.calls ++ [s.callOf tap] }
  | .unlock outcome =>
      { s with
        isLoading := false
        notices := s.notices ++ outcome.later }

/- What an animation that is told to play does at once. -/
def animated
    (s : LoginPage)
    (r : Animation Point × List Point) : LoginPage :=
  r.2.foldl resume { s with controller := r.1 }

/- `_playAnimation` -/
def playAnimation (tap : Tap) (s : LoginPage) : LoginPage :=
  { s with isLoading := true }.animated
    (s.controller.play .forward (.callModel tap))

/- `_stopAnimation` -/
def stopAnimation
    (outcome : Outcome)
    (s : LoginPage) : LoginPage :=
  s.animated (s.controller.play .reverse (.unlock outcome))

/- The password login needs both texts, and the lock open. -/
def takes
    (s : LoginPage) : Tap → Bool
  | .login =>
      !s.isLoading && s.username.isSome && s.password.isSome
  | _ => true

/- `_login`, `_loginFacebook`, `_loginGoogle`, `_loginApple` -/
def tapped
    (tap : Tap)
    (s : LoginPage) : LoginPage :=
  if s.takes tap then
    s.playAnimation tap
  else if s.isLoading then
    s
  else
    { s with notices := s.notices ++ [.pleaseInput] }

/- The callbacks a call may have. -/
def Outcome.fits : Outcome → Call → Bool
  | .success, call => call.tap ≠ .login
  | .finish, call => call.tap = .login
  | .fail _, _ => true

def callBack
    (outcome : Outcome)
    (s : LoginPage) : LoginPage :=
  let stopped := s.stopAnimation outcome
  { stopped with
    notices := stopped.notices ++ outcome.notices }

/- A callback is one of a call that was made. -/
def step (s : LoginPage) : Step → Option LoginPage
  | .usernameChanged value =>
      some { s with username := some value }
  | .passwordChanged value =>
      some { s with password := some value }
  | .tap tap => some (s.tapped tap)
  | .frame completes =>
      (s.controller.frame completes).map s.animated
  | .callBack number outcome =>
      match s.calls[number]? with
      | none => none
      | some call =>
          if outcome.fits call then
            some (s.callBack outcome)
          else
            none

def system : System LoginPage Step where
  step := step

------------------------------------------------------------
-- What Is Seen
------------------------------------------------------------

/-
  A tap is taken, the model is called, a callback stops the
  animation, or the lock opens.
-/
inductive Mark where
  | tapped (tap : Tap)
  | called (call : Call)
  | stopped (outcome : Outcome)
  | unlocked (outcome : Outcome)
deriving DecidableEq

/- What is seen of a step. -/
def see (s : LoginPage) : Step → List Mark
  | .tap tap =>
      if s.takes tap then
        if s.controller.place = .finish then
          [.tapped tap, .called (s.callOf tap)]
        else
          [.tapped tap]
      else
        []
  | .frame true =>
      match s.controller.playing with
      | some (_, .callModel tap) => [.called (s.callOf tap)]
      | some (_, .unlock outcome) => [.unlocked outcome]
      | none => []
  | .callBack _ outcome =>
      if s.controller.place = .start then
        [.stopped outcome, .unlocked outcome]
      else
        [.stopped outcome]
  | _ => []

def Mark.call? : Mark → Option Call
  | .called call => some call
  | _ => none

/- What is shown with a mark. -/
def Mark.notices : Mark → List Notice
  | .stopped outcome => outcome.notices
  | .unlocked outcome => outcome.later
  | _ => []

/-
  What may be seen after a mark, and at first: a call comes
  right behind its tap, the lock opens right behind its
  callback, and a password login starts where it is open.
-/
def mayFollow (last : Option Mark) : Mark → Bool
  | .called call => last = some (.tapped call.tap)
  | .unlocked outcome => last = some (.stopped outcome)
  | .stopped _ => last.isSome
  | .tapped tap =>
      match last with
      | none => true
      | some (.unlocked _) => true
      | _ => tap ≠ .login

/- No animation is played. -/
def AtRest (s : LoginPage) : Prop :=
  s.controller.playing = none

/- What the screen does after the last mark. -/
inductive Phase (s : LoginPage) : Option Mark → Prop where
  | idle
      (last : Option Mark)
      (hLast :
        last = none ∨ ∃ outcome, last = some (.unlocked outcome))
      (hUnlocked : s.isLoading = false)
      (hRest : s.controller = ⟨.start, none⟩) :
      Phase s last
  | playing
      (tap : Tap)
      (hLocked : s.isLoading = true)
      (hPlace : s.controller.place ≠ .finish)
      (hPlaying :
        s.controller.playing =
          some (.forward, .callModel tap)) :
      Phase s (some (.tapped tap))
  | awaiting
      (call : Call)
      (hLocked : s.isLoading = true)
      (hRest : s.controller = ⟨.finish, none⟩) :
      Phase s (some (.called call))
  | stopping
      (outcome : Outcome)
      (hLocked : s.isLoading = true)
      (hPlace : s.controller.place ≠ .start)
      (hPlaying :
        s.controller.playing =
          some (.reverse, .unlock outcome)) :
      Phase s (some (.stopped outcome))

/- The texts are asked for at any time. -/
def Notice.told (notice : Notice) : Bool :=
  notice ≠ .pleaseInput

/- The marks so far fit the screen. -/
structure Marked
    (marks : List Mark)
    (s : LoginPage) : Prop where
  follows : Follows mayFollow marks
  phase : Phase s marks.getLast?
  calls : s.calls = marks.filterMap Mark.call?
  notices :
    s.notices.filter Notice.told =
      marks.flatMap Mark.notices

end LoginPage

end NewsCentral

------------------------------------------------------------
-- Steps
------------------------------------------------------------

namespace NewsCentral

open Dart EventLoop

namespace LoginPage

variable {s t : LoginPage} {marks new : List Mark}
variable {last : Option Mark}

/- The lock and the animation are all that counts. -/
theorem Phase.congr
    (hPhase : Phase s last)
    (hLoading : t.isLoading = s.isLoading)
    (hController : t.controller = s.controller) :
    Phase t last := by
  cases hPhase with
  | idle last hLast hUnlocked hRest =>
      exact .idle last hLast (hLoading.trans hUnlocked)
        (hController.trans hRest)
  | playing tap hLocked hPlace hPlaying =>
      refine .playing tap (hLoading.trans hLocked) ?_ ?_
      · rwa [hController]
      · rwa [hController]
  | awaiting call hLocked hRest =>
      exact .awaiting call (hLoading.trans hLocked)
        (hController.trans hRest)
  | stopping outcome hLocked hPlace hPlaying =>
      refine .stopping outcome (hLoading.trans hLocked) ?_ ?_
      · rwa [hController]
      · rwa [hController]

/- A step that leaves some marks. -/
theorem Marked.add
    (hMarked : Marked marks s)
    (hFollows : Follows mayFollow (marks ++ new))
    (hPhase : Phase t (marks ++ new).getLast?)
    (hCalls :
      t.calls = s.calls ++ new.filterMap Mark.call?)
    (hNotices :
      t.notices.filter Notice.told =
        s.notices.filter Notice.told ++
          new.flatMap Mark.notices) :
    Marked (marks ++ new) t := by
  refine ⟨hFollows, hPhase, ?_, ?_⟩
  · rw [hCalls, hMarked.calls, List.filterMap_append]
  · rw [hNotices, hMarked.notices, List.flatMap_append]

/- A step that leaves none. -/
theorem Marked.unseen
    (hMarked : Marked marks s)
    (hPhase : Phase t marks.getLast?)
    (hCalls : t.calls = s.calls)
    (hNotices :
      t.notices.filter Notice.told =
        s.notices.filter Notice.told) :
    Marked (marks ++ []) t := by
  refine hMarked.add ?_ ?_ ?_ ?_
  · rw [List.append_nil]
    exact hMarked.follows
  · rwa [List.append_nil]
  · simp [hCalls]
  · simp [hNotices]

/- Everything that is shown with a callback is told. -/
theorem told_notices
    (outcome : Outcome) :
    outcome.notices.filter Notice.told = outcome.notices ∧
      outcome.later.filter Notice.told = outcome.later := by
  cases outcome <;> exact ⟨rfl, rfl⟩

/- A tap that is taken may follow whatever was seen. -/
theorem Phase.mayFollow_tapped
    {tap : Tap}
    (hPhase : Phase s last)
    (hTakes : s.takes tap = true) :
    mayFollow last (.tapped tap) = true := by
  have hOther (hLocked : s.isLoading = true) :
      tap ≠ .login := by
    rintro rfl
    simp [takes, hLocked] at hTakes
  cases hPhase with
  | idle last hLast =>
      rcases hLast with rfl | ⟨outcome, rfl⟩ <;> rfl
  | playing _ hLocked =>
      simpa [mayFollow] using hOther hLocked
  | awaiting _ hLocked =>
      simpa [mayFollow] using hOther hLocked
  | stopping _ hLocked =>
      simpa [mayFollow] using hOther hLocked

/- Only at its start the animation leaves the lock open. -/
theorem Phase.locked_of_place
    (hPhase : Phase s last)
    (hPlace : s.controller.place ≠ .start) :
    s.isLoading = true := by
  cases hPhase with
  | idle _ _ _ hRest => simp [hRest] at hPlace
  | playing _ hLocked => exact hLocked
  | awaiting _ hLocked => exact hLocked
  | stopping _ hLocked => exact hLocked

/- A tap plays forward, or calls the model at once. -/
theorem Marked.tap
    {tap : Tap}
    (hMarked : Marked marks s)
    (hTakes : s.takes tap = true) :
    Marked (marks ++ see s (.tap tap))
      (s.playAnimation tap) := by
  have hFollows :=
    hMarked.follows.snoc
      (hMarked.phase.mayFollow_tapped hTakes)
  simp only [see, if_pos hTakes, playAnimation]
  by_cases hFinish : s.controller.place = .finish
  · rw [if_pos hFinish, Animation.play_of_end hFinish,
      hFinish]
    have hBoth :
        marks ++ [.tapped tap, .called (s.callOf tap)] =
          marks ++ [.tapped tap] ++
            [.called (s.callOf tap)] := by
      simp
    have hTap : (s.callOf tap).tap = tap := by
      cases tap <;> rfl
    refine hMarked.add ?_ ?_ ?_ ?_
    · rw [hBoth]
      refine hFollows.snoc ?_
      simp [mayFollow, hTap]
    · rw [hBoth, List.getLast?_concat]
      exact .awaiting _ rfl rfl
    · cases tap <;> rfl
    · simp [animated, resume, Mark.notices]
  · rw [if_neg hFinish, Animation.play_of_ne_end hFinish]
    refine hMarked.add hFollows ?_ ?_ ?_
    · rw [List.getLast?_concat]
      exact .playing tap rfl hFinish rfl
    · simp [animated, Mark.call?]
    · simp [animated, Mark.notices]

/- A callback plays back whatever there is. -/
theorem Marked.stop
    {number : Nat}
    {outcome : Outcome}
    (hMarked : Marked marks s)
    (hSome : marks.getLast?.isSome = true) :
    Marked (marks ++ see s (.callBack number outcome))
      (s.callBack outcome) := by
  have hFollows :
      Follows mayFollow (marks ++ [.stopped outcome]) :=
    hMarked.follows.snoc hSome
  have hTold := told_notices outcome
  simp only [see, callBack, stopAnimation]
  by_cases hStart : s.controller.place = .start
  · -- nothing is left to play back
    rw [if_pos hStart, Animation.play_of_end hStart, hStart]
    have hBoth :
        marks ++ [.stopped outcome, .unlocked outcome] =
          marks ++ [.stopped outcome] ++
            [.unlocked outcome] := by
      simp
    refine hMarked.add ?_ ?_ ?_ ?_
    · rw [hBoth]
      refine hFollows.snoc ?_
      simp [mayFollow]
    · rw [hBoth, List.getLast?_concat]
      exact .idle _ (.inr ⟨outcome, rfl⟩) rfl rfl
    · simp [animated, resume, Mark.call?]
    · cases outcome <;>
        simp [animated, resume, Mark.notices, Outcome.later,
          Outcome.notices, Notice.told]
  · rw [if_neg hStart, Animation.play_of_ne_end hStart]
    refine hMarked.add hFollows ?_ ?_ ?_
    · rw [List.getLast?_concat]
      exact .stopping outcome
        (hMarked.phase.locked_of_place hStart) hStart rfl
    · simp [animated, Mark.call?]
    · simp [animated, Mark.notices, hTold]

/- A frame goes on, or ends the animation. -/
theorem Marked.frame
    {completes : Bool}
    (hMarked : Marked marks s)
    (hNext :
      (s.controller.frame completes).map s.animated =
        some t) :
    Marked (marks ++ see s (.frame completes)) t := by
  generalize hLast : marks.getLast? = last
  have hPhase := hMarked.phase
  rw [hLast] at hPhase
  cases hPhase with
  | idle _ _ _ hRest => simp [hRest, Animation.frame] at hNext
  | awaiting _ _ hRest =>
      simp [hRest, Animation.frame] at hNext
  | playing tap hLocked hPlace hPlaying =>
      rw [Animation.frame_of_playing completes hPlaying]
        at hNext
      cases completes with
      | true =>
          cases hNext
          simp only [see, hPlaying]
          have hTap : (s.callOf tap).tap = tap := by
            cases tap <;> rfl
          refine hMarked.add ?_ ?_ ?_ ?_
          · refine hMarked.follows.snoc ?_
            simp [mayFollow, hLast, hTap]
          · rw [List.getLast?_concat]
            exact .awaiting _ hLocked rfl
          · cases tap <;> rfl
          · simp [animated, resume, Mark.notices]
      | false =>
          cases hNext
          refine hMarked.unseen ?_ rfl rfl
          rw [hLast]
          exact .playing tap hLocked (by simp [animated]) rfl
  | stopping outcome hLocked hPlace hPlaying =>
      rw [Animation.frame_of_playing completes hPlaying]
        at hNext
      cases completes with
      | true =>
          cases hNext
          simp only [see, hPlaying]
          refine hMarked.add ?_ ?_ ?_ ?_
          · refine hMarked.follows.snoc ?_
            simp [mayFollow, hLast]
          · rw [List.getLast?_concat]
            exact .idle _ (.inr ⟨outcome, rfl⟩) rfl rfl
          · simp [animated, resume, Mark.call?]
          · simp [animated, resume, Mark.notices,
              told_notices outcome]
      | false =>
          cases hNext
          refine hMarked.unseen ?_ rfl rfl
          rw [hLast]
          exact .stopping outcome hLocked
            (by simp [animated]) rfl

/- Where a call was made there is a mark. -/
theorem Marked.isSome_getLast?
    {number : Nat}
    {call : Call}
    (hMarked : Marked marks s)
    (hCall : s.calls[number]? = some call) :
    marks.getLast?.isSome = true := by
  rw [Option.isSome_iff_ne_none, Ne,
    List.getLast?_eq_none_iff]
  rintro rfl
  simp [hMarked.calls] at hCall

/- Every step fits its marks. -/
theorem Marked.step
    {e : Step}
    (hMarked : Marked marks s)
    (hNext : s.step e = some t) :
    Marked (marks ++ see s e) t := by
  cases e with
  | usernameChanged value =>
      cases hNext
      exact hMarked.unseen (hMarked.phase.congr rfl rfl) rfl
        rfl
  | passwordChanged value =>
      cases hNext
      exact hMarked.unseen (hMarked.phase.congr rfl rfl) rfl
        rfl
  | tap tap =>
      cases hNext
      unfold tapped
      by_cases hTakes : s.takes tap = true
      · rw [if_pos hTakes]
        exact hMarked.tap hTakes
      · have hNone : see s (.tap tap) = [] := by
          rw [see, if_neg hTakes]
        rw [if_neg hTakes, hNone]
        split
        · exact hMarked.unseen hMarked.phase rfl rfl
        · refine hMarked.unseen
            (hMarked.phase.congr rfl rfl) rfl ?_
          simp [Notice.told]
  | frame completes => exact hMarked.frame hNext
  | callBack number outcome =>
      simp only [LoginPage.step] at hNext
      split at hNext
      next => cases hNext
      next call hCall =>
        rw [Option.ite_none_right_eq_some] at hNext
        cases hNext.2
        exact hMarked.stop (hMarked.isSome_getLast? hCall)

/-
  In every run of the screen, whatever is tapped and called
  back meanwhile: the model is called right behind a tap of
  its own button, the lock opens right behind a callback,
  and a password login starts only where it is open, and in
  between nothing else happens that counts; what is shown
  comes with the callbacks, and the welcome of a password
  login with the opening of the lock.  Whenever nothing is
  played, no tap and no callback is left half done, and the
  lock is closed exactly if a call came last.
-/
theorem settled_of_run
    {es : List Step}
    {s : LoginPage}
    (hRun : system.Run System.anyStep {} es s) :
    Follows mayFollow (system.trace see {} es) ∧
      s.calls =
        (system.trace see {} es).filterMap Mark.call? ∧
      s.notices.filter Notice.told =
        (system.trace see {} es).flatMap Mark.notices ∧
      (s.AtRest →
        (∀ mark ∈ (system.trace see {} es).getLast?,
          mark.call?.isSome = true ∨
            ∃ outcome, mark = .unlocked outcome) ∧
        (s.isLoading = true ↔
          ∃ call,
            (system.trace see {} es).getLast? =
              some (.called call))) := by
  have hMarked : Marked (system.trace see {} es) s := by
    refine hRun.traceInvariant ?_ ?_
    · exact ⟨.nil, .idle _ (.inl rfl) rfl rfl, rfl, rfl⟩
    · intro marks t e u hMarked _ hNext
      exact hMarked.step hNext
  refine ⟨hMarked.follows, hMarked.calls, hMarked.notices, ?_⟩
  intro hRest
  generalize hLast :
    (system.trace see {} es).getLast? = last
  have hPhase := hMarked.phase
  rw [hLast] at hPhase
  cases hPhase with
  | idle last hLast' hUnlocked =>
      rcases hLast' with rfl | ⟨outcome, rfl⟩
      · simp [hUnlocked]
      · simp [hUnlocked]
  | playing _ _ _ hPlaying =>
      simp [AtRest, hPlaying] at hRest
  | awaiting call hLocked => simp [hLocked, Mark.call?]
  | stopping _ _ _ hPlaying =>
      simp [AtRest, hPlaying] at hRest

/-
  A password login succeeds, and while its animation is
  played back the button of Google is tapped: the model is
  called again, and the welcome is never shown.
-/
def tappedMeanwhile : List Step :=
  [ .usernameChanged "ada", .passwordChanged "pw",
    .tap .login, .frame false, .frame true,
    .callBack 0 .finish, .frame false, .tap .loginGoogle,
    .frame true ]

theorem settled_of_tappedMeanwhile :
    ∃ s,
      system.Run System.anyStep {} tappedMeanwhile s ∧
      s.calls =
        [.login (some "ada") (some "pw"), .loginGoogle] ∧
      s.notices = [] ∧
      s.isLoading = true := by
  have hRun :
      system.Run System.anyStep {} tappedMeanwhile _ :=
    System.run_of_exec rfl
  refine ⟨_, hRun, by decide, rfl, ?_⟩
  exact ((settled_of_run hRun).2.2.2 rfl).2.mpr
    ⟨.loginGoogle, by decide⟩

end LoginPage

end NewsCentral
