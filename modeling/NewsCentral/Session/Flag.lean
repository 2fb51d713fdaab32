import NewsCentral.Session.Turns

/-
  The flag of the session agrees with its user.

  A turn can do one thing to the two fields: begin the
  session of a user, of whom the service or the storage has
  told.  A logout ends the session, and nothing else does.

  Key definitions include:
    * `NewsCentral.Session.begun`
    * `NewsCentral.Session.FlagAgrees`

  Key theorems include:
    * `NewsCentral.Session.resume_begun`
    * `NewsCentral.Session.flagAgrees_of_run`
-/

------------------------------------------------------------
-- What Begins A Session
------------------------------------------------------------

namespace NewsCentral

open Dart EventLoop

namespace Session

/- The user of whom the storage tells. -/
def storedUser (s : Session) : Option User :=
  match s.storage.userInfo with
  | some (.obj fields) =>
      some (User.fromLocalJson (.obj fields))
  | _ => none

/- The user whose session a turn begins. -/
def begun
    (wp : WordPress)
    (point : Point)
    (w : World)
    (s : Session) : Option User :=
  match point with
  | .service login token =>
      (login.callService wp w.http token).toOption
  | .getUserReady =>
      if w.throws.isNone && w.ready then
        s.storedUser
      else
        none
  | _ => none

/- The user with the flag. -/
def identity (s : Session) : Option User × Bool :=
  (s.user, s.loggedIn)

theorem identity_withCallbacks
    (s : Session)
    (loading : Bool)
    (callbacks : List Callback) :
    (s.withCallbacks loading callbacks).identity =
      s.identity := rfl

theorem identity_loadUser
    (s : Session) :
    (loadUser s).identity =
      match s.storedUser with
      | some user => (some user, true)
      | none => s.identity := by
  unfold loadUser storedUser
  cases s.storage.userInfo with
  | none => rfl
  | some json => cases json <;> rfl

/- A turn begins a session, or leaves both fields alone. -/
theorem resume_begun
    (wp : WordPress)
    (k : Point)
    (w : World)
    (s : Session) :
    (resume wp k w s).1.identity =
      match begun wp k w s with
      | some user => (some user, true)
      | none => s.identity := by
  have hFail (login : Login) (e : Thrown) :
      (failLogin login e w s).identity = s.identity :=
    view_failLogin identity identity_withCallbacks login e w s
  have hRefused (message : String) :
      (facebookRefused message w s).identity = s.identity :=
    view_facebookRefused identity identity_withCallbacks
      message w s
  cases k with
  | service login token =>
      simp only [resume, begun]
      cases login.callService wp w.http token with
      | error e => exact hFail login e
      | ok user => rfl
  | getUserReady =>
      simp only [resume, begun]
      split
      · exact identity_loadUser s
      · rfl
  | saved login user =>
      exact view_succeedLogin identity identity_withCallbacks
        login user w s
  | blogReady caller file data =>
      simp only [resume, begun]
      generalize
        (if (w.throws.isNone && w.ready) = true then
          s.storage.jwtToken else some "") = token
      cases token <;> cases file <;> rfl
  | _ =>
      simp only [resume, begun, orElseSaved]
      repeat' split
      all_goals first
        | rfl
        | exact hFail _ _
        | exact hRefused _

end Session

end NewsCentral

------------------------------------------------------------
-- The Flag And The User
------------------------------------------------------------

namespace NewsCentral

open Dart EventLoop

namespace Session

/- The flag is set exactly while there is a user. -/
def FlagAgrees (s : Session) : Prop :=
  s.loggedIn = true ↔ s.user ≠ none

variable {wp : WordPress} {s t : Session}

/- A logout clears both; the other calls touch neither. -/
theorem FlagAgrees.call
    {op : Op}
    {points : List Point}
    (hAgrees : FlagAgrees s)
    (hCall : call op s = some (t, points)) :
    FlagAgrees t := by
  cases op with
  | attempt login =>
      simp only [Session.call, Option.some.injEq] at hCall
      have hSame : t.identity = s.identity := by
        cases login <;> cases hCall <;> rfl
      simp only [identity, Prod.mk.injEq] at hSame
      unfold FlagAgrees
      rw [hSame.1, hSame.2]
      exact hAgrees
  | getUser =>
      cases hCall
      exact hAgrees
  | logout =>
      cases hCall
      simp [FlagAgrees]
  | createBlog file data =>
      cases hCall
      exact hAgrees

theorem FlagAgrees.resume
    {k : Point}
    {w : World}
    (hAgrees : FlagAgrees s) :
    FlagAgrees (resume wp k w s).1 := by
  have hBegun := resume_begun wp k w s
  unfold FlagAgrees
  cases hUser : begun wp k w s with
  | some user =>
      rw [hUser] at hBegun
      simp only [identity, Prod.mk.injEq] at hBegun
      rw [hBegun.1, hBegun.2]
      simp
  | none =>
      rw [hUser] at hBegun
      simp only [identity, Prod.mk.injEq] at hBegun
      rw [hBegun.1, hBegun.2]
      exact hAgrees

/-
  From any stores, in every state that a run of the
  session's calls reaches, with whatever answers at their
  awaits, the flag agrees with the user.
-/
theorem flagAgrees_of_run
    {storage : LocalStorage}
    {prefs : Option Bool}
    {es : List (Event Op World)}
    {p : Pool Session Point}
    (hRun :
      (program wp).system.Run System.anyStep
        (launched { storage := storage, prefs := prefs })
        es p) :
    FlagAgrees p.shared := by
  refine Program.run_invariant
    (I := fun _ s _ => FlagAgrees s)
    (Program.run_when_true hRun) ?_ ?_ ?_
  · simp [FlagAgrees, launched]
  · intro _ s _ op t _ hAgrees _ hCall
    exact hAgrees.call hCall
  · intro _ s _ k _ w hAgrees _ _
    exact hAgrees.resume

/- The user that is stored is loaded at the launch. -/
theorem flagAgrees_after_launch :
    ∃ p,
      (program (.setAppConfig "https://x")).system.Run
        System.anyStep
        (launched { storage := { userInfo := some (.obj []) } })
        [.resume 0 {}] p ∧
      p.shared.loggedIn = true ∧
      FlagAgrees p.shared := by
  have hRun :
      ∃ p,
        (program (.setAppConfig "https://x")).system.Run
          System.anyStep
          (launched
            { storage := { userInfo := some (.obj []) } })
          [.resume 0 {}] p ∧
        p.shared.loggedIn = true :=
    ⟨_, System.run_of_exec rfl, rfl⟩
  rcases hRun with ⟨p, hRun, hFlag⟩
  exact ⟨p, hRun, hFlag, flagAgrees_of_run hRun⟩

end Session

end NewsCentral
