import NewsCentral.EventLoop.Durable
import NewsCentral.Session.Stores

/-
  The session on disk when the app is killed at any moment.

  `saveUser` writes the preference, awaits it, and only then
  writes the user; `logout` removes the user, awaits that,
  and only then resets the preference.  So on disk a user is
  never without the preference, wherever a process ends, as
  long as a logout and the save of a login do not overlap.

  Key definitions include:
    * `NewsCentral.Session.Disk`
    * `NewsCentral.Session.flushing`
    * `NewsCentral.Session.FlagAhead`
    * `NewsCentral.Session.CrashSafe`

  Key theorems include:
    * `NewsCentral.Session.CrashSafe.resume`
    * `NewsCentral.Session.flagAhead_of_crashes`
-/

------------------------------------------------------------
-- The Disk
------------------------------------------------------------

namespace NewsCentral

open Dart Json EventLoop

namespace Session

/- The two files of the session, as far as it reads them. -/
inductive Medium where
  | preferences
  | localStorage

/- What has reached the disk. -/
structure Disk where
  userInfo : Option Json := none
  jwtToken : Option String := none
  prefs : Option Bool := none

/- A flush writes one file from memory. -/
def flush : Medium → Session → Disk → Disk
  | .preferences, s, d => { d with prefs := s.prefs }
  | .localStorage, s, d =>
      { d with
        userInfo := s.storage.userInfo
        jwtToken := s.storage.jwtToken }

/- The file that an awaited write is flushed to. -/
def Point.medium : Point → Option Medium
  | .saveFlag .. => some .preferences
  | .saveItem .. => some .localStorage
  | .logoutUserInfo => some .localStorage
  | .logoutWishlist => some .localStorage
  | .logoutFlag => some .preferences
  | .jwtItem => some .localStorage
  | _ => none

/- A write that fails may not have reached its file. -/
def flushing : Flushing Session Point World Medium Disk where
  flush := flush
  awaited k w :=
    if w.throws.isSome then none else k.medium

/- `UserModel()` in a new process, on what is on disk. -/
def Disk.launched (d : Disk) : Session where
  storage :=
    { userInfo := d.userInfo
      jwtToken := d.jwtToken }
  prefs := d.prefs

def Disk.boot (d : Disk) : Session × List Point :=
  (d.launched, [.getUserReady])

/- The process started on a disk. -/
def Disk.process
    (d : Disk) : Pool (OnDisk Session Disk) Point where
  shared := ⟨d.launched, d⟩
  pending := [.getUserReady]

/- Whoever is stored is also known to be logged in. -/
def FlagAhead (s : Session) : Prop :=
  s.isLogin = true → s.checkLogin = true

instance (s : Session) : Decidable s.FlagAhead := by
  unfold FlagAhead
  infer_instance

/- A login whose user is going to be stored. -/
def Point.saving : Point → Bool
  | .savePrefs .. => true
  | .saveFlag .. => true
  | .saveReady .. => true
  | _ => false

/- A logout that is going to write. -/
def Point.erasing : Point → Bool
  | .logoutReady => true
  | .logoutUserInfo => true
  | .logoutWishlist => true
  | .logoutPrefs => true
  | _ => false

/- A login whose service is to answer. -/
def Point.inService : Point → Bool
  | .service .. => true
  | _ => false

/- A logout begins only after logins have been saved. -/
def unlessSaving
    (_ : Session)
    (pending : List Point) :
    Op → Prop
  | .logout => ∀ k ∈ pending, k.saving = false
  | _ => True

/- A login is answered only after logouts have written. -/
def unlessErasing
    (_ : Session)
    (rest : List Point)
    (k : Point)
    (_ : World) : Prop :=
  k.inService = true → ∀ j ∈ rest, j.erasing = false

instance
    (s : Session)
    (pending : List Point)
    (op : Op) :
    Decidable (unlessSaving s pending op) := by
  unfold unlessSaving
  split <;> infer_instance

instance
    (s : Session)
    (rest : List Point)
    (k : Point)
    (w : World) :
    Decidable (unlessErasing s rest k w) := by
  unfold unlessErasing
  infer_instance

end Session

end NewsCentral

------------------------------------------------------------
-- The Invariant
------------------------------------------------------------

namespace NewsCentral

open Dart Json EventLoop

namespace Session

/- Saves and logouts do not overlap. -/
def Apart (pending : List Point) : Prop :=
  ∀ j ∈ pending, j.saving = true →
    ∀ k ∈ pending, k.erasing = false

/- What a suspended point relies on when it writes next. -/
def Point.Relies
    (s : Session)
    (d : Disk) :
    Point → Prop
  | .saveFlag .. => s.prefs = some true
  | .saveReady .. =>
      s.prefs = some true ∧ d.prefs = some true
  | .logoutUserInfo => s.isLogin = false
  | .logoutWishlist =>
      s.isLogin = false ∧ d.launched.isLogin = false
  | .logoutPrefs =>
      s.isLogin = false ∧ d.launched.isLogin = false
  | _ => True

/-
  A user in memory or on disk has the preference in both, and
  nothing suspended is going to break that.
-/
structure CrashSafe
    (s : Session)
    (d : Disk)
    (pending : List Point) : Prop where
  flagged :
    s.isLogin = true ∨ d.launched.isLogin = true →
      s.prefs = some true ∧ d.prefs = some true
  apart : Apart pending
  relies : ∀ k ∈ pending, k.Relies s d

/- Each point stands where one that does as much stood. -/
theorem Apart.of_covered
    {old new : List Point}
    (hApart : Apart old)
    (hCovered :
      ∀ j ∈ new, ∃ k ∈ old,
        (j.saving = true → k.saving = true) ∧
          (j.erasing = true → k.erasing = true)) :
    Apart new := by
  intro i hI hSaving j hJ
  rcases hCovered i hI with ⟨i', hOld, hSame, _⟩
  rcases hCovered j hJ with ⟨j', hOld', _, hErases⟩
  have hNot := hApart i' hOld (hSame hSaving) j' hOld'
  cases hErasing : j.erasing with
  | false => rfl
  | true =>
      rw [hErases hErasing] at hNot
      exact hNot

/- A turn that goes on as its operation did. -/
theorem Apart.pass
    {earlier later next : List Point}
    {k : Point}
    (hApart : Apart (earlier ++ k :: later))
    (hNext :
      ∀ j ∈ next,
        (j.saving = true → k.saving = true) ∧
          (j.erasing = true → k.erasing = true)) :
    Apart (earlier ++ later ++ next) := by
  refine hApart.of_covered fun j hMem => ?_
  rcases List.mem_append.mp hMem with hOld | hNew
  · exact ⟨j, mem_of_mem_rest hOld, id, id⟩
  · exact ⟨k, by simp, hNext j hNew⟩

/- Points with no write ahead neither save nor erase. -/
theorem Point.idle_of_not_writes
    {k : Point}
    (hIdle : k.writesStores = false) :
    k.saving = false ∧ k.erasing = false := by
  cases k <;> simp_all [Point.writesStores, saving, erasing]

theorem Point.relies_of_idle
    {k : Point}
    (hIdle : k.writesStores = false)
    (s : Session)
    (d : Disk) :
    k.Relies s d := by
  cases k <;> simp_all [Point.writesStores, Relies]

/- Only the stores matter to what a point relies on. -/
theorem Point.Relies.of_stores
    {s t : Session}
    {d : Disk}
    {k : Point}
    (hRelies : k.Relies s d)
    (hUser : t.isLogin = s.isLogin)
    (hPrefs : t.prefs = s.prefs) :
    k.Relies t d := by
  cases k <;> simp_all [Relies]

theorem CrashSafe.launched
    {d : Disk}
    (hStart : d.launched.FlagAhead) :
    CrashSafe d.launched d [.getUserReady] := by
  constructor
  · intro hUser
    have hFlag : d.launched.checkLogin = true :=
      hStart (hUser.elim id id)
    have hPrefs : d.prefs = some true := by
      cases hSome : d.prefs with
      | none => simp [checkLogin, Disk.launched, hSome] at hFlag
      | some flag =>
          simp [checkLogin, Disk.launched, hSome] at hFlag
          rw [hFlag]
    exact ⟨hPrefs, hPrefs⟩
  · intro j hMem hSaving
    rw [List.mem_singleton.mp hMem] at hSaving
    cases hSaving
  · intro k hMem
    rw [List.mem_singleton.mp hMem]
    trivial

/- The invariant is more than that the flag is ahead. -/
theorem CrashSafe.flagAhead
    {s : Session}
    {d : Disk}
    {pending : List Point}
    (hSafe : CrashSafe s d pending) :
    s.FlagAhead ∧ d.launched.FlagAhead := by
  constructor
  · intro hUser
    simp [checkLogin, (hSafe.flagged (.inl hUser)).1]
  · intro hUser
    simp [checkLogin, Disk.launched,
      (hSafe.flagged (.inr hUser)).2]

end Session

end NewsCentral

------------------------------------------------------------
-- Flushes, Calls And Turns
------------------------------------------------------------

namespace NewsCentral

open Dart Json EventLoop

namespace Session

/- A flush may come at any moment. -/
theorem CrashSafe.flush
    {s : Session}
    {d : Disk}
    {pending : List Point}
    (hSafe : CrashSafe s d pending)
    (medium : Medium) :
    CrashSafe s (Session.flush medium s d) pending := by
  cases medium with
  | preferences =>
      refine ⟨?_, hSafe.apart, ?_⟩
      · intro hUser
        have hFlag := (hSafe.flagged hUser).1
        exact ⟨hFlag, hFlag⟩
      · intro k hMem
        have hRelies := hSafe.relies k hMem
        cases k <;> simp_all [Point.Relies, Session.flush,
          Disk.launched, isLogin]
  | localStorage =>
      refine ⟨?_, hSafe.apart, ?_⟩
      · intro hUser
        exact hSafe.flagged (.inl (hUser.elim id id))
      · intro k hMem
        have hRelies := hSafe.relies k hMem
        cases k <;> simp_all [Point.Relies, Session.flush,
          Disk.launched, isLogin]

/- A later process finds the disk as the last one left it. -/
theorem CrashSafe.boot
    {s : Session}
    {d : Disk}
    {pending : List Point}
    (hSafe : CrashSafe s d pending) :
    CrashSafe d.boot.1 d d.boot.2 :=
  CrashSafe.launched hSafe.flagAhead.2

/-
  A turn keeps the invariant if it keeps a stored user
  flagged, goes on as its operation did and takes nothing
  from the others that they rely on.
-/
theorem CrashSafe.turn
    {s t : Session}
    {d : Disk}
    {earlier later next : List Point}
    {k : Point}
    (hSafe : CrashSafe s d (earlier ++ k :: later))
    (hFlagged :
      t.isLogin = true ∨ d.launched.isLogin = true →
        t.prefs = some true ∧ d.prefs = some true)
    (hPass :
      ∀ j ∈ next,
        (j.saving = true → k.saving = true) ∧
          (j.erasing = true → k.erasing = true))
    (hKept :
      ∀ j ∈ earlier ++ later, j.Relies s d → j.Relies t d)
    (hNext : ∀ j ∈ next, j.Relies t d) :
    CrashSafe t d (earlier ++ later ++ next) := by
  refine ⟨hFlagged, hSafe.apart.pass hPass, ?_⟩
  intro j hMem
  rcases List.mem_append.mp hMem with hOld | hNew
  · exact hKept j hOld (hSafe.relies j (mem_of_mem_rest hOld))
  · exact hNext j hNew

/- A turn that leaves the stores as they are. -/
theorem CrashSafe.keep
    {s t : Session}
    {d : Disk}
    {earlier later next : List Point}
    {k : Point}
    (hSafe : CrashSafe s d (earlier ++ k :: later))
    (hView : t.storesView = s.storesView)
    (hPass :
      ∀ j ∈ next,
        (j.saving = true → k.saving = true) ∧
          (j.erasing = true → k.erasing = true))
    (hNext : ∀ j ∈ next, j.Relies s d) :
    CrashSafe t d (earlier ++ later ++ next) := by
  simp only [storesView, Prod.mk.injEq] at hView
  have hUser : t.isLogin = s.isLogin := by
    simp only [isLogin, hView.2.1]
  have hPrefs : t.prefs = s.prefs := hView.2.2
  refine hSafe.turn ?_ hPass ?_ ?_
  · rw [hUser, hPrefs]
    exact hSafe.flagged
  · intro j _ hRelies
    exact hRelies.of_stores hUser hPrefs
  · intro j hMem
    exact (hNext j hMem).of_stores hUser hPrefs

/- A turn that also leaves no write behind. -/
theorem CrashSafe.rest
    {s t : Session}
    {d : Disk}
    {earlier later next : List Point}
    {k : Point}
    (hSafe : CrashSafe s d (earlier ++ k :: later))
    (hView : t.storesView = s.storesView)
    (hIdle : ∀ j ∈ next, j.writesStores = false) :
    CrashSafe t d (earlier ++ later ++ next) := by
  refine hSafe.keep hView ?_ ?_
  · intro j hMem
    rcases Point.idle_of_not_writes (hIdle j hMem) with
      ⟨hSaving, hErasing⟩
    simp [hSaving, hErasing]
  · intro j hMem
    exact Point.relies_of_idle (hIdle j hMem) s d

/- A save that is suspended keeps the logouts away. -/
theorem CrashSafe.not_erasing
    {s : Session}
    {d : Disk}
    {earlier later : List Point}
    {k j : Point}
    (hSafe : CrashSafe s d (earlier ++ k :: later))
    (hSaving : k.saving = true)
    (hMem : j ∈ earlier ++ later) :
    j.erasing = false :=
  hSafe.apart k (by simp) hSaving j (mem_of_mem_rest hMem)

/- And a suspended logout the saves. -/
theorem CrashSafe.not_saving
    {s : Session}
    {d : Disk}
    {earlier later : List Point}
    {k j : Point}
    (hSafe : CrashSafe s d (earlier ++ k :: later))
    (hErasing : k.erasing = true)
    (hMem : j ∈ earlier ++ later) :
    j.saving = false := by
  cases hSaving : j.saving with
  | false => rfl
  | true =>
      have hNot :=
        hSafe.apart j (mem_of_mem_rest hMem) hSaving k
          (by simp)
      rw [hErasing] at hNot
      cases hNot

/- Calls write nothing; a logout finds no save. -/
theorem CrashSafe.call
    {s t : Session}
    {d : Disk}
    {pending next : List Point}
    {op : Op}
    (hSafe : CrashSafe s d pending)
    (hOk : unlessSaving s pending op)
    (hCall : Session.call op s = some (t, next)) :
    CrashSafe t d (pending ++ next) := by
  have hStores : t.isLogin = s.isLogin ∧ t.prefs = s.prefs := by
    cases op with
    | attempt login =>
        cases login <;> cases hCall <;> exact ⟨rfl, rfl⟩
    | _ => cases hCall; exact ⟨rfl, rfl⟩
  have hNext :
      ∀ j ∈ next, j.saving = false ∧ j.Relies t d := by
    cases op with
    | attempt login =>
        cases login <;> cases hCall <;>
          simp [Point.saving, Point.Relies]
    | _ => cases hCall; simp [Point.saving, Point.Relies]
  have hErasing :
      ∀ j ∈ next, j.erasing = true → op = .logout := by
    cases op with
    | attempt login =>
        cases login <;> cases hCall <;> simp [Point.erasing]
    | logout => simp
    | _ => cases hCall; simp [Point.erasing]
  rcases hStores with ⟨hUser, hPrefs⟩
  refine ⟨?_, ?_, ?_⟩
  · rw [hUser, hPrefs]
    exact hSafe.flagged
  · intro j hMem hSaving k hMem'
    have hOld : j ∈ pending := by
      rcases List.mem_append.mp hMem with hOld | hNew
      · exact hOld
      · rw [(hNext j hNew).1] at hSaving
        cases hSaving
    rcases List.mem_append.mp hMem' with hOld' | hNew
    · exact hSafe.apart j hOld hSaving k hOld'
    · cases hErases : k.erasing with
      | false => rfl
      | true =>
          cases hErasing k hNew hErases
          rw [hOk j hOld] at hSaving
          cases hSaving
  · intro j hMem
    rcases List.mem_append.mp hMem with hOld | hNew
    · exact (hSafe.relies j hOld).of_stores hUser hPrefs
    · exact (hNext j hNew).2

end Session

end NewsCentral

------------------------------------------------------------
-- All Lives
------------------------------------------------------------

namespace NewsCentral

open Dart Json EventLoop

namespace Session

/- What an awaited write without an error has flushed. -/
theorem onDisk_of_awaited
    {s : Session}
    {d : Disk}
    {k : Point}
    {w : World}
    {medium : Medium}
    (hFlushed :
      ∀ medium,
        flushing.awaited k w = some medium →
        flushing.flush medium s d = d)
    (hThrows : w.throws = none)
    (hMedium : k.medium = some medium) :
    Session.flush medium s d = d := by
  apply hFlushed medium
  simp [flushing, hThrows, hMedium]

/- The start-up read leaves the stores alone. -/
theorem loadUser_stores
    (s : Session) :
    (loadUser s).isLogin = s.isLogin ∧
      (loadUser s).prefs = s.prefs := by
  unfold loadUser
  cases hUser : s.storage.userInfo with
  | none => exact ⟨rfl, rfl⟩
  | some json => cases json <;> exact ⟨rfl, rfl⟩

/- What a resumption leaves behind is safe. -/
def ResumesSafe
    (wp : WordPress)
    (s : Session)
    (d : Disk)
    (earlier later : List Point)
    (w : World)
    (k : Point) : Prop :=
  CrashSafe (Session.resume wp k w s).1 d
    (earlier ++ later ++ (Session.resume wp k w s).2)

variable {wp : WordPress} {s : Session} {d : Disk}
variable {earlier later : List Point} {w : World}
variable {login : Login} {user : User}

/- A login is refused, or goes on to its save. -/
theorem CrashSafe.service
    {token : Option String}
    (hSafe :
      CrashSafe s d (earlier ++ .service login token :: later))
    (hOk :
      unlessErasing s (earlier ++ later)
        (.service login token) w) :
    ResumesSafe wp s d earlier later w
      (.service login token) := by
  simp only [ResumesSafe, Session.resume]
  cases login.callService wp w.http token with
  | error e =>
      exact hSafe.rest
        (view_failLogin storesView
          storesView_withCallbacks login e w s)
        (by simp)
  | ok user =>
      refine ⟨hSafe.flagged, ?_, ?_⟩
      · intro j _ _ i hMem
        rcases List.mem_append.mp hMem with hOld | hNew
        · exact hOk rfl i hOld
        · rw [List.mem_singleton.mp hNew]
          rfl
      · intro j hMem
        rcases List.mem_append.mp hMem with hOld | hNew
        · exact
            (hSafe.relies j
              (mem_of_mem_rest hOld)).of_stores rfl rfl
        · rw [List.mem_singleton.mp hNew]
          trivial

/- A save sets the flag in memory. -/
theorem CrashSafe.savePrefs
    (hSafe :
      CrashSafe s d
        (earlier ++ .savePrefs login user :: later)) :
    ResumesSafe wp s d earlier later w
      (.savePrefs login user) := by
  simp only [ResumesSafe, Session.resume, orElseSaved]
  split
  · exact hSafe.rest rfl (by simp [Point.writesStores])
  · refine hSafe.turn ?_ (by simp [Point.saving,
      Point.erasing]) ?_ (by simp [Point.Relies])
    · intro hUser
      exact ⟨rfl, (hSafe.flagged hUser).2⟩
    · intro j _ hHeld
      cases j <;> simp_all [Point.Relies, isLogin]

/- The flag that was awaited is on disk. -/
theorem CrashSafe.saveFlag
    (hSafe :
      CrashSafe s d (earlier ++ .saveFlag login user :: later))
    (hFlushed :
      ∀ medium,
        flushing.awaited (.saveFlag login user) w =
          some medium →
        flushing.flush medium s d = d) :
    ResumesSafe wp s d earlier later w
      (.saveFlag login user) := by
  have hRelies : (Point.saveFlag login user).Relies s d :=
    hSafe.relies _ (by simp)
  simp only [ResumesSafe, Session.resume, orElseSaved]
  split
  · exact hSafe.rest rfl (by simp [Point.writesStores])
  · rename_i hThrows
    have hDisk : d.prefs = s.prefs :=
      (congrArg Disk.prefs
        (onDisk_of_awaited hFlushed
          (by simpa using hThrows) rfl)).symm
    refine hSafe.keep rfl (by simp [Point.saving,
      Point.erasing]) ?_
    intro j hMem
    rw [List.mem_singleton.mp hMem]
    exact ⟨hRelies, hDisk.trans hRelies⟩

/- The user is stored, who is flagged in memory and disk. -/
theorem CrashSafe.saveReady
    (hSafe :
      CrashSafe s d
        (earlier ++ .saveReady login user :: later)) :
    ResumesSafe wp s d earlier later w
      (.saveReady login user) := by
  have hRelies : (Point.saveReady login user).Relies s d :=
    hSafe.relies _ (by simp)
  simp only [ResumesSafe, Session.resume, orElseSaved]
  split
  · exact hSafe.rest rfl (by simp [Point.writesStores])
  split
  · refine hSafe.turn (fun _ => hRelies) (by simp [
      Point.saving, Point.erasing]) ?_
      (by simp [Point.Relies])
    -- a logout that relies on the removal is not there
    intro j hMem hHeld
    have hNot := hSafe.not_erasing rfl hMem
    cases j <;> simp_all [Point.Relies, Point.erasing]
  · exact hSafe.rest rfl (by simp [Point.writesStores])

/- The start-up reads the user. -/
theorem CrashSafe.getUserReady
    (hSafe :
      CrashSafe s d (earlier ++ .getUserReady :: later)) :
    ResumesSafe wp s d earlier later w .getUserReady := by
  simp only [ResumesSafe, Session.resume]
  split
  · rcases loadUser_stores s with ⟨hUser, hPrefs⟩
    refine hSafe.turn ?_ (by simp) ?_ (by simp)
    · rw [hUser, hPrefs]
      exact hSafe.flagged
    · intro j _ hHeld
      exact hHeld.of_stores hUser hPrefs
  · exact hSafe.rest rfl (by simp)

/- A logout removes the user in memory. -/
theorem CrashSafe.logoutReady
    (hSafe :
      CrashSafe s d (earlier ++ .logoutReady :: later)) :
    ResumesSafe wp s d earlier later w .logoutReady := by
  simp only [ResumesSafe, Session.resume]
  split
  · refine hSafe.turn ?_ (by simp [Point.saving,
      Point.erasing]) ?_ ?_
    · intro hUser
      rcases hUser with hHere | hDisk
      · simp [isLogin, isNotNull] at hHere
      · exact hSafe.flagged (.inr hDisk)
    · intro j _ hHeld
      cases j <;>
        simp_all [Point.Relies, isLogin, isNotNull]
    · simp [Point.Relies, isLogin, isNotNull]
  · exact hSafe.rest rfl (by simp)

/- The removal that was awaited is on disk. -/
theorem CrashSafe.logoutUserInfo
    (hSafe :
      CrashSafe s d (earlier ++ .logoutUserInfo :: later))
    (hFlushed :
      ∀ medium,
        flushing.awaited .logoutUserInfo w = some medium →
        flushing.flush medium s d = d) :
    ResumesSafe wp s d earlier later w .logoutUserInfo := by
  have hGone : s.isLogin = false :=
    hSafe.relies .logoutUserInfo (by simp)
  simp only [ResumesSafe, Session.resume]
  split
  · rename_i hThrows
    have hDisk : d.userInfo = s.storage.userInfo :=
      (congrArg Disk.userInfo
        (onDisk_of_awaited hFlushed
          (by simpa using hThrows) rfl)).symm
    refine hSafe.keep rfl (by simp [Point.saving,
      Point.erasing]) ?_
    intro j hMem
    rw [List.mem_singleton.mp hMem]
    refine ⟨hGone, ?_⟩
    simpa only [isLogin, Disk.launched, hDisk] using hGone
  · exact hSafe.rest rfl (by simp)

theorem CrashSafe.logoutWishlist
    (hSafe :
      CrashSafe s d (earlier ++ .logoutWishlist :: later)) :
    ResumesSafe wp s d earlier later w .logoutWishlist := by
  have hRelies : Point.logoutWishlist.Relies s d :=
    hSafe.relies _ (by simp)
  simp only [ResumesSafe, Session.resume]
  split
  · refine hSafe.keep rfl (by simp [Point.saving,
      Point.erasing]) ?_
    intro j hMem
    rw [List.mem_singleton.mp hMem]
    exact hRelies
  · exact hSafe.rest rfl (by simp)

/- The flag is reset once no user is stored anywhere. -/
theorem CrashSafe.logoutPrefs
    (hSafe :
      CrashSafe s d (earlier ++ .logoutPrefs :: later)) :
    ResumesSafe wp s d earlier later w .logoutPrefs := by
  have hRelies : Point.logoutPrefs.Relies s d :=
    hSafe.relies _ (by simp)
  simp only [ResumesSafe, Session.resume]
  split
  · refine hSafe.turn ?_ (by simp [Point.saving,
      Point.erasing]) ?_ (by simp [Point.Relies])
    · intro hUser
      rcases hRelies with ⟨hMemory, hDisk⟩
      rcases hUser with hHere | hThere
      · exact absurd (hMemory.symm.trans hHere) (by simp)
      · exact absurd (hDisk.symm.trans hThere) (by simp)
    · -- a save that relies on the preference is not there
      intro j hMem hHeld
      have hNot := hSafe.not_saving rfl hMem
      cases j <;>
        simp_all [Point.Relies, Point.saving, isLogin]
  · exact hSafe.rest rfl (by simp)

/- Every turn of a life keeps the invariant. -/
theorem CrashSafe.resume
    {k : Point}
    (hSafe : CrashSafe s d (earlier ++ k :: later))
    (hOk : unlessErasing s (earlier ++ later) k w)
    (hFlushed :
      ∀ medium,
        flushing.awaited k w = some medium →
        flushing.flush medium s d = d) :
    CrashSafe (Session.resume wp k w s).1 d
      (earlier ++ later ++ (Session.resume wp k w s).2) := by
  by_cases hLeaves : k.leavesStores = true
  · rcases resume_leavesStores wp hLeaves w s with
      ⟨hView, hNext⟩
    exact hSafe.rest hView hNext
  cases k with
  | service login token => exact hSafe.service hOk
  | savePrefs login user => exact hSafe.savePrefs
  | saveFlag login user => exact hSafe.saveFlag hFlushed
  | saveReady login user => exact hSafe.saveReady
  | getUserReady => exact hSafe.getUserReady
  | logoutReady => exact hSafe.logoutReady
  | logoutUserInfo => exact hSafe.logoutUserInfo hFlushed
  | logoutWishlist => exact hSafe.logoutWishlist
  | logoutPrefs => exact hSafe.logoutPrefs
  | _ => exact absurd rfl hLeaves

/-
  Over all lives, each killed at any moment, with every file
  flushed at any moment and any write failing: a user that is
  stored, in memory or on disk, is known to be logged in, if
  no logout overlaps the save of a login.
-/
theorem flagAhead_of_crashes
    {wp : WordPress}
    {d : Disk}
    {es : List (Life (Op ⊕ Medium) World)}
    {p : Pool (OnDisk Session Disk) Point}
    (hStart : d.launched.FlagAhead)
    (hRun :
      ((program wp).crashing flushing Disk.boot).Run
        (Program.whileCrashing unlessSaving unlessErasing)
        d.process es p) :
    p.shared.memory.FlagAhead ∧
      p.shared.disk.launched.FlagAhead := by
  have hSafe :
      CrashSafe p.shared.memory p.shared.disk p.pending := by
    refine Program.crashing_invariant
      (I := CrashSafe)
      hRun (CrashSafe.launched hStart) ?_ ?_ ?_ ?_ ?_
    · intro s e pending hSafe
      exact hSafe.boot
    · intro medium s e pending hSafe
      exact hSafe.flush medium
    · intro medium s e
      cases medium <;> rfl
    · intro s e pending op t next hSafe hOk hCall
      exact hSafe.call hOk hCall
    · intro s e earlier k later w hSafe hOk hFlushed
      exact hSafe.resume hOk hFlushed
  exact hSafe.flagAhead

/-
  A login is saved, and the process killed before the file
  with the user is written; the next process logs in again,
  and is killed in the middle of a logout.
-/
def killedTwice : List (Life (Op ⊕ Medium) World) :=
  [ .turn (.resume 0 {}),
    .turn (.call (.inl phoneLogin)),
    .turn (.resume 0 phoneWorld), .turn (.resume 0 {}),
    .turn (.resume 0 {}), .turn (.resume 0 {}),
    .restart,
    .turn (.call (.inl phoneLogin)),
    .turn (.resume 1 phoneWorld), .turn (.resume 1 {}),
    .turn (.resume 1 {}), .turn (.resume 1 {}),
    .turn (.call (.inr .localStorage)),
    .turn (.resume 1 {}), .turn (.resume 1 {}),
    .turn (.call (.inl .logout)), .turn (.resume 1 {}),
    .restart ]

/- The user is back, and known to be logged in. -/
theorem flagAhead_when_killedTwice :
    ∃ p : Pool (OnDisk Session Disk) Point,
      ((program newsService).crashing flushing
          Disk.boot).Run
        (Program.whileCrashing unlessSaving unlessErasing)
        (Disk.process {}) killedTwice p ∧
      p.shared.memory.isLogin = true ∧
      p.shared.memory.FlagAhead := by
  have hRun :
      ∃ p,
        ((program newsService).crashing flushing
            Disk.boot).Run
          (Program.whileCrashing unlessSaving unlessErasing)
          (Disk.process {}) killedTwice p ∧
        p.shared.memory.isLogin = true :=
    ⟨_, System.run_iff_exec.mpr ⟨by decide, rfl⟩, rfl⟩
  rcases hRun with ⟨p, hRun, hUser⟩
  exact ⟨p, hRun, hUser,
    (flagAhead_of_crashes (by decide) hRun).1⟩

end Session

end NewsCentral
