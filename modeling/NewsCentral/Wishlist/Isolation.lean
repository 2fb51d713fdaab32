import NewsCentral.EventLoop.Compose
import NewsCentral.Session.Turns
import NewsCentral.Wishlist.Program

/-
  Whose blogs a wishlist shows after a logout.

  The one wishlist model of the app shares the storage with
  the session.  A logout deletes the stored wishlist but
  leaves the model its list, and any later change saves
  that list again.

  Key definitions include:
    * `NewsCentral.App` and `NewsCentral.App.program`
    * `NewsCentral.App.OnlyAdded`
    * `NewsCentral.Wishlist.Left`
    * `NewsCentral.App.NothingElseLeft`
    * `NewsCentral.App.LogoutCompletes`

  Key theorems include:
    * `NewsCentral.App.nothingElseLeft_of_run`
    * `NewsCentral.App.isolated_iff`
-/

------------------------------------------------------------
-- Blogs That Are Left
------------------------------------------------------------

namespace NewsCentral

open Dart EventLoop

namespace Wishlist

/-
  A blog of the model, of the storage, or of a list that a
  suspended save holds.
-/
inductive Left
    (s : Wishlist)
    (held : Ref → Prop)
    (blog : BlogNews) : Prop
  | content (hMem : blog ∈ s.content)
  | stored (hMem : blog ∈ s.storedBlogs)
  | held
      {list : Ref}
      (hHeld : held list)
      (hMem : blog ∈ s.heap.read list)

variable {s t : Wishlist} {held held' : Ref → Prop}
variable {blog : BlogNews} {next : List Point}

/-
  Storage and heap decide what is stored: a blog stored
  over a changed heap is one of the changes or was stored.
-/
theorem mem_storedBlogs_of_reads
    {xs : List BlogNews}
    (hMem : blog ∈ t.storedBlogs)
    (hStorage : t.storage = s.storage)
    (hReads :
      ∀ r, blog ∈ t.heap.read r →
        blog ∈ xs ∨ blog ∈ s.heap.read r) :
    blog ∈ xs ∨ blog ∈ s.storedBlogs := by
  unfold storedBlogs at hMem ⊢
  rw [hStorage] at hMem
  cases hStored : s.storage.wishlist with
  | none => simp [hStored] at hMem
  | some kept =>
      cases kept with
      | decoded items =>
          right
          simpa only [hStored] using hMem
      | live list =>
          simp only [hStored] at hMem ⊢
          exact hReads list hMem

/- A new list brings in only its own blogs. -/
theorem Left.setBlogs
    (held : Ref → Prop)
    {blogs : List BlogNews}
    (hHeld :
      ∀ list, held' list →
        held list ∨ list = (s.setBlogs blogs).blogs)
    (hLeft : (s.setBlogs blogs).Left held' blog) :
    blog ∈ blogs ∨ s.Left held blog := by
  have hReads :
      ∀ r, blog ∈ (s.setBlogs blogs).heap.read r →
        blog ∈ blogs ∨ blog ∈ s.heap.read r :=
    fun r hMem => Heap.mem_read_alloc hMem
  cases hLeft with
  | content hMem =>
      left
      simpa [Wishlist.setBlogs, Wishlist.content] using hMem
  | stored hMem =>
      rcases mem_storedBlogs_of_reads (s := s) hMem rfl hReads
        with hNew | hOld
      · exact .inl hNew
      · exact .inr (.stored hOld)
  | @held list hList hMem =>
      rcases hHeld list hList with hOld | rfl
      · rcases hReads list hMem with hNew | hRead
        · exact .inl hNew
        · exact .inr (.held hOld hRead)
      · left
        simpa [Wishlist.setBlogs] using hMem

/- What an addition leaves is the blog or was left before. -/
theorem Left.addToWishlist
    {added : BlogNews}
    (hAdd : s.addToWishlist added = (t, next))
    (hHeld :
      ∀ list, held' list →
        held list ∨ .saveReady list ∈ next)
    (hLeft : t.Left held' blog) :
    blog = added ∨ s.Left held blog := by
  unfold Wishlist.addToWishlist at hAdd
  split at hAdd
  next =>
    cases hAdd
    right
    cases hLeft with
    | content hMem => exact .content hMem
    | stored hMem => exact .stored hMem
    | @held list hList hMem =>
        rcases hHeld list hList with hOld | hNew
        · exact .held hOld hMem
        · simp at hNew
  next =>
    cases hAdd
    have hReads :
        ∀ r,
          blog ∈
              (s.heap.write s.blogs
                (s.content ++ [added])).read r →
            blog ∈ s.content ++ [added] ∨
              blog ∈ s.heap.read r :=
      fun r hMem => Heap.mem_read_write hMem
    have hWritten :
        blog ∈ s.content ++ [added] →
          blog = added ∨ s.Left held blog := by
      intro hMem
      rcases List.mem_append.mp hMem with hOld | hNew
      · exact .inr (.content hOld)
      · exact .inl (List.mem_singleton.mp hNew)
    cases hLeft with
    | content hMem =>
        rcases hReads s.blogs hMem with hNew | hOld
        · exact hWritten hNew
        · exact .inr (.content hOld)
    | stored hMem =>
        rcases mem_storedBlogs_of_reads (s := s) hMem rfl hReads
          with hNew | hOld
        · exact hWritten hNew
        · exact .inr (.stored hOld)
    | @held list hList hMem =>
        rcases hReads list hMem with hNew | hOld
        · exact hWritten hNew
        · rcases hHeld list hList with hBefore | hSave
          · exact .inr (.held hBefore hOld)
          · have hList : list = s.blogs := by
              simpa using hSave
            rw [hList] at hOld
            exact .inr (.content hOld)

/- What a removal leaves was left before. -/
theorem Left.removeToWishlist
    {removed : BlogNews}
    (hRemove : s.removeToWishlist removed = (t, next))
    (hHeld :
      ∀ list, held' list →
        held list ∨ .saveReady list ∈ next)
    (hLeft : t.Left held' blog) :
    s.Left held blog := by
  unfold Wishlist.removeToWishlist at hRemove
  split at hRemove
  next =>
    cases hRemove
    rcases Left.setBlogs held
        (fun list hList => by
          simpa using hHeld list hList) hLeft with
      hKept | hOld
    · exact .content (List.mem_filter.mp hKept).1
    · exact hOld
  next =>
    cases hRemove
    cases hLeft with
    | content hMem => exact .content hMem
    | stored hMem => exact .stored hMem
    | @held list hList hMem =>
        rcases hHeld list hList with hOld | hNew
        · exact .held hOld hMem
        · simp at hNew

/- A turn of the wishlist brings nothing new. -/
theorem Left.resume
    {k : Point}
    {ready : Ready}
    (hHeld :
      ∀ list,
        held' list ∨ k = .saveReady list → held list)
    (hLeft : (Wishlist.resume k ready s).1.Left held' blog) :
    s.Left held blog := by
  have hSame :
      ∀ {u : Wishlist}, u = s →
        u.Left held' blog → s.Left held blog := by
    rintro _ rfl hOld
    cases hOld with
    | content hMem => exact .content hMem
    | stored hMem => exact .stored hMem
    | held hList hMem =>
        exact .held (hHeld _ (.inl hList)) hMem
  have hSet :
      ∀ {blogs : List BlogNews},
        (∀ b ∈ blogs, b ∈ s.storedBlogs) →
          (s.setBlogs blogs).Left held' blog →
            s.Left held blog := by
    intro blogs hStored hNew
    rcases Left.setBlogs held
        (fun list hList => .inl (hHeld list (.inl hList)))
        hNew with hMem | hOld
    · exact .stored (hStored blog hMem)
    · exact hOld
  cases k with
  | saveItem => exact hSame rfl hLeft
  | saveReady list =>
      simp only [Wishlist.resume] at hLeft
      split at hLeft
      next =>
        cases hLeft with
        | content hMem => exact .content hMem
        | stored hMem =>
            exact .held (hHeld list (.inr rfl)) hMem
        | held hList hMem =>
            exact .held (hHeld _ (.inl hList)) hMem
      next => exact hSame rfl hLeft
  | loadReady =>
      simp only [Wishlist.resume] at hLeft
      split at hLeft
      next =>
        unfold getLocalWishlist at hLeft
        split at hLeft
        next => exact hSame rfl hLeft
        next items hStored =>
          split at hLeft
          next blogs hItems =>
            refine hSet ?_ hLeft
            intro b hMem
            simpa [storedBlogs, hStored, hItems] using hMem
          next => exact hSame rfl hLeft
        next list hStored =>
          split at hLeft
          next => exact hSet (by simp) hLeft
          next => exact hSame rfl hLeft
      next => exact hSame rfl hLeft

end Wishlist

end NewsCentral

------------------------------------------------------------
-- Session And Wishlist On One Device
------------------------------------------------------------

namespace NewsCentral

open Dart EventLoop

/- The session with its storage and the wishlist model. -/
structure App where
  session : Session := {}
  heap : Heap BlogNews := ⟨[[]]⟩
  blogs : Ref := 0

namespace App

/- The wishlist model over the storage of the session. -/
def wishlist (a : App) : Wishlist where
  heap := a.heap
  blogs := a.blogs
  storage := a.session.storage

def setWishlist (w : Wishlist) (a : App) : App where
  session := { a.session with storage := w.storage }
  heap := w.heap
  blogs := w.blogs

def setSession (s : Session) (a : App) : App :=
  { a with session := s }

/- The operations of either model. -/
abbrev Op := Session.Op ⊕ Wishlist.Op

abbrev Point := Session.Point ⊕ Wishlist.Point

abbrev Answer := Session.World × Ready

def program (wp : WordPress) : Program App Op Point Answer :=
  ((Session.program wp).zoom session setSession).beside
    (Wishlist.program.zoom wishlist setWishlist)

/- The app right after the construction of both models. -/
def launched (a : App) : Pool App Point where
  shared := a
  pending := [.inl .getUserReady, .inr .loadReady]

------------------------------------------------------------
-- Blogs Added Since A Logout
------------------------------------------------------------

/- Some call adds a blog with this id. -/
def AddedIn
    (ops : List Op)
    (id : Option Int) : Prop :=
  ∃ blog, .inr (.addToWishlist blog) ∈ ops ∧ blog.id = id

/- Every blog in the model or in the storage was added. -/
def OnlyAdded
    (ops : List Op)
    (a : App) : Prop :=
  ∀ blog,
    blog ∈ a.wishlist.content ∨
      blog ∈ a.wishlist.storedBlogs →
    AddedIn ops blog.id

/-
  Every blog in the model, in the storage or in a list that
  a suspended save holds was added.
-/
def NothingElseLeft
    (ops : List Op)
    (a : App)
    (pending : List Point) : Prop :=
  ∀ blog,
    a.wishlist.Left
        (fun list => .inr (.saveReady list) ∈ pending) blog →
      AddedIn ops blog.id

/-
  After a launch a logout was called, `es` happened since,
  and the last of it was the turn that ended a logout.
-/
def LogoutCompletes
    (wp : WordPress)
    (a : App)
    (es : List (Event Op Answer))
    (p : Pool App Point) : Prop :=
  ∃ before p₀ p₁ during p₂ n answer k,
    (program wp).system.Run System.anyStep (launched a)
      before p₀ ∧
    (program wp).system.step p₀ (.call (.inl .logout)) =
      some p₁ ∧
    (program wp).system.Run System.anyStep p₁ during p₂ ∧
    p₂.pending[n]? = some (.inl k) ∧
    k.inLogout = true ∧
    (Session.resume wp k answer.1 p₂.shared.session).2 = [] ∧
    (program wp).system.step p₂ (.resume n answer) = some p ∧
    es = during ++ [.resume n answer]

end App

end NewsCentral

------------------------------------------------------------
-- What Is Left After A Logout
------------------------------------------------------------

namespace NewsCentral

open Dart EventLoop

namespace App

variable {wp : WordPress}

theorem AddedIn.append
    {ops : List Op}
    {id : Option Int}
    (hAdded : AddedIn ops id)
    (more : List Op) :
    AddedIn (ops ++ more) id := by
  rcases hAdded with ⟨blog, hMem, hId⟩
  exact ⟨blog, List.mem_append_left _ hMem, hId⟩

/- A session that keeps or deletes the wishlist. -/
theorem NothingElseLeft.setSession
    {ops : List Op}
    {a : App}
    {s : Session}
    {pending pending' : List Point}
    (hNone : NothingElseLeft ops a pending)
    (hWishlist :
      s.storage.wishlist = a.session.storage.wishlist ∨
        s.storage.wishlist = none)
    (hSaves :
      ∀ list, Sum.inr (.saveReady list) ∈ pending' →
        Sum.inr (.saveReady list) ∈ pending) :
    NothingElseLeft ops (a.setSession s) pending' := by
  intro blog hLeft
  apply hNone blog
  cases hLeft with
  | content hMem => exact .content hMem
  | stored hMem =>
      refine .stored ?_
      rcases hWishlist with hSame | hGone
      · simpa [wishlist, App.setSession, hSame,
          Wishlist.storedBlogs] using hMem
      · simp [wishlist, App.setSession, hGone,
          Wishlist.storedBlogs] at hMem
  | held hList hMem => exact .held (hSaves _ hList) hMem

/- A call of either model leaves nothing else. -/
theorem NothingElseLeft.callWishlist
    {ops : List Op}
    {a : App}
    {w : Wishlist}
    {pending : List Point}
    {op : Wishlist.Op}
    {next : List Wishlist.Point}
    (hNone : NothingElseLeft ops a pending)
    (hCall : Wishlist.call op a.wishlist = some (w, next)) :
    NothingElseLeft (ops ++ [.inr op]) (a.setWishlist w)
      (pending ++ next.map Sum.inr) := by
  intro blog hLeft
  have hHeld :
      ∀ list,
        Sum.inr (.saveReady list) ∈
            pending ++ next.map Sum.inr →
          Sum.inr (.saveReady list) ∈ pending ∨
            .saveReady list ∈ next := by
    intro list hMem
    simpa using hMem
  cases op with
  | addToWishlist added =>
      rcases Wishlist.Left.addToWishlist
          (Option.some.inj hCall) hHeld hLeft with
        rfl | hOld
      · exact ⟨blog, by simp, rfl⟩
      · exact (hNone blog hOld).append _
  | removeToWishlist removed =>
      have hOld := Wishlist.Left.removeToWishlist
        (Option.some.inj hCall) hHeld hLeft
      exact (hNone blog hOld).append _

/- Every turn of the wishlist leaves nothing else. -/
theorem NothingElseLeft.resumeWishlist
    {ops : List Op}
    {a : App}
    {earlier later : List Point}
    {k : Wishlist.Point}
    {ready : Ready}
    (hNone :
      NothingElseLeft ops a (earlier ++ .inr k :: later)) :
    NothingElseLeft ops
      (a.setWishlist (Wishlist.resume k ready a.wishlist).1)
      (earlier ++ later ++
        (Wishlist.resume k ready a.wishlist).2.map
          Sum.inr) := by
  intro blog hLeft
  refine hNone blog (Wishlist.Left.resume ?_ hLeft)
  intro list hList
  have hNext :
      .saveReady list ∉
        (Wishlist.resume k ready a.wishlist).2 := by
    cases k <;> simp only [Wishlist.resume] <;>
      (try split) <;> simp
  simp only [List.mem_append, List.mem_map, Sum.inr.injEq,
    exists_eq_right, List.mem_cons] at hList ⊢
  rcases hList with ((hL | hR) | hNew) | hEq
  · exact .inl hL
  · exact .inr (.inr hR)
  · exact absurd hNew hNext
  · exact .inr (.inl hEq.symm)

/- Nothing else comes back in any run. -/
theorem nothingElseLeft_of_run
    {ops : List Op}
    {p q : Pool App Point}
    {es : List (Event Op Answer)}
    (hNone : NothingElseLeft ops p.shared p.pending)
    (hRun :
      (program wp).system.Run System.anyStep p es q) :
    NothingElseLeft (ops ++ calls es) q.shared q.pending := by
  refine Program.beside_invariant
    (I := fun es a pending =>
      NothingElseLeft (ops ++ calls es) a pending)
    hRun (by simpa using hNone) ?_ ?_ ?_ ?_
  · intro es a pending op b next hInv hCall
    simp only [Program.zoom, Option.map_eq_some_iff,
      Prod.mk.injEq] at hCall
    rcases hCall with ⟨⟨s, ks⟩, hCall, rfl, rfl⟩
    have hStorage :
        s.storage.wishlist =
          a.session.storage.wishlist := by
      cases op with
      | attempt login => cases login <;> cases hCall <;> rfl
      | _ => cases hCall; rfl
    have hMore :
        NothingElseLeft (ops ++ calls es) (a.setSession s)
          (pending ++ ks.map Sum.inl) :=
      hInv.setSession (.inl hStorage) (by simp)
    intro blog hLeft
    rw [calls_append, ← List.append_assoc]
    exact (hMore blog hLeft).append _
  · intro es a pending op b next hInv hCall
    simp only [Program.zoom, Option.map_eq_some_iff,
      Prod.mk.injEq] at hCall
    rcases hCall with ⟨⟨w, ks⟩, hCall, rfl, rfl⟩
    rw [calls_append, calls_call, ← List.append_assoc]
    exact hInv.callWishlist hCall
  · intro es a earlier k later answer hInv
    rw [calls_append, calls_resume, List.append_nil]
    refine hInv.setSession
      (Session.resume_wishlist wp k answer.1 a.session) ?_
    intro list hMem
    simpa using hMem
  · intro es a earlier k later answer hInv
    rw [calls_append, calls_resume, List.append_nil]
    exact hInv.resumeWishlist

/-
  After a logout has completed, the model and the storage
  only ever hold blogs added since it was called, exactly if
  it left nothing else behind.
-/
theorem isolated_iff
    (a : App)
    (es : List (Event Op Answer))
    (p : Pool App Point) :
    LogoutCompletes wp a es p →
      ((∀ fs q,
          (program wp).system.Run System.anyStep p fs q →
            OnlyAdded (calls (es ++ fs)) q.shared) ↔
        NothingElseLeft (calls es) p.shared p.pending) := by
  intro _
  constructor
  · intro hAlways blog hLeft
    have hNow := hAlways [] p .nil
    rw [List.append_nil] at hNow
    cases hLeft with
    | content hMem => exact hNow blog (.inl hMem)
    | stored hMem => exact hNow blog (.inr hMem)
    | @held list hList hMem =>
        -- the suspended save stores the list it holds
        rcases List.append_of_mem hList with
          ⟨earlier, later, hSplit⟩
        have hStep :
            (program wp).system.step p
                (.resume earlier.length ({}, .ok true)) =
              some
                ⟨p.shared.setWishlist
                    (p.shared.wishlist.saveWishlist list),
                  earlier ++ later ++
                    [.inr .saveItem]⟩ :=
          Program.step_resume_iff.mpr
            ⟨earlier, _, later, hSplit, rfl,
              fun hQueued => by simp [program,
                Program.beside] at hQueued,
              rfl⟩
        have hThen := hAlways _ _
          (System.Run.single trivial hStep)
        rw [calls_append, calls_resume, List.append_nil]
          at hThen
        exact hThen blog (.inr hMem)
  · intro hNone fs q hRun blog hMem
    rw [calls_append]
    apply nothingElseLeft_of_run hNone hRun
    rcases hMem with hContent | hStored
    · exact .content hContent
    · exact .stored hStored

/- The turns of one logout. -/
def logoutTurns : List (Event Op Answer) :=
  turns 5 ({}, .ok true)

/- A call that adds a blog with this id, and its save. -/
def addTurns (id : Int) : List (Event Op Answer) :=
  [ .call (.inr (.addToWishlist { id := some id })),
    .resume 0 ({}, .ok true), .resume 0 ({}, .ok true) ]

def startTurns : List (Event Op Answer) :=
  turns 2 ({}, .ok true)

/- A fresh app after a logout. -/
def loggedOut : Pool App Point where
  shared := { session := { prefs := some false } }
  pending := []

/-
  Without any blog the logout leaves nothing, and the next
  user's wishlist holds the next user's blog only.
-/
theorem isolated_without_blogs :
    ∃ q : Pool App Point,
      LogoutCompletes newsService {} logoutTurns loggedOut ∧
      (program newsService).system.Run System.anyStep
        loggedOut (addTurns 2) q ∧
      OnlyAdded (calls (logoutTurns ++ addTurns 2))
        q.shared := by
  have hDone :
      LogoutCompletes newsService {} logoutTurns loggedOut :=
    ⟨startTurns, _, _, turns 4 ({}, .ok true), _,
      0, ({}, .ok true), .logoutFlag,
      System.run_of_exec rfl, rfl, System.run_of_exec rfl,
      rfl, rfl, rfl, rfl, rfl⟩
  have hRun :
      (program newsService).system.Run System.anyStep
        loggedOut (addTurns 2) _ :=
    System.run_of_exec rfl
  refine ⟨_, hDone, hRun, ?_⟩
  refine (isolated_iff _ _ _ hDone).mpr ?_ _ _ hRun
  intro blog hLeft
  cases hLeft with
  | content hMem =>
      exact absurd hMem (List.not_mem_nil)
  | stored hMem =>
      exact absurd hMem (List.not_mem_nil)
  | held hList => exact absurd hList (List.not_mem_nil)

/-
  The blog 1 of the user who logged out is still shown, and
  the next user's first blog stores it again.
-/
theorem blog_survives_logout :
    ∃ p q : Pool App Point,
      LogoutCompletes newsService {} logoutTurns p ∧
      p.shared.session.storage.wishlist.isNone = true ∧
      (program newsService).system.Run System.anyStep
        p (addTurns 2) q ∧
      q.shared.wishlist.storedBlogs.map BlogNews.id =
        [some 1, some 2] ∧
      ¬ OnlyAdded (calls (logoutTurns ++ addTurns 2))
        q.shared := by
  let p : Pool App Point :=
    { shared :=
        { session := { prefs := some false }
          heap := ⟨[[{ id := some 1 }]]⟩ }
      pending := [] }
  have hDone : LogoutCompletes newsService {} logoutTurns p :=
    ⟨startTurns ++ addTurns 1, _, _,
      turns 4 ({}, .ok true), _, 0, ({}, .ok true), .logoutFlag,
      System.run_of_exec rfl, rfl, System.run_of_exec rfl,
      rfl, rfl, rfl, rfl, rfl⟩
  refine
    ⟨p, _, hDone, rfl, System.run_of_exec rfl, rfl, ?_⟩
  intro hOnly
  rcases hOnly { id := some 1 } (.inl (by decide)) with
    ⟨blog, hMem, hId⟩
  have hBlog : blog = { id := some 2 } := by
    simpa [addTurns, logoutTurns, turns, calls] using hMem
  rw [hBlog] at hId
  exact absurd hId (by decide)

end App

end NewsCentral
