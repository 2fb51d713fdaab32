import NewsCentral.EventLoop.WriteBehind
import NewsCentral.Lists.Recent
import NewsCentral.Search.Program

/-
  When the recent searches are kept.

  The keywords are a list of recently used texts.  The load
  at the start replaces the list by the stored one, whatever
  was searched or cleared before it, and a search before it
  works on the empty list.  The list is kept if the load
  meets a list that nothing has changed yet, or that agrees
  with the stored one.

  Key definitions include:
    * `NewsCentral.SearchModel.uses`
    * `NewsCentral.SearchModel.RecentKept`
    * `NewsCentral.SearchModel.keepsRecent`
    * `NewsCentral.SearchModel.RecentInvariant`

  Key theorems include:
    * `NewsCentral.SearchModel.RecentInvariant.resume`
    * `NewsCentral.SearchModel.recentKept_of_run`
-/

------------------------------------------------------------
-- The Recent Searches
------------------------------------------------------------

namespace NewsCentral

open Dart EventLoop Recent

namespace SearchModel

/- The recent keywords of the model. -/
def recents (s : SearchModel) : List String :=
  s.heap.read s.keywords

/- The stored keywords; none are stored as an empty list. -/
def stored (s : SearchModel) : List String :=
  s.recentSearches.getD []

/- Clearing is a use of the recent keywords. -/
def useOfCall (_ : SearchModel) : Op → List (Use String)
  | .searchBlogs _ => []
  | .clearKeywords => [.cleared]

/- So is a search for some text that finds something. -/
def useOfResume
    (unescape : String → String)
    (_ : SearchModel)
    (k : Point)
    (reply : Reply) : List (Use String) :=
  match k with
  | .searchBlog name _ =>
      match found unescape name reply with
      | .error _ => []
      | .ok blogs =>
          if blogs ≠ [] ∧ name ≠ "" then [.used name] else []
  | .savePrefs _ => []
  | .saved => []
  | .getPrefs => []

/- The searches and clears of a run, in their order. -/
def uses
    (unescape : String → String)
    (recentSearches : Option (List String))
    (es : List (Event Op Reply)) : List (Use String) :=
  (program unescape).system.trace
    (Program.sight useOfCall (useOfResume unescape))
    (launched recentSearches) es

/-
  The keywords are the recent ones, without repeats, and
  they are stored.
-/
structure RecentKept
    (start : List String)
    (uses : List (Use String))
    (s : SearchModel) : Prop where
  recents_eq : s.recents = recent start uses
  nodup : s.recents.Nodup
  stored_eq : s.stored = s.recents

/- The point is a save that waits for the preferences. -/
def Point.isSave : Point → Bool
  | .savePrefs _ => true
  | _ => false

/- The list is empty, and none waits to be stored. -/
def Untouched
    (s : SearchModel)
    (rest : List Point) : Prop :=
  s.recents = [] ∧ ∀ k ∈ rest, k.isSave = false

instance
    (s : SearchModel)
    (rest : List Point) :
    Decidable (Untouched s rest) := by
  unfold Untouched
  infer_instance

/- A suspended save will store the list of the model. -/
def saves
    (s : SearchModel)
    (k : Point)
    (_ : List String) : Prop :=
  k = .savePrefs s.keywords

instance
    (s : SearchModel)
    (k : Point)
    (list : List String) :
    Decidable (saves s k list) := by
  unfold saves
  infer_instance

/-
  Until the load, a search is kept on a list nothing has
  changed if nothing else is stored.  The load meets such a
  list, or one that agrees with the stored one.  A save
  stores the list of the model, or another will.
-/
def keepsRecent
    (unescape : String → String)
    (s : SearchModel)
    (rest : List Point)
    (k : Point)
    (reply : Reply) : Prop :=
  match k with
  | .searchBlog name _ =>
      useOfResume unescape s k reply ≠ [] →
        .getPrefs ∈ rest →
        Untouched s rest →
        ∀ x ∈ s.stored, x = name
  | .savePrefs keywords =>
      MayWrite s.saves s.recents
        (if reply.prefs.isOk then
          s.heap.read keywords
        else
          s.stored)
        rest
  | .saved => True
  | .getPrefs =>
      if reply.prefs.isOk then
        Untouched s rest ∨ s.stored = [] ∨
          s.stored = s.recents
      else
        Untouched s rest → s.stored = []

instance
    (unescape : String → String)
    (s : SearchModel)
    (rest : List Point)
    (k : Point)
    (reply : Reply) :
    Decidable (keepsRecent unescape s rest k reply) :=
  match k with
  | .searchBlog name number =>
      inferInstanceAs (Decidable
        (useOfResume unescape s (.searchBlog name number)
            reply ≠ [] →
          .getPrefs ∈ rest →
          Untouched s rest →
          ∀ x ∈ s.stored, x = name))
  | .savePrefs keywords =>
      inferInstanceAs (Decidable
        (MayWrite s.saves s.recents
          (if reply.prefs.isOk then
            s.heap.read keywords
          else
            s.stored)
          rest))
  | .saved => isTrue trivial
  | .getPrefs =>
      inferInstanceAs (Decidable
        (if reply.prefs.isOk then
          Untouched s rest ∨ s.stored = [] ∨
            s.stored = s.recents
        else
          Untouched s rest → s.stored = []))

end SearchModel

end NewsCentral

------------------------------------------------------------
-- The Invariant
------------------------------------------------------------

namespace NewsCentral

open Dart EventLoop Recent

namespace SearchModel

/-
  Either the load has still to bring an untouched list what
  is stored, or the list is right and the store follows it.
-/
structure RecentInvariant
    (start : List String)
    (uses : List (Use String))
    (s : SearchModel)
    (pending : List Point) : Prop where
  valid : s.keywords < s.heap.size
  ahead :
    (.getPrefs ∈ pending ∧ Untouched s pending ∧
        s.stored = recent start uses) ∨
      (s.recents = recent start uses ∧
        Follows s.saves s.recents s.stored pending)

variable {start : List String} {uses : List (Use String)}
variable {s : SearchModel} {pending : List Point}
variable {earlier later : List Point} {k : Point}

/- Every call keeps the invariant. -/
theorem RecentInvariant.call
    {next : List Point}
    {op : Op}
    {t : SearchModel}
    (hInv : RecentInvariant start uses s pending)
    (hCall : SearchModel.call op s = some (t, next)) :
    RecentInvariant start (uses ++ useOfCall s op) t
      (pending ++ next) := by
  cases op with
  | searchBlogs name =>
      cases hCall
      refine ⟨hInv.valid, ?_⟩
      rw [useOfCall, List.append_nil]
      rcases hInv.ahead with
        ⟨hLoad, ⟨hEmpty, hNone⟩, hStored⟩ | ⟨hRecents, hFollows⟩
      · refine .inl ⟨List.mem_append_left _ hLoad,
          ⟨hEmpty, ?_⟩, hStored⟩
        intro k hMem
        rcases List.mem_append.mp hMem with hOld | hNew
        · exact hNone k hOld
        · rw [List.mem_singleton.mp hNew]
          rfl
      · exact .inr ⟨hRecents, hFollows.call⟩
  | clearKeywords =>
      cases hCall
      refine ⟨by simp, .inr ⟨?_, ?_⟩⟩
      · rw [useOfCall, recent_cleared]
        simp [recents]
      · exact Follows.announce ⟨_, by simp, rfl⟩

/- A turn that leaves the keywords and what is stored. -/
theorem RecentInvariant.keep
    {t : SearchModel}
    {next : List Point}
    (hInv : RecentInvariant start uses s (earlier ++ k :: later))
    (hLoad : k ≠ .getPrefs)
    (hSave : k.isSave = false)
    (hNext : ∀ j ∈ next, j.isSave = false)
    (hHeap : t.heap = s.heap)
    (hKeywords : t.keywords = s.keywords)
    (hStored : t.recentSearches = s.recentSearches) :
    RecentInvariant start uses t
      (earlier ++ later ++ next) := by
  have hRecents : t.recents = s.recents := by
    unfold recents
    rw [hHeap, hKeywords]
  have hSame : t.stored = s.stored := by
    unfold stored
    rw [hStored]
  refine ⟨by rw [hKeywords, hHeap]; exact hInv.valid, ?_⟩
  rcases hInv.ahead with
    ⟨hWaits, ⟨hEmpty, hNone⟩, hStart⟩ | ⟨hRight, hFollows⟩
  · refine .inl ⟨?_, ⟨hRecents.trans hEmpty, ?_⟩,
      hSame.trans hStart⟩
    · rw [List.mem_append, List.mem_cons] at hWaits
      rcases hWaits with hLeft | hHere | hRight
      · simp [hLeft]
      · exact absurd hHere.symm hLoad
      · simp [hRight]
    · intro j hMem
      rcases List.mem_append.mp hMem with hRest | hNew
      · exact hNone j (mem_of_mem_rest hRest)
      · exact hNext j hNew
  · refine .inr ⟨hRecents.trans hRight, ?_⟩
    have hSaves : t.saves = s.saves := by
      unfold saves
      rw [hKeywords]
    rw [hSaves, hRecents, hSame]
    refine hFollows.keep ?_
    rintro _ rfl
    cases hSave

/- The history keeps no keywords. -/
theorem record_keywords
    (number : Nat)
    (answer : Except Thrown (List BlogNews))
    (s : SearchModel) :
    (s.record number answer).heap = s.heap ∧
      (s.record number answer).keywords = s.keywords ∧
      (s.record number answer).recentSearches =
        s.recentSearches := by
  unfold record
  split <;> exact ⟨rfl, rfl, rfl⟩

/-
  An answer promotes its text and has the list saved, if it
  is a use of the keywords; else it leaves them.
-/
theorem resume_searchBlog_keywords
    (unescape : String → String)
    (name : String)
    (number : Nat)
    (reply : Reply)
    (s : SearchModel) :
    let k := Point.searchBlog name number
    let t := (SearchModel.resume unescape k reply s).1
    let next := (SearchModel.resume unescape k reply s).2
    let used := useOfResume unescape s k reply
    t.keywords = s.keywords ∧
      t.recentSearches = s.recentSearches ∧
      (used = [] ∧ next = [] ∧ t.heap = s.heap ∨
        used = [.used name] ∧
          next = [.savePrefs s.keywords] ∧
          t.heap =
            s.heap.write s.keywords
              (promote name s.recents)) := by
  simp only [SearchModel.resume, useOfResume]
  rcases record_keywords number
      (found unescape name reply) s with
    ⟨hHeap, hKeywords, hStored⟩
  cases hFound : found unescape name reply with
  | error thrown =>
      rw [hFound] at hHeap hKeywords hStored
      exact ⟨hKeywords, hStored, .inl ⟨rfl, rfl, hHeap⟩⟩
  | ok blogs =>
      rw [hFound] at hHeap hKeywords hStored
      simp only [gotBlogs]
      by_cases hUsed : blogs ≠ [] ∧ name ≠ ""
      · simp only [if_pos hUsed, insertKeyword]
        refine ⟨hKeywords, hStored, .inr ⟨trivial, ?_, ?_⟩⟩
        · rw [hKeywords]
        · rw [hHeap, hKeywords]
          rfl
      · simp only [if_neg hUsed]
        exact ⟨hKeywords, hStored,
          .inl ⟨trivial, trivial, hHeap⟩⟩

/- The load brings what is stored, if anything is. -/
theorem gotKeywords_keywords
    (s : SearchModel) :
    s.gotKeywords.recentSearches = s.recentSearches ∧
      (s.stored = [] ∧ s.gotKeywords = s ∨
        s.stored ≠ [] ∧ s.gotKeywords.recents = s.stored ∧
          s.gotKeywords.keywords <
            s.gotKeywords.heap.size) := by
  unfold gotKeywords stored recents
  cases hStored : s.recentSearches with
  | none => exact ⟨hStored, .inl ⟨rfl, rfl⟩⟩
  | some list =>
      cases list with
      | nil => exact ⟨hStored, .inl ⟨rfl, rfl⟩⟩
      | cons x xs => simp

/- An answered search that is admitted keeps the invariant. -/
theorem RecentInvariant.searchBlog
    {unescape : String → String}
    {name : String}
    {number : Nat}
    {reply : Reply}
    (hStart : start.Nodup)
    (hInv :
      RecentInvariant start uses s
        (earlier ++ .searchBlog name number :: later))
    (hOk :
      keepsRecent unescape s (earlier ++ later)
        (.searchBlog name number) reply) :
    RecentInvariant start
      (uses ++
        useOfResume unescape s (.searchBlog name number)
          reply)
      (SearchModel.resume unescape
        (.searchBlog name number) reply s).1
      (earlier ++ later ++
        (SearchModel.resume unescape
          (.searchBlog name number) reply s).2) := by
  have hTurn :=
    resume_searchBlog_keywords unescape name number reply s
  simp only at hTurn
  rcases hTurn with
    ⟨hKeywords, hStored,
      ⟨hUnused, hNext, hHeap⟩ | ⟨hUsed, hNext, hHeap⟩⟩
  · rw [hUnused, List.append_nil]
    refine hInv.keep (by simp) rfl ?_
      hHeap hKeywords hStored
    simp [hNext]
  · rw [hUsed, hNext]
    have hRecents :
        (SearchModel.resume unescape
          (.searchBlog name number) reply s).1.recents =
            promote name s.recents := by
      unfold recents
      rw [hKeywords, hHeap,
        Heap.read_write_same hInv.valid]
      rfl
    refine ⟨?_, .inr ⟨?_, Follows.announce ?_⟩⟩
    · rw [hKeywords, hHeap, Heap.size_write]
      exact hInv.valid
    · rw [hRecents, recent_used hStart]
      rcases hInv.ahead with
        ⟨hWaits, ⟨hEmpty, hNone⟩, hBefore⟩ | ⟨hRight, _⟩
      · -- nothing but the text itself was stored
        have hLoad : .getPrefs ∈ earlier ++ later := by
          simpa using hWaits
        have hRest : Untouched s (earlier ++ later) :=
          ⟨hEmpty, fun k hMem =>
            hNone k (mem_of_mem_rest hMem)⟩
        have hAlone :=
          hOk (by simp [hUsed]) hLoad hRest
        rw [hBefore] at hAlone
        rw [promote_of_forall_eq (nodup_recent hStart) hAlone,
          hEmpty]
        rfl
      · rw [hRight]
    · exact ⟨_, List.mem_singleton_self _, by
        rw [saves, hKeywords]⟩

/- A save that is admitted keeps the invariant. -/
theorem RecentInvariant.savePrefs
    {unescape : String → String}
    {keywords : Ref}
    {reply : Reply}
    (hInv :
      RecentInvariant start uses s
        (earlier ++ .savePrefs keywords :: later))
    (hOk :
      keepsRecent unescape s (earlier ++ later)
        (.savePrefs keywords) reply) :
    RecentInvariant start uses
      (SearchModel.resume unescape
        (.savePrefs keywords) reply s).1
      (earlier ++ later ++
        (SearchModel.resume unescape
          (.savePrefs keywords) reply s).2) := by
  have hRight : s.recents = recent start uses := by
    rcases hInv.ahead with ⟨_, ⟨_, hNone⟩, _⟩ | ⟨hRight, _⟩
    · have hSave :=
        hNone (.savePrefs keywords) (by simp)
      cases hSave
    · exact hRight
  simp only [keepsRecent] at hOk
  simp only [SearchModel.resume]
  cases hPrefs : reply.prefs with
  | error thrown =>
      rw [hPrefs] at hOk
      exact ⟨hInv.valid, .inr ⟨hRight, Follows.write hOk⟩⟩
  | ok _ =>
      rw [hPrefs] at hOk
      exact ⟨hInv.valid, .inr ⟨hRight, Follows.write hOk⟩⟩

/-
  A load of an empty store, or one that fails, leaves an
  untouched list right, and any other as it was.
-/
theorem RecentInvariant.getPrefs_unread
    (hInv :
      RecentInvariant start uses s
        (earlier ++ .getPrefs :: later))
    (hEmpty :
      Untouched s (earlier ++ later) → s.stored = []) :
    RecentInvariant start uses s
      (earlier ++ later ++ []) := by
  refine ⟨hInv.valid, .inr ?_⟩
  rcases hInv.ahead with
    ⟨_, ⟨hNothing, hNone⟩, hBefore⟩ | ⟨hRight, hFollows⟩
  · have hStored := hEmpty ⟨hNothing, fun k hMem =>
      hNone k (mem_of_mem_rest hMem)⟩
    rw [← hBefore, hStored, hNothing]
    exact ⟨rfl, .inl rfl⟩
  · refine ⟨hRight, hFollows.keep ?_⟩
    intro _ hSaves
    cases hSaves

/- An untouched list that is right is stored. -/
theorem stored_eq_nil
    (hRight :
      Follows s.saves s.recents s.stored
        (earlier ++ .getPrefs :: later))
    (hRest : Untouched s (earlier ++ later)) :
    s.stored = [] := by
  rcases hRight with hEq | ⟨j, hMem, rfl⟩
  · exact hEq.trans hRest.1
  · have hSave :=
      hRest.2 (.savePrefs s.keywords) (by simpa using hMem)
    cases hSave

/- A load that is admitted keeps the invariant. -/
theorem RecentInvariant.getPrefs
    {unescape : String → String}
    {reply : Reply}
    (hInv :
      RecentInvariant start uses s
        (earlier ++ .getPrefs :: later))
    (hOk :
      keepsRecent unescape s (earlier ++ later)
        .getPrefs reply) :
    RecentInvariant start uses
      (SearchModel.resume unescape .getPrefs reply s).1
      (earlier ++ later ++
        (SearchModel.resume unescape
          .getPrefs reply s).2) := by
  simp only [keepsRecent] at hOk
  simp only [SearchModel.resume]
  cases hPrefs : reply.prefs with
  | error thrown =>
      rw [hPrefs] at hOk
      exact hInv.getPrefs_unread hOk
  | ok _ =>
      rw [hPrefs] at hOk
      rcases gotKeywords_keywords s with
        ⟨hSame, ⟨hNone, hEq⟩ | ⟨hSome, hLoaded, hValid⟩⟩
      · simp only [hEq]
        exact hInv.getPrefs_unread fun _ => hNone
      · have hStored : s.gotKeywords.stored = s.stored := by
          unfold stored
          rw [hSame]
        refine ⟨hValid, .inr ⟨hLoaded.trans ?_, .inl ?_⟩⟩
        · rcases hInv.ahead with
            ⟨_, _, hBefore⟩ | ⟨hRight, hFollows⟩
          · exact hBefore
          · rcases hOk with hRest | hEmpty | hAgree
            · exact absurd
                (stored_eq_nil hFollows hRest) hSome
            · exact absurd hEmpty hSome
            · exact hAgree.trans hRight
        · exact hStored.trans hLoaded.symm

/- Every admitted turn keeps the invariant. -/
theorem RecentInvariant.resume
    {unescape : String → String}
    {reply : Reply}
    (hStart : start.Nodup)
    (hInv : RecentInvariant start uses s (earlier ++ k :: later))
    (hOk : keepsRecent unescape s (earlier ++ later) k reply) :
    RecentInvariant start
      (uses ++ useOfResume unescape s k reply)
      (SearchModel.resume unescape k reply s).1
      (earlier ++ later ++
        (SearchModel.resume unescape k reply s).2) := by
  cases k with
  | searchBlog name number => exact hInv.searchBlog hStart hOk
  | savePrefs keywords =>
      rw [useOfResume, List.append_nil]
      exact hInv.savePrefs hOk
  | saved =>
      rw [useOfResume, List.append_nil]
      simp only [SearchModel.resume]
      exact hInv.keep (by simp) rfl (by simp) rfl rfl rfl
  | getPrefs =>
      rw [useOfResume, List.append_nil]
      exact hInv.getPrefs hOk

end SearchModel

end NewsCentral

------------------------------------------------------------
-- Runs
------------------------------------------------------------

namespace NewsCentral

open Dart EventLoop Recent

namespace SearchModel

/-
  With nothing suspended after a run whose turns are all
  admitted, the keywords are the recent searches and stored.
-/
theorem recentKept_of_run
    {unescape : String → String}
    {recentSearches : Option (List String)}
    {es : List (Event Op Reply)}
    {p : Pool SearchModel Point}
    (hStart : (recentSearches.getD []).Nodup)
    (hRun :
      (program unescape).system.Run
        (Program.when (fun _ _ _ => True)
          (keepsRecent unescape))
        (launched recentSearches) es p)
    (hRest : p.Quiescent) :
    RecentKept (recentSearches.getD [])
      (uses unescape recentSearches es) p.shared := by
  have hInv :
      RecentInvariant (recentSearches.getD [])
        (uses unescape recentSearches es)
        p.shared p.pending := by
    refine Program.trace_invariant
      (I := RecentInvariant (recentSearches.getD []))
      hRun ?_ ?_ ?_
    · refine ⟨by simp [launched, Heap.size], .inl ?_⟩
      rw [recent_nil]
      refine ⟨by simp [launched], ⟨rfl, ?_⟩, rfl⟩
      simp [launched, Point.isSave]
    · intro _ s pending op t next hInv _ hCall
      exact hInv.call hCall
    · intro _ s earlier k later reply hInv hOk
      exact hInv.resume hStart hOk
  rw [hRest] at hInv
  rcases hInv.ahead with ⟨hWaits, _⟩ | ⟨hRight, hFollows⟩
  · cases hWaits
  · exact ⟨hRight, hRight ▸ nodup_recent hStart,
      hFollows.quiescent⟩

/- A network that finds a post. -/
def finding : Reply where
  http := fun _ => .ok
    { statusCode := 200
      decoded := some (.arr
        [ .obj
            [ ("categories", .arr [.int 5]),
              ("id", .int 1) ] ]) }

/- After the load, a stored keyword is searched again. -/
theorem recentKept_after_load :
    ∃ es p,
      (program id).system.Run System.anyStep
        (launched (some ["cup", "rain"])) es p ∧
      p.shared.recents = ["rain", "cup"] ∧
      RecentKept ["cup", "rain"]
        (uses id (some ["cup", "rain"]) es) p.shared := by
  have hRun :
      ∃ p, (program id).system.Run
          (Program.when (fun _ _ _ => True)
            (keepsRecent id))
          (launched (some ["cup", "rain"]))
          [ .resume 0 {}, .call (.searchBlogs "rain"),
            .resume 0 finding, .resume 0 {},
            .resume 0 {} ] p ∧
        p.Quiescent ∧ p.shared.recents = ["rain", "cup"] :=
    ⟨_, System.run_iff_exec.mpr ⟨by decide, rfl⟩, rfl, rfl⟩
  rcases hRun with ⟨p, hRun, hRest, hRecents⟩
  exact ⟨_, p, hRun.any, hRecents,
    recentKept_of_run (by decide) hRun hRest⟩

/- A search that ends before the load is forgotten by it. -/
theorem load_forgets_search :
    ∃ es p,
      (program id).system.Run System.anyStep
        (launched (some ["cup"])) es p ∧
      p.Quiescent ∧
      p.shared.recents = ["cup"] ∧
      p.shared.stored = ["rain"] ∧
      recent ["cup"] (uses id (some ["cup"]) es) =
        ["rain", "cup"] ∧
      ¬ RecentKept ["cup"]
        (uses id (some ["cup"]) es) p.shared := by
  have hRun :
      ∃ p, (program id).system.Run System.anyStep
          (launched (some ["cup"]))
          [ .call (.searchBlogs "rain"), .resume 1 finding,
            .resume 0 {}, .resume 0 {}, .resume 0 {} ] p ∧
        p.Quiescent ∧ p.shared.recents = ["cup"] ∧
        p.shared.stored = ["rain"] :=
    ⟨_, System.run_of_exec rfl, rfl, rfl, rfl⟩
  rcases hRun with ⟨p, hRun, hRest, hRecents, hStored⟩
  refine ⟨_, p, hRun, hRest, hRecents, hStored,
    by decide, ?_⟩
  intro hKept
  have hAgree := hKept.stored_eq
  rw [hRecents, hStored] at hAgree
  exact absurd hAgree (by decide)

end SearchModel

end NewsCentral
