import NewsCentral.EventLoop.Durable
import NewsCentral.Search.Keywords

/-
  The recent searches when the app is killed at any moment.

  The preferences keep the texts that were stored last, and
  the next process loads them.  However often the app is
  killed, no text is listed twice or empty, and each one was
  in the preferences at first or was searched for since.

  Key definitions include:
    * `NewsCentral.SearchModel.flushing` and `boot`
    * `NewsCentral.SearchModel.Recents`
    * `NewsCentral.SearchModel.CrashSafe`

  Key theorems include:
    * `NewsCentral.SearchModel.CrashSafe.searchBlog`
    * `NewsCentral.SearchModel.CrashSafe.resume`
    * `NewsCentral.SearchModel.recents_of_crashes`
-/

------------------------------------------------------------
-- The Preferences
------------------------------------------------------------

namespace NewsCentral

open Dart EventLoop

namespace SearchModel

/- What is on disk under the key "recentSearches". -/
abbrev Prefs := Option (List String)

/- `setStringList` has written when it completes. -/
def flushing :
    Flushing SearchModel Point Reply Unit Prefs where
  flush := fun _ s _ => s.recentSearches
  awaited k reply :=
    match k, reply.prefs with
    | .saved, .ok _ => some ()
    | _, _ => none

/- `SearchModel()` in a new process. -/
def boot (prefs : Prefs) : SearchModel × List Point :=
  ({ recentSearches := prefs }, [.getPrefs])

/- The process started on some preferences. -/
def process
    (prefs : Prefs) : Pool (OnDisk SearchModel Prefs) Point :=
  ⟨⟨(boot prefs).1, prefs⟩, (boot prefs).2⟩

/- Texts of this kind only are searched for. -/
def onlySearches
    (Q : String → Prop)
    (_ : SearchModel)
    (_ : List Point) :
    Op → Prop
  | .searchBlogs name => Q name
  | .clearKeywords => True

/- Network and preferences may fail. -/
def anyReply
    (_ : SearchModel)
    (_ : List Point)
    (_ : Point)
    (_ : Reply) : Prop := True

instance
    (Q : String → Prop)
    [DecidablePred Q]
    (s : SearchModel)
    (pending : List Point)
    (op : Op) :
    Decidable (onlySearches Q s pending op) :=
  match op with
  | .searchBlogs name => inferInstanceAs (Decidable (Q name))
  | .clearKeywords => isTrue trivial

instance
    (s : SearchModel)
    (rest : List Point)
    (k : Point)
    (reply : Reply) :
    Decidable (anyReply s rest k reply) :=
  isTrue trivial

/- No text twice, none empty, and all of the kind. -/
structure Recents
    (Q : String → Prop)
    (texts : List String) : Prop where
  once : texts.Nodup
  known : ∀ text ∈ texts, text ≠ "" ∧ Q text

/-
  All list objects, and what was stored of them, are of this
  kind; so are the texts that are searched for.
-/
structure CrashSafe
    (Q : String → Prop)
    (s : SearchModel)
    (prefs : Prefs)
    (pending : List Point) : Prop where
  lists : s.heap.All (Recents Q)
  stored : ∀ texts ∈ s.recentSearches, Recents Q texts
  disk : ∀ texts ∈ prefs, Recents Q texts
  searched :
    ∀ name number,
      .searchBlog name number ∈ pending → Q name

end SearchModel

end NewsCentral

------------------------------------------------------------
-- Steps
------------------------------------------------------------

namespace NewsCentral

open Dart EventLoop

namespace SearchModel

variable {Q : String → Prop}
variable {s t : SearchModel} {prefs : Prefs}
variable {pending next : List Point}
variable {texts : List String} {name : String}

theorem Recents.nil : Recents Q [] :=
  ⟨List.nodup_nil, by simp⟩

/- A text moves to the front. -/
theorem Recents.insert
    (hRecents : Recents Q texts)
    (hText : name ≠ "" ∧ Q name) :
    Recents Q (name :: texts.erase name) := by
  constructor
  · rw [List.nodup_cons]
    exact ⟨hRecents.once.not_mem_erase,
      hRecents.once.erase name⟩
  · intro text hMem
    rcases List.mem_cons.mp hMem with hHere | hOld
    · rw [hHere]
      exact hText
    · exact hRecents.known text (List.mem_of_mem_erase hOld)

/- A flush may come at any moment. -/
theorem CrashSafe.flush
    (hSafe : CrashSafe Q s prefs pending) :
    CrashSafe Q s s.recentSearches pending :=
  ⟨hSafe.lists, hSafe.stored, hSafe.stored, hSafe.searched⟩

/- A process on such preferences. -/
theorem CrashSafe.boot
    (hDisk : ∀ texts ∈ prefs, Recents Q texts) :
    CrashSafe Q (SearchModel.boot prefs).1 prefs
      (SearchModel.boot prefs).2 :=
  ⟨.single_nil .nil, hDisk, hDisk,
    by simp [SearchModel.boot]⟩

/- Nothing but the lists and the stored texts counts. -/
theorem CrashSafe.congr
    (hSafe : CrashSafe Q s prefs pending)
    (hHeap : t.heap = s.heap)
    (hStored : t.recentSearches = s.recentSearches) :
    CrashSafe Q t prefs pending := by
  refine ⟨?_, ?_, hSafe.disk, hSafe.searched⟩
  · rw [hHeap]
    exact hSafe.lists
  · rw [hStored]
    exact hSafe.stored

/- A list object changes, or there is another one. -/
theorem CrashSafe.setHeap
    {heap : Heap String}
    {keywords : Ref}
    (hSafe : CrashSafe Q s prefs pending)
    (hLists : heap.All (Recents Q)) :
    CrashSafe Q
      { s with heap := heap, keywords := keywords } prefs
      pending :=
  ⟨hLists, hSafe.stored, hSafe.disk, hSafe.searched⟩

/- What is awaited changes, but for the searches. -/
theorem CrashSafe.await
    (hSafe : CrashSafe Q s prefs pending)
    (hSearches :
      ∀ name number,
        .searchBlog name number ∈ next →
        .searchBlog name number ∈ pending ∨ Q name) :
    CrashSafe Q s prefs next := by
  refine ⟨hSafe.lists, hSafe.stored, hSafe.disk, ?_⟩
  intro name number hMem
  rcases hSearches name number hMem with hOld | hText
  · exact hSafe.searched name number hOld
  · exact hText

/- A search begins, or the list is cleared. -/
theorem CrashSafe.call
    {op : Op}
    (hSafe : CrashSafe Q s prefs pending)
    (hOk : onlySearches Q s pending op)
    (hCall : SearchModel.call op s = some (t, next)) :
    CrashSafe Q t prefs (pending ++ next) := by
  cases op with
  | searchBlogs text =>
      cases hCall
      refine CrashSafe.await (hSafe.congr rfl rfl) ?_
      intro name number hMem
      rcases List.mem_append.mp hMem with hOld | hNew
      · exact .inl hOld
      · cases List.mem_singleton.mp hNew
        exact .inr hOk
  | clearKeywords =>
      cases hCall
      refine (hSafe.setHeap (hSafe.lists.alloc .nil)).await ?_
      intro name number hMem
      rcases List.mem_append.mp hMem with hOld | hNew
      · exact .inl hOld
      · simp at hNew

theorem record_heap
    (number : Nat)
    (answer : Except Thrown (List BlogNews))
    (s : SearchModel) :
    (s.record number answer).heap = s.heap ∧
      (s.record number answer).recentSearches =
        s.recentSearches := by
  unfold record
  split <;> exact ⟨rfl, rfl⟩

/- A search is answered; its text may move to the front. -/
theorem CrashSafe.searchBlog
    {unescape : String → String}
    {number : Nat}
    {reply : Reply}
    (hSafe : CrashSafe Q s prefs pending)
    (hText : Q name) :
    CrashSafe Q
      (SearchModel.resume unescape (.searchBlog name number)
        reply s).1
      prefs pending ∧
    ∀ text number',
      .searchBlog text number' ∉
        (SearchModel.resume unescape (.searchBlog name number)
          reply s).2 := by
  simp only [SearchModel.resume]
  cases hAnswer : found unescape name reply with
  | error thrown =>
      have hRecord := record_heap number (.error thrown) s
      exact ⟨hSafe.congr hRecord.1 hRecord.2, by simp⟩
  | ok blogs =>
      have hRecord := record_heap number (.ok blogs) s
      simp only [gotBlogs]
      split
      · rename_i hFound
        refine ⟨?_, by simp⟩
        have hRecorded :
            CrashSafe Q (s.record number (.ok blogs)) prefs
              pending :=
          hSafe.congr hRecord.1 hRecord.2
        have hShown :=
          hRecorded.congr
            (t :=
              { s.record number (.ok blogs) with
                blogs := blogs
                loading := false })
            rfl rfl
        exact hShown.setHeap
          (hShown.lists.write
            ((hShown.lists _).insert ⟨hFound.2, hText⟩))
      · exact ⟨hSafe.congr hRecord.1 hRecord.2, by simp⟩

/- Searches are answered, texts stored and loaded. -/
theorem CrashSafe.resume
    {unescape : String → String}
    {earlier later : List Point}
    {point : Point}
    {reply : Reply}
    (hSafe :
      CrashSafe Q s prefs (earlier ++ point :: later)) :
    CrashSafe Q (SearchModel.resume unescape point reply s).1
      prefs
      (earlier ++ later ++
        (SearchModel.resume unescape point reply s).2) := by
  have hRest
      {t : SearchModel}
      {next : List Point}
      (hTurn :
        CrashSafe Q t prefs (earlier ++ point :: later))
      (hNone :
        ∀ text number, .searchBlog text number ∉ next) :
      CrashSafe Q t prefs (earlier ++ later ++ next) := by
    refine hTurn.await ?_
    intro name number hMem
    rcases List.mem_append.mp hMem with hOld | hNew
    · exact .inl (mem_of_mem_rest hOld)
    · exact absurd hNew (hNone name number)
  cases point with
  | searchBlog name number =>
      have hText : Q name :=
        hSafe.searched name number (by simp)
      exact hRest (hSafe.searchBlog hText).1
        (hSafe.searchBlog hText).2
  | savePrefs keywords =>
      simp only [SearchModel.resume]
      split
      · exact hRest hSafe (by simp)
      · have hStored :
            CrashSafe Q
              { s with
                recentSearches :=
                  some (s.heap.read keywords) }
              prefs (earlier ++ .savePrefs keywords :: later) :=
          ⟨hSafe.lists, by
            rintro texts ⟨⟩
            exact hSafe.lists keywords,
            hSafe.disk, hSafe.searched⟩
        exact hRest hStored (by simp)
  | saved => exact hRest hSafe (by simp [SearchModel.resume])
  | getPrefs =>
      simp only [SearchModel.resume]
      split
      · exact hRest hSafe (by simp)
      · unfold gotKeywords
        split
        · exact hRest hSafe (by simp)
        · exact hRest hSafe (by simp)
        · rename_i texts _ hSome
          have hLoaded : Recents Q texts :=
            hSafe.stored texts hSome
          exact hRest
            (hSafe.setHeap (hSafe.lists.alloc hLoaded))
            (by simp)

/-
  Over all lives, each killed at any moment and with the
  preferences written at any moment: the recent searches, in
  memory and for the next process, have no text twice, no
  empty one, and only those that were there at first or were
  searched for since.
-/
theorem recents_of_crashes
    {unescape : String → String}
    {Q : String → Prop}
    {prefs : Prefs}
    {es : List (Life (Op ⊕ Unit) Reply)}
    {p : Pool (OnDisk SearchModel Prefs) Point}
    (hStart : ∀ texts ∈ prefs, Recents Q texts)
    (hRun :
      ((program unescape).crashing flushing boot).Run
        (Program.whileCrashing (onlySearches Q) anyReply)
        (process prefs) es p) :
    Recents Q p.shared.memory.recents ∧
      ∀ texts ∈ p.shared.disk, Recents Q texts := by
  have hSafe :
      CrashSafe Q p.shared.memory p.shared.disk p.pending := by
    refine Program.crashing_invariant
      (I := CrashSafe Q) hRun (.boot hStart) ?_ ?_ ?_ ?_ ?_
    · intro s prefs pending hSafe
      exact .boot hSafe.disk
    · intro _ s prefs pending hSafe
      exact hSafe.flush
    · intro _ s prefs
      rfl
    · intro s prefs pending op t next hSafe hOk hCall
      exact hSafe.call hOk hCall
    · intro s prefs earlier k later reply hSafe _ _
      exact hSafe.resume
  exact ⟨hSafe.lists _, hSafe.disk⟩

/- Any text but "" may be searched for. -/
def someText (text : String) : Prop := text ≠ ""

instance
    (text : String) :
    Decidable (someText text) :=
  inferInstanceAs (Decidable (text ≠ ""))

/-
  "rain" is searched for twice and stored; the process is
  killed before "sun" is, and the next one searches for
  "cup".
-/
def killedSearching : List (Life (Op ⊕ Unit) Reply) :=
  [ .turn (.resume 0 {}),
    .turn (.call (.inl (.searchBlogs "rain"))),
    .turn (.resume 0 finding),
    .turn (.call (.inl (.searchBlogs "rain"))),
    .turn (.resume 1 finding), .turn (.resume 0 {}),
    .turn (.call (.inr ())),
    .turn (.call (.inl (.searchBlogs "sun"))), .restart,
    .turn (.resume 0 {}),
    .turn (.call (.inl (.searchBlogs "cup"))),
    .turn (.resume 0 finding) ]

/- "rain" is there, once, and "sun" is not. -/
theorem recents_when_killedSearching :
    ∃ p : Pool (OnDisk SearchModel Prefs) Point,
      ((program id).crashing flushing boot).Run
        (Program.whileCrashing (onlySearches someText)
          anyReply)
        (process none) killedSearching p ∧
      p.shared.memory.recents = ["cup", "rain"] ∧
      Recents someText p.shared.memory.recents := by
  have hRun :
      ∃ p : Pool (OnDisk SearchModel Prefs) Point,
        ((program id).crashing flushing boot).Run
          (Program.whileCrashing (onlySearches someText)
            anyReply)
          (process none) killedSearching p ∧
        p.shared.memory.recents = ["cup", "rain"] :=
    ⟨_, System.run_iff_exec.mpr ⟨by decide, rfl⟩, rfl⟩
  rcases hRun with ⟨p, hRun, hRecents⟩
  exact ⟨p, hRun, hRecents,
    (recents_of_crashes (by simp) hRun).1⟩

end SearchModel

end NewsCentral
