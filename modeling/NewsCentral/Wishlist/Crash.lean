import NewsCentral.EventLoop.Durable
import NewsCentral.Wishlist.Restart

/-
  The wishlist when the app is killed at any moment.

  The file holds the text of the list object that was stored
  last, with the posts it had when the file was written; the
  next process decodes them.  However often the app is
  killed, no post is in the wishlist twice, and each is one
  that was in the file at first or was added in some life.

  Key definitions include:
    * `NewsCentral.Wishlist.flushing` and `boot`
    * `NewsCentral.Wishlist.Kept`
    * `NewsCentral.Wishlist.CrashSafe`

  Key theorems include:
    * `NewsCentral.Wishlist.CrashSafe.call`
    * `NewsCentral.Wishlist.CrashSafe.resume`
    * `NewsCentral.Wishlist.kept_of_crashes`
-/

------------------------------------------------------------
-- The File
------------------------------------------------------------

namespace NewsCentral

open Dart EventLoop

namespace Wishlist

/- What the file has under the key "wishlist". -/
abbrev File := Option (List Json)

/-
  The text of the storage is written.  A list that cannot be
  written leaves the file as it was.
-/
def flush
    (doubles : Doubles)
    (s : Wishlist)
    (file : File) : File :=
  match s.storedJson with
  | none => none
  | some json =>
      match reload doubles json with
      | .ok (.arr items) => some items
      | _ => file

/- `setItem` has flushed the storage when it completes. -/
def Point.flushes : Point → Bool
  | .saveItem => true
  | _ => false

/- `setItem` completes without an error. -/
def Ready.completes : Ready → Bool
  | .ok _ => true
  | .error _ => false

def flushing
    (doubles : Doubles) :
    Flushing Wishlist Point Ready Unit File where
  flush := fun _ => flush doubles
  awaited k ready :=
    if k.flushes && Ready.completes ready then
      some ()
    else
      none

/- `WishListModel()` in a new process. -/
def boot (file : File) : Wishlist × List Point :=
  ({ storage := { wishlist := file.map .decoded } },
    [.loadReady])

/- The process started on a file. -/
def process (file : File) : Pool (OnDisk Wishlist File) Point :=
  ⟨⟨(boot file).1, file⟩, (boot file).2⟩

/- Hearts are tapped on posts of this kind only. -/
def onlyAdds
    (Q : BlogNews → Prop)
    (_ : Wishlist)
    (_ : List Point) :
    Op → Prop
  | .addToWishlist blog => blog.Fits ∧ Q blog
  | .removeToWishlist _ => True

/- Storage and process may fail and resume at will. -/
def anyReady
    (_ : Wishlist)
    (_ : List Point)
    (_ : Point)
    (_ : Ready) : Prop := True

instance (blog : BlogNews) : Decidable blog.Fits := by
  unfold BlogNews.Fits
  infer_instance

instance
    (Q : BlogNews → Prop)
    [DecidablePred Q]
    (s : Wishlist)
    (pending : List Point)
    (op : Op) :
    Decidable (onlyAdds Q s pending op) :=
  match op with
  | .addToWishlist blog =>
      inferInstanceAs (Decidable (blog.Fits ∧ Q blog))
  | .removeToWishlist _ => isTrue trivial

instance
    (s : Wishlist)
    (rest : List Point)
    (k : Point)
    (ready : Ready) :
    Decidable (anyReady s rest k ready) :=
  isTrue trivial

end Wishlist

end NewsCentral

------------------------------------------------------------
-- The Invariant
------------------------------------------------------------

namespace NewsCentral

open Dart EventLoop

namespace Wishlist

variable {Q : BlogNews → Prop}

/- No post twice, and all of the kind. -/
structure Kept
    (Q : BlogNews → Prop)
    (blogs : List BlogNews) : Prop where
  once : (blogs.map BlogNews.id).Nodup
  known : ∀ blog ∈ blogs, blog.Fits ∧ Q blog

/- The decoded text of such a list. -/
def KeptItems
    (Q : BlogNews → Prop)
    (items : List Json) : Prop :=
  ∃ blogs, Kept Q blogs ∧ items = blogs.map BlogNews.toJson

/- All list objects and all stored texts are of this kind. -/
structure CrashSafe
    (Q : BlogNews → Prop)
    (s : Wishlist)
    (file : File) : Prop where
  lists : s.heap.All (Kept Q)
  decoded :
    ∀ items,
      s.storage.wishlist = some (.decoded items) →
      KeptItems Q items
  file : ∀ items ∈ file, KeptItems Q items

theorem Kept.nil : Kept Q [] :=
  ⟨List.nodup_nil, by simp⟩

/- A new post may come at the end. -/
theorem Kept.add
    {blogs : List BlogNews}
    {blog : BlogNews}
    (hKept : Kept Q blogs)
    (hNew : ∀ item ∈ blogs, item.id ≠ blog.id)
    (hBlog : blog.Fits ∧ Q blog) :
    Kept Q (blogs ++ [blog]) := by
  constructor
  · rw [List.map_append, List.nodup_append]
    refine ⟨hKept.once, by simp, ?_⟩
    intro id hOld id' hHere
    rcases List.mem_map.mp hOld with ⟨item, hItem, rfl⟩
    rw [List.mem_singleton.mp hHere]
    exact hNew item hItem
  · intro item hMem
    rcases List.mem_append.mp hMem with hOld | hHere
    · exact hKept.known item hOld
    · rw [List.mem_singleton.mp hHere]
      exact hBlog

/- Posts may be left out. -/
theorem Kept.filter
    {blogs : List BlogNews}
    (hKept : Kept Q blogs)
    (keep : BlogNews → Bool) :
    Kept Q (blogs.filter keep) := by
  constructor
  · exact hKept.once.sublist
      (List.filter_sublist.map BlogNews.id)
  · intro item hMem
    exact hKept.known item (List.mem_filter.mp hMem).1

/- The author is not stored; the rest comes back. -/
theorem Kept.withoutAuthor
    (hAuthor : ∀ blog, Q blog → Q { blog with author := none })
    {blogs : List BlogNews}
    (hKept : Kept Q blogs) :
    Kept Q
      (blogs.map fun blog => { blog with author := none }) := by
  constructor
  · rw [List.map_map]
    exact hKept.once
  · intro item hMem
    rcases List.mem_map.mp hMem with ⟨blog, hBlog, rfl⟩
    have hKnown := hKept.known blog hBlog
    exact ⟨hKnown.1, hAuthor blog hKnown.2⟩

/- A stored text is decoded to a list of this kind. -/
theorem KeptItems.decode
    (hAuthor : ∀ blog, Q blog → Q { blog with author := none })
    {items : List Json}
    (hItems : KeptItems Q items) :
    ∃ blogs,
      decodeLocalBlogs items = .ok blogs ∧ Kept Q blogs := by
  rcases hItems with ⟨blogs, hKept, rfl⟩
  exact ⟨_, decodeLocalBlogs_toJson blogs,
    hKept.withoutAuthor hAuthor⟩

/- An object changes, or there is another one. -/
theorem CrashSafe.setHeap
    {s : Wishlist}
    {file : File}
    {heap : Heap BlogNews}
    {blogs : Ref}
    (hSafe : CrashSafe Q s file)
    (hLists : heap.All (Kept Q)) :
    CrashSafe Q
      { s with heap := heap, blogs := blogs } file :=
  ⟨hLists, hSafe.decoded, hSafe.file⟩

/- A new list object becomes the one the model holds. -/
theorem CrashSafe.setBlogs
    {s : Wishlist}
    {file : File}
    {blogs : List BlogNews}
    (hSafe : CrashSafe Q s file)
    (hKept : Kept Q blogs) :
    CrashSafe Q (s.setBlogs blogs) file :=
  hSafe.setHeap (hSafe.lists.alloc hKept)

/- A flush may come at any moment. -/
theorem CrashSafe.flush
    {doubles : Doubles}
    {s : Wishlist}
    {file : File}
    (hSafe : CrashSafe Q s file) :
    CrashSafe Q s (Wishlist.flush doubles s file) := by
  refine ⟨hSafe.lists, hSafe.decoded, ?_⟩
  -- what is stored is the text of a list of this kind
  have hWritten
      {blogs : List BlogNews}
      (hKept : Kept Q blogs)
      (hJson :
        s.storedJson =
          some (.arr (blogs.map BlogNews.toJson))) :
      ∀ items ∈ Wishlist.flush doubles s file,
        KeptItems Q items := by
    have hReload :=
      reload_toJson doubles
        fun blog hMem => (hKept.known blog hMem).1
    intro items hItems
    simp only [Wishlist.flush, hJson, hReload] at hItems
    cases hItems
    exact ⟨blogs, hKept, rfl⟩
  cases hStored : s.storage.wishlist with
  | none =>
      intro items hItems
      simp [Wishlist.flush, storedJson, hStored] at hItems
  | some stored =>
      cases stored with
      | decoded items =>
          rcases hSafe.decoded items hStored with
            ⟨blogs, hKept, rfl⟩
          exact hWritten hKept
            (by simp [storedJson, hStored])
      | live list =>
          exact hWritten (hSafe.lists list)
            (by simp [storedJson, hStored])

/- A process on such a file. -/
theorem CrashSafe.boot
    {file : File}
    (hFile : ∀ items ∈ file, KeptItems Q items) :
    CrashSafe Q (Wishlist.boot file).1 file := by
  refine ⟨.single_nil .nil, ?_, hFile⟩
  intro items hStored
  cases file with
  | none => simp [Wishlist.boot] at hStored
  | some decoded =>
      simp only [Wishlist.boot, Option.map_some,
        Option.some.injEq,
        StoredWishlist.decoded.injEq] at hStored
      exact hFile items (by rw [hStored]; rfl)

/- Hearts are tapped. -/
theorem CrashSafe.call
    {s t : Wishlist}
    {file : File}
    {pending next : List Point}
    {op : Op}
    (hSafe : CrashSafe Q s file)
    (hOk : onlyAdds Q s pending op)
    (hCall : Wishlist.call op s = some (t, next)) :
    CrashSafe Q t file := by
  cases op with
  | addToWishlist blog =>
      simp only [Wishlist.call, Option.some.injEq] at hCall
      unfold addToWishlist at hCall
      split at hCall
      · cases hCall
        exact hSafe
      · rename_i hNew
        cases hCall
        have hMissing :
            ∀ item ∈ s.content, item.id ≠ blog.id := by
          intro item hMem hSame
          exact hNew
            (List.any_eq_true.mpr
              ⟨item, hMem, by simpa using hSame⟩)
        exact hSafe.setHeap
          (hSafe.lists.write
            ((hSafe.lists s.blogs).add hMissing hOk))
  | removeToWishlist blog =>
      simp only [Wishlist.call, Option.some.injEq] at hCall
      unfold removeToWishlist at hCall
      split at hCall
      · cases hCall
        exact hSafe.setBlogs
          ((hSafe.lists s.blogs).filter _)
      · cases hCall
        exact hSafe

/- Lists are loaded and stored. -/
theorem CrashSafe.resume
    (hAuthor : ∀ blog, Q blog → Q { blog with author := none })
    {s : Wishlist}
    {file : File}
    (hSafe : CrashSafe Q s file)
    (point : Point)
    (ready : Ready) :
    CrashSafe Q (Wishlist.resume point ready s).1 file := by
  cases point with
  | loadReady =>
      simp only [Wishlist.resume]
      split
      · unfold getLocalWishlist
        cases hStored : s.storage.wishlist with
        | none => exact hSafe
        | some stored =>
            cases stored with
            | decoded items =>
                rcases (hSafe.decoded items hStored).decode
                  hAuthor with ⟨blogs, hDecode, hKept⟩
                simp only [hDecode]
                exact hSafe.setBlogs hKept
            | live list =>
                cases hList : s.heap.read list with
                | nil =>
                    simp only [hList]
                    exact hSafe.setBlogs .nil
                | cons =>
                    simp only [hList]
                    exact hSafe
      · exact hSafe
  | saveReady list =>
      simp only [Wishlist.resume]
      split
      · exact ⟨hSafe.lists, by simp [saveWishlist], hSafe.file⟩
      · exact hSafe
  | saveItem => exact hSafe

/-
  Over all lives, each killed at any moment and with the
  file written at any moment: what the model holds and what
  the next process will load from the file has no post
  twice, and only posts of the file at first or added since.
-/
theorem kept_of_crashes
    {doubles : Doubles}
    {Q : BlogNews → Prop}
    {file : File}
    {es : List (Life (Op ⊕ Unit) Ready)}
    {p : Pool (OnDisk Wishlist File) Point}
    (hAuthor : ∀ blog, Q blog → Q { blog with author := none })
    (hStart : ∀ items ∈ file, KeptItems Q items)
    (hRun :
      (program.crashing (flushing doubles) boot).Run
        (Program.whileCrashing (onlyAdds Q) anyReady)
        (process file) es p) :
    Kept Q p.shared.memory.content ∧
      ∀ items ∈ p.shared.disk,
        ∃ blogs,
          decodeLocalBlogs items = .ok blogs ∧
            Kept Q blogs := by
  have hSafe :
      CrashSafe Q p.shared.memory p.shared.disk := by
    refine Program.crashing_invariant
      (I := fun s file _ => CrashSafe Q s file)
      hRun (.boot hStart) ?_ ?_ ?_ ?_ ?_
    · intro s file pending hSafe
      exact .boot hSafe.file
    · intro _ s file pending hSafe
      exact hSafe.flush
    · intro _ s file
      simp only [flushing, flush]
      cases s.storedJson with
      | none => rfl
      | some json =>
          simp only
          split <;> simp_all
    · intro s file pending op t next hSafe hOk hCall
      exact hSafe.call hOk hCall
    · intro s file earlier k later ready hSafe _ _
      exact hSafe.resume hAuthor k ready
  refine ⟨hSafe.lists p.shared.memory.blogs, ?_⟩
  intro items hItems
  exact (hSafe.file items hItems).decode hAuthor

/- Posts that have one of two ids. -/
def oneOrTwo (blog : BlogNews) : Prop :=
  blog.id = some 1 ∨ blog.id = some 2

instance
    (blog : BlogNews) :
    Decidable (oneOrTwo blog) :=
  inferInstanceAs
    (Decidable (blog.id = some 1 ∨ blog.id = some 2))

/- Post 2 is in the file. -/
def onlyTwo : List BlogNews := [{ id := some 2 }]

/-
  Post 1 is added before the file is loaded; the list of the
  file takes its place on display, and it that of the file.
  The next process adds post 2 and is killed before the
  write, and the third adds both again.
-/
def killedMidway : List (Life (Op ⊕ Unit) Ready) :=
  [ .turn (.call (.inl (.addToWishlist { id := some 1 }))),
    .turn (.resume 0 (.ok true)),
    .turn (.resume 0 (.ok true)),
    .turn (.call (.inr ())), .restart,
    .turn (.resume 0 (.ok true)),
    .turn (.call (.inl (.addToWishlist { id := some 2 }))),
    .restart, .turn (.resume 0 (.ok true)),
    .turn (.call (.inl (.addToWishlist { id := some 2 }))),
    .turn (.call (.inl (.addToWishlist { id := some 1 }))),
    .turn (.resume 0 (.ok true)),
    .turn (.resume 0 (.ok true)) ]

/- Both are in the wishlist, each once. -/
theorem kept_when_killedMidway :
    ∃ p : Pool (OnDisk Wishlist File) Point,
      (program.crashing (flushing .asWritten) boot).Run
        (Program.whileCrashing (onlyAdds oneOrTwo) anyReady)
        (process (some (onlyTwo.map BlogNews.toJson)))
        killedMidway p ∧
      p.shared.memory.content =
        [{ id := some 1 }, { id := some 2 }] ∧
      Kept oneOrTwo p.shared.memory.content := by
  have hAdmits :
      (program.crashing (flushing .asWritten) boot).Admits
        (Program.whileCrashing (onlyAdds oneOrTwo) anyReady)
        (process (some (onlyTwo.map BlogNews.toJson)))
        killedMidway := by
    decide +kernel
  have hEnds :
      ((program.crashing (flushing .asWritten) boot).exec
          (process (some (onlyTwo.map BlogNews.toJson)))
          killedMidway).map
        (fun p => p.shared.memory.content) =
      some [{ id := some 1 }, { id := some 2 }] := by
    decide +kernel
  rcases Option.map_eq_some_iff.mp hEnds with
    ⟨p, hExec, hContent⟩
  have hRun := System.run_iff_exec.mpr ⟨hAdmits, hExec⟩
  have hStart :
      ∀ items ∈ some (onlyTwo.map BlogNews.toJson),
        KeptItems oneOrTwo items := by
    rintro items ⟨⟩
    exact ⟨onlyTwo, ⟨by decide, by decide⟩, rfl⟩
  exact ⟨p, hRun, hContent,
    (kept_of_crashes (fun _ hBlog => hBlog) hStart
      hRun).1⟩

end Wishlist

end NewsCentral
