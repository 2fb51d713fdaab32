import Mathlib.Order.BooleanAlgebra.Set
import NewsCentral.Wishlist.Program

/-
  When the wishlist keeps what was added to it.

  Abstractly a wishlist is a set of ids under insertion and
  removal.  The model refines that set, and the storage
  holds the model's list once all saves have run, as long
  as nothing is changed that the start-up load overrides.

  Key definitions include:
    * `NewsCentral.Wishlist.idSet`
    * `NewsCentral.Wishlist.wanted`
    * `NewsCentral.Wishlist.whenLoaded`
    * `NewsCentral.Wishlist.DurabilityInvariant`

  Key theorems include:
    * `NewsCentral.Wishlist.DurabilityInvariant.call`
    * `NewsCentral.Wishlist.DurabilityInvariant.resume`
    * `NewsCentral.Wishlist.durable_of_run`
-/

------------------------------------------------------------
-- Wishlists As Sets Of Ids
------------------------------------------------------------

namespace NewsCentral

open Dart EventLoop

namespace Wishlist

/- The ids of some blogs. -/
def idSet (blogs : List BlogNews) : Set (Option Int) :=
  {id | ∃ blog ∈ blogs, blog.id = id}

/- What an operation is meant to do to a set of ids. -/
def Op.apply
    (ids : Set (Option Int)) : Op → Set (Option Int)
  | .addToWishlist blog => insert blog.id ids
  | .removeToWishlist blog => ids \ {blog.id}

/-
  The ids wanted after some operations: those of the start
  and the added ones, less those removed last.
-/
def wanted
    (ids : Set (Option Int))
    (ops : List Op) : Set (Option Int) :=
  ops.foldl Op.apply ids

@[simp] theorem wanted_append
    (ids : Set (Option Int))
    (ops more : List Op) :
    wanted ids (ops ++ more) = wanted (wanted ids ops) more :=
  List.foldl_append

@[simp] theorem wanted_singleton
    (ids : Set (Option Int))
    (op : Op) :
    wanted ids [op] = op.apply ids := rfl

@[simp] theorem wanted_nil
    (ids : Set (Option Int)) :
    wanted ids [] = ids := rfl

theorem idSet_append_singleton
    (blogs : List BlogNews)
    (blog : BlogNews) :
    idSet (blogs ++ [blog]) =
      insert blog.id (idSet blogs) := by
  ext id
  simp only [idSet, List.mem_append, List.mem_singleton,
    Set.mem_ofPred_eq, Set.mem_insert_iff]
  constructor
  · rintro ⟨item, hMem | rfl, hId⟩
    · exact .inr ⟨item, hMem, hId⟩
    · exact .inl hId.symm
  · rintro (rfl | ⟨item, hMem, hId⟩)
    · exact ⟨blog, .inr rfl, rfl⟩
    · exact ⟨item, .inl hMem, hId⟩

theorem idSet_filter
    (blogs : List BlogNews)
    (blog : BlogNews) :
    idSet (blogs.filter fun item => item.id ≠ blog.id) =
      idSet blogs \ {blog.id} := by
  ext id
  simp only [idSet, List.mem_filter, decide_eq_true_eq,
    Set.mem_ofPred_eq, Set.mem_sdiff, Set.mem_singleton_iff]
  constructor
  · rintro ⟨item, ⟨hMem, hNe⟩, rfl⟩
    exact ⟨⟨item, hMem, rfl⟩, hNe⟩
  · rintro ⟨⟨item, hMem, rfl⟩, hNe⟩
    exact ⟨item, ⟨hMem, hNe⟩, rfl⟩

/- `isExist` asks for the id in the set. -/
theorem isExist_iff
    (s : Wishlist)
    (blog : BlogNews) :
    s.isExist blog = true ↔ blog.id ∈ idSet s.content := by
  simp [isExist, idSet]

end Wishlist

end NewsCentral

------------------------------------------------------------
-- What The Operations Do
------------------------------------------------------------

namespace NewsCentral

open Dart EventLoop

namespace Wishlist

/- The model's list is an object of the heap. -/
def Valid (s : Wishlist) : Prop :=
  s.blogs < s.heap.size

@[simp] theorem content_setBlogs
    (blogs : List BlogNews)
    (s : Wishlist) :
    (s.setBlogs blogs).content = blogs := by
  simp [setBlogs, content]

theorem valid_setBlogs
    (blogs : List BlogNews)
    (s : Wishlist) :
    (s.setBlogs blogs).Valid := by
  simp [setBlogs, Valid]

/- Adding a known id does nothing. -/
theorem addToWishlist_of_exist
    {s : Wishlist}
    {blog : BlogNews}
    (hExist : s.isExist blog = true) :
    s.addToWishlist blog = (s, []) := by
  simp [addToWishlist, hExist]

/-
  Adding a new id appends the blog in place and saves the
  model's list.
-/
theorem addToWishlist_of_new
    {s t : Wishlist}
    {blog : BlogNews}
    {next : List Point}
    (hValid : s.Valid)
    (hNew : s.isExist blog = false)
    (hAdd : s.addToWishlist blog = (t, next)) :
    t.Valid ∧ t.content = s.content ++ [blog] ∧
      t.blogs = s.blogs ∧ t.storage = s.storage ∧
      next = [.saveReady t.blogs] := by
  simp only [addToWishlist, hNew, Bool.false_eq_true,
    if_false, Prod.mk.injEq] at hAdd
  rcases hAdd with ⟨rfl, rfl⟩
  refine ⟨?_, ?_, rfl, rfl, rfl⟩
  · simpa [Valid] using hValid
  · exact Heap.read_write_same hValid _

/- Removing an unknown id does nothing. -/
theorem removeToWishlist_of_new
    {s : Wishlist}
    {blog : BlogNews}
    (hNew : s.isExist blog = false) :
    s.removeToWishlist blog = (s, []) := by
  simp [removeToWishlist, hNew]

/- Removing a known id saves a new list without it. -/
theorem removeToWishlist_of_exist
    {s : Wishlist}
    {blog : BlogNews}
    (hExist : s.isExist blog = true) :
    s.removeToWishlist blog =
      (s.setBlogs
          (s.content.filter fun item => item.id ≠ blog.id),
        [.saveReady
          (s.setBlogs
            (s.content.filter fun item =>
              item.id ≠ blog.id)).blogs]) := by
  simp [removeToWishlist, hExist]

end Wishlist

end NewsCentral

------------------------------------------------------------
-- The Invariant
------------------------------------------------------------

namespace NewsCentral

open Dart EventLoop

namespace Wishlist

/- The lists that suspended saves hold, in their order. -/
def saves : List Point → List Ref
  | [] => []
  | .saveReady list :: ks => list :: saves ks
  | .loadReady :: ks => saves ks
  | .saveItem :: ks => saves ks

@[simp] theorem saves_append
    (ks js : List Point) :
    saves (ks ++ js) = saves ks ++ saves js := by
  induction ks with
  | nil => rfl
  | cons k ks ih => cases k <;> simp [saves, ih]

/- Points that wait for nothing ready hold no list. -/
theorem saves_eq_nil
    {ks : List Point}
    (hFree : ∀ k ∈ ks, k.awaitsReady = false) :
    saves ks = [] := by
  induction ks with
  | nil => rfl
  | cons k ks ih =>
      have hHead := hFree k (by simp)
      cases k with
      | saveItem =>
          exact ih fun j hMem => hFree j (by simp [hMem])
      | loadReady => simp [Point.awaitsReady] at hHead
      | saveReady => simp [Point.awaitsReady] at hHead

/-
  The last suspended save holds the model's list; without
  one the storage has what the model has.
-/
def LastSaveIsCurrent
    (s : Wishlist)
    (pending : List Point) : Prop :=
  match (saves pending).getLast? with
  | none => s.storedBlogs = s.content
  | some list => list = s.blogs

/-
  Before the start-up load the model is empty and the ids
  are those of the stored blogs; afterwards, or when nothing
  is stored, they are those of the model.
-/
inductive DurabilityInvariant
    (ids : Set (Option Int))
    (ops : List Op)
    (s : Wishlist) : List Point → Prop
  | loading
      {items : List Json}
      {blogs : List BlogNews}
      (hValid : s.Valid)
      (hStored : s.storage.wishlist = some (.decoded items))
      (hItems : decodeLocalBlogs items = .ok blogs)
      (hEmpty : s.content = [])
      (hIds : idSet blogs = wanted ids ops) :
      DurabilityInvariant ids ops s [.loadReady]
  | loaded
      {pending : List Point}
      (hValid : s.Valid)
      (hLoad :
        .loadReady ∈ pending →
          s.storage.wishlist = none ∧
            ∃ rest, pending = .loadReady :: rest ∧
              .loadReady ∉ rest)
      (hSaved : LastSaveIsCurrent s pending)
      (hIds : idSet s.content = wanted ids ops) :
      DurabilityInvariant ids ops s pending

/- A stored wishlist is a list of maps. -/
structure CleanLaunch (s : Wishlist) : Prop where
  valid : s.Valid
  empty : s.content = []
  stored :
    s.storage.wishlist = none ∨
      ∃ items blogs,
        s.storage.wishlist = some (.decoded items) ∧
          decodeLocalBlogs items = .ok blogs

/-
  Until the load has run, blogs are added only when nothing
  is stored, and only blogs that are not stored are removed.
-/
def whenLoaded
    (s : Wishlist)
    (pending : List Point) : Op → Prop
  | .addToWishlist _ =>
      .loadReady ∈ pending → s.storage.wishlist = none
  | .removeToWishlist blog =>
      .loadReady ∈ pending →
        blog.id ∉ s.storedBlogs.map BlogNews.id

/- The storage is ready when it is waited for. -/
def whenReady
    (_ : Wishlist)
    (_ : List Point)
    (_ : Point)
    (ready : Ready) : Prop :=
  ready.works = true

instance
    (s : Wishlist)
    (pending : List Point)
    (op : Op) :
    Decidable (whenLoaded s pending op) := by
  unfold whenLoaded
  split
  · exact
      decidable_of_iff
        (.loadReady ∈ pending →
          s.storage.wishlist.isNone = true)
        (by simp)
  · infer_instance

instance
    (s : Wishlist)
    (rest : List Point)
    (k : Point)
    (ready : Ready) :
    Decidable (whenReady s rest k ready) := by
  unfold whenReady
  infer_instance

/- What is stored as decoded values is what is loaded. -/
theorem storedBlogs_of_decoded
    {s : Wishlist}
    {items : List Json}
    {blogs : List BlogNews}
    (hStored : s.storage.wishlist = some (.decoded items))
    (hItems : decodeLocalBlogs items = .ok blogs) :
    s.storedBlogs = blogs := by
  simp [storedBlogs, hStored, hItems]

theorem DurabilityInvariant.launched
    {s : Wishlist}
    (hLaunch : CleanLaunch s) :
    DurabilityInvariant (idSet s.storedBlogs) [] s
      (launched s).pending := by
  rcases hLaunch.stored with hNone | ⟨items, blogs, hSome, hOk⟩
  · refine .loaded hLaunch.valid ?_ ?_ ?_
    · intro _
      exact ⟨hNone, [], rfl, by simp⟩
    · have hStored : s.storedBlogs = s.content := by
        simp [storedBlogs, hNone, hLaunch.empty]
      exact hStored
    · simp [storedBlogs, hNone, hLaunch.empty]
  · refine .loading hLaunch.valid hSome hOk hLaunch.empty ?_
    rw [storedBlogs_of_decoded hSome hOk]
    rfl

end Wishlist

end NewsCentral

------------------------------------------------------------
-- Steps Keep The Invariant
------------------------------------------------------------

namespace NewsCentral

open Dart EventLoop

namespace Wishlist

variable {ids : Set (Option Int)} {ops : List Op}
variable {s : Wishlist}

/-
  A changed list whose save is suspended last, over the
  storage as it was.
-/
theorem DurabilityInvariant.save
    {t : Wishlist}
    {pending : List Point}
    {op : Op}
    (hLoad :
      .loadReady ∈ pending →
        s.storage.wishlist = none ∧
          ∃ rest, pending = .loadReady :: rest ∧
            .loadReady ∉ rest)
    (hValid : t.Valid)
    (hStorage : t.storage = s.storage)
    (hIds : idSet t.content = op.apply (wanted ids ops)) :
    DurabilityInvariant ids (ops ++ [op]) t
      (pending ++ [.saveReady t.blogs]) := by
  refine .loaded hValid ?_ ?_ ?_
  · intro hMem
    have hOld : Point.loadReady ∈ pending := by
      simpa using hMem
    rcases hLoad hOld with ⟨hNone, rest, hSplit, hNot⟩
    rw [hStorage]
    refine ⟨hNone, rest ++ [.saveReady t.blogs], ?_, ?_⟩
    · rw [hSplit]
      rfl
    · simpa using hNot
  · simp [LastSaveIsCurrent, saves]
  · simpa using hIds

/- A call that changes nothing. -/
theorem DurabilityInvariant.unchanged
    {pending : List Point}
    {op : Op}
    (hInv : DurabilityInvariant ids ops s pending)
    (hIds : op.apply (wanted ids ops) = wanted ids ops) :
    DurabilityInvariant ids (ops ++ [op]) s
      (pending ++ []) := by
  rw [List.append_nil]
  cases hInv with
  | loading hValid hStored hItems hEmpty hOld =>
      exact .loading hValid hStored hItems hEmpty
        (by simp [hIds, hOld])
  | loaded hValid hLoad hSaved hOld =>
      exact .loaded hValid hLoad hSaved
        (by simp [hIds, hOld])

/- Every admitted call keeps the invariant. -/
theorem DurabilityInvariant.call
    {t : Wishlist}
    {pending next : List Point}
    {op : Op}
    (hInv : DurabilityInvariant ids ops s pending)
    (hOk : whenLoaded s pending op)
    (hCall : Wishlist.call op s = some (t, next)) :
    DurabilityInvariant ids (ops ++ [op]) t
      (pending ++ next) := by
  cases op with
  | addToWishlist blog =>
      have hAdd := Option.some.inj hCall
      cases hInv with
      | loading hValid hStored _ _ _ =>
          have hNone := hOk (by simp)
          rw [hStored] at hNone
          cases hNone
      | loaded hValid hLoad hSaved hIds =>
          cases hExist : s.isExist blog with
          | true =>
              rw [addToWishlist_of_exist hExist] at hAdd
              cases hAdd
              refine DurabilityInvariant.unchanged
                (.loaded hValid hLoad hSaved hIds) ?_
              rw [← hIds]
              exact Set.insert_eq_of_mem
                ((isExist_iff s blog).mp hExist)
          | false =>
              rcases addToWishlist_of_new hValid hExist hAdd
                with ⟨hStays, hContent, _, hStorage, rfl⟩
              refine DurabilityInvariant.save hLoad hStays
                hStorage ?_
              rw [hContent, idSet_append_singleton, hIds]
              rfl
  | removeToWishlist blog =>
      have hRemove := Option.some.inj hCall
      cases hExist : s.isExist blog with
      | false =>
          rw [removeToWishlist_of_new hExist] at hRemove
          cases hRemove
          refine hInv.unchanged ?_
          refine Set.sdiff_singleton_eq_self ?_
          have hNotMem : blog.id ∉ idSet s.content := by
            rw [← isExist_iff, hExist]
            simp
          cases hInv with
          | loading _ hStored hItems _ hIds =>
              have hAway := hOk (by simp)
              rw [storedBlogs_of_decoded hStored hItems]
                at hAway
              rw [← hIds]
              simpa [idSet] using hAway
          | loaded _ _ _ hIds =>
              rw [← hIds]
              exact hNotMem
      | true =>
          rw [removeToWishlist_of_exist hExist] at hRemove
          cases hRemove
          cases hInv with
          | loading _ _ _ hEmpty _ =>
              simp [isExist, hEmpty] at hExist
          | loaded hValid hLoad hSaved hIds =>
              refine DurabilityInvariant.save hLoad
                (valid_setBlogs _ s) rfl ?_
              rw [content_setBlogs, idSet_filter, hIds]
              rfl

/- The only load resumes from the front. -/
theorem split_head
    {earlier later rest : List Point}
    {k : Point}
    (hSplit : earlier ++ k :: later = k :: rest)
    (hNot : k ∉ rest) :
    earlier = [] ∧ rest = later := by
  cases earlier with
  | nil => simpa [eq_comm] using hSplit
  | cons j earlier =>
      simp only [List.cons_append, List.cons.injEq] at hSplit
      rw [← hSplit.2] at hNot
      simp at hNot

/- Another point resumes from behind the front. -/
theorem split_later
    {earlier later rest : List Point}
    {k front : Point}
    (hNe : k ≠ front)
    (hSplit : earlier ++ k :: later = front :: rest) :
    ∃ before, earlier = front :: before ∧
      rest = before ++ k :: later := by
  cases earlier with
  | nil =>
      simp only [List.nil_append, List.cons.injEq] at hSplit
      exact absurd hSplit.1 hNe
  | cons j earlier =>
      simp only [List.cons_append, List.cons.injEq] at hSplit
      exact ⟨earlier, by rw [hSplit.1], hSplit.2.symm⟩

/- A save whose turn it is does not overtake the load. -/
theorem loadReady_not_mem
    {earlier later : List Point}
    {k : Point}
    (hNe : k ≠ .loadReady)
    (hFront :
      .loadReady ∈ earlier ++ k :: later →
        ∃ rest, earlier ++ k :: later = .loadReady :: rest)
    (hFree : ∀ j ∈ earlier, j.awaitsReady = false) :
    .loadReady ∉ earlier ++ k :: later := by
  intro hMem
  rcases hFront hMem with ⟨rest, hSplit⟩
  rcases split_later hNe hSplit with ⟨before, rfl, _⟩
  have hHeld := hFree .loadReady (by simp)
  simp [Point.awaitsReady] at hHeld

/-
  The first save that is suspended writes its list; when it
  is the only one, that is the model's list.
-/
theorem LastSaveIsCurrent.saveWishlist
    {earlier later : List Point}
    {list : Ref}
    (hFree : ∀ j ∈ earlier, j.awaitsReady = false)
    (hSaved :
      LastSaveIsCurrent s
        (earlier ++ .saveReady list :: later)) :
    LastSaveIsCurrent (s.saveWishlist list)
      (earlier ++ later ++ [.saveItem]) := by
  simp only [LastSaveIsCurrent, saves_append, saves,
    saves_eq_nil hFree, List.nil_append,
    List.append_nil] at hSaved ⊢
  cases hLast : (saves later).getLast? with
  | none =>
      have hNil := List.getLast?_eq_none_iff.mp hLast
      have hCurrent : list = s.blogs := by
        simpa [hNil] using hSaved
      simp [storedBlogs, Wishlist.saveWishlist, content,
        hCurrent]
  | some last =>
      simpa [List.getLast?_cons, hLast,
        Wishlist.saveWishlist] using hSaved

/- Every turn keeps the invariant. -/
theorem DurabilityInvariant.resume
    {earlier later : List Point}
    {k : Point}
    {ready : Ready}
    (hInv :
      DurabilityInvariant ids ops s (earlier ++ k :: later))
    (hReady : ready.works = true)
    (hFirst :
      k.awaitsReady = true →
        ∀ j ∈ earlier, j.awaitsReady = false) :
    DurabilityInvariant ids ops
      (Wishlist.resume k ready s).1
      (earlier ++ later ++ (Wishlist.resume k ready s).2) := by
  generalize hPending : earlier ++ k :: later = pending
    at hInv
  cases hInv with
  | @loading items blogs hValid hStored hItems hEmpty hIds =>
      -- only the load is suspended, and it runs
      have hAlone : earlier = [] ∧ k = .loadReady ∧
          later = [] := by
        cases earlier with
        | nil => simpa using hPending
        | cons j earlier => simp at hPending
      rcases hAlone with ⟨rfl, rfl, rfl⟩
      simp only [Wishlist.resume, hReady, if_true,
        getLocalWishlist, hStored, hItems]
      refine .loaded (valid_setBlogs _ s) (by simp) ?_ ?_
      · have hStays :
            (s.setBlogs blogs).storedBlogs = blogs :=
          storedBlogs_of_decoded hStored hItems
        simpa [LastSaveIsCurrent, saves] using hStays
      · simpa using hIds
  | loaded hValid hLoad hSaved hIds =>
      subst hPending
      cases k with
      | loadReady =>
          rcases hLoad (by simp) with
            ⟨hNone, rest, hSplit, hNot⟩
          have hHead := split_head hSplit hNot
          rcases hHead with ⟨rfl, rfl⟩
          simp only [Wishlist.resume, hReady, if_true,
            getLocalWishlist, hNone, List.nil_append,
            List.append_nil]
          exact .loaded hValid (fun hMem => absurd hMem hNot)
            hSaved hIds
      | saveReady list =>
          have hFree := hFirst rfl
          have hNoLoad :
              .loadReady ∉ earlier ++ .saveReady list :: later
            := by
            refine loadReady_not_mem (by simp) ?_ hFree
            intro hMem
            rcases hLoad hMem with ⟨_, rest, hSplit, _⟩
            exact ⟨rest, hSplit⟩
          simp only [Wishlist.resume, hReady, if_true]
          refine .loaded hValid ?_ (hSaved.saveWishlist hFree)
            hIds
          intro hMem
          refine absurd ?_ hNoLoad
          simp only [List.mem_append, List.mem_cons] at *
          rcases hMem with (hLeft | hRight) | hItem
          · exact .inl hLeft
          · exact .inr (.inr hRight)
          · simp at hItem
      | saveItem =>
          refine .loaded hValid ?_ ?_ hIds
          · intro hMem
            have hOld :
                .loadReady ∈ earlier ++ .saveItem :: later := by
              simpa [Wishlist.resume] using hMem
            rcases hLoad hOld with ⟨hNone, rest, hSplit, hNot⟩
            rcases split_later (by simp) hSplit with
              ⟨before, rfl, rfl⟩
            refine ⟨hNone, before ++ later, ?_, ?_⟩
            · simp [Wishlist.resume]
            · simpa using hNot
          · simpa [LastSaveIsCurrent, saves, Wishlist.resume]
              using hSaved

/-
  From a clean launch, once nothing is suspended after a
  run that left the load alone, the storage holds the blogs
  of the model, and their ids are the wanted ones.
-/
theorem durable_of_run
    {es : List (Event Op Ready)}
    {p : Pool Wishlist Point}
    (hLaunch : CleanLaunch s)
    (hRun :
      program.system.Run (Program.when whenLoaded whenReady)
        (launched s) es p)
    (hQuiescent : p.Quiescent) :
    p.shared.storedBlogs = p.shared.content ∧
      idSet p.shared.content =
        wanted (idSet s.storedBlogs) (calls es) := by
  have hInv :
      DurabilityInvariant (idSet s.storedBlogs) (calls es)
        p.shared p.pending := by
    refine Program.run_invariant
      (I := fun es t pending =>
        DurabilityInvariant (idSet s.storedBlogs) (calls es)
          t pending)
      hRun (DurabilityInvariant.launched hLaunch) ?_ ?_
    · intro es t pending op u next hInv hOk hCall
      simpa using hInv.call hOk hCall
    · intro es t earlier k later ready hInv hOk hFirst
      rw [calls_append, calls_resume, List.append_nil]
      exact hInv.resume hOk hFirst
  have hNone : p.pending = [] := hQuiescent
  rw [hNone] at hInv
  cases hInv with
  | loaded _ _ hSaved hIds => exact ⟨hSaved, hIds⟩

/- A device on which the blog 1 is stored. -/
def stocked : Wishlist where
  storage :=
    { wishlist :=
        some (.decoded [.obj [("id", .int 1)]]) }

theorem stocked_cleanLaunch : CleanLaunch stocked where
  valid := Nat.zero_lt_one
  empty := rfl
  stored := .inr ⟨_, _, rfl, rfl⟩

/- A blog added after the load joins the stored one. -/
theorem durable_after_load :
    ∃ p : Pool Wishlist Point,
      program.system.Run (Program.when whenLoaded whenReady)
        (launched stocked)
        [ .resume 0 (.ok true),
          .call (.addToWishlist { id := some 2 }),
          .resume 0 (.ok true), .resume 0 (.ok true) ]
        p ∧
      p.shared.storedBlogs = p.shared.content ∧
      idSet p.shared.content =
        wanted (idSet stocked.storedBlogs)
          [.addToWishlist { id := some 2 }] := by
  have hRun :
      program.system.Run (Program.when whenLoaded whenReady)
        (launched stocked)
        [ .resume 0 (.ok true),
          .call (.addToWishlist { id := some 2 }),
          .resume 0 (.ok true), .resume 0 (.ok true) ] _ :=
    System.run_iff_exec.mpr ⟨by decide, rfl⟩
  exact ⟨_, hRun, durable_of_run stocked_cleanLaunch hRun rfl⟩

/-
  A blog added before the load is gone from the model, and
  its save has taken the place of the stored one.
-/
theorem load_overrides_add :
    ∃ p : Pool Wishlist Point,
      program.system.Run System.anyStep (launched stocked)
        [ .call (.addToWishlist { id := some 2 }),
          .resume 0 (.ok true), .resume 0 (.ok true),
          .resume 0 (.ok true) ]
        p ∧
      p.Quiescent ∧
      p.shared.storedBlogs ≠ p.shared.content ∧
      idSet p.shared.content ≠
        wanted (idSet stocked.storedBlogs)
          [.addToWishlist { id := some 2 }] := by
  refine ⟨_, System.run_of_exec rfl, rfl, by decide, ?_⟩
  intro hEq
  have hWanted :
      some 2 ∈
        wanted (idSet stocked.storedBlogs)
          [.addToWishlist { id := some 2 }] :=
    Set.mem_insert _ _
  rw [← hEq] at hWanted
  rcases hWanted with ⟨blog, hMem, hId⟩
  have hOne : blog = { id := some 1 } :=
    List.mem_singleton.mp hMem
  rw [hOne] at hId
  exact absurd hId (by decide)

end Wishlist

end NewsCentral
