import NewsCentral.Dart.JsonRoundTrip
import NewsCentral.Wishlist.Program

/-
  The wishlist after a restart.

  The storage is written as JSON text, with `toJson` for
  each post of a list object, and decoded at the next
  launch, where `getLocalWishlist` reads it.

  Key definitions include:
    * `NewsCentral.Wishlist.storedJson`
    * `NewsCentral.Wishlist.relaunched`
    * `NewsCentral.Wishlist.restart`

  Key theorems include:
    * `NewsCentral.BlogNews.fromLocalJson_toJson`
    * `NewsCentral.BlogNews.fits_fromJson`
    * `NewsCentral.Wishlist.content_restart`
-/

------------------------------------------------------------
-- Stored Posts
------------------------------------------------------------

namespace NewsCentral

open Dart

namespace BlogNews

/- Every field but the author is read back as it was. -/
theorem fromLocalJson_toJson
    (blog : BlogNews) :
    fromLocalJson blog.toJson =
      { blog with author := none } := by
  simp [fromLocalJson, toJson, Json.index, Json.field,
    List.lookup_cons, bind, Except.bind]

/- The numbers of a post. -/
def numbers (blog : BlogNews) : Option Int × Option Int :=
  (blog.id, blog.categoryId)

/- They fit into 64 bits. -/
def Fits (blog : BlogNews) : Prop :=
  (∀ n ∈ blog.id, isInt64 n = true) ∧
    ∀ n ∈ blog.categoryId, isInt64 n = true

theorem isDecoded_toJson
    {doubles : Doubles}
    {blog : BlogNews}
    (hFits : blog.Fits) :
    blog.toJson.isDecoded doubles = true := by
  simp only [toJson, Json.isDecoded, Json.isDecodedFields,
    Json.isDecoded_ofString?, Json.isDecoded_ofInt? hFits.1,
    Json.isDecoded_ofInt? hFits.2, Bool.and_true,
    decide_eq_true_iff, List.map_cons, List.map_nil]
  decide

theorem isFinite_toJson
    (blog : BlogNews) :
    blog.toJson.isFinite = true := by
  simp only [toJson, Json.isFinite, Json.isFiniteFields,
    Json.isFinite_ofString?, Json.isFinite_ofInt?,
    Bool.and_true]

section

variable {doubles : Doubles}
variable {fields : List (String × Json)}

/- What `fromJson` reads the category from. -/
theorem isInt64_category
    (hDecoded : (Json.obj fields).isDecoded doubles = true)
    {n : Option Int}
    (hInt :
      (do
          let categories ←
            (Json.obj fields).index "categories"
          (← categories.itemAt 0).asInt) =
        .ok n) :
    ∀ k ∈ n, isInt64 k = true := by
  cases hItem :
      (Json.field fields "categories").itemAt 0 with
  | error e =>
      simp [Json.index, hItem, bind, Except.bind] at hInt
  | ok item =>
      simp only [Json.index, hItem, bind, Except.bind]
        at hInt
      exact Json.isInt64_of_asInt
        (Json.isDecoded_of_itemAt
          (Json.isDecoded_field hDecoded _) hItem)
        hInt

/- Statements that leave the numbers keep them fitting. -/
theorem fits_of_hidden
    {statement : BlogNews → Except Thrown BlogNews}
    (hHidden : Hidden numbers statement)
    {a b : BlogNews}
    (hFits : a.Fits)
    (hResult : statement a = .ok b) :
    b.Fits := by
  have hNumbers := hHidden a b hResult
  simp only [numbers, Prod.mk.injEq] at hNumbers
  rw [Fits, hNumbers.1, hNumbers.2]
  exact hFits

/- The numbers of a decoded post fit into 64 bits. -/
theorem fits_fromJson
    (unescape : String → String)
    (hDecoded : (Json.obj fields).isDecoded doubles = true) :
    (fromJson unescape (.obj fields)).Fits := by
  refine @tryEach_invariant _ Fits _ ?_ {} (by simp [Fits])
  intro statement hMem a b hFits hResult
  simp only [fromJsonBody, List.mem_cons, List.not_mem_nil,
    or_false] at hMem
  rcases hMem with hCategory | hId | hText
  · subst hCategory
    rcases ok_of_assign hResult with ⟨v, hInt, rfl⟩
    exact ⟨hFits.1, isInt64_category hDecoded hInt⟩
  · subst hId
    rcases ok_of_assign hResult with ⟨v, hInt, rfl⟩
    exact ⟨Json.isInt64_of_asInt
      (Json.isDecoded_field hDecoded "id") hInt, hFits.2⟩
  · refine fits_of_hidden ?_ hFits hResult
    rcases hText with
      rfl | rfl | rfl | rfl | rfl | rfl | rfl | rfl
    all_goals first
      | exact hidden_assign fun _ _ => rfl
      | exact hidden_assignImage (fun _ _ => rfl) _
      | exact hidden_assignMissingImage (fun _ _ => rfl) _

end

end BlogNews

end NewsCentral

------------------------------------------------------------
-- A Restart
------------------------------------------------------------

namespace NewsCentral

open Dart

namespace Wishlist

/- The value whose text is written for the wishlist. -/
def storedJson (s : Wishlist) : Option Json :=
  match s.storage.wishlist with
  | none => none
  | some (.decoded items) => some (.arr items)
  | some (.live list) =>
      some (.arr ((s.heap.read list).map BlogNews.toJson))

/-
  The model at the next launch.  The list on disk, if there
  is one, is there as decoded values.
-/
def relaunched
    (doubles : Doubles)
    (s : Wishlist) : Wishlist :=
  match s.storedJson with
  | none => {}
  | some json =>
      match reload doubles json with
      | .ok (.arr items) =>
          { storage := { wishlist := some (.decoded items) } }
      | _ => {}

/-
  A list is saved, the app is restarted, and the model loads
  the list when the storage is ready.
-/
def restart
    (doubles : Doubles)
    (list : Ref)
    (s : Wishlist) : Wishlist :=
  let saved := (resume (.saveReady list) (.ok true) s).1
  (resume .loadReady (.ok true) (saved.relaunched doubles)).1

/- Stored posts are decoded to themselves, without author. -/
theorem decodeLocalBlogs_toJson
    (blogs : List BlogNews) :
    decodeLocalBlogs (blogs.map BlogNews.toJson) =
      .ok (blogs.map fun blog =>
        { blog with author := none }) := by
  refine mapM_of_forall₂ ?_
  rw [List.forall₂_map_left_iff, List.forall₂_map_right_iff,
    List.forall₂_same]
  intro blog _
  exact congrArg Except.ok blog.fromLocalJson_toJson

/- A list of posts whose numbers fit is decoded again. -/
theorem reload_toJson
    (doubles : Doubles)
    {blogs : List BlogNews}
    (hFits : ∀ blog ∈ blogs, blog.Fits) :
    reload doubles (.arr (blogs.map BlogNews.toJson)) =
      .ok (.arr (blogs.map BlogNews.toJson)) := by
  refine reload_of_isFinite ?_ ?_
  · rw [Json.isDecoded, Json.isDecodedItems_iff]
    intro j hMem
    rcases List.mem_map.mp hMem with ⟨blog, hBlog, rfl⟩
    exact BlogNews.isDecoded_toJson (hFits blog hBlog)
  · rw [Json.isFinite, Json.isFiniteItems_iff]
    intro j hMem
    rcases List.mem_map.mp hMem with ⟨blog, _, rfl⟩
    exact blog.isFinite_toJson

/- After a restart the posts are there, without author. -/
theorem content_restart_of_fits
    {doubles : Doubles}
    {s : Wishlist}
    {list : Ref}
    (hFits : ∀ blog ∈ s.heap.read list, blog.Fits) :
    (s.restart doubles list).content =
      (s.heap.read list).map fun blog =>
        { blog with author := none } := by
  have hRelaunched :
      (s.saveWishlist list).relaunched doubles =
        { storage :=
            { wishlist :=
                some (.decoded
                  ((s.heap.read list).map
                    BlogNews.toJson)) } } := by
    unfold relaunched
    simp only [storedJson, saveWishlist,
      reload_toJson doubles hFits]
  have hRestart :
      s.restart doubles list =
        ((s.saveWishlist list).relaunched
          doubles).getLocalWishlist :=
    rfl
  rw [hRestart, hRelaunched, getLocalWishlist]
  simp only [decodeLocalBlogs_toJson]
  exact Heap.read_alloc_new _ _

/-
  Posts made from decoded JSON objects, complete or not, are
  all there after a restart, in their order.
-/
theorem content_restart
    (doubles : Doubles)
    (unescape : String → String)
    (s : Wishlist)
    (list : Ref)
    (objects : List (List (String × Json)))
    (hDecoded :
      ∀ fields ∈ objects,
        (Json.obj fields).isDecoded doubles = true)
    (hPosts :
      s.heap.read list =
        objects.map fun fields =>
          BlogNews.fromJson unescape (.obj fields)) :
    (s.restart doubles list).content = s.heap.read list := by
  have hFits : ∀ blog ∈ s.heap.read list, blog.Fits := by
    intro blog hMem
    rw [hPosts, List.mem_map] at hMem
    rcases hMem with ⟨fields, hFields, rfl⟩
    exact BlogNews.fits_fromJson unescape
      (hDecoded fields hFields)
  have hAuthor :
      ((s.heap.read list).map fun blog =>
          { blog with author := none }) =
        s.heap.read list := by
    rw [hPosts, List.map_map]
    refine List.map_congr_left fun fields _ => ?_
    have hNone :=
      BlogNews.author_fromJson unescape (.obj fields)
    simp only [Function.comp_apply]
    rw [← hNone]
  rw [content_restart_of_fits hFits, hAuthor]

end Wishlist

end NewsCentral

------------------------------------------------------------
-- A Half-Filled Post
------------------------------------------------------------

namespace NewsCentral

open Dart

namespace Wishlist

/- A post whose content is no object, and an empty one. -/
def malformed : List (List (String × Json)) :=
  [ [("categories", .arr [.int 3]), ("id", .int 1),
      ("title", .obj [("rendered", .str "\"News\"\n")]),
      ("content", .null)],
    [] ]

theorem restart_malformed :
    (restart .asWritten 0
        { heap :=
            ⟨[malformed.map fun fields =>
              BlogNews.fromJson id (.obj fields)]⟩ }).content =
      [ { id := some 1, categoryId := some 3,
          title := some "\"News\"\n" },
        {} ] :=
  content_restart .asWritten id
    { heap :=
        ⟨[malformed.map fun fields =>
          BlogNews.fromJson id (.obj fields)]⟩ }
    0 malformed (by decide) rfl

end Wishlist

end NewsCentral
