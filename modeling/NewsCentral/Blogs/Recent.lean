import NewsCentral.Lists.Bounded
import NewsCentral.Models.BlogNews

/-
  The recently viewed posts of `lib/models/recent_blog.dart`.

  Key definitions include:
    * `NewsCentral.RecentModel`
    * `NewsCentral.RecentModel.addRecentBlog`
    * `NewsCentral.RecentModel.viewed`

  Key theorems include:
    * `NewsCentral.RecentModel.viewed_eq`
    * `NewsCentral.RecentModel.blogs_viewed`
-/

------------------------------------------------------------
-- The Model
------------------------------------------------------------

namespace NewsCentral

structure RecentModel where
  blogs : List BlogNews := []
deriving DecidableEq

namespace RecentModel

/- `removeWhere`, `removeLast` of a full list, `insert(0)`. -/
def addRecentBlog
    (blog : BlogNews)
    (s : RecentModel) : RecentModel :=
  let removed := s.blogs.filter fun index => index.id ≠ blog.id
  let kept :=
    if removed.length = 20 then removed.dropLast else removed
  { s with blogs := blog :: kept }

/- The model after some calls, the first one first. -/
def viewed (calls : List BlogNews) : RecentModel :=
  calls.foldl (fun s blog => s.addRecentBlog blog) {}

end RecentModel

end NewsCentral

------------------------------------------------------------
-- The Closed Form
------------------------------------------------------------

namespace NewsCentral

namespace RecentModel

/- A call is a use of a list of twenty posts. -/
theorem blogs_addRecentBlog
    (s : RecentModel)
    (blog : BlogNews) :
    (s.addRecentBlog blog).blogs =
      Bounded.push BlogNews.id 20 blog s.blogs := rfl

theorem viewed_eq
    (calls : List BlogNews) :
    (viewed calls).blogs =
      (Bounded.firsts BlogNews.id calls.reverse).take 20 := by
  rw [← Bounded.foldl_push (by decide) calls]
  exact (List.foldl_hom blogs fun s blog =>
    (blogs_addRecentBlog s blog).symm).symm

/-
  After any calls the list holds the first twenty distinct
  ids of the calls in reverse, each with the post of its
  last call; so it has at most twenty posts and no id twice.
-/
theorem blogs_viewed
    (calls : List BlogNews) :
    (viewed calls).blogs.map BlogNews.id =
        (Bounded.recentKeys BlogNews.id calls).take 20 ∧
      (∀ blog ∈ (viewed calls).blogs,
        Bounded.latest BlogNews.id calls blog.id =
          some blog) ∧
      (viewed calls).blogs.length ≤ 20 ∧
      ((viewed calls).blogs.map BlogNews.id).Nodup := by
  have hIds :
      (viewed calls).blogs.map BlogNews.id =
        (Bounded.recentKeys BlogNews.id calls).take 20 := by
    rw [viewed_eq, List.map_take, Bounded.map_firsts,
      List.reverse_reverse]
  refine ⟨hIds, ?_, ?_, ?_⟩
  · intro blog hMem
    rw [viewed_eq] at hMem
    exact Bounded.latest_of_mem_firsts
      (List.mem_of_mem_take hMem)
  · rw [viewed_eq]
    exact List.length_take_le _ _
  · rw [viewed_eq, List.map_take]
    exact Bounded.nodup_firsts.sublist
      (List.take_sublist _ _)

end RecentModel

end NewsCentral
