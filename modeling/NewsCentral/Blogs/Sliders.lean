import NewsCentral.Lists.Pages
import NewsCentral.Models.BlogNews

/-
  The two sliders that show three posts per page.

  Both build the same page for an index.  The one of
  `slider_horizontal_list.dart` counts the pages, the one of
  `slider_list.dart` has a page for each post, of which the
  later ones are empty.

  Key definitions include:
    * `NewsCentral.Slider.itemBuilder`
    * `NewsCentral.SliderHorizontalList.pages`
    * `NewsCentral.HorizontalSliderList.pages`
    * `NewsCentral.Slider.Partitions`

  Key theorems include:
    * `NewsCentral.SliderHorizontalList.partitions_pages`
    * `NewsCentral.HorizontalSliderList.partitions_pages_iff`
    * `NewsCentral.Slider.partitions_iff`
-/

------------------------------------------------------------
-- The Sliders
------------------------------------------------------------

namespace NewsCentral

/-
  The page that both sliders build for an index: the loop
  over `i` runs for at most three posts and stops at the end
  of the list.
-/
def Slider.itemBuilder
    (blogs : List BlogNews)
    (index : Nat) : List BlogNews :=
  let start :=
    if index > 0 ∧ index < blogs.length then
      index * 3
    else
      index
  ((List.range' start 3).takeWhile fun i =>
    i < blogs.length).filterMap fun i => blogs[i]?

/- The pages for the indices up to the item count. -/
def Slider.pages
    (itemCount : Nat)
    (blogs : List BlogNews) : List (List BlogNews) :=
  (List.range itemCount).map (Slider.itemBuilder blogs)

/- `_buildItemCount` -/
def SliderHorizontalList.buildItemCount
    (list : List BlogNews)
    (itemNumber : Nat) : Nat :=
  if list.length % itemNumber = 0 then
    list.length / itemNumber
  else
    list.length / itemNumber + 1

def SliderHorizontalList.pages
    (blogs : List BlogNews) : List (List BlogNews) :=
  Slider.pages
    (SliderHorizontalList.buildItemCount blogs 3) blogs

def HorizontalSliderList.pages
    (blogs : List BlogNews) : List (List BlogNews) :=
  Slider.pages blogs.length blogs

/-
  The pages are the posts, each once and in order, with one
  to three posts on each page.
-/
structure Slider.Partitions
    (blogs : List BlogNews)
    (pages : List (List BlogNews)) : Prop where
  flatten : pages.flatten = blogs
  sizes : ∀ page ∈ pages, 1 ≤ page.length ∧ page.length ≤ 3

end NewsCentral

------------------------------------------------------------
-- Their Pages
------------------------------------------------------------

namespace NewsCentral

variable {blogs : List BlogNews} {itemCount index : Nat}

namespace Slider

/- For an index of the list the builder makes its page. -/
theorem itemBuilder_eq_slice
    (hIndex : index < blogs.length) :
    itemBuilder blogs index =
      Pages.slice 3 blogs (index + 1) := by
  unfold itemBuilder Pages.slice
  rw [Pages.filterMap_takeWhile_range', Nat.add_sub_cancel]
  by_cases hFirst : index > 0
  · rw [if_pos ⟨hFirst, hIndex⟩, Nat.mul_comm]
  · have hZero : index = 0 := by omega
    subst hZero
    simp

theorem pages_eq_map_slice
    (hCount : itemCount ≤ blogs.length) :
    pages itemCount blogs =
      (List.range itemCount).map fun i =>
        Pages.slice 3 blogs (i + 1) := by
  refine List.map_congr_left fun i hMem => ?_
  have hLt := List.mem_range.mp hMem
  exact itemBuilder_eq_slice (by omega)

/- With enough pages all posts are shown in order. -/
theorem flatten_pages
    (hCount : itemCount ≤ blogs.length)
    (hEnough : blogs.length ≤ 3 * itemCount) :
    (pages itemCount blogs).flatten = blogs := by
  rw [pages_eq_map_slice hCount, Pages.flatten_map_slice,
    List.take_of_length_le hEnough]

/- The pages that the list reaches have one to three posts. -/
theorem sizes_pages_iff
    (hCount : itemCount ≤ blogs.length) :
    (∀ page ∈ pages itemCount blogs,
        1 ≤ page.length ∧ page.length ≤ 3) ↔
      ∀ i < itemCount, 3 * i < blogs.length := by
  rw [pages_eq_map_slice hCount]
  simp only [List.forall_mem_map, List.mem_range]
  refine forall₂_congr fun i _ => ?_
  have hSmall :
      (Pages.slice 3 blogs (i + 1)).length ≤ 3 :=
    List.length_take_le _ _
  have hEmpty :=
    @Pages.slice_succ_eq_nil_iff _ 3 i blogs (by decide)
  rw [← List.length_eq_zero_iff] at hEmpty
  omega

end Slider

/- The item count is that of the pages the list reaches. -/
theorem SliderHorizontalList.lt_buildItemCount_iff :
    index < buildItemCount blogs 3 ↔
      3 * index < blogs.length := by
  unfold buildItemCount
  split <;> omega

/- The pages of the first slider partition the posts. -/
theorem SliderHorizontalList.partitions_pages
    (blogs : List BlogNews) :
    Slider.Partitions blogs (pages blogs) := by
  have hCount : buildItemCount blogs 3 ≤ blogs.length := by
    unfold buildItemCount
    split <;> omega
  constructor
  · refine Slider.flatten_pages hCount ?_
    have hLast :=
      (@lt_buildItemCount_iff blogs
        (buildItemCount blogs 3)).not
    omega
  · rw [pages, Slider.sizes_pages_iff hCount]
    exact fun i hLt => lt_buildItemCount_iff.mp hLt

/- Those of the second one do for at most one post. -/
theorem HorizontalSliderList.partitions_pages_iff
    (blogs : List BlogNews) :
    Slider.Partitions blogs (pages blogs) ↔
      blogs.length ≤ 1 := by
  constructor
  · intro hPartitions
    have hSizes := hPartitions.sizes
    rw [pages, Slider.sizes_pages_iff le_rfl] at hSizes
    by_contra hMore
    have hLast := hSizes (blogs.length - 1) (by omega)
    omega
  · intro hOne
    constructor
    · exact Slider.flatten_pages le_rfl (by omega)
    · rw [pages, Slider.sizes_pages_iff le_rfl]
      omega

/- Two sliders with as many pages have the same pages. -/
theorem Slider.pages_eq_iff
    (blogs : List BlogNews) :
    SliderHorizontalList.pages blogs =
        HorizontalSliderList.pages blogs ↔
      blogs.length ≤ 1 := by
  constructor
  · intro hEq
    rw [← HorizontalSliderList.partitions_pages_iff, ← hEq]
    exact SliderHorizontalList.partitions_pages blogs
  · intro hOne
    have hCount :
        SliderHorizontalList.buildItemCount blogs 3 =
          blogs.length := by
      unfold SliderHorizontalList.buildItemCount
      split <;> omega
    unfold SliderHorizontalList.pages HorizontalSliderList.pages
    rw [hCount]

/-
  Both sliders partition the posts into the same pages
  exactly if there is at most one post; the first slider
  partitions any posts.
-/
theorem Slider.partitions_iff
    (blogs : List BlogNews) :
    Slider.Partitions blogs
        (SliderHorizontalList.pages blogs) ∧
      (Slider.Partitions blogs
          (HorizontalSliderList.pages blogs) ↔
        blogs.length ≤ 1) ∧
      (SliderHorizontalList.pages blogs =
          HorizontalSliderList.pages blogs ↔
        blogs.length ≤ 1) :=
  ⟨SliderHorizontalList.partitions_pages blogs,
    HorizontalSliderList.partitions_pages_iff blogs,
    Slider.pages_eq_iff blogs⟩

/- Two posts give an empty second page. -/
theorem HorizontalSliderList.second_page_is_empty :
    HorizontalSliderList.pages
          [{ id := some 1 }, { id := some 2 }] =
        [[{ id := some 1 }, { id := some 2 }], []] ∧
      SliderHorizontalList.pages
          [{ id := some 1 }, { id := some 2 }] =
        [[{ id := some 1 }, { id := some 2 }]] ∧
      ¬ Slider.Partitions [{ id := some 1 }, { id := some 2 }]
        (HorizontalSliderList.pages
          [{ id := some 1 }, { id := some 2 }]) := by
  refine ⟨by decide, by decide, ?_⟩
  rw [HorizontalSliderList.partitions_pages_iff]
  decide

end NewsCentral
