import NewsCentral.Dart.Members
import NewsCentral.Services.WordPress

/-
  Categories: `lib/models/category.dart` and the request of
  `lib/services/wordpress.dart` that reads them.

  The request has a fixed end point: the language that its
  callers pass is not used.

  Key definitions include:
    * `NewsCentral.Category`
    * `NewsCentral.WordPress.decodeCategories`
    * `NewsCentral.WordPress.keptItems`

  Key theorems include:
    * `NewsCentral.WordPress.forall₂_of_decodeCategories`
-/

------------------------------------------------------------
-- Categories
------------------------------------------------------------

namespace NewsCentral

open Dart

/- A category; the fields are those of the source class. -/
structure Category where
  id : Option Int := none
  name : Option String := none
  image : Option String := none
  parent : Option Int := none
  totalProduct : Option Int := none
deriving DecidableEq

def kDefaultImage : String :=
  "https://user-images.githubusercontent.com/1459805/" ++
    "58628416-d3056f00-8303-11e9-9212-00179a1f3682.jpg"

namespace Category

/- `image["src"].toString()`, or the default image. -/
def imageOf (parsedJson : Json) : Except Thrown String := do
  let image ← parsedJson.index "image"
  if image.isNotNull then
    return (← image.index "src").toText
  else
    return kDefaultImage

def fromJson (parsedJson : Json) : Except Thrown Category := do
  if (← parsedJson.index "slug") = .str "uncategorized" then
    return {}
  else
    let id ← parsedJson.intAt "id"
    let name ← parsedJson.text "name"
    let parent ← parsedJson.intAt "parent"
    let totalProduct ← parsedJson.intAt "count"
    let image ← imageOf parsedJson
    return ⟨id, name, some image, parent, totalProduct⟩

end Category

end NewsCentral

------------------------------------------------------------
-- The Request
------------------------------------------------------------

namespace NewsCentral

open Dart

namespace WordPress

variable (wp : WordPress) (http : Http)

def categoriesEndPoint : String :=
  "categories?per_page=100&hide_empty=0&orderby=count" ++
    "&order=desc&include=5,2,6,213,232,233,298,50865," ++
    "50866,35454,50862,231"

/- `j > 0`; a number with a fraction is told by its text. -/
def isPositive : Json → Except Thrown Bool
  | .int n => .ok (0 < n)
  | .double text =>
      .ok (text.toList.head? ≠ some '-' &&
        (text ≠ "0.0" && text ≠ "NaN"))
  | _ => .error (.noSuchMethod ">")

/- The test an item has to pass. -/
def isKept (item : Json) : Except Thrown Bool := do
  if (← item.index "slug") = .str "uncategorized" then
    return false
  else
    isPositive (← item.index "count")

/- A turn of the loop of `getCategories`. -/
def addCategory
    (list : List Category)
    (item : Json) : Except Thrown (List Category) := do
  if ← isKept item then
    return list ++ [← Category.fromJson (← item.asMap)]
  else
    return list

def decodeCategories
    (response : Json) : Except Thrown (List Category) := do
  (← response.asIterable).foldlM addCategory []

def getCategories : Except Thrown (List Category) := do
  decodeCategories (← wp.getAsync http categoriesEndPoint)

end WordPress

end NewsCentral

------------------------------------------------------------
-- What Is Kept
------------------------------------------------------------

namespace NewsCentral

open Dart

namespace WordPress

/- The items that pass the test. -/
def keptItems (response : Json) : List Json :=
  match response with
  | .arr items => items.filter fun x => isKept x = .ok true
  | _ => []

/- A turn adds the category of an item that is kept. -/
theorem addCategory_spec
    {list kept : List Category}
    {item : Json}
    (hTurn : addCategory list item = .ok kept) :
    (isKept item = .ok true ∧
      ∃ c, Category.fromJson item = .ok c ∧
        kept = list ++ [c]) ∨
    (isKept item = .ok false ∧ kept = list) := by
  unfold addCategory at hTurn
  rcases bind_eq_ok_iff.mp hTurn with ⟨keep, hKeep, hRest⟩
  cases keep with
  | false =>
      cases hRest
      exact .inr ⟨hKeep, rfl⟩
  | true =>
      rcases bind_eq_ok_iff.mp hRest with ⟨j, hMap, hRest⟩
      rcases bind_eq_ok_iff.mp hRest with ⟨c, hRead, hRest⟩
      rw [Json.eq_of_asMap hMap] at hRead
      cases hRest
      exact .inl ⟨hKeep, c, hRead, rfl⟩

theorem forall₂_of_foldlM
    {items : List Json}
    {list kept : List Category}
    (hLoop : items.foldlM addCategory list = .ok kept) :
    ∃ added, kept = list ++ added ∧
      List.Forall₂ (fun x c => Category.fromJson x = .ok c)
        (items.filter fun x => isKept x = .ok true)
        added := by
  induction items generalizing list with
  | nil =>
      cases hLoop
      exact ⟨[], (List.append_nil _).symm, .nil⟩
  | cons item items ih =>
      rw [List.foldlM_cons] at hLoop
      rcases bind_eq_ok_iff.mp hLoop with
        ⟨next, hTurn, hRest⟩
      rcases ih hRest with ⟨added, hKept, hEach⟩
      rcases addCategory_spec hTurn with
        ⟨hKeep, c, hRead, hNext⟩ | ⟨hDrop, hNext⟩
      · refine ⟨c :: added, ?_, ?_⟩
        · rw [hKept, hNext, List.append_assoc]
          rfl
        · rw [List.filter_cons_of_pos (by simp [hKeep])]
          exact .cons hRead hEach
      · refine ⟨added, by rw [hKept, hNext], ?_⟩
        rw [List.filter_cons_of_neg (by simp [hDrop])]
        exact hEach

/- The categories are those of the items that are kept. -/
theorem forall₂_of_decodeCategories
    {response : Json}
    {kept : List Category}
    (hKept : decodeCategories response = .ok kept) :
    List.Forall₂ (fun x c => Category.fromJson x = .ok c)
      (keptItems response) kept := by
  unfold decodeCategories at hKept
  rcases bind_eq_ok_iff.mp hKept with ⟨items, hItems, hLoop⟩
  cases response with
  | arr items =>
      cases hItems
      rcases forall₂_of_foldlM hLoop with ⟨_, hEq, hEach⟩
      rw [List.nil_append] at hEq
      rw [hEq]
      exact hEach
  | _ => cases hItems

theorem slug_of_isKept
    {item : Json}
    (hKeep : isKept item = .ok true) :
    ∃ slug, item.index "slug" = .ok slug ∧
      slug ≠ .str "uncategorized" := by
  unfold isKept at hKeep
  rcases bind_eq_ok_iff.mp hKeep with ⟨slug, hSlug, hRest⟩
  refine ⟨slug, hSlug, ?_⟩
  rintro rfl
  cases hRest

/- A kept item becomes the category of its members. -/
theorem members_of_isKept
    {item : Json}
    {c : Category}
    (hKeep : isKept item = .ok true)
    (hRead : Category.fromJson item = .ok c) :
    item.intAt "id" = .ok c.id ∧
      item.text "name" = .ok c.name ∧
      item.intAt "parent" = .ok c.parent := by
  rcases slug_of_isKept hKeep with ⟨slug, hSlug, hOther⟩
  unfold Category.fromJson at hRead
  rw [hSlug, ok_bind_eq, if_neg hOther] at hRead
  rcases bind_eq_ok_iff.mp hRead with ⟨id, hId, hRead⟩
  rcases bind_eq_ok_iff.mp hRead with ⟨name, hName, hRead⟩
  rcases bind_eq_ok_iff.mp hRead with
    ⟨parent, hParent, hRead⟩
  rcases bind_eq_ok_iff.mp hRead with ⟨_, _, hRead⟩
  rcases bind_eq_ok_iff.mp hRead with ⟨_, _, hRead⟩
  cases hRead
  exact ⟨hId, hName, hParent⟩

end WordPress

end NewsCentral
