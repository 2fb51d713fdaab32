import NewsCentral.Dart.Heap
import NewsCentral.Models.BlogNews

/-
  The device storage "fstore" of the app: the keys of
  `kLocalKey` that session and wishlist use.

  The storage keeps values in memory.  A stored user is kept
  as the map its `toJson` gives.  A stored list is kept as
  the list object itself, so it changes with that object; a
  list read from disk at launch is a list of decoded values.
-/

------------------------------------------------------------
-- Local Storage
------------------------------------------------------------

namespace NewsCentral

open Dart

/- What can be stored under the key "wishlist". -/
inductive StoredWishlist where
  | decoded (items : List Json)
  | live (list : Ref)

/- The storage, one field a key; none when absent. -/
structure LocalStorage where
  userInfo : Option Json := none
  wishlist : Option StoredWishlist := none
  jwtToken : Option String := none

/- What awaiting `storage.ready` gives. -/
abbrev Ready := Except Thrown Bool

/- The storage is ready. -/
def Ready.works : Ready → Bool
  | .ok ready => ready
  | .error _ => false

/-
  `for (var item in json) list.add(fromLocalJson(item))`
  on a decoded list; an item that is no map throws.
-/
def decodeLocalBlogs
    (items : List Json) : Except Thrown (List BlogNews) :=
  items.mapM fun item => do
    return BlogNews.fromLocalJson (← item.asMap)

end NewsCentral
