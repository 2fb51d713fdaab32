import NewsCentral.EventLoop.Program
import NewsCentral.Services.LocalStorage

/-
  The wishlist of `lib/models/wishlist.dart`.

  `blogs` is a list object.  Adding a blog mutates it in
  place, removing one replaces it by a new list, and every
  save holds the list that was current when it was issued.
  The storage then keeps that very list.

  Key definitions include:
    * `NewsCentral.Wishlist`
    * `NewsCentral.Wishlist.addToWishlist`
    * `NewsCentral.Wishlist.removeToWishlist`
    * `NewsCentral.Wishlist.getLocalWishlist`
    * `NewsCentral.Wishlist.program`
-/

------------------------------------------------------------
-- State
------------------------------------------------------------

namespace NewsCentral

open Dart EventLoop

/- `WishListModel` with its list objects and the storage. -/
structure Wishlist where
  heap : Heap BlogNews := ⟨[[]]⟩
  blogs : Ref := 0
  storage : LocalStorage := {}

namespace Wishlist

/- The blogs in the list the model holds. -/
def content (s : Wishlist) : List BlogNews :=
  s.heap.read s.blogs

/- The blogs under the key "wishlist", none when absent. -/
def storedBlogs (s : Wishlist) : List BlogNews :=
  match s.storage.wishlist with
  | none => []
  | some (.decoded items) =>
      match decodeLocalBlogs items with
      | .ok blogs => blogs
      | .error _ => []
  | some (.live list) => s.heap.read list

------------------------------------------------------------
-- Operations
------------------------------------------------------------

inductive Op where
  | addToWishlist (blog : BlogNews)
  | removeToWishlist (blog : BlogNews)

/- Where an operation is suspended. -/
inductive Point where
  | loadReady
  | saveReady (list : Ref)
  | saveItem
deriving DecidableEq

/- Some item has the id of the blog. -/
def isExist (s : Wishlist) (blog : BlogNews) : Bool :=
  s.content.any fun item => item.id = blog.id

def addToWishlist
    (blog : BlogNews)
    (s : Wishlist) : Wishlist × List Point :=
  if s.isExist blog then
    (s, [])
  else
    ({ s with
        heap := s.heap.write s.blogs (s.content ++ [blog]) },
      [.saveReady s.blogs])

/- Replace the list by a new one. -/
def setBlogs
    (blogs : List BlogNews)
    (s : Wishlist) : Wishlist :=
  let list := s.heap.alloc blogs
  { s with heap := list.1, blogs := list.2 }

def removeToWishlist
    (blog : BlogNews)
    (s : Wishlist) : Wishlist × List Point :=
  if s.isExist blog then
    let kept :=
      s.setBlogs
        (s.content.filter fun item => item.id ≠ blog.id)
    (kept, [.saveReady kept.blogs])
  else
    (s, [])

/-
  `getLocalWishlist` after the storage is ready.  The items
  of a list object are blogs, not maps, and throw.
-/
def getLocalWishlist (s : Wishlist) : Wishlist :=
  match s.storage.wishlist with
  | none => s
  | some (.decoded items) =>
      match decodeLocalBlogs items with
      | .ok blogs => s.setBlogs blogs
      | .error _ => s
  | some (.live list) =>
      match s.heap.read list with
      | [] => s.setBlogs []
      | _ :: _ => s

/- `saveWishlist` after the storage is ready. -/
def saveWishlist
    (list : Ref)
    (s : Wishlist) : Wishlist :=
  { s with
    storage :=
      { s.storage with wishlist := some (.live list) } }

def call :
    Op → Wishlist → Option (Wishlist × List Point)
  | .addToWishlist blog, s => some (s.addToWishlist blog)
  | .removeToWishlist blog, s =>
      some (s.removeToWishlist blog)

def resume
    (point : Point)
    (ready : Ready)
    (s : Wishlist) : Wishlist × List Point :=
  match point with
  | .loadReady =>
      if ready.works then (s.getLocalWishlist, []) else (s, [])
  | .saveReady list =>
      if ready.works then
        (s.saveWishlist list, [.saveItem])
      else
        (s, [])
  | .saveItem => (s, [])

/- The waiters on `storage.ready`. -/
def Point.awaitsReady : Point → Bool
  | .saveItem => false
  | _ => true

/-
  The wishlist as a program of the event loop.  The waiters
  on `storage.ready` resume in the order they began waiting.
-/
def program : Program Wishlist Op Point Ready where
  call := call
  resume := resume
  queued := Point.awaitsReady

/- The model right after its construction. -/
def launched (s : Wishlist) : Pool Wishlist Point where
  shared := s
  pending := [.loadReady]

end Wishlist

end NewsCentral
