import NewsCentral.Dart.Heap
import NewsCentral.EventLoop.Program
import NewsCentral.Services.WordPress

/-
  The search of `lib/models/search.dart`, and what the
  search screen of `lib/screens/search/search.dart` renders
  of it.

  The recent keywords are a list object, which is changed in
  place and stored as it is when the preferences have come.

  Key definitions include:
    * `NewsCentral.SearchModel`
    * `NewsCentral.SearchModel.renderSearchLayout`
    * `NewsCentral.SearchModel.call` and `resume`
    * `NewsCentral.SearchModel.program`
-/

------------------------------------------------------------
-- State
------------------------------------------------------------

namespace NewsCentral

open Dart EventLoop

/-
  The model, and the preference "recentSearches".  The last
  two fields are histories: how many searches were issued,
  and how the one issued last was answered.
-/
structure SearchModel where
  heap : Heap String := ⟨[[]]⟩
  keywords : Ref := 0
  blogs : List BlogNews := []
  loading : Bool := false
  errMsg : Option String := none
  recentSearches : Option (List String) := none
  issued : Nat := 0
  latest : Option (Except Thrown (List BlogNews)) := none

namespace SearchModel

/- What the search screen shows. -/
inductive Layout where
  | recentSearches
  | loading
  | error (errMsg : String)
  | noProduct
  | found (blogs : List BlogNews)

/- `_renderSearchLayout` for the text of the screen. -/
def renderSearchLayout
    (searchText : String)
    (s : SearchModel) : Layout :=
  if searchText = "" then
    .recentSearches
  else if s.loading then
    .loading
  else if s.errMsg.getD "" ≠ "" then
    .error (s.errMsg.getD "")
  else if s.blogs = [] then
    .noProduct
  else
    .found s.blogs

------------------------------------------------------------
-- Operations
------------------------------------------------------------

inductive Op where
  | searchBlogs (name : String)
  | clearKeywords

/- Where an operation is suspended. -/
inductive Point where
  | searchBlog (name : String) (number : Nat)
  | savePrefs (keywords : Ref)
  | saved
  | getPrefs
deriving DecidableEq

/- The point is a search that waits for its answer. -/
def Point.isSearch : Point → Bool
  | .searchBlog .. => true
  | _ => false

/- What the network and the preferences answer. -/
structure Reply where
  http : Http := fun _ => .error (.error "SocketException" "")
  prefs : Except Thrown Unit := .ok ()

/- Start an operation. -/
def call : Op → SearchModel → Option (SearchModel × List Point)
  | .searchBlogs name, s =>
      some
        ({ s with
            loading := true
            issued := s.issued + 1
            latest := none },
          [.searchBlog name (s.issued + 1)])
  | .clearKeywords, s =>
      let made := s.heap.alloc []
      some
        ({ s with heap := made.1, keywords := made.2 },
          [.savePrefs made.2])

/- Record the answer to a search, if it is the last one. -/
def record
    (number : Nat)
    (answer : Except Thrown (List BlogNews))
    (s : SearchModel) : SearchModel :=
  if number = s.issued then
    { s with latest := some answer }
  else
    s

/- Move a keyword to the front. -/
def insertKeyword
    (name : String)
    (s : SearchModel) : SearchModel :=
  { s with
    heap :=
      s.heap.write s.keywords
        (name :: (s.heap.read s.keywords).erase name) }

/- What `searchBlogs` does with the posts found. -/
def gotBlogs
    (name : String)
    (blogs : List BlogNews)
    (s : SearchModel) : SearchModel × List Point :=
  let shown := { s with blogs := blogs, loading := false }
  if blogs ≠ [] ∧ name ≠ "" then
    (shown.insertKeyword name, [.savePrefs s.keywords])
  else
    (shown, [])

/- What `searchBlogs` does with an error. -/
def failed
    (thrown : Thrown)
    (s : SearchModel) : SearchModel :=
  { s with
    loading := false
    errMsg := some thrown.toText }

/- `getKeywords` once the preferences have come. -/
def gotKeywords (s : SearchModel) : SearchModel :=
  match s.recentSearches with
  | none => s
  | some [] => s
  | some list =>
      let made := s.heap.alloc list
      { s with heap := made.1, keywords := made.2 }

/- What a search finds. -/
def found
    (unescape : String → String)
    (name : String)
    (reply : Reply) : Except Thrown (List BlogNews) :=
  newsService.searchBlog reply.http unescape name

/- Resume an operation where it is suspended. -/
def resume
    (unescape : String → String)
    (point : Point)
    (reply : Reply)
    (s : SearchModel) : SearchModel × List Point :=
  match point with
  | .searchBlog name number =>
      let answer := found unescape name reply
      match answer with
      | .error thrown =>
          ((s.record number answer).failed thrown, [])
      | .ok blogs =>
          (s.record number answer).gotBlogs name blogs
  | .savePrefs keywords =>
      match reply.prefs with
      | .error _ => (s, [])
      | .ok _ =>
          ({ s with
              recentSearches := some (s.heap.read keywords) },
            [.saved])
  | .saved => (s, [])
  | .getPrefs =>
      match reply.prefs with
      | .error _ => (s, [])
      | .ok _ => (s.gotKeywords, [])

/- The search as a program of the event loop. -/
def program
    (unescape : String → String) :
    Program SearchModel Op Point Reply where
  call := call
  resume := resume unescape
  queued := fun _ => false

/- The model is made, with keywords stored before. -/
def launched
    (recentSearches : Option (List String)) :
    Pool SearchModel Point where
  shared := { recentSearches := recentSearches }
  pending := [.getPrefs]

end SearchModel

end NewsCentral
