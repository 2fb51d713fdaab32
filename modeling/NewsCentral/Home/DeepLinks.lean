import NewsCentral.Dart.Integers
import NewsCentral.Dart.Members

/-
  The links that open a post: the listener of
  `lib/screens/home/home.dart` and the screen it pushes,
  `lib/screens/home/deeplink_item.dart`.

  The listener reads the piece behind the first slash of the
  path.  Of what may be thrown on the way, it catches a
  `FormatException` alone.  What `Uri.parse` makes of a link
  and which path that has are left open.

  Key definitions include:
    * `NewsCentral.HomeScreenState.listener`
    * `NewsCentral.HomeScreenState.Handled`
    * `NewsCentral.HomeScreenState.Safe`

  Key theorems include:
    * `NewsCentral.HomeScreenState.listener_item`
    * `NewsCentral.HomeScreenState.handled_iff`
-/

------------------------------------------------------------
-- The First Two Pieces
------------------------------------------------------------

namespace Pieces

variable {α : Type} [DecidableEq α]

/- What comes in front of the first separator. -/
def before (c : α) (xs : List α) : List α :=
  xs.takeWhile fun x => x ≠ c

/- What comes behind the first separator. -/
def behind (c : α) (xs : List α) : List α :=
  (xs.dropWhile fun x => x ≠ c).drop 1

variable {c : α} {xs ys : List α}

/- Without a separator nothing ends a piece. -/
theorem decide_ne_of_not_mem
    (hNot : c ∉ xs) :
    ∀ x ∈ xs, decide (x ≠ c) = true := by
  intro x hMem
  have hNe : x ≠ c := fun hEq => hNot (hEq ▸ hMem)
  simpa using hNe

theorem before_of_not_mem
    (hNot : c ∉ xs) :
    before c xs = xs :=
  List.takeWhile_eq_self_iff.mpr (decide_ne_of_not_mem hNot)

theorem before_append_cons
    (hNot : c ∉ xs) :
    before c (xs ++ c :: ys) = xs := by
  rw [before,
    List.takeWhile_append_of_pos (decide_ne_of_not_mem hNot)]
  simp

theorem behind_append_cons
    (hNot : c ∉ xs) :
    behind c (xs ++ c :: ys) = ys := by
  rw [behind,
    List.dropWhile_append_of_pos (decide_ne_of_not_mem hNot)]
  simp

/- The first piece ends at the first separator. -/
theorem splitOn_getElem?_zero
    (xs : List α) :
    (xs.splitOn c)[0]? = some (before c xs) := by
  by_cases hMem : c ∈ xs
  · rcases List.eq_append_cons_of_mem hMem with
      ⟨start, rest, rfl, hNot⟩
    rw [List.splitOn_append_cons_self_of_not_mem hNot,
      before_append_cons hNot]
    rfl
  · rw [List.splitOn_eq_singleton hMem,
      before_of_not_mem hMem]
    rfl

/- There is a second piece if there is a separator. -/
theorem splitOn_getElem?_one
    (xs : List α) :
    (xs.splitOn c)[1]? =
      if c ∈ xs then
        some (before c (behind c xs))
      else
        none := by
  by_cases hMem : c ∈ xs
  · rw [if_pos hMem]
    rcases List.eq_append_cons_of_mem hMem with
      ⟨start, rest, rfl, hNot⟩
    rw [List.splitOn_append_cons_self_of_not_mem hNot,
      behind_append_cons hNot, List.getElem?_cons_succ,
      splitOn_getElem?_zero]
  · rw [if_neg hMem, List.splitOn_eq_singleton hMem]
    rfl

end Pieces

------------------------------------------------------------
-- The Listener
------------------------------------------------------------

namespace NewsCentral

open Dart

/- The screen of one post. -/
structure ItemDeepLink where
  itemId : Option Int

/-
  The state of the home screen, with the number of routes
  that it has pushed.
-/
structure HomeScreenState (U : Type) where
  mounted : Bool
  latestUri : Option U
  itemId : Option Int
  routes : Nat

namespace HomeScreenState

/- The builder of the routes reads the state. -/
def builder {U : Type} (s : HomeScreenState U) : ItemDeepLink :=
  ⟨s.itemId⟩

variable {U : Type}
variable (parse : String → Except Thrown U)
variable (path : U → String)

/- `if (link != null) _latestUri = Uri.parse(link);` -/
def withUri
    (s : HomeScreenState U)
    (link : Option String) :
    Except Thrown (HomeScreenState U) :=
  match link with
  | none => return s
  | some text => return { s with latestUri := ← parse text }

/- `int.parse(_latestUri.path.split('/')[1])` -/
def linkedId (s : HomeScreenState U) : Except Thrown Int :=
  match s.latestUri with
  | none => .error (.noSuchMethod "path")
  | some uri => do
      let pieces := (path uri).toList.splitOn '/'
      intParse (String.ofList (← elementAt pieces 1))

/- The body of `try`: how it leaves the state, and an error. -/
def tryBody
    (s : HomeScreenState U)
    (link : Option String) :
    HomeScreenState U × Option Thrown :=
  match withUri parse s link with
  | .error e => (s, some e)
  | .ok s =>
      match linkedId path s with
      | .error e => (s, some e)
      | .ok id =>
          ({ s with itemId := id, routes := s.routes + 1 },
            none)

/- `on FormatException` -/
def isFormatException : Thrown → Bool
  | .error cls _ => cls = "FormatException"
  | .exception _ => false

/- One value of the stream, and what is not caught. -/
def listener
    (s : HomeScreenState U)
    (link : Option String) :
    HomeScreenState U × Option Thrown :=
  if s.mounted then
    let ended :=
      tryBody parse path { s with latestUri := none } link
    (ended.1, ended.2.filter fun e => !isFormatException e)
  else
    (s, none)

end HomeScreenState

end NewsCentral

------------------------------------------------------------
-- The Property And Its Condition
------------------------------------------------------------

namespace NewsCentral

open Dart

namespace HomeScreenState

/- A path without the slash it may start with. -/
def relative : List Char → List Char
  | '/' :: cs => cs
  | cs => cs

/- The integer in the first segment of a path. -/
def firstId (path : String) : Option Int :=
  intTryParse
    (String.ofList
      (Pieces.before '/' (relative path.toList)))

/- The integer in the piece behind the first slash. -/
def secondId (path : String) : Option Int :=
  intTryParse
    (String.ofList
      (Pieces.before '/' (Pieces.behind '/' path.toList)))

variable {U : Type}
variable (parse : String → Except Thrown U)
variable (path : U → String)

/- The integer in the first path segment of a link. -/
def IsLinked
    (link : Option String)
    (id : Int) : Prop :=
  ∃ text uri,
    link = some text ∧
      parse text = .ok uri ∧
      firstId (path uri) = some id

/- One route was pushed, and it shows the item. -/
def Navigates
    (s t : HomeScreenState U)
    (id : Int) : Prop :=
  t.routes = s.routes + 1 ∧ t.builder = ⟨some id⟩

def Ignores (s t : HomeScreenState U) : Prop :=
  t.routes = s.routes ∧ t.itemId = s.itemId

/-
  No error is left, and the link is followed to the integer
  in its first segment or ignored.
-/
structure Handled
    (s : HomeScreenState U)
    (link : Option String) : Prop where
  complete : (listener parse path s link).2 = none
  outcome :
    (∃ id,
      IsLinked parse path link id ∧
        Navigates s (listener parse path s link).1 id) ∨
      Ignores s (listener parse path s link).1

/-
  The path has a slash, and it starts with it or the integer
  behind it, if there is one, is that in front of it, too.
-/
def SafePath (path : String) : Prop :=
  '/' ∈ path.toList ∧
    (path.toList.head? = some '/' ∨
      ∀ id, secondId path = some id → firstId path = some id)

/- A text that is no URI, or one with a safe path. -/
def SafeText (text : String) : Prop :=
  match parse text with
  | .error e => isFormatException e = true
  | .ok uri => SafePath (path uri)

/- A screen that is still there gets a safe text. -/
def Safe
    (s : HomeScreenState U)
    (link : Option String) : Prop :=
  s.mounted = true →
    ∃ text, link = some text ∧ SafeText parse path text

end HomeScreenState

end NewsCentral

------------------------------------------------------------
-- How The Listener Ends
------------------------------------------------------------

namespace NewsCentral

open Dart

namespace HomeScreenState

variable {U : Type}
variable {parse : String → Except Thrown U}
variable {path : U → String}
variable {s : HomeScreenState U}

theorem listener_of_not_mounted
    (hGone : s.mounted = false)
    (link : Option String) :
    listener parse path s link = (s, none) := by
  simp [listener, hGone]

/- Without a link there is no URI to take the path of. -/
theorem listener_null
    (hMounted : s.mounted = true) :
    listener parse path s none =
      ({ s with latestUri := none },
        some (.noSuchMethod "path")) := by
  simp [listener, hMounted, tryBody, withUri, linkedId, pure,
    Except.pure, Thrown.noSuchMethod, isFormatException]

theorem listener_of_invalid
    {text : String}
    {e : Thrown}
    (hMounted : s.mounted = true)
    (hParse : parse text = .error e) :
    listener parse path s (some text) =
      ({ s with latestUri := none },
        if isFormatException e then none else some e) := by
  cases hFormat : isFormatException e with
  | true =>
      simp [listener, hMounted, tryBody, withUri, hParse, bind,
        Except.bind, hFormat]
  | false =>
      simp [listener, hMounted, tryBody, withUri, hParse, bind,
        Except.bind, hFormat]

section

variable {text : String} {uri : U}

/- The state in which a URI has been found. -/
theorem withUri_eq
    (hParse : parse text = .ok uri) :
    withUri parse s (some text) =
      .ok { s with latestUri := some uri } := by
  simp only [withUri]
  rw [hParse]
  rfl

/- The piece that is read is the one behind the first slash. -/
theorem linkedId_of_slash
    (hUri : s.latestUri = some uri)
    (hSlash : '/' ∈ (path uri).toList) :
    linkedId path s =
      intParse
        (String.ofList
          (Pieces.before '/'
            (Pieces.behind '/' (path uri).toList))) := by
  have hAt :
      elementAt ((path uri).toList.splitOn '/') 1 =
        .ok
          (Pieces.before '/'
            (Pieces.behind '/' (path uri).toList)) := by
    rw [elementAt_eq_ok_iff, Pieces.splitOn_getElem?_one,
      if_pos hSlash]
  unfold linkedId
  rw [hUri]
  simp only [hAt]
  rw [ok_bind_eq]

theorem linkedId_of_no_slash
    (hUri : s.latestUri = some uri)
    (hNone : '/' ∉ (path uri).toList) :
    linkedId path s =
      .error (.error "RangeError" "1") := by
  have hAt :
      elementAt ((path uri).toList.splitOn '/') 1 =
        .error (.error "RangeError" "1") := by
    unfold elementAt
    rw [Pieces.splitOn_getElem?_one, if_neg hNone]
    rfl
  unfold linkedId
  rw [hUri]
  simp only [hAt]
  rfl

/- An error behind the URI is caught or not. -/
theorem listener_of_error
    {e : Thrown}
    (hMounted : s.mounted = true)
    (hParse : parse text = .ok uri)
    (hId :
      linkedId path { s with latestUri := some uri } =
        .error e) :
    listener parse path s (some text) =
      ({ s with latestUri := some uri },
        if isFormatException e then none else some e) := by
  rw [listener, if_pos hMounted, tryBody, withUri_eq hParse]
  simp only [hId]
  cases hFormat : isFormatException e with
  | true => simp [hFormat]
  | false => simp [hFormat]

theorem listener_of_no_slash
    (hMounted : s.mounted = true)
    (hParse : parse text = .ok uri)
    (hNone : '/' ∉ (path uri).toList) :
    listener parse path s (some text) =
      ({ s with latestUri := some uri },
        some (.error "RangeError" "1")) :=
  listener_of_error hMounted hParse
    (linkedId_of_no_slash rfl hNone)

theorem listener_of_no_id
    (hMounted : s.mounted = true)
    (hParse : parse text = .ok uri)
    (hSlash : '/' ∈ (path uri).toList)
    (hNone : secondId (path uri) = none) :
    listener parse path s (some text) =
      ({ s with latestUri := some uri }, none) := by
  unfold secondId at hNone
  have hId :
      linkedId path { s with latestUri := some uri } = _ :=
    linkedId_of_slash rfl hSlash
  rw [intParse, hNone] at hId
  exact listener_of_error hMounted hParse hId

theorem listener_of_id
    {id : Int}
    (hMounted : s.mounted = true)
    (hParse : parse text = .ok uri)
    (hSlash : '/' ∈ (path uri).toList)
    (hSome : secondId (path uri) = some id) :
    listener parse path s (some text) =
      ( { s with
          latestUri := some uri
          itemId := some id
          routes := s.routes + 1 },
        none) := by
  have hId :
      linkedId path { s with latestUri := some uri } =
        .ok id :=
    (linkedId_of_slash rfl hSlash).trans
      (intParse_eq_ok_iff.mpr hSome)
  rw [listener, if_pos hMounted, tryBody, withUri_eq hParse]
  simp only [hId]
  rfl

end

end HomeScreenState

end NewsCentral

------------------------------------------------------------
-- Links That Are Handled
------------------------------------------------------------

namespace NewsCentral

open Dart

namespace HomeScreenState

variable {U : Type}
variable (parse : String → Except Thrown U)
variable (path : U → String)

/- Behind a leading slash there is the first segment. -/
theorem secondId_eq_firstId
    {path : String}
    (hLeading : path.toList.head? = some '/') :
    secondId path = firstId path := by
  unfold secondId firstId
  cases hPath : path.toList with
  | nil => simp [hPath] at hLeading
  | cons c rest =>
      rw [hPath] at hLeading
      cases hLeading
      have hBehind :
          Pieces.behind '/' ('/' :: rest) = rest :=
        @Pieces.behind_append_cons _ _ _ [] rest (by simp)
      rw [hBehind]
      rfl

/- The text of an integer has no slash. -/
theorem not_mem_toString
    (id : Int) :
    '/' ∉ (toString id).toList := by
  intro hMem
  rw [← Numeral.text_ofInt] at hMem
  simp only [Numeral.text, Numeral.ofInt, List.append_nil,
    List.mem_append] at hMem
  rcases hMem with hSign | hDigit
  · split at hSign
    · cases hSign
    · simp at hSign
  · exact absurd (isDigit_of_mem_toDigits _ hDigit) (by decide)

/- A link with the id of a post opens the post. -/
theorem listener_item
    {s : HomeScreenState U}
    {text : String}
    {uri : U}
    {id : Int}
    {rest : List Char}
    (hMounted : s.mounted = true)
    (hParse : parse text = .ok uri)
    (hId : isInt64 id = true)
    (hRest : ∀ c ∈ rest.head?, c = '/')
    (hPath :
      (path uri).toList =
        '/' :: ((toString id).toList ++ rest)) :
    (listener parse path s (some text)).2 = none ∧
      Navigates s (listener parse path s (some text)).1
        id := by
  have hPiece :
      Pieces.before '/' ((toString id).toList ++ rest) =
        (toString id).toList := by
    cases rest with
    | nil =>
        rw [List.append_nil,
          Pieces.before_of_not_mem (not_mem_toString id)]
    | cons c rest =>
        rw [hRest c rfl,
          Pieces.before_append_cons (not_mem_toString id)]
  have hSecond : secondId (path uri) = some id := by
    rw [secondId_eq_firstId (by rw [hPath]; rfl), firstId,
      hPath]
    simp only [relative]
    rw [hPiece, String.ofList_toList, intTryParse_toString,
      if_pos hId]
  rw [listener_of_id hMounted hParse (by simp [hPath])
    hSecond]
  exact ⟨rfl, rfl, rfl⟩

/- Without an error, a link may be ignored. -/
theorem handled_of_ignored
    {s t : HomeScreenState U}
    {link : Option String}
    (hEnd : listener parse path s link = (t, none))
    (hRoutes : t.routes = s.routes)
    (hItem : t.itemId = s.itemId) :
    Handled parse path s link := by
  refine ⟨by rw [hEnd], .inr ?_⟩
  rw [hEnd]
  exact ⟨hRoutes, hItem⟩

theorem not_handled_of_uncaught
    {s t : HomeScreenState U}
    {link : Option String}
    {e : Thrown}
    (hEnd : listener parse path s link = (t, some e)) :
    ¬ Handled parse path s link := by
  rintro ⟨hComplete, _⟩
  rw [hEnd] at hComplete
  cases hComplete

/- An integer that is followed has to be the first one. -/
theorem handled_id_iff
    {s : HomeScreenState U}
    {text : String}
    {uri : U}
    {id : Int}
    (hMounted : s.mounted = true)
    (hParse : parse text = .ok uri)
    (hSlash : '/' ∈ (path uri).toList)
    (hSecond : secondId (path uri) = some id) :
    Handled parse path s (some text) ↔
      firstId (path uri) = some id := by
  have hEnd := listener_of_id hMounted hParse hSlash hSecond
  constructor
  · rintro ⟨_, ⟨_, hLinked, hGo⟩ | hStay⟩
    · rcases hLinked with ⟨_, _, hText, hUri, hFirst⟩
      cases hText
      cases hParse.symm.trans hUri
      rw [hEnd] at hGo
      cases hGo.2
      exact hFirst
    · rw [hEnd] at hStay
      exact absurd hStay.1 (Nat.succ_ne_self s.routes)
  · intro hFirst
    refine ⟨by rw [hEnd], .inl ⟨id, ?_, ?_⟩⟩
    · exact ⟨text, uri, rfl, hParse, hFirst⟩
    · rw [hEnd]
      exact ⟨rfl, rfl⟩

/- A link without a slash in its path is not handled. -/
theorem handled_uri_iff
    {s : HomeScreenState U}
    {text : String}
    {uri : U}
    (hMounted : s.mounted = true)
    (hParse : parse text = .ok uri) :
    Handled parse path s (some text) ↔
      SafePath (path uri) := by
  by_cases hSlash : '/' ∈ (path uri).toList
  · cases hSecond : secondId (path uri) with
    | none =>
        refine iff_of_true ?_ ⟨hSlash, .inr ?_⟩
        · exact handled_of_ignored parse path
            (listener_of_no_id hMounted hParse hSlash hSecond)
            rfl rfl
        · intro id hSome
          cases hSecond.symm.trans hSome
    | some id =>
        rw [handled_id_iff parse path hMounted hParse hSlash
          hSecond]
        constructor
        · intro hFirst
          refine ⟨hSlash, .inr ?_⟩
          intro other hOther
          cases hSecond.symm.trans hOther
          exact hFirst
        · rintro ⟨_, hLeading | hSame⟩
          · rw [← secondId_eq_firstId hLeading, hSecond]
          · exact hSame id hSecond
  · refine iff_of_false ?_ fun hSafe => hSlash hSafe.1
    exact not_handled_of_uncaught parse path
      (listener_of_no_slash hMounted hParse hSlash)

/- A text that is no URI is ignored or not caught. -/
theorem handled_invalid_iff
    {s : HomeScreenState U}
    {text : String}
    {e : Thrown}
    (hMounted : s.mounted = true)
    (hParse : parse text = .error e) :
    Handled parse path s (some text) ↔
      isFormatException e = true := by
  have hEnd :=
    @listener_of_invalid _ parse path s _ _ hMounted hParse
  by_cases hFormat : isFormatException e = true
  · rw [if_pos hFormat] at hEnd
    exact iff_of_true
      (handled_of_ignored parse path hEnd rfl rfl) hFormat
  · rw [if_neg hFormat] at hEnd
    exact iff_of_false
      (not_handled_of_uncaught parse path hEnd) hFormat

/-
  A link is handled exactly if the screen is gone or the
  link is a safe text.
-/
theorem handled_iff
    (s : HomeScreenState U)
    (link : Option String) :
    Handled parse path s link ↔ Safe parse path s link := by
  cases hMounted : s.mounted with
  | false =>
      refine iff_of_true ?_ fun hStill => ?_
      · exact handled_of_ignored parse path
          (listener_of_not_mounted hMounted link) rfl rfl
      · rw [hMounted] at hStill
        cases hStill
  | true =>
      cases link with
      | none =>
          refine iff_of_false ?_ fun hSafe => ?_
          · exact not_handled_of_uncaught parse path
              (listener_null hMounted)
          · rcases hSafe hMounted with ⟨_, hText, _⟩
            cases hText
      | some text =>
          have hOne :
              Safe parse path s (some text) ↔
                SafeText parse path text := by
            simp [Safe, hMounted]
          rw [hOne, SafeText]
          cases hParse : parse text with
          | error e =>
              exact handled_invalid_iff parse path hMounted
                hParse
          | ok uri =>
              exact handled_uri_iff parse path hMounted hParse

/- Without a link, and without a path, an error is left. -/
theorem handled_fails :
    ¬ Handled (fun _ => .ok ()) (fun _ => "")
        ⟨true, none, none, 0⟩ none ∧
      ¬ Handled (fun _ => .ok ()) (fun _ => "")
        ⟨true, none, none, 0⟩
        (some "https://www.newscentral.africa") := by
  refine ⟨?_, ?_⟩
  · rintro ⟨hComplete, _⟩
    exact absurd hComplete (by decide)
  · rintro ⟨hComplete, _⟩
    exact absurd hComplete (by decide)

end HomeScreenState

end NewsCentral
