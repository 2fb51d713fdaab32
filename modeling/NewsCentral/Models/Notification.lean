import NewsCentral.Dart.Json

/-
  Push notifications, as `lib/models/notification.dart`
  decodes and stores them.

  `DateTime.now().toString()` is the argument `now`, and
  `DateTime.parse(date).toString()` the function `reparse`,
  none where the parser throws.

  Key definitions include:
    * `NewsCentral.FStoreNotification`
    * `NewsCentral.FStoreNotification.fromJsonFirebase`
    * `NewsCentral.FStoreNotification.fromOneSignal`
    * `NewsCentral.FStoreNotification.fromLocalStorage`
    * `NewsCentral.FStoreNotification.toJson`

  Key theorems include:
    * `NewsCentral.FStoreNotification.fromLocalStorage_of_texts`
    * `NewsCentral.FStoreNotification.said_fromLocalStorage`
-/

------------------------------------------------------------
-- Notifications
------------------------------------------------------------

namespace NewsCentral

open Dart

/- A notification; the fields are those of the source. -/
structure FStoreNotification where
  body : Option String := none
  title : Option String := none
  seen : Option Bool := none
  date : Option String := none
deriving DecidableEq

namespace FStoreNotification

/- `data` when it is a map with a key, else `notification`. -/
def firebasePayload (json : Json) : Except Thrown Json := do
  match ← json.index "data" with
  | .null => json.index "notification"
  | .obj [] => json.index "notification"
  | .obj fields => return .obj fields
  | _ => throw (.noSuchMethod "keys")

/- Decode a Firebase message. -/
def fromJsonFirebase
    (now : String)
    (json : Json) : FStoreNotification :=
  let notification := firebasePayload json
  tryEach
    [ assign (do (← notification).text "body")
        fun n v => { n with body := v },
      assign (do (← notification).text "title")
        fun n v => { n with title := v },
      assign (.ok (some false))
        fun n v => { n with seen := v },
      assign (.ok (some now))
        fun n v => { n with date := v } ]
    {}

/- Take over the payload of a OneSignal message. -/
def fromOneSignal
    (now : String)
    (title body : Option String) : FStoreNotification where
  title := some (title.getD "")
  body := some (body.getD "")
  date := some now
  seen := some false

/- What is stored of a notification. -/
def toJson (n : FStoreNotification) : Json :=
  .obj
    [ ("body", .ofString? n.body),
      ("title", .ofString? n.title),
      ("seen", .ofBool? n.seen),
      ("date", .ofString? n.date) ]

/- `j?.isNotEmpty ?? false` of a dynamic value. -/
def isNotEmpty : Json → Except Thrown Bool
  | .null => .ok false
  | .str s => .ok (s ≠ "")
  | .arr items => .ok !items.isEmpty
  | .obj fields => .ok !fields.isEmpty
  | _ => .error (.noSuchMethod "isNotEmpty")

/- The date in the form it prints, empty when null. -/
def localDate
    (reparse : String → Option String)
    (json : Json) : Except Thrown String := do
  match ← (← json.index "date").asString with
  | none => return ""
  | some date =>
      match reparse date with
      | none => throw (.error "FormatException" date)
      | some printed => return printed

/-
  Read a stored notification back; one without body or
  title is read as a blank one, and none is read as seen.
-/
def fromLocalStorage
    (reparse : String → Option String)
    (json : Json) : FStoreNotification :=
  let shown : Except Thrown Bool := do
    if ← isNotEmpty (← json.index "body") then
      isNotEmpty (← json.index "title")
    else
      return false
  match shown with
  | .ok true =>
      tryEach
        [ assign (json.text "body")
            fun n v => { n with body := v },
          assign (json.text "title")
            fun n v => { n with title := v },
          assign (localDate reparse json)
            fun n v => { n with date := some v },
          assign (.ok (some false))
            fun n v => { n with seen := v } ]
        {}
  | _ => {}

/-
  With body and title there, the date is reparsed and the
  flag is reset.
-/
theorem fromLocalStorage_of_texts
    {reparse : String → Option String}
    {n : FStoreNotification}
    {date : String}
    (hBody : n.body.getD "" ≠ "")
    (hTitle : n.title.getD "" ≠ "")
    (hDate : n.date = some date)
    (hReparse : reparse date = some date) :
    fromLocalStorage reparse n.toJson =
      { n with seen := some false } := by
  rcases n with ⟨body, title, seen, _⟩
  cases hDate
  cases body with
  | none => exact absurd rfl hBody
  | some body =>
      cases title with
      | none => exact absurd rfl hTitle
      | some title =>
          have hBodyText : body ≠ "" := hBody
          have hTitleText : title ≠ "" := hTitle
          simp [fromLocalStorage, toJson, Json.index,
            Json.field, List.lookup_cons, isNotEmpty,
            hBodyText, hTitleText, Json.ofString?,
            Json.asString, localDate, hReparse, bind,
            Except.bind, pure, Except.pure]

/- What a notification says, whether seen or not. -/
def said
    (n : FStoreNotification) :
    Option String × Option String × Option String :=
  (n.body, n.title, n.date)

/-
  Body and title are there, and the date is printed the way
  it is parsed.
-/
def Rereadable
    (reparse : String → Option String)
    (n : FStoreNotification) : Prop :=
  n.body.getD "" ≠ "" ∧ n.title.getD "" ≠ "" ∧
    n.date ≠ none ∧ n.date.bind reparse = n.date

instance
    (reparse : String → Option String)
    (n : FStoreNotification) :
    Decidable (n.Rereadable reparse) := by
  unfold Rereadable
  infer_instance

/- Such a notification is read back as it was stored. -/
theorem said_fromLocalStorage
    {reparse : String → Option String}
    {n : FStoreNotification}
    (hRead : n.Rereadable reparse) :
    (fromLocalStorage reparse n.toJson).said = n.said := by
  rcases hRead with ⟨hBody, hTitle, hDate, hReparse⟩
  rcases Option.ne_none_iff_exists'.mp hDate with
    ⟨date, hSome⟩
  have hPrinted : reparse date = some date := by
    rw [hSome] at hReparse
    exact hReparse
  rw [fromLocalStorage_of_texts hBody hTitle hSome hPrinted]
  rfl

end FStoreNotification

end NewsCentral
