import NewsCentral.Dart.JsonRoundTrip
import NewsCentral.Notifications.Program

/-
  The stored texts of notifications, and the two screens
  that decode them.

  The storage keeps a list of texts.  The announcement
  screen decodes an entry when it is tapped, the settings
  screen the whole list when it is built.  Opening an entry
  writes what was decoded over the stored text.

  Key definitions include:
    * `NewsCentral.FStoreNotification.stored`
    * `NewsCentral.FStoreNotification.updateSeen`
    * `NewsCentral.parseFromListJson`
    * `NewsCentral.tapped`
    * `NewsCentral.FStoreNotification.Kept`

  Key theorems include:
    * `NewsCentral.FStoreNotification.fromLocalStorage_eq_iff`
    * `NewsCentral.FStoreNotification.seen_fromLocalStorage`
    * `NewsCentral.FStoreNotification.kept_iff`
-/

------------------------------------------------------------
-- Stored Texts
------------------------------------------------------------

namespace NewsCentral

open Dart

/- What is under the key "notifications", null when absent. -/
abbrev StoredNotifications :=
  Option (List (Option String))

namespace FStoreNotification

/- `convert.jsonEncode(toJson())` -/
def stored (n : FStoreNotification) : Except Thrown String :=
  jsonEncode n.toJson

/- A notification is decoded from a stored text. -/
def decoded
    (doubles : Doubles)
    (reparse : String → Option String)
    (item : String) : Except Thrown FStoreNotification := do
  let json ← (← jsonDecode doubles item).asMap
  return fromLocalStorage reparse json

/-
  `updateSeen` once the storage is ready; past the end of
  the list it throws, and the list stays.
-/
def updateSeen
    (n : FStoreNotification)
    (index : Nat)
    (list : StoredNotifications) : StoredNotifications :=
  let items := list.getD []
  match stored { n with seen := some true } with
  | .error _ => list
  | .ok text =>
      if index < items.length then
        some (items.set index (some text))
      else
        list

end FStoreNotification

/- An entry of the list; null stays null. -/
def parseItem
    (doubles : Doubles)
    (reparse : String → Option String)
    (item : Option String) :
    Except Thrown (Option FStoreNotification) :=
  match item with
  | none => .ok none
  | some item => do
      return some
        (← FStoreNotification.decoded doubles reparse item)

/- The parsed list of the settings screen. -/
def parseFromListJson
    (doubles : Doubles)
    (reparse : String → Option String)
    (listNotify : StoredNotifications) :
    Except Thrown (Option (List (Option FStoreNotification))) :=
  match listNotify with
  | none => .ok none
  | some items => do
      return some (← items.mapM (parseItem doubles reparse))

------------------------------------------------------------
-- The Screens
------------------------------------------------------------

/-
  The notification a tap on the entry at an index calls
  `updateSeen` on, if an entry with a date is there to tap.
-/
def tapped
    (doubles : Doubles)
    (reparse : String → Option String)
    (list : StoredNotifications)
    (index : Nat) :
    Notifications.Screen → Option FStoreNotification
  | .announcements => do
      let item ← (← list)[index]?
      let json ← (jsonDecode doubles (← item)).toOption
      let date ← (json.index "date").toOption
      if date = .null then
        none
      else do
        let data ← json.asMap.toOption
        some (.fromLocalStorage reparse data)
  | .settings => do
      let data ←
        (parseFromListJson doubles reparse list).toOption
      let note ← (← data)[index]?
      let note ← note
      if note.date = none then none else some note

namespace FStoreNotification

/- The text of a notification. -/
def text (n : FStoreNotification) : String :=
  String.ofList n.toJson.write

/- The stored list of some notifications. -/
def texts (notes : List FStoreNotification) :
    StoredNotifications :=
  some (notes.map fun n => some n.text)

/- A notification that was opened. -/
def marked (n : FStoreNotification) : FStoreNotification :=
  { n with seen := some true }

/-
  A notification built from a push message at a time whose
  text is parsed to itself, and perhaps opened since.
-/
inductive Built
    (reparse : String → Option String) :
    FStoreNotification → Prop where
  | jsonFirebase
      (now : String)
      (message : Json)
      (hNow : reparse now = some now) :
      Built reparse (fromJsonFirebase now message)
  | oneSignal
      (now : String)
      (title body : Option String)
      (hNow : reparse now = some now) :
      Built reparse (fromOneSignal now title body)
  | marked
      (n : FStoreNotification)
      (hBuilt : Built reparse n) :
      Built reparse n.marked

/-
  Each text is decoded to the notification it was made of,
  opening an entry changes its seen flag and nothing else,
  and seen entries are parsed as seen.
-/
structure Kept
    (doubles : Doubles)
    (reparse : String → Option String)
    (notes : List FStoreNotification) : Prop where
  decoded :
    ∀ n ∈ notes, ∀ item,
      n.stored = .ok item →
      decoded doubles reparse item = .ok n
  opened :
    ∀ screen index note,
      tapped doubles reparse (texts notes) index screen =
        some note →
      note.updateSeen index (texts notes) =
        texts (notes.modify index marked)
  shownSeen :
    ∃ data,
      parseFromListJson doubles reparse (texts notes) =
        .ok (some data) ∧
      ∀ (index : Nat) (n : FStoreNotification),
        notes[index]? = some n →
        n.seen = some true →
        ∃ shown : FStoreNotification,
          data[index]? = some (some shown) ∧
            shown.seen = some true

/-
  The notification has not been opened, and body and title
  are there; or nothing was read of its message at all.
-/
def Faithful (n : FStoreNotification) : Prop :=
  n = {} ∨
    n.body.getD "" ≠ "" ∧ n.title.getD "" ≠ "" ∧
      n.seen ≠ some true

instance (n : FStoreNotification) :
    Decidable n.Faithful := by
  unfold Faithful
  infer_instance

end FStoreNotification

end NewsCentral

------------------------------------------------------------
-- Decoding A Stored Text
------------------------------------------------------------

namespace NewsCentral

open Dart

namespace FStoreNotification

variable {doubles : Doubles}
variable {reparse : String → Option String}

/- A record is encoded, and decoded to itself. -/
theorem stored_eq
    (n : FStoreNotification) :
    n.stored = .ok n.text := by
  have hFinite : n.toJson.isFinite = true := by
    simp only [toJson, Json.isFinite, Json.isFiniteFields,
      Json.isFinite_ofString?, Json.isFinite_ofBool?,
      Bool.and_true]
  rw [stored, jsonEncode, if_pos hFinite, text]

theorem jsonDecode_text
    (n : FStoreNotification) :
    jsonDecode doubles n.text = .ok n.toJson := by
  refine jsonDecode_of_jsonEncode ?_ n.stored_eq
  simp only [toJson, Json.isDecoded, Json.isDecodedFields,
    Json.isDecoded_ofString?, Json.isDecoded_ofBool?,
    Bool.and_true, decide_eq_true_iff, List.map_cons,
    List.map_nil]
  decide

theorem decoded_text
    (n : FStoreNotification) :
    decoded doubles reparse n.text =
      .ok (fromLocalStorage reparse n.toJson) := by
  rw [decoded, jsonDecode_text]
  rfl

/- Nothing is ever read as seen. -/
theorem seen_fromLocalStorage
    (json : Json) :
    (fromLocalStorage reparse json).seen ≠ some true := by
  simp only [fromLocalStorage]
  split
  · refine @tryEach_invariant FStoreNotification
      (fun n => n.seen ≠ some true) _ ?_ {} (by simp)
    intro statement hMem a b hSeen hResult
    simp only [List.mem_cons, List.not_mem_nil, or_false]
      at hMem
    rcases hMem with rfl | rfl | rfl | rfl <;>
      rcases ok_of_assign hResult with ⟨v, hValue, rfl⟩
    · exact hSeen
    · exact hSeen
    · exact hSeen
    · cases hValue
      simp
  · simp

theorem isNotEmpty_ofString?
    (s : Option String) :
    isNotEmpty (.ofString? s) =
      .ok (decide (s.getD "" ≠ "")) := by
  cases s <;> simp [Json.ofString?, isNotEmpty]

/- Without body or title nothing is read. -/
theorem fromLocalStorage_of_blank
    {n : FStoreNotification}
    (hBlank : n.body.getD "" = "" ∨ n.title.getD "" = "") :
    fromLocalStorage reparse n.toJson = {} := by
  have hBody : n.toJson.index "body" = .ok (.ofString? n.body) :=
    rfl
  have hTitle :
      n.toJson.index "title" = .ok (.ofString? n.title) :=
    rfl
  unfold fromLocalStorage
  simp only [hBody, hTitle, isNotEmpty_ofString?, bind,
    Except.bind, pure, Except.pure]
  rcases hBlank with hBlank | hBlank
  · simp [hBlank]
  · by_cases hEmpty : n.body.getD "" = "" <;>
      simp [hBlank, hEmpty]

/- A message whose title is read is read to its end. -/
theorem fromJsonFirebase_complete
    {now : String}
    {message : Json}
    (hTitle : (fromJsonFirebase now message).title ≠ none) :
    (fromJsonFirebase now message).seen = some false ∧
      (fromJsonFirebase now message).date = some now := by
  revert hTitle
  simp only [fromJsonFirebase]
  cases firebasePayload message with
  | error e => exact fun hTitle => absurd rfl hTitle
  | ok payload =>
      simp only [bind, Except.bind]
      cases payload.text "body" with
      | error e => exact fun hTitle => absurd rfl hTitle
      | ok body =>
          cases payload.text "title" with
          | error e => exact fun hTitle => absurd rfl hTitle
          | ok title => exact fun _ => ⟨rfl, rfl⟩

/- A built notification with a title has a known date. -/
theorem Built.date
    {n : FStoreNotification}
    (hBuilt : Built reparse n)
    (hTitle : n.title.getD "" ≠ "") :
    (∃ seen, n.seen = some seen) ∧
      ∃ date, n.date = some date ∧
        reparse date = some date := by
  induction hBuilt with
  | jsonFirebase now message hNow =>
      have hSome :
          (fromJsonFirebase now message).title ≠ none := by
        intro hNone
        rw [hNone] at hTitle
        exact hTitle rfl
      rcases fromJsonFirebase_complete hSome with
        ⟨hSeen, hDate⟩
      exact ⟨⟨false, hSeen⟩, now, hDate, hNow⟩
  | oneSignal now title body hNow =>
      exact ⟨⟨false, rfl⟩, now, rfl, hNow⟩
  | marked n _ ih =>
      exact ⟨⟨true, rfl⟩, (ih hTitle).2⟩

/- What is read back is what was stored, or it is not. -/
theorem fromLocalStorage_eq_iff
    {n : FStoreNotification}
    (hBuilt : Built reparse n) :
    fromLocalStorage reparse n.toJson = n ↔ n.Faithful := by
  by_cases hTexts :
      n.body.getD "" ≠ "" ∧ n.title.getD "" ≠ ""
  · rcases hTexts with ⟨hBody, hTitle⟩
    rcases hBuilt.date hTitle with
      ⟨⟨seen, hSeen⟩, date, hDate, hReparse⟩
    rw [fromLocalStorage_of_texts hBody hTitle hDate hReparse]
    constructor
    · intro hEq
      refine .inr ⟨hBody, hTitle, ?_⟩
      rw [← hEq]
      simp
    · rintro (rfl | ⟨_, _, hUnseen⟩)
      · exact absurd rfl hBody
      · have hFalse : n.seen = some false := by
          cases seen with
          | false => exact hSeen
          | true => exact absurd hSeen hUnseen
        rw [← hFalse]
  · have hBlank :
        n.body.getD "" = "" ∨ n.title.getD "" = "" := by
      by_contra hNone
      rw [not_or] at hNone
      exact hTexts hNone
    rw [fromLocalStorage_of_blank hBlank]
    constructor
    · intro hEq
      exact .inl hEq.symm
    · rintro (rfl | ⟨hBody, hTitle, _⟩)
      · rfl
      · exact absurd ⟨hBody, hTitle⟩ hTexts

end FStoreNotification

end NewsCentral

------------------------------------------------------------
-- Opening An Entry
------------------------------------------------------------

namespace NewsCentral

open Dart

namespace FStoreNotification

variable {doubles : Doubles}
variable {reparse : String → Option String}
variable {notes : List FStoreNotification}

/- The settings screen parses each stored text. -/
theorem parseFromListJson_texts :
    parseFromListJson doubles reparse (texts notes) =
      .ok (some
        (notes.map fun n =>
          some (fromLocalStorage reparse n.toJson))) := by
  have hItems :
      (notes.map fun n => some n.text).mapM
          (parseItem doubles reparse) =
        .ok
          (notes.map fun n =>
            some (fromLocalStorage reparse n.toJson)) := by
    refine mapM_of_forall₂ ?_
    rw [List.forall₂_map_left_iff,
      List.forall₂_map_right_iff, List.forall₂_same]
    intro n _
    rw [parseItem, decoded_text]
    rfl
  rw [texts, parseFromListJson, hItems]
  rfl

/-
  What a tap hands over of a stored notification: the
  announcement screen looks at the stored date, the settings
  screen at the one it parsed.
-/
def handedOver
    (reparse : String → Option String)
    (screen : Notifications.Screen)
    (n : FStoreNotification) : Option FStoreNotification :=
  let note := fromLocalStorage reparse n.toJson
  match screen with
  | .announcements => if n.date = none then none else some note
  | .settings => if note.date = none then none else some note

theorem tapped_texts
    (screen : Notifications.Screen)
    (index : Nat) :
    tapped doubles reparse (texts notes) index screen =
      notes[index]?.bind (handedOver reparse screen) := by
  cases screen with
  | announcements =>
      simp only [tapped, texts, Option.bind_eq_bind,
        Option.bind_some, List.getElem?_map]
      cases notes[index]? with
      | none => rfl
      | some n =>
          have hIndex :
              n.toJson.index "date" = .ok (.ofString? n.date) :=
            rfl
          have hMap : n.toJson.asMap = .ok n.toJson := rfl
          simp only [Option.map_some, Option.bind_some,
            jsonDecode_text, hIndex, hMap, Except.toOption,
            handedOver]
          cases n.date <;> rfl
  | settings =>
      simp only [tapped, parseFromListJson_texts,
        Option.bind_eq_bind, Except.toOption,
        Option.bind_some, List.getElem?_map]
      cases notes[index]? <;> rfl

/- What is tapped was read from the text at its index. -/
theorem exists_of_tapped
    {screen : Notifications.Screen}
    {index : Nat}
    {note : FStoreNotification}
    (hTapped :
      tapped doubles reparse (texts notes) index screen =
        some note) :
    ∃ n, notes[index]? = some n ∧
      note = fromLocalStorage reparse n.toJson := by
  rw [tapped_texts, Option.bind_eq_some_iff] at hTapped
  rcases hTapped with ⟨n, hFound, hNote⟩
  refine ⟨n, hFound, ?_⟩
  cases screen <;> simp only [handedOver] at hNote <;>
    split at hNote <;> cases hNote <;> rfl

/- Opening writes the text of what was read, marked. -/
theorem updateSeen_texts
    {index : Nat}
    (hIndex : index < notes.length)
    (note : FStoreNotification) :
    note.updateSeen index (texts notes) =
      texts (notes.set index note.marked) := by
  simp only [updateSeen, stored_eq, texts, Option.getD_some,
    List.length_map, hIndex, if_true, List.map_set]
  rfl

/- If it was read as it was, only the mark is new. -/
theorem updateSeen_texts_same
    {index : Nat}
    {n : FStoreNotification}
    (hFound : notes[index]? = some n) :
    n.updateSeen index (texts notes) =
      texts (notes.modify index marked) := by
  rcases List.getElem?_eq_some_iff.mp hFound with
    ⟨hIndex, hAt⟩
  rw [updateSeen_texts hIndex]
  refine congrArg texts (List.ext_getElem? fun i => ?_)
  by_cases hSame : index = i
  · subst hSame
    simp [hIndex, hAt]
  · simp [hSame]

end FStoreNotification

namespace Notifications

variable {doubles : Doubles}
variable {reparse : String → Option String}
variable {s : Notifications}

/- The stored list, as the texts it consists of. -/
def storedTexts (s : Notifications) : StoredNotifications :=
  FStoreNotification.texts
    (s.entries.map NotificationEntry.note)

/-
  The model whose entries are notifications agrees with the
  stored texts: a tap right after the screens were built
  hands over what is read from the text.
-/
theorem tapped_storedTexts
    (hData : s.data = s.list)
    (hAnnouncements : s.announcements = s.entries)
    (hSettings : s.settings = s.entries)
    (screen : Screen)
    (index : Nat) :
    NewsCentral.tapped doubles reparse s.storedTexts index
        screen =
      (s.tapped reparse screen index).bind Prod.snd := by
  rw [storedTexts, FStoreNotification.tapped_texts,
    List.getElem?_map]
  cases screen with
  | announcements =>
      have hListed : s.listed s.data = s.entries := by
        rw [hData, entries]
      simp only [tapped, hAnnouncements, hListed]
      cases s.entries[index]? with
      | none => rfl
      | some e =>
          simp only [Option.map_some, Option.bind_some,
            FStoreNotification.handedOver]
          split <;> rfl
  | settings =>
      simp only [tapped, hSettings]
      cases s.entries[index]? with
      | none => rfl
      | some e =>
          simp only [Option.map_some, Option.bind_some,
            FStoreNotification.handedOver]
          split <;> rfl

/- So does the write when the storage is ready. -/
theorem storedTexts_updateSeen
    {r : Ref}
    (hList : s.list = some r)
    (hValid : r < s.heap.size)
    (n : FStoreNotification)
    (index : Nat) :
    (s.updateSeen n.marked index).1.storedTexts =
      n.updateSeen index s.storedTexts := by
  have hEntries := entries_of_list hList
  simp only [updateSeen, hList, storedTexts,
    FStoreNotification.updateSeen,
    FStoreNotification.stored_eq, FStoreNotification.texts,
    hEntries, Option.getD_some, List.length_map]
  cases hFound : (s.heap.read r)[index]? with
  | none =>
      have hPast : ¬ index < (s.heap.read r).length := by
        simpa using hFound
      rw [if_neg hPast]
      simp only [hEntries]
  | some e =>
      have hWithin : index < (s.heap.read r).length :=
        (List.getElem?_eq_some_iff.mp hFound).1
      rw [if_pos hWithin]
      simp only [entries, listed,
        Heap.read_write_same hValid, List.map_set, overwrite]
      rfl

end Notifications

end NewsCentral

------------------------------------------------------------
-- What A Stored List Keeps
------------------------------------------------------------

namespace NewsCentral

open Dart

namespace FStoreNotification

/- The list is kept exactly if each entry is faithful. -/
theorem kept_iff
    (doubles : Doubles)
    (reparse : String → Option String)
    (notes : List FStoreNotification)
    (hBuilt : ∀ n ∈ notes, Built reparse n) :
    Kept doubles reparse notes ↔
      ∀ n ∈ notes, n.Faithful := by
  constructor
  · intro hKept n hMem
    have hDecoded := hKept.decoded n hMem n.text n.stored_eq
    rw [decoded_text] at hDecoded
    exact (fromLocalStorage_eq_iff (hBuilt n hMem)).mp
      (Except.ok.inj hDecoded)
  · intro hFaithful
    have hSame :
        ∀ n ∈ notes, fromLocalStorage reparse n.toJson = n :=
      fun n hMem =>
        (fromLocalStorage_eq_iff (hBuilt n hMem)).mpr
          (hFaithful n hMem)
    refine ⟨?_, ?_, ?_⟩
    · intro n hMem item hStored
      rw [stored_eq] at hStored
      cases hStored
      rw [decoded_text, hSame n hMem]
    · intro screen index note hTapped
      rcases exists_of_tapped hTapped with ⟨n, hFound, rfl⟩
      rw [hSame n (List.mem_of_getElem? hFound)]
      exact updateSeen_texts_same hFound
    · refine ⟨_, parseFromListJson_texts, ?_⟩
      intro index n hFound hSeen
      rcases hFaithful n (List.mem_of_getElem? hFound) with
        rfl | ⟨_, _, hUnseen⟩
      · cases hSeen
      · exact absurd hSeen hUnseen

/- A message of the day, and one nothing is read of. -/
def arrived : List FStoreNotification :=
  [ fromOneSignal "2020-05-01 08:00:00.000" (some "News")
      (some "Good morning"),
    fromJsonFirebase "2020-05-01 08:00:00.000" .null ]

theorem kept_arrived :
    Kept .asWritten some arrived :=
  (kept_iff .asWritten some arrived (by
    intro n hMem
    simp only [arrived, List.mem_cons, List.not_mem_nil,
      or_false] at hMem
    rcases hMem with rfl | rfl
    · exact .oneSignal _ _ _ rfl
    · exact .jsonFirebase _ _ rfl)).mpr (by decide)

/- The message of the day, opened, and one without title. -/
def opened : FStoreNotification :=
  (fromOneSignal "2020-05-01 08:00:00.000" (some "News")
    (some "Good morning")).marked

def untitled : FStoreNotification :=
  fromOneSignal "2020-05-01 08:00:00.000" none
    (some "Good morning")

/-
  An opened entry is shown as not seen, and opening one
  without title erases its body and its date.
-/
theorem seen_and_texts_lost :
    Built some opened ∧ Built some untitled ∧
      ¬ Kept .asWritten some [opened] ∧
      parseFromListJson .asWritten some (texts [opened]) =
        .ok (some [some { opened with seen := some false }]) ∧
      ¬ Kept .asWritten some [untitled] ∧
      tapped .asWritten some (texts [untitled]) 0
          .announcements =
        some {} ∧
      updateSeen {} 0 (texts [untitled]) =
        texts [{ seen := some true }] := by
  have hOpened : Built some opened :=
    .marked _ (.oneSignal _ _ _ rfl)
  have hUntitled : Built some untitled :=
    .oneSignal _ _ _ rfl
  have hNotKept :
      ∀ n, Built some n → ¬ n.Faithful →
        ¬ Kept .asWritten some [n] := by
    intro n hBuilt hNot hKept
    have hDecoded :=
      hKept.decoded n (by simp) n.text n.stored_eq
    rw [decoded_text] at hDecoded
    exact hNot ((fromLocalStorage_eq_iff hBuilt).mp
      (Except.ok.inj hDecoded))
  refine ⟨hOpened, hUntitled,
    hNotKept opened hOpened (by decide), ?_,
    hNotKept untitled hUntitled (by decide), ?_, ?_⟩
  · rw [parseFromListJson_texts]
    rfl
  · rw [tapped_texts]
    rfl
  · exact updateSeen_texts (by decide) {}

end FStoreNotification

end NewsCentral
