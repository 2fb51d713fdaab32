import NewsCentral.Notifications.Program

/-
  When a tap or a swipe acts on the notification it meant.

  Abstractly the entries change by identity: a tap marks the
  tapped entry as seen, a swipe removes the swiped one, an
  arrival comes first.  The code addresses entries by the
  position they were shown at.  The stored list refines the
  abstract one as long as that position still holds the
  entry when the list is written.

  Key definitions include:
    * `NewsCentral.Notifications.AtIndex`
    * `NewsCentral.Notifications.shownCall`
    * `NewsCentral.Notifications.shownResume`
    * `NewsCentral.Notifications.ShownInvariant`

  Key theorems include:
    * `NewsCentral.Notifications.ShownInvariant.call`
    * `NewsCentral.Notifications.ShownInvariant.resume`
    * `NewsCentral.Notifications.entries_intended_of_run`
-/

------------------------------------------------------------
-- Steps That Meet The Entry They Mean
------------------------------------------------------------

namespace NewsCentral

open Dart EventLoop

namespace Notifications

/-
  The position holds the entry, or the entry is gone and so
  is the position.
-/
def AtIndex
    (s : Notifications)
    (index : Nat)
    (arrival : Arrival) : Prop :=
  s.entries[index]?.map NotificationEntry.arrival =
      some arrival ∨
    (arrival ∉ s.entries.map NotificationEntry.arrival ∧
      s.entries.length ≤ index)

instance
    (s : Notifications)
    (index : Nat)
    (arrival : Arrival) :
    Decidable (AtIndex s index arrival) := by
  unfold AtIndex
  infer_instance

/- The entry a tap reads, given the entry that was shown. -/
def read
    (s : Notifications)
    (index : Nat) : Screen → Option NotificationEntry
  | .announcements => (s.listed s.data)[index]?
  | .settings => s.settings[index]?

/- The entry a screen shows at an index. -/
def shown
    (s : Notifications)
    (index : Nat) : Screen → Option NotificationEntry
  | .announcements => s.announcements[index]?
  | .settings => s.settings[index]?

/-
  A tap reads the entry that is shown, and can read all of
  it back.
-/
def shownCall
    (reparse : String → Option String)
    (s : Notifications)
    (_ : List Point) : Op → Prop
  | .showAlert screen index =>
      match s.read index screen with
      | none => True
      | some e =>
          e.note.Rereadable reparse ∧
            (s.shown index screen).map
                NotificationEntry.arrival =
              some e.arrival
  | _ => True

/-
  A change of an entry finds it at its position, and an
  arrival that found no list still finds none.
-/
def shownResume
    (s : Notifications)
    (_ : List Point)
    (k : Point)
    (ready : Ready) : Prop :=
  ready.works = true →
    match k with
    | .seenReady _ index tapped => AtIndex s index tapped
    | .removeReady index swiped => AtIndex s index swiped
    | .saveMessageId _ _ none => s.list = none
    | _ => True

instance
    (reparse : String → Option String)
    (s : Notifications)
    (pending : List Point)
    (op : Op) :
    Decidable (shownCall reparse s pending op) := by
  unfold shownCall
  split
  · split <;> infer_instance
  · infer_instance

instance
    (s : Notifications)
    (rest : List Point)
    (k : Point)
    (ready : Ready) :
    Decidable (shownResume s rest k ready) :=
  match k with
  | .seenReady _ index tapped =>
      inferInstanceAs
        (Decidable
          (ready.works = true → AtIndex s index tapped))
  | .removeReady index swiped =>
      inferInstanceAs
        (Decidable
          (ready.works = true → AtIndex s index swiped))
  | .saveMessageId _ _ none =>
      inferInstanceAs
        (Decidable (ready.works = true → s.list = none))
  | .saveMessageId _ _ (some _) => isTrue fun _ => trivial
  | .saveReady .. => isTrue fun _ => trivial
  | .seenItem => isTrue fun _ => trivial
  | .removeItem => isTrue fun _ => trivial
  | .saveItem => isTrue fun _ => trivial

end Notifications

end NewsCentral

------------------------------------------------------------
-- The Invariant
------------------------------------------------------------

namespace NewsCentral

open Dart EventLoop

namespace Notifications

/- What was said on arrival is still said. -/
def Faithful (e : NotificationEntry) : Prop :=
  e.note.said = e.arrival.said

/- The serial numbers of the deliveries under way. -/
def underWay : List Point → List Nat
  | [] => []
  | .saveReady _ arrival :: ks =>
      arrival.serial :: underWay ks
  | .saveMessageId _ arrival _ :: ks =>
      arrival.serial :: underWay ks
  | .seenReady .. :: ks => underWay ks
  | .seenItem :: ks => underWay ks
  | .removeReady .. :: ks => underWay ks
  | .removeItem :: ks => underWay ks
  | .saveItem :: ks => underWay ks

@[simp] theorem underWay_append
    (ks js : List Point) :
    underWay (ks ++ js) = underWay ks ++ underWay js := by
  induction ks with
  | nil => rfl
  | cons k ks ih => cases k <;> simp [underWay, ih]

/- The serial numbers of entries. -/
def serials (entries : List NotificationEntry) : List Nat :=
  entries.map fun e => e.arrival.serial

/- What a suspended point carries is sound. -/
def ShownPoint (s : Notifications) : Point → Prop
  | .seenReady note _ tapped =>
      note.said = tapped.said ∧ note.seen = some true
  | .saveReady note arrival => note.said = arrival.said
  | .saveMessageId note arrival list =>
      note.said = arrival.said ∧
        ∀ r, list = some r → s.list = some r
  | _ => True

/-
  The stored list is the intended one; every reference held
  is the stored one; entries say what they said; and serial
  numbers are used once.
-/
structure ShownInvariant
    (s : Notifications)
    (pending : List Point) : Prop where
  intended : s.entries = s.intended
  valid : ∀ r, s.list = some r → r < s.heap.size
  data : ∀ r, s.data = some r → s.list = some r
  faithful : ∀ e ∈ s.entries, Faithful e
  announcements : ∀ e ∈ s.announcements, Faithful e
  settings : ∀ e ∈ s.settings, Faithful e
  points : ∀ k ∈ pending, ShownPoint s k
  unique :
    ∀ n,
      (underWay pending).count n +
          (serials s.entries).count n ≤
        if n < s.arrivals then 1 else 0

/- Entries differ in their arrivals. -/
theorem ShownInvariant.nodup
    {s : Notifications}
    {pending : List Point}
    (hInv : ShownInvariant s pending) :
    (s.entries.map NotificationEntry.arrival).Nodup := by
  have hSerials : (serials s.entries).Nodup := by
    rw [List.nodup_iff_count_le_one]
    intro n
    have hOnce := hInv.unique n
    split at hOnce <;> omega
  have hMap :
      ((s.entries.map NotificationEntry.arrival).map
        Arrival.serial).Nodup := by
    simpa [serials, List.map_map, Function.comp_def]
      using hSerials
  exact hMap.of_map _

/- The storage as the app finds it. -/
theorem ShownInvariant.launched
    (notes : Option (List FStoreNotification))
    (messageId : Option String) :
    ShownInvariant (launched notes messageId).shared [] := by
  cases notes with
  | none =>
      constructor <;>
        simp [Notifications.launched, entries, listed,
          underWay, serials]
  | some notes =>
      have hEntries :
          (Notifications.launched (some notes)
              messageId).shared.entries =
            storedBefore notes := rfl
      constructor
      · exact hEntries
      · intro r hList
        cases hList
        exact Nat.zero_lt_one
      · intro r hData
        cases hData
      · intro e hMem
        rw [hEntries] at hMem
        simp only [storedBefore, List.mem_map] at hMem
        rcases hMem with ⟨⟨note, i⟩, _, rfl⟩
        rfl
      · intro e hMem
        exact absurd hMem List.not_mem_nil
      · intro e hMem
        exact absurd hMem List.not_mem_nil
      · simp
      · intro n
        have hSerials :
            serials (storedBefore notes) =
              List.range' 0 notes.length := by
          rw [← List.zipIdx_map_snd 0 notes]
          simp [serials, storedBefore, List.map_map,
            Function.comp_def]
        rw [hEntries, hSerials, List.count_range_1']
        by_cases hLt : n < notes.length <;>
          simp [hLt, underWay, Notifications.launched]

end Notifications

end NewsCentral

------------------------------------------------------------
-- Calls Keep The Invariant
------------------------------------------------------------

namespace NewsCentral

open Dart EventLoop

namespace Notifications

/- What is read through a held reference is stored. -/
theorem ShownInvariant.listed_data
    {s : Notifications}
    {pending : List Point}
    {e : NotificationEntry}
    (hInv : ShownInvariant s pending)
    (hMem : e ∈ s.listed s.data) :
    e ∈ s.entries := by
  cases hData : s.data with
  | none => simp [hData, listed] at hMem
  | some r =>
      rw [entries_of_list (hInv.data r hData)]
      simpa [hData, listed] using hMem

/- The entry a tap reads says what it said. -/
theorem ShownInvariant.faithful_read
    {s : Notifications}
    {pending : List Point}
    {screen : Screen}
    {index : Nat}
    {e : NotificationEntry}
    (hInv : ShownInvariant s pending)
    (hRead : s.read index screen = some e) :
    Faithful e := by
  cases screen with
  | announcements =>
      exact hInv.faithful e
        (hInv.listed_data (List.mem_of_getElem? hRead))
  | settings =>
      exact hInv.settings e (List.mem_of_getElem? hRead)

/- What a tap takes along, if it takes anything. -/
theorem tapped_eq_some
    {reparse : String → Option String}
    {s : Notifications}
    {screen : Screen}
    {index : Nat}
    {arrival : Arrival}
    {note : FStoreNotification}
    (hTapped :
      s.tapped reparse screen index =
        some (arrival, some note)) :
    ∃ shown e, s.shown index screen = some shown ∧
      shown.arrival = arrival ∧
      s.read index screen = some e ∧
      note = .fromLocalStorage reparse e.note.toJson := by
  cases screen with
  | announcements =>
      simp only [tapped] at hTapped
      split at hTapped
      next => cases hTapped
      next shown hShown =>
        split at hTapped
        next => cases hTapped
        next =>
          simp only [Option.some.injEq, Prod.mk.injEq,
            Option.map_eq_some_iff] at hTapped
          rcases hTapped with ⟨hArrival, e, hRead, hNote⟩
          exact ⟨shown, e, hShown, hArrival, hRead,
            hNote.symm⟩
  | settings =>
      simp only [tapped] at hTapped
      split at hTapped
      next => cases hTapped
      next shown hShown =>
        split at hTapped
        next => cases hTapped
        next =>
          simp only [Option.some.injEq, Prod.mk.injEq]
            at hTapped
          rcases hTapped with ⟨hArrival, hNote⟩
          exact ⟨shown, shown, hShown, hArrival, hShown,
            hNote.symm⟩

/-
  A call that leaves the list alone and suspends points
  without a delivery.
-/
theorem ShownInvariant.suspend
    {s : Notifications}
    {pending next : List Point}
    (hInv : ShownInvariant s pending)
    (hPoints : ∀ k ∈ next, ShownPoint s k)
    (hNone : underWay next = []) :
    ShownInvariant s (pending ++ next) where
  intended := hInv.intended
  valid := hInv.valid
  data := hInv.data
  faithful := hInv.faithful
  announcements := hInv.announcements
  settings := hInv.settings
  points := by
    intro k hMem
    rcases List.mem_append.mp hMem with hOld | hNew
    · exact hInv.points k hOld
    · exact hPoints k hNew
  unique := by
    simpa [hNone] using hInv.unique

/- A delivery brings a serial of its own. -/
theorem ShownInvariant.deliver
    {s : Notifications}
    {pending : List Point}
    (hInv : ShownInvariant s pending)
    (delivery : Delivery) :
    ShownInvariant (s.deliver delivery).1
      (pending ++ (s.deliver delivery).2) := by
  unfold Notifications.deliver
  split
  next => exact hInv.suspend (by simp) rfl
  next note id _ =>
    exact
      { hInv with
        points := by
          intro k hMem
          rcases List.mem_append.mp hMem with hOld | hNew
          · have hPoint := hInv.points k hOld
            cases k <;> exact hPoint
          · rw [List.mem_singleton.mp hNew]
            rfl
        unique := by
          intro n
          have hOnce := hInv.unique n
          change
            (underWay (pending ++ _)).count n +
                (serials s.entries).count n ≤ _
          simp only [underWay_append, underWay,
            List.count_append, List.count_singleton,
            beq_iff_eq]
          split at hOnce <;> split <;> split <;> omega }

/- Every admitted call keeps the invariant. -/
theorem ShownInvariant.call
    {reparse : String → Option String}
    {s t : Notifications}
    {pending next : List Point}
    {op : Op}
    (hInv : ShownInvariant s pending)
    (hOk : shownCall reparse s pending op)
    (hCall : Notifications.call reparse op s = some (t, next)) :
    ShownInvariant t (pending ++ next) := by
  cases op with
  | build screen =>
      cases screen with
      | announcements =>
          cases hCall
          rw [List.append_nil]
          exact
            { hInv with
              data := fun r hData => hData
              announcements := hInv.faithful }
      | settings =>
          cases hCall
          rw [List.append_nil]
          exact { hInv with settings := hInv.faithful }
  | showAlert screen index =>
      simp only [Notifications.call] at hCall
      split at hCall
      next => cases hCall
      next =>
        cases hCall
        exact hInv.suspend (by simp) rfl
      next arrival note hTapped =>
        cases hCall
        refine hInv.suspend ?_ rfl
        intro k hMem
        rw [List.mem_singleton.mp hMem]
        rcases tapped_eq_some hTapped with
          ⟨shown, e, hShown, hArrival, hRead, hNote⟩
        have hFaithful := hInv.faithful_read hRead
        simp only [shownCall, hRead, hShown, Option.map_some,
          Option.some.injEq] at hOk
        rcases hOk with ⟨hReread, hSame⟩
        refine ⟨?_, rfl⟩
        calc
          note.said = e.note.said := by
            rw [hNote]
            exact FStoreNotification.said_fromLocalStorage
              hReread
          _ = e.arrival.said := hFaithful
          _ = arrival.said := by rw [← hArrival, hSame]
  | dismiss screen index =>
      simp only [Notifications.call] at hCall
      split at hCall
      next => cases hCall
      next =>
        cases hCall
        exact hInv.suspend (by simp [ShownPoint]) rfl
  | deliver delivery =>
      have hSame : s.deliver delivery = (t, next) :=
        Option.some.inj hCall
      have hKept := hInv.deliver delivery
      rw [hSame] at hKept
      exact hKept

end Notifications

end NewsCentral

------------------------------------------------------------
-- Turns Keep The Invariant
------------------------------------------------------------

namespace NewsCentral

open Dart EventLoop

namespace Notifications

variable {s : Notifications} {earlier later : List Point}
variable {k : Point}

/- How often a serial is under way, the pool split. -/
theorem count_underWay_split
    (n : Nat)
    (earlier later : List Point)
    (k : Point) :
    (underWay (earlier ++ k :: later)).count n =
      (underWay (earlier ++ later)).count n +
        (underWay [k]).count n := by
  have hCons :
      underWay (k :: later) = underWay [k] ++ underWay later :=
    underWay_append [k] later
  rw [underWay_append, hCons, underWay_append]
  simp only [List.count_append]
  omega

/- A turn that does nothing. -/
theorem ShownInvariant.drop
    (hInv : ShownInvariant s (earlier ++ k :: later)) :
    ShownInvariant s (earlier ++ later ++ []) := by
  rw [List.append_nil]
  exact
    { hInv with
      points := fun j hMem =>
        hInv.points j (mem_of_mem_rest hMem)
      unique := by
        intro n
        have hOnce := hInv.unique n
        rw [count_underWay_split] at hOnce
        omega }

/-
  A turn that rewrites the stored list as it was intended.
  The serials written were stored or travelled with the
  point.
-/
theorem ShownInvariant.write
    {r : Ref}
    {xs : List NotificationEntry}
    {next : List Point}
    (hInv : ShownInvariant s (earlier ++ k :: later))
    (hList : s.list = some r)
    (hFaithful : ∀ e ∈ xs, Faithful e)
    (hSerials :
      ∀ n, (serials xs).count n ≤
        (serials s.entries).count n + (underWay [k]).count n)
    (hNext : ∀ j ∈ next, ∀ t, ShownPoint t j)
    (hNone : underWay next = []) :
    ShownInvariant
      { s with
        heap := s.heap.write r xs
        intended := xs }
      (earlier ++ later ++ next) := by
  let t : Notifications :=
    { s with heap := s.heap.write r xs, intended := xs }
  have hStored : t.list = some r := hList
  have hEntries : t.entries = xs :=
    (entries_of_list hStored).trans
      (Heap.read_write_same (hInv.valid r hList) xs)
  constructor
  · exact hEntries
  · intro q hQ
    simpa using hInv.valid q hQ
  · exact hInv.data
  · rw [hEntries]
    exact hFaithful
  · exact hInv.announcements
  · exact hInv.settings
  · intro j hMem
    rcases List.mem_append.mp hMem with hOld | hNew
    · have hPoint := hInv.points j (mem_of_mem_rest hOld)
      cases j <;> exact hPoint
    · exact hNext j hNew _
  · intro n
    have hOnce := hInv.unique n
    have hCount := hSerials n
    rw [count_underWay_split] at hOnce
    rw [hEntries, underWay_append, hNone, List.append_nil]
    change _ ≤ if n < s.arrivals then 1 else 0
    omega

/- Without a stored list, a new one is stored. -/
theorem ShownInvariant.alloc
    {xs : List NotificationEntry}
    {next : List Point}
    (hInv : ShownInvariant s (earlier ++ k :: later))
    (hList : s.list = none)
    (hFaithful : ∀ e ∈ xs, Faithful e)
    (hSerials :
      ∀ n, (serials xs).count n ≤ (underWay [k]).count n)
    (hNext : ∀ j ∈ next, ∀ t, ShownPoint t j)
    (hNone : underWay next = []) :
    ShownInvariant
      { s with
        heap := (s.heap.alloc xs).1
        list := some s.heap.size
        intended := xs }
      (earlier ++ later ++ next) := by
  let t : Notifications :=
    { s with
      heap := (s.heap.alloc xs).1
      list := some s.heap.size
      intended := xs }
  have hStored : t.list = some s.heap.size := rfl
  have hEntries : t.entries = xs :=
    (entries_of_list hStored).trans
      (Heap.read_alloc_new _ _)
  constructor
  · exact hEntries
  · intro q hQ
    cases hQ
    simp
  · intro q hData
    have hOld := hInv.data q hData
    rw [hList] at hOld
    cases hOld
  · rw [hEntries]
    exact hFaithful
  · exact hInv.announcements
  · exact hInv.settings
  · intro j hMem
    rcases List.mem_append.mp hMem with hOld | hNew
    · have hPoint := hInv.points j (mem_of_mem_rest hOld)
      cases j with
      | saveMessageId other from_ list =>
          -- the references held are those of the old list
          refine ⟨hPoint.1, ?_⟩
          intro q hQ
          have hNone := hPoint.2 q hQ
          rw [hList] at hNone
          cases hNone
      | _ => exact hPoint
    · exact hNext j hNew _
  · intro n
    have hOnce := hInv.unique n
    have hCount := hSerials n
    rw [count_underWay_split] at hOnce
    rw [hEntries, underWay_append, hNone, List.append_nil]
    change _ ≤ if n < s.arrivals then 1 else 0
    omega

/- An intention that changes nothing. -/
theorem intend_eq_self
    {f : List NotificationEntry → List NotificationEntry}
    (hSame : f s.intended = s.intended) :
    s.intend f = s := by
  simp [intend, hSame]

/- Only a stored list has an entry at a position. -/
theorem exists_list_of_entry
    {index : Nat}
    {e : NotificationEntry}
    (hAt : s.entries[index]? = some e) :
    ∃ r, s.list = some r := by
  cases hList : s.list with
  | none => simp [entries, listed, hList] at hAt
  | some r => exact ⟨r, rfl⟩

/- What a tap writes is its entry, marked as seen. -/
theorem overwrite_eq_markSeen
    {note : FStoreNotification}
    {e : NotificationEntry}
    (hFaithful : Faithful e)
    (hSaid : note.said = e.arrival.said)
    (hSeen : note.seen = some true) :
    overwrite note e = markSeen e := by
  have hSame : note.said = e.note.said :=
    hSaid.trans hFaithful.symm
  rcases note with ⟨body, title, seen, date⟩
  rcases e with ⟨arrival, ⟨_, _, _, _⟩⟩
  simp only [FStoreNotification.said, Prod.mk.injEq] at hSame
  simp only at hSeen
  simp [overwrite, markSeen, hSame, hSeen]

/- Changing positions past the end does nothing. -/
theorem updateSeen_of_length_le
    {note : FStoreNotification}
    {index : Nat}
    (hPast : s.entries.length ≤ index) :
    s.updateSeen note index = (s, []) := by
  unfold Notifications.updateSeen
  cases hList : s.list with
  | none => rfl
  | some r =>
      rw [entries_of_list hList] at hPast
      simp [List.getElem?_eq_none hPast]

theorem removeItem_of_length_le
    {index : Nat}
    (hPast : s.entries.length ≤ index) :
    s.removeItem index = (s, []) := by
  unfold Notifications.removeItem
  cases hList : s.list with
  | none => rfl
  | some r =>
      rw [entries_of_list hList] at hPast
      simp [Nat.not_lt.mpr hPast]

/- A tap marks the entry it meant. -/
theorem ShownInvariant.updateSeen
    {note : FStoreNotification}
    {index : Nat}
    {tapped : Arrival}
    (hInv :
      ShownInvariant s
        (earlier ++ .seenReady note index tapped :: later))
    (hIndex : AtIndex s index tapped) :
    ShownInvariant
      ((s.intend
        (Keyed.update NotificationEntry.arrival tapped
          markSeen)).updateSeen note index).1
      (earlier ++ later ++
        ((s.intend
          (Keyed.update NotificationEntry.arrival tapped
            markSeen)).updateSeen note index).2) := by
  rcases hIndex with hHere | ⟨hAway, hPast⟩
  · rcases Option.map_eq_some_iff.mp hHere with
      ⟨e, hAt, rfl⟩
    rcases exists_list_of_entry hAt with ⟨r, hList⟩
    rcases hInv.points (.seenReady note index e.arrival)
        (by simp) with ⟨hSaid, hSeen⟩
    have hWritten :
        overwrite note e = markSeen e :=
      overwrite_eq_markSeen
        (hInv.faithful e (List.mem_of_getElem? hAt))
        hSaid hSeen
    have hIntended :
        Keyed.update NotificationEntry.arrival e.arrival
            markSeen s.intended =
          s.entries.set index (markSeen e) := by
      rw [← hInv.intended]
      exact Keyed.update_eq_set hInv.nodup hAt
    have hRead := entries_of_list hList
    have hTurn :
        (s.intend
          (Keyed.update NotificationEntry.arrival e.arrival
            markSeen)).updateSeen note index =
          ({ s with
              heap :=
                s.heap.write r
                  (s.entries.set index (markSeen e))
              intended :=
                s.entries.set index (markSeen e) },
            [.seenItem]) := by
      rw [hRead] at hAt
      simp [Notifications.updateSeen, intend, hList, hAt,
        hWritten, hIntended, hRead]
    rw [hTurn]
    have hSerials :
        serials (s.entries.set index (markSeen e)) =
          serials s.entries := by
      have hKeys :
          (s.entries.set index (markSeen e)).map
              NotificationEntry.arrival =
            s.entries.map NotificationEntry.arrival := by
        rw [← hIntended, ← hInv.intended]
        exact Keyed.map_key_update fun _ => rfl
      have hAll :=
        congrArg (List.map Arrival.serial) hKeys
      simpa [serials, List.map_map, Function.comp_def]
        using hAll
    refine hInv.write hList ?_ ?_ (by simp [ShownPoint]) rfl
    · intro other hMem
      rcases List.mem_or_eq_of_mem_set hMem with hOld | rfl
      · exact hInv.faithful other hOld
      · exact hInv.faithful e (List.mem_of_getElem? hAt)
    · intro n
      rw [hSerials]
      omega
  · have hSame :
        s.intend
            (Keyed.update NotificationEntry.arrival tapped
              markSeen) =
          s := by
      refine intend_eq_self (Keyed.update_of_not_mem ?_)
      rw [← hInv.intended]
      exact hAway
    rw [hSame, updateSeen_of_length_le hPast]
    exact hInv.drop

/- A swipe removes the entry it meant. -/
theorem ShownInvariant.removeItem
    {index : Nat}
    {swiped : Arrival}
    (hInv :
      ShownInvariant s
        (earlier ++ .removeReady index swiped :: later))
    (hIndex : AtIndex s index swiped) :
    ShownInvariant
      ((s.intend
        (Keyed.erase NotificationEntry.arrival
          swiped)).removeItem index).1
      (earlier ++ later ++
        ((s.intend
          (Keyed.erase NotificationEntry.arrival
            swiped)).removeItem index).2) := by
  rcases hIndex with hHere | ⟨hAway, hPast⟩
  · rcases Option.map_eq_some_iff.mp hHere with
      ⟨e, hAt, rfl⟩
    rcases exists_list_of_entry hAt with ⟨r, hList⟩
    have hIntended :
        Keyed.erase NotificationEntry.arrival e.arrival
            s.intended =
          s.entries.eraseIdx index := by
      rw [← hInv.intended]
      exact Keyed.erase_eq_eraseIdx hInv.nodup hAt
    have hRead := entries_of_list hList
    have hTurn :
        (s.intend
          (Keyed.erase NotificationEntry.arrival
            e.arrival)).removeItem index =
          ({ s with
              heap :=
                s.heap.write r (s.entries.eraseIdx index)
              intended := s.entries.eraseIdx index },
            [.removeItem]) := by
      have hLt : index < (s.heap.read r).length := by
        rw [← hRead]
        exact (List.getElem?_eq_some_iff.mp hAt).1
      simp [Notifications.removeItem, intend, hList, hLt,
        hIntended, hRead]
    rw [hTurn]
    refine hInv.write hList ?_ ?_ (by simp [ShownPoint]) rfl
    · intro other hMem
      exact hInv.faithful other
        ((List.eraseIdx_sublist _ _).mem hMem)
    · intro n
      have hCount :=
        (List.Sublist.map
          (fun e : NotificationEntry => e.arrival.serial)
          (List.eraseIdx_sublist s.entries index)).count_le n
      unfold serials
      omega
  · have hSame :
        s.intend
            (Keyed.erase NotificationEntry.arrival swiped) =
          s := by
      refine intend_eq_self (Keyed.erase_of_not_mem ?_)
      rw [← hInv.intended]
      exact hAway
    rw [hSame, removeItem_of_length_le hPast]
    exact hInv.drop

/- An arrival comes first in the list it read before. -/
theorem ShownInvariant.insertEntry
    {note : FStoreNotification}
    {arrival : Arrival}
    {list : Option Ref}
    (hInv :
      ShownInvariant s
        (earlier ++ .saveMessageId note arrival list :: later))
    (hFresh : list = none → s.list = none) :
    ShownInvariant
      ((s.intend (⟨arrival, note⟩ :: ·)).insertEntry note
        arrival list).1
      (earlier ++ later ++
        ((s.intend (⟨arrival, note⟩ :: ·)).insertEntry note
          arrival list).2) := by
  rcases hInv.points (.saveMessageId note arrival list)
      (by simp) with ⟨hSaid, hHeld⟩
  cases list with
  | some r =>
      have hList := hHeld r rfl
      have hRead := entries_of_list hList
      have hTurn :
          (s.intend (⟨arrival, note⟩ :: ·)).insertEntry note
              arrival (some r) =
            ({ s with
                heap :=
                  s.heap.write r (⟨arrival, note⟩ :: s.entries)
                intended := ⟨arrival, note⟩ :: s.entries },
              [.saveItem]) := by
        rw [hRead]
        simp [Notifications.insertEntry, intend, hList,
          ← hInv.intended, hRead]
      rw [hTurn]
      refine hInv.write hList ?_ ?_ (by simp [ShownPoint]) rfl
      · intro e hMem
        rcases List.mem_cons.mp hMem with rfl | hOld
        · exact hSaid
        · exact hInv.faithful e hOld
      · intro n
        simp only [serials, underWay, List.map_cons,
          List.count_cons, List.count_nil]
        omega
  | none =>
      have hList := hFresh rfl
      have hEmpty : s.entries = [] := by
        simp [entries, listed, hList]
      have hTurn :
          (s.intend (⟨arrival, note⟩ :: ·)).insertEntry note
              arrival none =
            ({ s with
                heap := (s.heap.alloc [⟨arrival, note⟩]).1
                list := some s.heap.size
                intended := [⟨arrival, note⟩] },
              [.saveItem]) := by
        simp [Notifications.insertEntry, intend,
          ← hInv.intended, hEmpty]
      rw [hTurn]
      refine hInv.alloc hList ?_ ?_ (by simp [ShownPoint]) rfl
      · intro e hMem
        rw [List.mem_singleton.mp hMem]
        exact hSaid
      · intro n
        simp [serials, underWay]

/- A delivery whose id is stored goes on with the list. -/
theorem ShownInvariant.checkMessageId
    {note : FStoreNotification}
    {arrival : Arrival}
    (hInv :
      ShownInvariant s
        (earlier ++ .saveReady note arrival :: later)) :
    ShownInvariant (s.checkMessageId note arrival).1
      (earlier ++ later ++
        (s.checkMessageId note arrival).2) := by
  unfold Notifications.checkMessageId
  simp only
  split
  next => exact hInv.drop
  next =>
    have hSaid : note.said = arrival.said :=
      hInv.points (.saveReady note arrival) (by simp)
    exact
      { hInv with
        points := by
          intro j hMem
          rcases List.mem_append.mp hMem with hOld | hNew
          · have hPoint :=
              hInv.points j (mem_of_mem_rest hOld)
            cases j <;> exact hPoint
          · rw [List.mem_singleton.mp hNew]
            exact ⟨hSaid, fun r hList => hList⟩
        unique := by
          intro n
          have hOnce := hInv.unique n
          rw [count_underWay_split] at hOnce
          simp only [underWay_append, underWay,
            List.count_append] at hOnce ⊢
          exact hOnce }

/- Every admitted turn keeps the invariant. -/
theorem ShownInvariant.resume
    {ready : Ready}
    (hInv : ShownInvariant s (earlier ++ k :: later))
    (hOk : shownResume s (earlier ++ later) k ready) :
    ShownInvariant (Notifications.resume k ready s).1
      (earlier ++ later ++
        (Notifications.resume k ready s).2) := by
  unfold Notifications.resume
  split
  next hReady =>
    have hTurn := hOk hReady
    cases k with
    | seenReady note index tapped =>
        exact hInv.updateSeen hTurn
    | removeReady index swiped => exact hInv.removeItem hTurn
    | saveReady note arrival => exact hInv.checkMessageId
    | saveMessageId note arrival list =>
        refine hInv.insertEntry ?_
        rintro rfl
        exact hTurn
    | _ => exact hInv.drop
  next => exact hInv.drop

/-
  From any stored list, every run whose steps meet the
  entries they mean has stored what was intended: each tap
  marked its entry, each swipe removed its own, and nothing
  else changed.
-/
theorem entries_intended_of_run
    {reparse : String → Option String}
    {notes : Option (List FStoreNotification)}
    {messageId : Option String}
    {es : List (Event Op Ready)}
    {p : Pool Notifications Point}
    (hRun :
      (program reparse).system.Run
        (Program.when (shownCall reparse) shownResume)
        (launched notes messageId) es p) :
    p.shared.entries = p.shared.intended := by
  have hInv : ShownInvariant p.shared p.pending := by
    refine Program.run_invariant
      (I := fun _ s pending => ShownInvariant s pending)
      hRun (ShownInvariant.launched notes messageId) ?_ ?_
    · intro _ s pending op t next hInv hOk hCall
      exact hInv.call hOk hCall
    · intro _ s earlier k later ready hInv hOk _
      exact hInv.resume hOk
  exact hInv.intended

/- Two notifications that were stored before the launch. -/
def morning : FStoreNotification where
  body := some "Election results"
  title := some "Politics"
  seen := some false
  date := some "2021-03-01 08:00:00.000"

def noon : FStoreNotification where
  body := some "Cup final"
  title := some "Sports"
  seen := some false
  date := some "2021-03-01 12:00:00.000"

/- A push message that arrives later. -/
def evening : Delivery :=
  .oneSignal (some "Weather") (some "Heavy rain") (some "e1")
    "2021-03-01 18:00:00.000"

/- Open the first entry, then swipe away the second. -/
theorem entries_intended_undisturbed :
    ∃ p : Pool Notifications Point,
      (program some).system.Run
        (Program.when (shownCall some) shownResume)
        (launched (some [noon, morning]) none)
        (.call (.build .announcements) ::
          .call (.showAlert .announcements 0) ::
          turns 2 (.ok true) ++
          .call (.dismiss .announcements 1) ::
          turns 2 (.ok true))
        p ∧
      p.shared.entries = p.shared.intended ∧
      p.shared.entries.map NotificationEntry.note =
        [{ noon with seen := some true }] := by
  have hRun :
      (program some).system.Run
        (Program.when (shownCall some) shownResume)
        (launched (some [noon, morning]) none)
        (.call (.build .announcements) ::
          .call (.showAlert .announcements 0) ::
          turns 2 (.ok true) ++
          .call (.dismiss .announcements 1) ::
          turns 2 (.ok true)) _ :=
    System.run_iff_exec.mpr ⟨by decide, rfl⟩
  exact ⟨_, hRun, entries_intended_of_run hRun, rfl⟩

/-
  An arrival shifts the stored entries under the screen: the
  swipe of the first shown entry removes the new arrival.
-/
theorem swipe_removes_arrival :
    ∃ p : Pool Notifications Point,
      (program some).system.Run System.anyStep
        (launched (some [noon, morning]) none)
        (.call (.build .announcements) ::
          .call (.deliver evening) ::
          turns 3 (.ok true) ++
          .call (.dismiss .announcements 0) ::
          turns 2 (.ok true))
        p ∧
      p.Quiescent ∧
      p.shared.entries.map NotificationEntry.note =
        [noon, morning] ∧
      p.shared.intended.map NotificationEntry.note =
        [ .fromOneSignal "2021-03-01 18:00:00.000"
            (some "Weather") (some "Heavy rain"),
          morning ] ∧
      ¬ p.shared.entries = p.shared.intended := by
  refine ⟨_, System.run_of_exec rfl, rfl, rfl, rfl, ?_⟩
  intro hSame
  exact absurd
    (congrArg (List.map NotificationEntry.note) hSame)
    (by decide)

end Notifications

end NewsCentral
