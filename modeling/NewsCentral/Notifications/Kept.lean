import NewsCentral.Notifications.Program

/-
  When every push message is kept exactly once.

  `saveToLocal` knows only the id it stored last, so an
  older id that comes again is stored again; and it reads
  the list before it waits for the id to be stored, so two
  calls that both find no list each make one of their own.

  Key definitions include:
    * `NewsCentral.Notifications.relaunched`
    * `NewsCentral.Notifications.KeptOnce`
    * `NewsCentral.Notifications.keptResume`
    * `NewsCentral.Notifications.KeptInvariant`

  Key theorems include:
    * `NewsCentral.Notifications.KeptInvariant.deliver`
    * `NewsCentral.Notifications.KeptInvariant.resume`
    * `NewsCentral.Notifications.keptOnce_of_run`
-/

------------------------------------------------------------
-- Messages And Entries
------------------------------------------------------------

namespace NewsCentral

open Dart EventLoop

namespace Notifications

/- The message ids of some entries. -/
def entryIds
    (entries : List NotificationEntry) :
    List (Option String) :=
  entries.map fun e => e.arrival.id

/-
  The launch of the app over stored entries, each with the
  id of its message, and the last message id.  The ids of
  the entries are taken up.
-/
def relaunched
    (stored : Option (List NotificationEntry))
    (messageId : Option String) :
    Pool Notifications Point where
  shared :=
    match stored with
    | none => { messageId := messageId }
    | some stored =>
        { heap := ⟨[stored]⟩
          list := some 0
          messageId := messageId
          arrivals := stored.length
          intended := stored
          takenUp := entryIds stored }
  pending := []

/-
  The list has the entries from before the launch and,
  before them, messages of the run; and each id delivered
  has one entry in it.
-/
structure KeptOnce
    (stored : List NotificationEntry)
    (deliveries : List Delivery)
    (s : Notifications)
    (new : List NotificationEntry) : Prop where
  stored : s.entries = new ++ stored
  messages :
    ∀ e ∈ new,
      (e.note, e.arrival.id) ∈ received deliveries
  once :
    ∀ id ∈ messageIds deliveries,
      (entryIds s.entries).count id = 1

/- `saveToLocal` passes the id over: it is the stored one. -/
def PassesOver
    (s : Notifications)
    (id : Option String) : Prop :=
  s.messageId = id ∧ id ∉ [none, some "", some "null"]

instance
    (s : Notifications)
    (id : Option String) :
    Decidable (s.PassesOver id) :=
  decidable_of_iff
    (s.messageId = id ∧ id ≠ none ∧ id ≠ some "" ∧
      id ≠ some "null")
    (by simp [PassesOver])

/-
  The storage works; an id is passed over if it was taken up
  just once before, and else it was never; and no other call
  made a list meanwhile.
-/
def keptResume
    (s : Notifications)
    (_ : List Point)
    (k : Point)
    (ready : Ready) : Prop :=
  ready.works = true ∧
    match k with
    | .saveReady _ arrival =>
        s.takenUp.count arrival.id =
          if s.PassesOver arrival.id then 1 else 0
    | .saveMessageId _ _ none => s.list = none
    | _ => True

instance
    (s : Notifications)
    (rest : List Point)
    (k : Point)
    (ready : Ready) :
    Decidable (keptResume s rest k ready) :=
  match k with
  | .saveReady _ arrival =>
      inferInstanceAs
        (Decidable
          (ready.works = true ∧
            s.takenUp.count arrival.id =
              if s.PassesOver arrival.id then 1 else 0))
  | .saveMessageId _ _ none =>
      inferInstanceAs
        (Decidable (ready.works = true ∧ s.list = none))
  | .saveMessageId _ _ (some _) =>
      inferInstanceAs (Decidable (ready.works = true ∧ True))
  | .seenReady .. =>
      inferInstanceAs (Decidable (ready.works = true ∧ True))
  | .removeReady .. =>
      inferInstanceAs (Decidable (ready.works = true ∧ True))
  | .seenItem =>
      inferInstanceAs (Decidable (ready.works = true ∧ True))
  | .removeItem =>
      inferInstanceAs (Decidable (ready.works = true ∧ True))
  | .saveItem =>
      inferInstanceAs (Decidable (ready.works = true ∧ True))

end Notifications

end NewsCentral

------------------------------------------------------------
-- The Invariant
------------------------------------------------------------

namespace NewsCentral

open Dart EventLoop

namespace Notifications

/- The id a point is about to compare. -/
def Point.comparedId : Point → Option (Option String)
  | .saveReady _ arrival => some arrival.id
  | _ => none

/- The id of the entry a point is about to insert. -/
def Point.insertedId : Point → Option (Option String)
  | .saveMessageId _ arrival _ => some arrival.id
  | _ => none

/-
  What suspended handlers hold: messages that were
  delivered, and the stored list if they found one.
-/
def KeptPoint
    (deliveries : List Delivery)
    (s : Notifications) : Point → Prop
  | .saveReady note arrival =>
      (note, arrival.id) ∈ received deliveries
  | .saveMessageId note arrival list =>
      (note, arrival.id) ∈ received deliveries ∧
        ∀ r, list = some r → s.list = some r
  | .saveItem => True
  | _ => False

/-
  Each id that was taken up has its entry, or travels with a
  suspended handler; and each delivered id was taken up once
  or still waits.
-/
structure KeptInvariant
    (stored : List NotificationEntry)
    (deliveries : List Delivery)
    (s : Notifications)
    (pending : List Point) : Prop where
  stored :
    ∃ new,
      s.entries = new ++ stored ∧
      ∀ e ∈ new,
        (e.note, e.arrival.id) ∈ received deliveries
  count :
    ∀ id,
      s.takenUp.count id =
        (entryIds s.entries).count id +
          (pending.filterMap Point.insertedId).count id
  delivered :
    ∀ id ∈ messageIds deliveries,
      s.takenUp.count id = 1 ∨
        id ∈ pending.filterMap Point.comparedId
  valid : ∀ r, s.list = some r → r < s.heap.size
  points : ∀ k ∈ pending, KeptPoint deliveries s k

/- A launch has taken up what was stored. -/
theorem KeptInvariant.relaunched
    (stored : Option (List NotificationEntry))
    (messageId : Option String) :
    KeptInvariant (stored.getD []) []
      (relaunched stored messageId).shared [] := by
  have hEntries :
      (Notifications.relaunched stored
          messageId).shared.entries =
        stored.getD [] := by
    cases stored <;> rfl
  constructor
  · exact ⟨[], hEntries, by simp⟩
  · intro id
    rw [hEntries]
    cases stored with
    | none => rfl
    | some stored => rfl
  · simp [messageIds, received]
  · intro r hList
    cases stored with
    | none => cases hList
    | some stored =>
        cases hList
        exact Nat.zero_lt_one
  · simp

/- A suspended handler holds on as more is delivered. -/
theorem KeptPoint.mono
    {deliveries more : List Delivery}
    {s t : Notifications}
    {k : Point}
    (hPoint : KeptPoint deliveries s k)
    (hReceived : received deliveries ⊆ received more)
    (hList : ∀ r, s.list = some r → t.list = some r) :
    KeptPoint more t k := by
  cases k with
  | saveReady note arrival => exact hReceived hPoint
  | saveMessageId note arrival list =>
      exact ⟨hReceived hPoint.1,
        fun r hHeld => hList r (hPoint.2 r hHeld)⟩
  | saveItem => trivial
  | _ => exact hPoint.elim

/- A message that was refused changes nothing. -/
theorem KeptInvariant.deliver_refused
    {stored : List NotificationEntry}
    {deliveries : List Delivery}
    {s : Notifications}
    {pending : List Point}
    {delivery : Delivery}
    {thrown : Thrown}
    (hInv :
      KeptInvariant stored deliveries s pending)
    (hMessage : delivery.received = .error thrown) :
    KeptInvariant stored (deliveries ++ [delivery])
      (s.deliver delivery).1
      (pending ++ (s.deliver delivery).2) := by
  have hTurn : s.deliver delivery = (s, []) := by
    simp [Notifications.deliver, hMessage]
  have hReceived :
      received (deliveries ++ [delivery]) =
        received deliveries := by
    simp [received, hMessage, Except.toOption]
  have hIds :
      messageIds (deliveries ++ [delivery]) =
        messageIds deliveries := by
    simp [messageIds, hReceived]
  rw [hTurn, List.append_nil]
  exact
    { hInv with
      stored := by
        rw [hReceived]
        exact hInv.stored
      delivered := by
        rw [hIds]
        exact hInv.delivered
      points := fun k hMem =>
        (hInv.points k hMem).mono (by simp [hReceived])
          fun _ hList => hList }

/- A message that was received waits for the storage. -/
theorem KeptInvariant.deliver_received
    {stored : List NotificationEntry}
    {deliveries : List Delivery}
    {s : Notifications}
    {pending : List Point}
    {delivery : Delivery}
    {note : FStoreNotification}
    {id : Option String}
    (hInv :
      KeptInvariant stored deliveries s pending)
    (hMessage : delivery.received = .ok (note, id)) :
    KeptInvariant stored (deliveries ++ [delivery])
      (s.deliver delivery).1
      (pending ++ (s.deliver delivery).2) := by
  have hTurn :
      s.deliver delivery =
        ({ s with arrivals := s.arrivals + 1 },
          [.saveReady note ⟨s.arrivals, id, note.said⟩]) := by
    simp [Notifications.deliver, hMessage]
  have hReceived :
      received (deliveries ++ [delivery]) =
        received deliveries ++ [(note, id)] := by
    simp [received, hMessage, Except.toOption]
  have hIds :
      messageIds (deliveries ++ [delivery]) =
        messageIds deliveries ++ [id] := by
    simp [messageIds, hReceived]
  rw [hTurn]
  rcases hInv.stored with ⟨new, hEntries, hMessages⟩
  constructor
  · refine ⟨new, hEntries, ?_⟩
    intro e hMem
    rw [hReceived]
    exact List.mem_append_left _ (hMessages e hMem)
  · intro i
    change _ = (entryIds s.entries).count i + _
    simpa [List.filterMap_cons, Point.insertedId]
      using hInv.count i
  · intro i hMem
    rw [hIds] at hMem
    rw [List.filterMap_append]
    rcases List.mem_append.mp hMem with hOld | hNew
    · rcases hInv.delivered i hOld with hTaken | hWaits
      · exact .inl hTaken
      · exact .inr (List.mem_append_left _ hWaits)
    · rw [List.mem_singleton.mp hNew]
      exact .inr (by simp [Point.comparedId])
  · exact hInv.valid
  · intro k hMem
    rcases List.mem_append.mp hMem with hOld | hNew
    · refine (hInv.points k hOld).mono ?_
        fun _ hList => hList
      simp [hReceived]
    · rw [List.mem_singleton.mp hNew]
      simp [KeptPoint, hReceived]

/- A delivery waits to be compared. -/
theorem KeptInvariant.deliver
    {stored : List NotificationEntry}
    {deliveries : List Delivery}
    {s : Notifications}
    {pending : List Point}
    (hInv :
      KeptInvariant stored deliveries s pending)
    (delivery : Delivery) :
    KeptInvariant stored (deliveries ++ [delivery])
      (s.deliver delivery).1
      (pending ++ (s.deliver delivery).2) := by
  cases hMessage : delivery.received with
  | error thrown => exact hInv.deliver_refused hMessage
  | ok message => exact hInv.deliver_received hMessage

end Notifications

end NewsCentral

------------------------------------------------------------
-- Turns Keep The Invariant
------------------------------------------------------------

namespace NewsCentral

open Dart EventLoop

namespace Notifications

variable {stored : List NotificationEntry}
variable {deliveries : List Delivery}
variable {s : Notifications} {earlier later : List Point}

/- A point that waits for an id only, the pool split. -/
theorem mem_filterMap_split
    {f : Point → Option (Option String)}
    {k : Point}
    {id : Option String}
    (hMem : id ∈ (earlier ++ k :: later).filterMap f) :
    f k = some id ∨ id ∈ (earlier ++ later).filterMap f := by
  rcases List.mem_filterMap.mp hMem with ⟨j, hPoint, hId⟩
  rw [List.mem_append, List.mem_cons] at hPoint
  rcases hPoint with hLeft | rfl | hRight
  · exact .inr (List.mem_filterMap.mpr
      ⟨j, List.mem_append_left _ hLeft, hId⟩)
  · exact .inl hId
  · exact .inr (List.mem_filterMap.mpr
      ⟨j, List.mem_append_right _ hRight, hId⟩)

/- A handler ends that had nothing more to bring. -/
theorem KeptInvariant.drop
    {k : Point}
    (hInv :
      KeptInvariant stored deliveries s
        (earlier ++ k :: later))
    (hCompared :
      ∀ id, k.comparedId = some id →
        s.takenUp.count id = 1)
    (hInserted : k.insertedId = none) :
    KeptInvariant stored deliveries s
      (earlier ++ later ++ []) := by
  rw [List.append_nil]
  constructor
  · exact hInv.stored
  · intro id
    simpa [List.filterMap_cons, hInserted]
      using hInv.count id
  · intro id hMem
    rcases hInv.delivered id hMem with hTaken | hWaits
    · exact .inl hTaken
    · rcases mem_filterMap_split hWaits with hHere | hRest
      · exact .inl (hCompared id hHere)
      · exact .inr hRest
  · exact hInv.valid
  · exact fun j hMem => hInv.points j (mem_of_mem_rest hMem)

/- An id that was not taken up yet is stored and travels. -/
theorem KeptInvariant.takeUp
    {note : FStoreNotification}
    {arrival : Arrival}
    (hInv :
      KeptInvariant stored deliveries s
        (earlier ++ .saveReady note arrival :: later))
    (hNew : s.takenUp.count arrival.id = 0) :
    KeptInvariant stored deliveries
      { s with
        messageId := arrival.id
        takenUp := arrival.id :: s.takenUp }
      (earlier ++ later ++
        [.saveMessageId note arrival s.list]) := by
  have hMessage : (note, arrival.id) ∈ received deliveries :=
    hInv.points (.saveReady note arrival) (by simp)
  constructor
  · exact hInv.stored
  · intro id
    have hOnce := hInv.count id
    simp only [List.filterMap_append, List.filterMap_cons,
      Point.insertedId, List.filterMap_nil,
      List.count_append, List.count_cons,
      List.count_nil] at hOnce ⊢
    change _ = (entryIds s.entries).count id + _
    omega
  · intro id hMem
    rcases hInv.delivered id hMem with hOld | hWaits
    · left
      have hOther : arrival.id ≠ id := by
        rintro rfl
        omega
      rwa [List.count_cons_of_ne hOther]
    · rcases mem_filterMap_split hWaits with hHere | hRest
      · cases hHere
        left
        rw [List.count_cons_self, hNew]
      · rw [List.filterMap_append]
        exact .inr (List.mem_append_left _ hRest)
  · exact hInv.valid
  · intro k hMem
    rcases List.mem_append.mp hMem with hOld | hNext
    · exact (hInv.points k (mem_of_mem_rest hOld)).mono
        (List.Subset.refl _) fun _ hList => hList
    · rw [List.mem_singleton.mp hNext]
      exact ⟨hMessage, fun r hList => hList⟩

/-
  What the comparison takes for an id is the text itself,
  and it is passed over exactly if it is the stored one.
-/
theorem checkMessageId_of_stored
    {note : FStoreNotification}
    {arrival : Arrival}
    (hStored : s.messageId = arrival.id)
    (hProper : arrival.id ∉ [none, some "", some "null"]) :
    s.checkMessageId note arrival = (s, []) := by
  cases hId : arrival.id with
  | none => simp [hId] at hProper
  | some id =>
      rw [hId] at hStored hProper
      simp only [List.mem_cons, Option.some.injEq,
        reduceCtorEq, List.not_mem_nil, or_false,
        false_or, not_or] at hProper
      simp [Notifications.checkMessageId, hId, hStored,
        hProper]

/- An id is passed over only if it is the stored one. -/
theorem checkMessageId_cases
    (note : FStoreNotification)
    (arrival : Arrival)
    (s : Notifications) :
    (∃ id, arrival.id = some id ∧ s.messageId = some id ∧
        s.PassesOver arrival.id ∧
        s.checkMessageId note arrival = (s, [])) ∨
      s.checkMessageId note arrival =
        ({ s with
            messageId := arrival.id
            takenUp := arrival.id :: s.takenUp },
          [.saveMessageId note arrival s.list]) := by
  unfold Notifications.checkMessageId
  simp only
  split
  next hPassed =>
    rcases hPassed with ⟨hText, hNotNull, hSame⟩
    left
    cases hLast : s.messageId with
    | none =>
        rw [hLast] at hSame
        exact absurd hSame.symm hNotNull
    | some last =>
        rw [hLast] at hSame hText
        refine ⟨last, hSame.symm, rfl, ⟨?_, ?_⟩, rfl⟩
        · rw [hLast]
          exact hSame
        · have hProper : last ≠ "" := hText
          rw [← hSame] at hNotNull ⊢
          simpa [hProper] using hNotNull
  next => exact .inr rfl

/- A stored id is passed over, another is taken up. -/
theorem KeptInvariant.checkMessageId
    {note : FStoreNotification}
    {arrival : Arrival}
    (hInv :
      KeptInvariant stored deliveries s
        (earlier ++ .saveReady note arrival :: later))
    (hOnce :
      s.takenUp.count arrival.id =
        if s.PassesOver arrival.id then 1 else 0) :
    KeptInvariant stored deliveries
      (s.checkMessageId note arrival).1
      (earlier ++ later ++
        (s.checkMessageId note arrival).2) := by
  by_cases hPasses : s.PassesOver arrival.id
  · rw [if_pos hPasses] at hOnce
    rw [checkMessageId_of_stored hPasses.1 hPasses.2]
    refine hInv.drop ?_ rfl
    rintro id ⟨⟩
    exact hOnce
  · rw [if_neg hPasses] at hOnce
    rcases checkMessageId_cases note arrival s with
      ⟨_, _, _, hOver, _⟩ | hTurn
    · exact absurd hOver hPasses
    · rw [hTurn]
      exact hInv.takeUp hOnce

/-
  A list that starts with a new entry: the id that travelled
  with the handler has its entry.
-/
theorem KeptInvariant.insert
    {note : FStoreNotification}
    {arrival : Arrival}
    {list : Option Ref}
    {t : Notifications}
    (hInv :
      KeptInvariant stored deliveries s
        (earlier ++ .saveMessageId note arrival list :: later))
    (hTaken : t.takenUp = s.takenUp)
    (hEntries : t.entries = ⟨arrival, note⟩ :: s.entries)
    (hValid : ∀ r, t.list = some r → r < t.heap.size)
    (hList : ∀ r, s.list = some r → t.list = some r) :
    KeptInvariant stored deliveries t
      (earlier ++ later ++ [.saveItem]) := by
  rcases hInv.points (.saveMessageId note arrival list)
      (by simp) with ⟨hMessage, _⟩
  rcases hInv.stored with ⟨new, hOld, hMessages⟩
  constructor
  · refine ⟨⟨arrival, note⟩ :: new, ?_, ?_⟩
    · rw [hEntries, hOld, List.cons_append]
    · intro e hMem
      rcases List.mem_cons.mp hMem with rfl | hRest
      · exact hMessage
      · exact hMessages e hRest
  · intro id
    have hOnce := hInv.count id
    rw [hTaken, hEntries]
    simp only [List.filterMap_append, List.filterMap_cons,
      Point.insertedId, List.filterMap_nil, entryIds,
      List.map_cons, List.count_append, List.count_cons,
      List.count_nil] at hOnce ⊢
    omega
  · intro id hMem
    rw [hTaken]
    rcases hInv.delivered id hMem with hBefore | hWaits
    · exact .inl hBefore
    · rcases mem_filterMap_split hWaits with hHere | hRest
      · cases hHere
      · rw [List.filterMap_append]
        exact .inr (List.mem_append_left _ hRest)
  · exact hValid
  · intro k hMem
    rcases List.mem_append.mp hMem with hRest | hNext
    · exact (hInv.points k (mem_of_mem_rest hRest)).mono
        (List.Subset.refl _) hList
    · rw [List.mem_singleton.mp hNext]
      trivial

/- The entry is inserted into the list read before. -/
theorem KeptInvariant.insertEntry
    {note : FStoreNotification}
    {arrival : Arrival}
    {list : Option Ref}
    (hInv :
      KeptInvariant stored deliveries s
        (earlier ++ .saveMessageId note arrival list :: later))
    (hFresh : list = none → s.list = none) :
    KeptInvariant stored deliveries
      ((s.intend (⟨arrival, note⟩ :: ·)).insertEntry note
        arrival list).1
      (earlier ++ later ++
        ((s.intend (⟨arrival, note⟩ :: ·)).insertEntry note
          arrival list).2) := by
  cases list with
  | none =>
      have hList := hFresh rfl
      have hEmpty : s.entries = [] := by
        simp [entries, listed, hList]
      refine hInv.insert rfl ?_ ?_ ?_
      · rw [hEmpty]
        exact Heap.read_alloc_new _ _
      · intro r hStored
        cases hStored
        simp [Notifications.insertEntry, intend]
      · intro r hStored
        rw [hList] at hStored
        cases hStored
  | some r =>
      have hList : s.list = some r :=
        (hInv.points (.saveMessageId note arrival (some r))
          (by simp)).2 r rfl
      have hLt := hInv.valid r hList
      refine hInv.insert rfl ?_ ?_ ?_
      · rw [entries_of_list hList]
        exact Heap.read_write_same hLt _
      · intro q hStored
        cases hStored
        simpa [Notifications.insertEntry, intend] using hLt
      · intro q hStored
        rw [hList] at hStored
        exact hStored

/- Every admitted turn keeps the invariant. -/
theorem KeptInvariant.resume
    {k : Point}
    {ready : Ready}
    (hInv :
      KeptInvariant stored deliveries s
        (earlier ++ k :: later))
    (hOk : keptResume s (earlier ++ later) k ready) :
    KeptInvariant stored deliveries
      (Notifications.resume k ready s).1
      (earlier ++ later ++
        (Notifications.resume k ready s).2) := by
  rcases hOk with ⟨hReady, hTurn⟩
  have hPoint := hInv.points k (by simp)
  unfold Notifications.resume
  rw [if_pos hReady]
  cases k with
  | saveReady note arrival => exact hInv.checkMessageId hTurn
  | saveMessageId note arrival list =>
      refine hInv.insertEntry ?_
      rintro rfl
      exact hTurn
  | saveItem =>
      exact hInv.drop (fun _ hCompared => by cases hCompared)
        rfl
  | _ => exact hPoint.elim

/-
  Over whatever was stored before, once nothing is suspended
  after a run whose turns all meet the condition, every
  delivered id has exactly one entry in the list.
-/
theorem keptOnce_of_run
    {stored : Option (List NotificationEntry)}
    {messageId : Option String}
    {es : List (Event Delivery Ready)}
    {p : Pool Notifications Point}
    (hRun :
      handlers.system.Run
        (Program.when (fun _ _ _ => True) keptResume)
        (relaunched stored messageId) es p)
    (hQuiescent : p.Quiescent) :
    ∃ new,
      KeptOnce (stored.getD []) (calls es) p.shared new := by
  have hInv :
      KeptInvariant (stored.getD []) (calls es) p.shared
        p.pending := by
    refine Program.run_invariant
      (I := fun hist s pending =>
        KeptInvariant (stored.getD []) (calls hist) s pending)
      hRun ?_ ?_ ?_
    · have hPending :
          (relaunched stored messageId).pending = [] := by
        cases stored <;> rfl
      rw [hPending]
      exact KeptInvariant.relaunched stored messageId
    · intro hist s pending delivery t next hInv _ hCall
      have hKept := hInv.deliver delivery
      have hSame : s.deliver delivery = (t, next) :=
        Option.some.inj hCall
      rw [hSame] at hKept
      simpa using hKept
    · intro hist s earlier k later ready hInv hOk _
      rw [calls_append, calls_resume, List.append_nil]
      exact hInv.resume hOk
  have hNone : p.pending = [] := hQuiescent
  rw [hNone] at hInv
  rcases hInv.stored with ⟨new, hEntries, hMessages⟩
  refine ⟨new, hEntries, hMessages, ?_⟩
  intro id hMem
  have hOnce : p.shared.takenUp.count id = 1 :=
    (hInv.delivered id hMem).resolve_right (by simp)
  have hEqual := hInv.count id
  rw [List.filterMap_nil, List.count_nil] at hEqual
  omega

/- A OneSignal message with an id. -/
def push (id : String) : Delivery :=
  .oneSignal (some "Title") (some "Body") (some id)
    "2021-03-01 18:00:00.000"

/- The entry of such a message. -/
def pushed (serial : Nat) (id : String) : NotificationEntry :=
  let note :=
    FStoreNotification.fromOneSignal
      "2021-03-01 18:00:00.000" (some "Title") (some "Body")
  ⟨⟨serial, some id, note.said⟩, note⟩

/-
  The message that was stored last before the launch comes
  again, then one that comes twice in a row, and another.
-/
theorem keptOnce_in_turn :
    ∃ p : Pool Notifications Point,
      handlers.system.Run
        (Program.when (fun _ _ _ => True) keptResume)
        (relaunched (some [pushed 0 "a"]) (some "a"))
        (.call (push "a") :: turns 1 (.ok true) ++
          .call (push "b") :: .call (push "b") ::
          .resume 0 (.ok true) :: turns 3 (.ok true) ++
          .call (push "c") :: turns 3 (.ok true))
        p ∧
      ∃ new,
        KeptOnce [pushed 0 "a"]
          [push "a", push "b", push "b", push "c"]
          p.shared new := by
  have hRun :
      handlers.system.Run
        (Program.when (fun _ _ _ => True) keptResume)
        (relaunched (some [pushed 0 "a"]) (some "a"))
        (.call (push "a") :: turns 1 (.ok true) ++
          .call (push "b") :: .call (push "b") ::
          .resume 0 (.ok true) :: turns 3 (.ok true) ++
          .call (push "c") :: turns 3 (.ok true)) _ :=
    System.run_iff_exec.mpr ⟨by decide, rfl⟩
  exact ⟨_, hRun, keptOnce_of_run hRun rfl⟩

/- A message that comes again after another is kept twice. -/
theorem repeated_message_kept_twice :
    ∃ p : Pool Notifications Point,
      handlers.system.Run System.anyStep
        (relaunched none none)
        (.call (push "a") :: turns 3 (.ok true) ++
          .call (push "b") :: turns 3 (.ok true) ++
          .call (push "a") :: turns 3 (.ok true))
        p ∧
      p.Quiescent ∧
      (entryIds p.shared.entries).count (some "a") = 2 ∧
      ¬ ∃ new,
        KeptOnce [] [push "a", push "b", push "a"]
          p.shared new := by
  have hRun :
      ∃ p : Pool Notifications Point,
        handlers.system.Run System.anyStep
          (relaunched none none)
          (.call (push "a") :: turns 3 (.ok true) ++
            .call (push "b") :: turns 3 (.ok true) ++
            .call (push "a") :: turns 3 (.ok true))
          p ∧
        p.Quiescent ∧
        (entryIds p.shared.entries).count (some "a") = 2 :=
    ⟨_, System.run_of_exec rfl, rfl, rfl⟩
  rcases hRun with ⟨p, hRun, hQuiescent, hTwice⟩
  refine ⟨p, hRun, hQuiescent, hTwice, ?_⟩
  rintro ⟨new, hKept⟩
  have hOnce := hKept.once (some "a") (by decide)
  omega

/-
  Two messages of a fresh install, each of which finds no
  list: the second list replaces the first.
-/
example :
    ∃ p : Pool Notifications Point,
      handlers.system.Run System.anyStep
        (relaunched none none)
        (.call (push "a") :: .call (push "b") ::
          turns 6 (.ok true))
        p ∧
      p.Quiescent ∧
      entryIds p.shared.entries = [some "b"] :=
  ⟨_, System.run_of_exec rfl, rfl, rfl⟩

/-
  The message stored last before the launch comes again, but
  its entry was swiped away: it is passed over.
-/
example :
    ∃ p : Pool Notifications Point,
      handlers.system.Run System.anyStep
        (relaunched (some []) (some "a"))
        (.call (push "a") :: turns 1 (.ok true))
        p ∧
      p.Quiescent ∧
      entryIds p.shared.entries = [] :=
  ⟨_, System.run_of_exec rfl, rfl, rfl⟩

end Notifications

end NewsCentral
