import NewsCentral.EventLoop.Durable
import NewsCentral.Notifications.Kept

/-
  The stored notifications when the app is killed at any
  moment.

  `saveToLocal` stores the id of a message before its entry,
  and the file is always written as a whole.  However often
  the app is killed, no message has two entries, and what
  has once reached the file is never lost.  A message whose
  id was not written before the kill may come again.

  Key definitions include:
    * `NewsCentral.Notifications.Fstore`
    * `NewsCentral.Notifications.flushing` and `boot`
    * `NewsCentral.Notifications.KeptSafe`

  Key theorems include:
    * `NewsCentral.Notifications.KeptSafe.takeUp`
    * `NewsCentral.Notifications.KeptSafe.resume`
    * `NewsCentral.Notifications.keptSafe_of_crashes`
-/

------------------------------------------------------------
-- The File
------------------------------------------------------------

namespace NewsCentral

open Dart EventLoop

namespace Notifications

/-
  The keys "notifications" and "message-id" of the file.
  The last two fields are histories as of the writing.
-/
structure Fstore where
  notifications : Option (List NotificationEntry) := none
  messageId : Option String := none
  arrivals : Nat := 0
  takenUp : List (Option String) := []

def Fstore.entries (file : Fstore) : List NotificationEntry :=
  file.notifications.getD []

/- The storage is written as it is. -/
def written (s : Notifications) : Fstore where
  notifications := s.list.map s.heap.read
  messageId := s.messageId
  arrivals := s.arrivals
  takenUp := s.takenUp

/- `setItem` has flushed the storage when it completes. -/
def Point.flushes : Point → Bool
  | .seenItem => true
  | .removeItem => true
  | .saveMessageId .. => true
  | .saveItem => true
  | _ => false

def flushing :
    Flushing Notifications Point Ready Unit Fstore where
  flush := fun _ s _ => written s
  awaited k ready :=
    if k.flushes && ready.works then some () else none

/- A new process reads the file. -/
def boot (file : Fstore) : Notifications × List Point :=
  match file.notifications with
  | none =>
      ({ messageId := file.messageId
         arrivals := file.arrivals
         takenUp := file.takenUp }, [])
  | some entries =>
      ({ heap := ⟨[entries]⟩
         list := some 0
         messageId := file.messageId
         arrivals := file.arrivals
         intended := entries
         takenUp := file.takenUp }, [])

/- The process started on a file. -/
def process
    (file : Fstore) :
    Pool (OnDisk Notifications Fstore) Point :=
  ⟨⟨(boot file).1, file⟩, (boot file).2⟩

/- Messages of this kind only are received. -/
def onlyReceived
    (Q : FStoreNotification × Option String → Prop)
    (_ : Notifications)
    (_ : List Point)
    (delivery : Delivery) : Prop :=
  ∀ message ∈ received [delivery], Q message

/-
  An id comes again only while it is the one stored last, or
  after it was lost; and no other call made a list meanwhile.
-/
def orderlyResume
    (s : Notifications)
    (_ : List Point)
    (k : Point)
    (_ : Ready) : Prop :=
  match k with
  | .saveReady _ arrival =>
      arrival.id ∈ s.takenUp →
        s.messageId = arrival.id ∧
          arrival.id ∉ [none, some "", some "null"]
  | .saveMessageId _ _ none => s.list = none
  | _ => True

instance
    (Q : FStoreNotification × Option String → Prop)
    [DecidablePred Q]
    (s : Notifications)
    (pending : List Point)
    (delivery : Delivery) :
    Decidable (onlyReceived Q s pending delivery) :=
  inferInstanceAs
    (Decidable (∀ message ∈ received [delivery], Q message))

instance
    (s : Notifications)
    (rest : List Point)
    (k : Point)
    (ready : Ready) :
    Decidable (orderlyResume s rest k ready) :=
  match k with
  | .saveReady _ arrival =>
      inferInstanceAs
        (Decidable
          (arrival.id ∈ s.takenUp →
            s.messageId = arrival.id ∧
              arrival.id ∉ [none, some "", some "null"]))
  | .saveMessageId _ _ none =>
      inferInstanceAs (Decidable (s.list = none))
  | .saveMessageId _ _ (some _) => isTrue trivial
  | .seenReady .. => isTrue trivial
  | .removeReady .. => isTrue trivial
  | .seenItem => isTrue trivial
  | .removeItem => isTrue trivial
  | .saveItem => isTrue trivial

/- Each taken up id has at most one entry, of a message. -/
structure Sound
    (Q : FStoreNotification × Option String → Prop)
    (file : Fstore) : Prop where
  once : file.takenUp.Nodup
  counted :
    ∀ id,
      (entryIds file.entries).count id ≤
        file.takenUp.count id
  last :
    ∀ id, file.messageId = some id → some id ∈ file.takenUp
  known : ∀ e ∈ file.entries, Q (e.note, e.arrival.id)

/- What suspended handlers hold. -/
def SafePoint
    (Q : FStoreNotification × Option String → Prop)
    (s : Notifications) : Point → Prop
  | .saveReady note arrival => Q (note, arrival.id)
  | .saveMessageId note arrival list =>
      Q (note, arrival.id) ∧
        ∀ r, list = some r → s.list = some r
  | .saveItem => True
  | _ => False

/-
  Each taken up id has its entry, or one handler that may
  insert it, or neither; the file is sound, and its entries
  are those behind the ones that came since.
-/
structure KeptSafe
    (Q : FStoreNotification × Option String → Prop)
    (s : Notifications)
    (file : Fstore)
    (pending : List Point) : Prop where
  counted :
    ∀ id,
      (entryIds s.entries).count id +
          (pending.filterMap Point.insertedId).count id ≤
        s.takenUp.count id
  once : s.takenUp.Nodup
  last :
    ∀ id, s.messageId = some id → some id ∈ s.takenUp
  known : ∀ e ∈ s.entries, Q (e.note, e.arrival.id)
  valid : ∀ r, s.list = some r → r < s.heap.size
  points : ∀ k ∈ pending, SafePoint Q s k
  sound : Sound Q file
  behind : file.entries <:+ s.entries

end Notifications

end NewsCentral

------------------------------------------------------------
-- Messages Are Taken Up
------------------------------------------------------------

namespace NewsCentral

open Dart EventLoop

namespace Notifications

variable {Q : FStoreNotification × Option String → Prop}
variable {s t : Notifications} {file : Fstore}
variable {earlier later pending next : List Point}
variable {note : FStoreNotification} {arrival : Arrival}

theorem entries_written
    (s : Notifications) :
    (written s).entries = s.entries := by
  unfold Fstore.entries written entries listed
  cases s.list <;> rfl

theorem entries_boot
    (file : Fstore) :
    (boot file).1.entries = file.entries := by
  unfold Fstore.entries boot
  cases file.notifications <;> rfl

/- A file may be written at any moment. -/
theorem KeptSafe.flush
    (hSafe : KeptSafe Q s file pending) :
    KeptSafe Q s (written s) pending := by
  refine { hSafe with sound := ?_, behind := ?_ }
  · refine ⟨hSafe.once, fun id => ?_, hSafe.last, ?_⟩
    · rw [entries_written]
      exact Nat.le_of_add_right_le (hSafe.counted id)
    · rw [entries_written]
      exact hSafe.known
  · rw [entries_written]

/- A process on a sound file. -/
theorem KeptSafe.boot
    (hSound : Sound Q file) :
    KeptSafe Q (Notifications.boot file).1 file
      (Notifications.boot file).2 := by
  have hEntries := entries_boot file
  have hTaken :
      (Notifications.boot file).1.takenUp = file.takenUp := by
    unfold Notifications.boot
    cases file.notifications <;> rfl
  have hLast :
      (Notifications.boot file).1.messageId =
        file.messageId := by
    unfold Notifications.boot
    cases file.notifications <;> rfl
  have hNone : (Notifications.boot file).2 = [] := by
    unfold Notifications.boot
    cases file.notifications <;> rfl
  rw [hNone]
  constructor
  · intro id
    rw [hEntries, hTaken]
    exact hSound.counted id
  · rw [hTaken]
    exact hSound.once
  · rw [hTaken, hLast]
    exact hSound.last
  · rw [hEntries]
    exact hSound.known
  · intro r hList
    unfold Notifications.boot at hList ⊢
    cases hFile : file.notifications with
    | none => simp [hFile] at hList
    | some entries =>
        simp only [hFile, Option.some.injEq] at hList
        subst hList
        exact Nat.zero_lt_one
  · simp
  · exact hSound
  · rw [hEntries]

/- A message is refused, or waits for the storage. -/
theorem KeptSafe.deliver
    {delivery : Delivery}
    (hSafe : KeptSafe Q s file pending)
    (hReceived : ∀ message ∈ received [delivery], Q message) :
    KeptSafe Q (s.deliver delivery).1 file
      (pending ++ (s.deliver delivery).2) := by
  cases hMessage : delivery.received with
  | error thrown =>
      have hTurn : s.deliver delivery = (s, []) := by
        simp [Notifications.deliver, hMessage]
      rw [hTurn, List.append_nil]
      exact hSafe
  | ok message =>
      rcases message with ⟨note, id⟩
      have hTurn :
          s.deliver delivery =
            ({ s with arrivals := s.arrivals + 1 },
              [.saveReady note
                ⟨s.arrivals, id, note.said⟩]) := by
        simp [Notifications.deliver, hMessage]
      have hQ : Q (note, id) :=
        hReceived (note, id)
          (by simp [received, hMessage, Except.toOption])
      rw [hTurn]
      refine { hSafe with counted := ?_, points := ?_ }
      · intro i
        have hNone :
            [Point.saveReady note
                ⟨s.arrivals, id, note.said⟩].filterMap
              Point.insertedId = [] := rfl
        rw [List.filterMap_append, hNone, List.append_nil]
        exact hSafe.counted i
      · intro k hMem
        rcases List.mem_append.mp hMem with hOld | hNew
        · have hPoint := hSafe.points k hOld
          cases k <;> exact hPoint
        · rw [List.mem_singleton.mp hNew]
          exact hQ

/- A handler ends, whatever it was about to insert. -/
theorem KeptSafe.drop
    {k : Point}
    (hSafe : KeptSafe Q s file (earlier ++ k :: later)) :
    KeptSafe Q s file (earlier ++ later ++ []) := by
  rw [List.append_nil]
  refine { hSafe with counted := ?_, points := ?_ }
  · intro id
    have hCount := hSafe.counted id
    simp only [List.filterMap_append, List.filterMap_cons,
      List.count_append] at hCount ⊢
    split at hCount
    · exact hCount
    · rw [List.count_cons] at hCount
      omega
  · exact fun j hMem => hSafe.points j (mem_of_mem_rest hMem)

/- An id that is new is stored and travels. -/
theorem KeptSafe.takeUp
    (hSafe :
      KeptSafe Q s file
        (earlier ++ .saveReady note arrival :: later))
    (hNew : arrival.id ∉ s.takenUp) :
    KeptSafe Q
      { s with
        messageId := arrival.id
        takenUp := arrival.id :: s.takenUp }
      file
      (earlier ++ later ++
        [.saveMessageId note arrival s.list]) := by
  have hMessage : Q (note, arrival.id) :=
    hSafe.points (.saveReady note arrival) (by simp)
  constructor
  · intro id
    have hCount := hSafe.counted id
    have hSame :
        ({ s with
            messageId := arrival.id
            takenUp := arrival.id :: s.takenUp } :
          Notifications).entries = s.entries := rfl
    rw [hSame]
    simp only [List.filterMap_append, List.filterMap_cons,
      Point.insertedId, List.filterMap_nil,
      List.count_append, List.count_cons,
      List.count_nil] at hCount ⊢
    omega
  · exact List.nodup_cons.mpr ⟨hNew, hSafe.once⟩
  · intro id hLast
    have hHere : arrival.id = some id := hLast
    rw [← hHere]
    exact List.mem_cons_self
  · exact hSafe.known
  · exact hSafe.valid
  · intro k hMem
    rcases List.mem_append.mp hMem with hOld | hNext
    · have hPoint := hSafe.points k (mem_of_mem_rest hOld)
      cases k <;> exact hPoint
    · rw [List.mem_singleton.mp hNext]
      exact ⟨hMessage, fun r hList => hList⟩
  · exact hSafe.sound
  · exact hSafe.behind

/- A stored id is passed over, another is taken up. -/
theorem KeptSafe.checkMessageId
    (hSafe :
      KeptSafe Q s file
        (earlier ++ .saveReady note arrival :: later))
    (hRepeat :
      arrival.id ∈ s.takenUp →
        s.messageId = arrival.id ∧
          arrival.id ∉ [none, some "", some "null"]) :
    KeptSafe Q (s.checkMessageId note arrival).1 file
      (earlier ++ later ++
        (s.checkMessageId note arrival).2) := by
  by_cases hTaken : arrival.id ∈ s.takenUp
  · rcases hRepeat hTaken with ⟨hStored, hProper⟩
    rw [checkMessageId_of_stored hStored hProper]
    exact hSafe.drop
  · rcases checkMessageId_cases note arrival s with
      ⟨id, hId, hLast, _⟩ | hTurn
    · have hStored := hSafe.last id hLast
      rw [← hId] at hStored
      exact absurd hStored hTaken
    · rw [hTurn]
      exact hSafe.takeUp hTaken

end Notifications

end NewsCentral

------------------------------------------------------------
-- Entries Are Inserted
------------------------------------------------------------

namespace NewsCentral

open Dart EventLoop

namespace Notifications

variable {Q : FStoreNotification × Option String → Prop}
variable {s t : Notifications} {file : Fstore}
variable {earlier later pending : List Point}
variable {note : FStoreNotification} {arrival : Arrival}
variable {list : Option Ref}

/- A list that starts with a new entry of a travelling id. -/
theorem KeptSafe.insert
    (hSafe :
      KeptSafe Q s file
        (earlier ++ .saveMessageId note arrival list :: later))
    (hTaken : t.takenUp = s.takenUp)
    (hLast : t.messageId = s.messageId)
    (hEntries : t.entries = ⟨arrival, note⟩ :: s.entries)
    (hValid : ∀ r, t.list = some r → r < t.heap.size)
    (hList : ∀ r, s.list = some r → t.list = some r) :
    KeptSafe Q t file (earlier ++ later ++ [.saveItem]) := by
  rcases hSafe.points (.saveMessageId note arrival list)
      (by simp) with ⟨hMessage, _⟩
  constructor
  · intro id
    have hCount := hSafe.counted id
    rw [hTaken, hEntries]
    simp only [List.filterMap_append, List.filterMap_cons,
      Point.insertedId, List.filterMap_nil, entryIds,
      List.map_cons, List.count_append, List.count_cons,
      List.count_nil] at hCount ⊢
    omega
  · rw [hTaken]
    exact hSafe.once
  · rw [hTaken, hLast]
    exact hSafe.last
  · intro e hMem
    rw [hEntries] at hMem
    rcases List.mem_cons.mp hMem with hNew | hOld
    · rw [hNew]
      exact hMessage
    · exact hSafe.known e hOld
  · exact hValid
  · intro k hMem
    rcases List.mem_append.mp hMem with hRest | hNext
    · have hPoint := hSafe.points k (mem_of_mem_rest hRest)
      cases k with
      | saveMessageId note arrival held =>
          exact ⟨hPoint.1,
            fun r hHeld => hList r (hPoint.2 r hHeld)⟩
      | _ => exact hPoint
    · rw [List.mem_singleton.mp hNext]
      trivial
  · exact hSafe.sound
  · rw [hEntries]
    exact hSafe.behind.trans (List.suffix_cons _ _)

/- The entry is inserted into the list read before. -/
theorem KeptSafe.insertEntry
    (hSafe :
      KeptSafe Q s file
        (earlier ++ .saveMessageId note arrival list :: later))
    (hFresh : list = none → s.list = none) :
    KeptSafe Q
      ((s.intend (⟨arrival, note⟩ :: ·)).insertEntry note
        arrival list).1
      file
      (earlier ++ later ++
        ((s.intend (⟨arrival, note⟩ :: ·)).insertEntry note
          arrival list).2) := by
  cases list with
  | none =>
      have hList := hFresh rfl
      have hEmpty : s.entries = [] := by
        simp [entries, listed, hList]
      refine hSafe.insert rfl rfl ?_ ?_ ?_
      · rw [hEmpty]
        exact Heap.read_alloc_new _ _
      · intro r hStored
        cases hStored
        simp [Notifications.insertEntry, intend]
      · intro r hStored
        rw [hList] at hStored
        cases hStored
  | some r =>
      have hList : s.list = some r :=
        (hSafe.points (.saveMessageId note arrival (some r))
          (by simp)).2 r rfl
      have hLt := hSafe.valid r hList
      refine hSafe.insert rfl rfl ?_ ?_ ?_
      · rw [entries_of_list hList]
        exact Heap.read_write_same hLt _
      · intro q hStored
        cases hStored
        simpa [Notifications.insertEntry, intend] using hLt
      · intro q hStored
        rw [hList] at hStored
        exact hStored

/- Handlers go on, or the storage fails them. -/
theorem KeptSafe.resume
    {k : Point}
    {ready : Ready}
    (hSafe : KeptSafe Q s file (earlier ++ k :: later))
    (hOk : orderlyResume s (earlier ++ later) k ready) :
    KeptSafe Q (Notifications.resume k ready s).1 file
      (earlier ++ later ++
        (Notifications.resume k ready s).2) := by
  have hPoint := hSafe.points k (by simp)
  unfold Notifications.resume
  split
  next =>
    cases k with
    | saveReady note arrival => exact hSafe.checkMessageId hOk
    | saveMessageId note arrival list =>
        refine hSafe.insertEntry ?_
        rintro rfl
        exact hOk
    | saveItem => exact hSafe.drop
    | _ => exact hPoint.elim
  next => exact hSafe.drop

end Notifications

end NewsCentral

------------------------------------------------------------
-- Crashes
------------------------------------------------------------

namespace NewsCentral

open Dart EventLoop

namespace Notifications

variable {Q : FStoreNotification × Option String → Prop}
variable {file : Fstore}
variable {es fs : List (Life (Delivery ⊕ Unit) Ready)}
variable {p q : Pool (OnDisk Notifications Fstore) Point}

/- Sound lists hold each id once. -/
theorem Sound.nodup_entryIds
    (hSound : Sound Q file) :
    (entryIds file.entries).Nodup := by
  rw [List.nodup_iff_count_le_one]
  intro id
  exact (hSound.counted id).trans
    (List.nodup_iff_count_le_one.mp hSound.once id)

/- From any moment on, the file only grows at the front. -/
theorem keptSafe_of_crashes
    (hRun :
      (handlers.crashing flushing boot).Run
        (Program.whileCrashing (onlyReceived Q) orderlyResume)
        p es q)
    (hStart :
      KeptSafe Q p.shared.memory p.shared.disk p.pending) :
    KeptSafe Q q.shared.memory q.shared.disk q.pending ∧
      p.shared.disk.entries <:+ q.shared.disk.entries := by
  refine Program.crashing_invariant
    (I := fun s file pending =>
      KeptSafe Q s file pending ∧
        p.shared.disk.entries <:+ file.entries)
    hRun ⟨hStart, List.suffix_refl _⟩ ?_ ?_ ?_ ?_ ?_
  · intro s file pending hBoth
    exact ⟨.boot hBoth.1.sound, hBoth.2⟩
  · intro _ s file pending hBoth
    refine ⟨hBoth.1.flush, ?_⟩
    change p.shared.disk.entries <:+ (written s).entries
    rw [entries_written]
    exact hBoth.2.trans hBoth.1.behind
  · intro _ s file
    rfl
  · intro s file pending delivery t next hBoth hOk hCall
    have hTurn : s.deliver delivery = (t, next) :=
      Option.some.inj hCall
    have hKept := hBoth.1.deliver hOk
    rw [hTurn] at hKept
    exact ⟨hKept, hBoth.2⟩
  · intro s file earlier k later ready hBoth hOk _
    exact ⟨hBoth.1.resume hOk, hBoth.2⟩

/- "a" is kept, and the id of "b" is not yet in the file. -/
def killedKeeping : List (Life (Delivery ⊕ Unit) Ready) :=
  [ .turn (.call (.inl (push "a"))),
    .turn (.resume 0 (.ok true)),
    .turn (.resume 0 (.ok true)),
    .turn (.resume 0 (.ok true)),
    .turn (.call (.inl (push "b"))),
    .turn (.resume 0 (.ok true)) ]

/- The app is killed there; "b" comes again, and again. -/
def keptAfterwards : List (Life (Delivery ⊕ Unit) Ready) :=
  [ .restart,
    .turn (.call (.inl (push "b"))),
    .turn (.resume 0 (.ok true)),
    .turn (.resume 0 (.ok true)),
    .turn (.call (.inl (push "b"))),
    .turn (.resume 1 (.ok true)),
    .turn (.call (.inr ())) ]

end Notifications

end NewsCentral
