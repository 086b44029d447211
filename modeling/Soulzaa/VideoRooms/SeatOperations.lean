/-
One operation on a video room's seats, in the snapshot and in the table.

An operation writes to the table what it has changed in the snapshot.  A transfer of a user to his
own seat and a lock with an empty reason are where it does not.
-/

import Soulzaa.VideoRooms.SeatTables

namespace Soulzaa.VideoRooms.Stages

open OrderedRows (Ordered)

/-! ### Tidy seats -/

/-- The status of a seat is what its columns say. -/
structure SeatEntrySnapshot.Shown (seat : SeatEntrySnapshot) : Prop where
  occupied : seat.status = .occupied ↔ seat.occupantUserId.isSome = true
  locked : seat.status = .locked ↔ seat.isLocked = true
  reserved : seat.status = .reserved ↔ seat.reservedForUserId.isSome = true

structure Tidy (ownerId : UserId) (seats : List SeatEntrySnapshot) : Prop where
  once : ∀ seat ∈ seats, ∀ other ∈ seats, ∀ userId, seat.occupantUserId = some userId →
    other.occupantUserId = some userId → seat.seatIndex = other.seatIndex
  shown : ∀ seat ∈ seats, seat.Shown
  owned : ∀ seat ∈ seats, isOwnerSeat seat.seatIndex = true →
    ∀ userId, seat.occupantUserId = some userId → userId = ownerId

/-- Not a lock that has the empty text for its reason, nor a forced transfer of a user to the seat
that he is on. -/
def SeatOperation.Faithful (base : SeatStageSnapshot) : SeatOperation → Prop
  | .lockSeats seatIndexes reason =>
      reason = some "" → seatIndexes ≠ [] →
        ∃ seatIndex ∈ seatIndexes, isOwnerSeat seatIndex = true ∨
          KeyedRows.find SeatEntrySnapshot.seatIndex seatIndex base.seats = none
  | .transferSeat userId toSeatIndex fromSeatIndex force =>
      ∀ seat ∈ base.seatOf userId, seat.seatIndex = toSeatIndex → force = true →
        isOwnerSeat toSeatIndex = true ∨
          (fromSeatIndex.isSome ∧ fromSeatIndex ≠ some toSeatIndex)
  | _ => True

instance (base : SeatStageSnapshot) (operation : SeatOperation) :
    Decidable (operation.Faithful base) :=
  match operation with
  | .lockSeats seatIndexes reason =>
      inferInstanceAs (Decidable (reason = some "" → seatIndexes ≠ [] → ∃ seatIndex ∈ seatIndexes,
        isOwnerSeat seatIndex = true ∨
          KeyedRows.find SeatEntrySnapshot.seatIndex seatIndex base.seats = none))
  | .transferSeat userId toSeatIndex fromSeatIndex force =>
      inferInstanceAs (Decidable (∀ seat ∈ base.seatOf userId, seat.seatIndex = toSeatIndex →
        force = true → isOwnerSeat toSeatIndex = true ∨
          (fromSeatIndex.isSome ∧ fromSeatIndex ≠ some toSeatIndex)))
  | .takeSeat _ _ | .leaveSeat _ | .unlockSeats _ | .configureLayout _ | .switchSeat _ _
  | .removeFromSeat _ | .seatUser _ _ | .vacateUser _ | .reserve _ _ | .cancelReservation _
  | .releaseExpired _ => inferInstanceAs (Decidable True)

/-! ### Changes of seats -/

section Changes

variable {ownerId userId : UserId} {seats : List SeatEntrySnapshot} {seatIndex : Nat}
  {change : SeatEntrySnapshot → SeatEntrySnapshot}

/-- A change by which at most one user takes a seat. -/
theorem Tidy.map (tidy : Tidy ownerId seats)
    (keeps : ∀ seat, (change seat).seatIndex = seat.seatIndex)
    (shown : ∀ seat ∈ seats, (change seat).Shown)
    (moved : ∀ seat ∈ seats, ∀ user, (change seat).occupantUserId = some user →
      seat.occupantUserId = some user ∨ (seat.seatIndex = seatIndex ∧ user = userId))
    (alone : ∀ seat ∈ seats, seat.seatIndex ≠ seatIndex →
      (change seat).occupantUserId ≠ some userId)
    (owned : isOwnerSeat seatIndex = true → userId = ownerId) :
    Tidy ownerId (seats.map change) where
  once := by
    intro seat member other otherMember user isUser isOther
    obtain ⟨first, inFirst, rfl⟩ := List.mem_map.mp member
    obtain ⟨second, inSecond, rfl⟩ := List.mem_map.mp otherMember
    rw [keeps, keeps]
    rcases moved first inFirst user isUser with wasFirst | ⟨atFirst, rfl⟩
    · rcases moved second inSecond user isOther with wasSecond | ⟨atSecond, rfl⟩
      · exact tidy.once first inFirst second inSecond user wasFirst wasSecond
      · by_contra different
        exact alone first inFirst (atSecond ▸ different) isUser
    · by_contra different
      exact alone second inSecond (fun same => different (atFirst.trans same.symm)) isOther
  shown := by
    intro seat member
    obtain ⟨first, inFirst, rfl⟩ := List.mem_map.mp member
    exact shown first inFirst
  owned := by
    intro seat member isOwner user isUser
    obtain ⟨first, inFirst, rfl⟩ := List.mem_map.mp member
    rw [keeps] at isOwner
    rcases moved first inFirst user isUser with was | ⟨here, rfl⟩
    · exact tidy.owned first inFirst isOwner user was
    · exact owned (here ▸ isOwner)

/-- A change by which nobody takes a seat. -/
theorem Tidy.map_leaving (tidy : Tidy ownerId seats)
    (keeps : ∀ seat, (change seat).seatIndex = seat.seatIndex)
    (shown : ∀ seat ∈ seats, (change seat).Shown)
    (leaving : ∀ seat ∈ seats, ∀ user, (change seat).occupantUserId = some user →
      seat.occupantUserId = some user) : Tidy ownerId (seats.map change) where
  once := by
    intro seat member other otherMember user isUser isOther
    obtain ⟨first, inFirst, rfl⟩ := List.mem_map.mp member
    obtain ⟨second, inSecond, rfl⟩ := List.mem_map.mp otherMember
    rw [keeps, keeps]
    exact tidy.once first inFirst second inSecond user (leaving first inFirst user isUser)
      (leaving second inSecond user isOther)
  shown := by
    intro seat member
    obtain ⟨first, inFirst, rfl⟩ := List.mem_map.mp member
    exact shown first inFirst
  owned := by
    intro seat member isOwner user isUser
    obtain ⟨first, inFirst, rfl⟩ := List.mem_map.mp member
    rw [keeps] at isOwner
    exact tidy.owned first inFirst isOwner user (leaving first inFirst user isUser)

variable {seat : SeatEntrySnapshot}

namespace SeatEntrySnapshot.Shown

/-- A seat that is taken is neither locked nor held for anybody. -/
theorem free_of_occupied (shown : seat.Shown) (isTaken : seat.occupantUserId.isSome = true) :
    seat.isLocked = false ∧ seat.reservedForUserId = none := by
  have occupied := shown.occupied.mpr isTaken
  constructor
  · refine Bool.eq_false_of_not_eq_true fun isLocked => ?_
    rw [shown.locked.mpr isLocked] at occupied
    cases occupied
  · refine Option.not_isSome_iff_eq_none.mp fun held => ?_
    rw [shown.reserved.mpr held] at occupied
    cases occupied

theorem nobody_of_ne (shown : seat.Shown) (notOccupied : seat.status ≠ .occupied) :
    seat.occupantUserId = none :=
  Option.not_isSome_iff_eq_none.mp fun taken => notOccupied (shown.occupied.mpr taken)

theorem unlocked_of_ne (shown : seat.Shown) (notLocked : seat.status ≠ .locked) :
    seat.isLocked = false :=
  Bool.eq_false_of_not_eq_true fun isLocked => notLocked (shown.locked.mpr isLocked)

theorem unheld_of_ne (shown : seat.Shown) (notReserved : seat.status ≠ .reserved) :
    seat.reservedForUserId = none :=
  Option.not_isSome_iff_eq_none.mp fun held => notReserved (shown.reserved.mpr held)

end SeatEntrySnapshot.Shown

theorem shown_occupy (unlocked : seat.isLocked = false) :
    SeatEntrySnapshot.Shown { seat with
      status := .occupied, occupantUserId := some userId, reservedForUserId := none } where
  occupied := iff_of_true rfl rfl
  locked := iff_of_false nofun (by rw [unlocked]; exact nofun)
  reserved := iff_of_false nofun nofun

theorem shown_empty {type : VideoRoomSeatType} {isMuted isVideoOn premium : Bool}
    {reason : Option String} (unlocked : seat.isLocked = false) :
    SeatEntrySnapshot.Shown
      { seatIndex := seat.seatIndex, seatType := type, status := .empty, occupantUserId := none
        reservedForUserId := none, isLocked := seat.isLocked, isMuted := isMuted
        isVideoOn := isVideoOn, reason := reason, premium := premium } where
  occupied := iff_of_false nofun nofun
  locked := iff_of_false nofun (by rw [unlocked]; exact nofun)
  reserved := iff_of_false nofun nofun

/-- Who leaves a seat leaves it empty. -/
theorem shown_vacate (shown : seat.Shown) (isTaken : seat.occupantUserId.isSome = true) :
    SeatEntrySnapshot.Shown { seat with status := .empty, occupantUserId := none } := by
  obtain ⟨unlocked, unheld⟩ := shown.free_of_occupied isTaken
  rw [unheld]
  exact shown_empty unlocked

end Changes

/-! ### One operation -/

/-- A snapshot that shows the table. -/
structure Settled (ownerId : UserId) (table : SeatTable) (base : SeatStageSnapshot) : Prop where
  ordered : Ordered VideoRoomSeat.seatIndex table.seats
  present : ¬table.NeedsLayout
  layout : base.layout = table.getSeatLayout
  seats : base.seats = table.entries
  tidy : Tidy ownerId base.seats

/-- All statements of a plan go through. -/
def Written (table : SeatTable) (plan : SeatPlan) (after : SeatTable) : Prop :=
  ∃ middle, table.writeAll plan.before = (middle, true) ∧
    middle.writeAll plan.after = (after, true)

def Settles (ownerId : UserId) (table : SeatTable) (base : SeatStageSnapshot) (plan : SeatPlan) :
    Prop :=
  ∃ after, Written table plan after ∧ Settled ownerId after (base.commit plan)

section Operations

variable {ownerId userId : UserId} {table : SeatTable} {base : SeatStageSnapshot} {plan : SeatPlan}
  {seat other : SeatEntrySnapshot} {seatIndex : Nat}

namespace Settled

theorem found (settled : Settled ownerId table base)
    (isSeat : KeyedRows.find SeatEntrySnapshot.seatIndex seatIndex base.seats = some seat) :
    ∃ row, table.find seatIndex = some row := by
  rw [settled.seats] at isSeat
  exact SeatTable.mem_entries_of_find isSeat

theorem ordered_seats (settled : Settled ownerId table base) :
    Ordered SeatEntrySnapshot.seatIndex base.seats := by
  rw [settled.seats]
  exact SeatTable.ordered_entries settled.ordered

theorem find_of_mem (settled : Settled ownerId table base) (member : seat ∈ base.seats) :
    KeyedRows.find SeatEntrySnapshot.seatIndex seat.seatIndex base.seats = some seat :=
  KeyedRows.find_of_mem settled.ordered_seats.distinct member

theorem eq_of_index (settled : Settled ownerId table base) (member : seat ∈ base.seats)
    (otherMember : other ∈ base.seats) (same : seat.seatIndex = other.seatIndex) : seat = other := by
  have found := settled.find_of_mem member
  rw [same, settled.find_of_mem otherMember] at found
  exact (Option.some.inj found).symm

/-- Seats that an update changes are there still. -/
theorem still_present (settled : Settled ownerId table base) {after : SeatTable}
    {change : SeatEntrySnapshot → SeatEntrySnapshot} (settings : after.settings = table.settings)
    (entries : after.entries = base.seats.map change) : ¬after.NeedsLayout := by
  rintro ⟨none_there, isSome, positive⟩
  refine settled.present ⟨?_, settings ▸ isSome, ?_⟩
  · unfold SeatTable.entries at entries
    rw [none_there, settled.seats, List.map_nil] at entries
    exact List.map_eq_nil_iff.mp (List.map_eq_nil_iff.mp entries.symm)
  · unfold SeatTable.getSeatLayout at positive ⊢
    rwa [settings] at positive

theorem of_entries (settled : Settled ownerId table base) {after : SeatTable}
    {change : SeatEntrySnapshot → SeatEntrySnapshot}
    (ordered : Ordered VideoRoomSeat.seatIndex after.seats)
    (settings : after.settings = table.settings) (layout : plan.layout = base.layout)
    (seats : plan.seats = base.seats.map change) (entries : after.entries = base.seats.map change)
    (tidy : Tidy ownerId plan.seats) : Settled ownerId after (base.commit plan) where
  ordered := ordered
  present := settled.still_present settings entries
  layout := by
    refine layout.trans (settled.layout.trans ?_)
    unfold SeatTable.getSeatLayout
    rw [settings]
  seats := seats.trans entries.symm
  tidy := tidy

end Settled

/-- One seat changes, in the snapshot and in the table. -/
theorem settles_applyTo {change : SeatEntrySnapshot → SeatEntrySnapshot} {data : SeatUpdate}
    (settled : Settled ownerId table base)
    (isPlan : base.applyTo seatIndex change data = .ok (some plan))
    (isSeat : KeyedRows.find SeatEntrySnapshot.seatIndex seatIndex base.seats = some seat)
    (same : ∀ seat, data.applyEntry seat = change seat)
    (free : ¬table.SeatedElsewhere seatIndex data)
    (tidy : Tidy ownerId (base.seats.map fun seat =>
      if seat.seatIndex = seatIndex then change seat else seat)) :
    Settles ownerId table base plan := by
  obtain rfl := Option.some.inj (Except.ok.inj isPlan)
  obtain ⟨row, found⟩ := settled.found isSeat
  refine ⟨table.updated seatIndex data, ⟨table, rfl, ?_⟩,
    settled.of_entries (SeatTable.ordered_updated settled.ordered) rfl rfl rfl ?_ tidy⟩
  · rw [SeatTable.writeAll, SeatTable.write, SeatTable.updateSeat_eq found free]
    rfl
  · rw [SeatTable.entries_updated, ← settled.seats]
    unfold KeyedRows.update
    apply List.map_congr_left
    intro other _
    rw [same]

/-- A change of one seat by which nobody sits down. -/
theorem tidy_applyTo {change : SeatEntrySnapshot → SeatEntrySnapshot}
    (settled : Settled ownerId table base)
    (isSeat : KeyedRows.find SeatEntrySnapshot.seatIndex seatIndex base.seats = some seat)
    (keeps : ∀ seat, (change seat).seatIndex = seat.seatIndex) (shown : (change seat).Shown)
    (leaving : ∀ seat userId, (change seat).occupantUserId = some userId →
      seat.occupantUserId = some userId) :
    Tidy ownerId (base.seats.map fun seat =>
      if seat.seatIndex = seatIndex then change seat else seat) := by
  have own : ∀ other ∈ base.seats, other.seatIndex = seatIndex → other = seat := by
    intro other member here
    exact settled.eq_of_index member (KeyedRows.mem_of_find isSeat)
      (here.trans (KeyedRows.key_of_find isSeat).symm)
  refine settled.tidy.map_leaving ?_ ?_ ?_
  · intro other
    split
    · exact keeps other
    · rfl
  · intro other member
    split
    · rename_i here
      rw [own other member here]
      exact shown
    · exact settled.tidy.shown other member
  · intro other member user isUser
    split at isUser
    · exact leaving other user isUser
    · exact isUser

theorem requireSeat_ok (isSeat : base.requireSeat seatIndex = .ok seat) :
    KeyedRows.find SeatEntrySnapshot.seatIndex seatIndex base.seats = some seat := by
  unfold SeatStageSnapshot.requireSeat at isSeat
  split at isSeat
  · cases isSeat
  · rename_i found
    rw [found, Except.ok.inj isSeat]

theorem seatOf_some (isSeat : base.seatOf userId = some seat) :
    seat ∈ base.seats ∧ seat.occupantUserId = some userId :=
  have sits := List.find?_some isSeat
  ⟨List.mem_of_find?_eq_some isSeat, of_decide_eq_true sits⟩

/-- What a claimable seat is. -/
theorem assertClaimable_ok
    (claimable : SeatStageSnapshot.assertClaimable seat userId ownerId = .ok ()) :
    seat.isLocked = false ∧ seat.status ≠ .occupied ∧
      (isOwnerSeat seat.seatIndex = true → userId = ownerId) := by
  unfold SeatStageSnapshot.assertClaimable at claimable
  split at claimable
  · cases claimable
  · rename_i unlocked
    split at claimable
    · cases claimable
    · rename_i notOccupied
      split at claimable
      · cases claimable
      · split at claimable
        · cases claimable
        · rename_i allowed
          refine ⟨Bool.eq_false_of_not_eq_true fun isLocked => unlocked (.inl isLocked),
            notOccupied, ?_⟩
          intro isOwner
          by_contra different
          exact allowed ⟨isOwner, different⟩

theorem settles_applyVacate (settled : Settled ownerId table base) (member : seat ∈ base.seats)
    (taken : seat.occupantUserId.isSome = true)
    (isPlan : base.applyVacate seat.seatIndex = .ok (some plan)) :
    Settles ownerId table base plan := by
  have isSeat := settled.find_of_mem member
  refine settles_applyTo settled isPlan isSeat (fun _ => rfl)
    (SeatTable.not_seatedElsewhere_of_nobody fun _ => nofun) ?_
  refine tidy_applyTo settled isSeat (fun _ => rfl) ?_ fun _ _ => nofun
  exact shown_vacate (settled.tidy.shown seat member) taken

theorem settles_seatUser (settled : Settled ownerId table base)
    (isPlan : base.seatUser ownerId userId seatIndex = .ok (some plan)) :
    Settles ownerId table base plan := by
  unfold SeatStageSnapshot.seatUser at isPlan
  split at isPlan
  · cases isPlan
  · rename_i unseated
    have standing : ∀ other ∈ base.seats, other.occupantUserId ≠ some userId := by
      intro other member same
      exact unseated (List.any_eq_true.mpr ⟨other, member, decide_eq_true same⟩)
    split at isPlan
    · cases isPlan
    · rename_i seat isSeat
      split at isPlan
      · cases isPlan
      · rename_i claimable
        obtain ⟨unlocked, -, allowed⟩ := assertClaimable_ok claimable
        have found := requireSeat_ok isSeat
        have here : seat.seatIndex = seatIndex := KeyedRows.key_of_find found
        rw [here] at isPlan allowed
        refine settles_applyTo settled isPlan found (fun _ => rfl) ?_ ?_
        · rw [SeatTable.seatedElsewhere_iff, ← settled.seats]
          rintro ⟨other, member, -, -, same⟩
          exact standing other member (Option.some.inj same).symm
        · refine settled.tidy.map ?_ ?_ ?_ ?_ allowed
          · intro other
            split
            · rfl
            · rfl
          · intro other member
            split
            · rename_i same
              rw [settled.eq_of_index member (KeyedRows.mem_of_find found)
                (same.trans here.symm)]
              exact shown_occupy unlocked
            · exact settled.tidy.shown other member
          · intro other member user isUser
            split at isUser
            · rename_i same
              exact .inr ⟨same, (Option.some.inj isUser).symm⟩
            · exact .inl isUser
          · intro other member elsewhere
            rw [if_neg elsewhere]
            exact standing other member

theorem settles_removeFromSeat (settled : Settled ownerId table base)
    (isPlan : base.removeFromSeat userId = .ok (some plan)) : Settles ownerId table base plan := by
  unfold SeatStageSnapshot.removeFromSeat at isPlan
  split at isPlan
  · cases isPlan
  · rename_i seat isSeat
    obtain ⟨member, isUser⟩ := seatOf_some isSeat
    exact settles_applyVacate settled member (by rw [isUser]; rfl) isPlan

theorem settles_vacateUser (settled : Settled ownerId table base)
    (isPlan : base.vacateUser userId = .ok (some plan)) : Settles ownerId table base plan := by
  unfold SeatStageSnapshot.vacateUser at isPlan
  split at isPlan
  · cases isPlan
  · rename_i seat isSeat
    obtain ⟨member, isUser⟩ := seatOf_some isSeat
    exact settles_applyVacate settled member (by rw [isUser]; rfl) isPlan

theorem settles_reserve (settled : Settled ownerId table base)
    (isPlan : base.reserve seatIndex userId = .ok (some plan)) :
    Settles ownerId table base plan := by
  unfold SeatStageSnapshot.reserve at isPlan
  split at isPlan
  · cases isPlan
  · rename_i seat isSeat
    have found := requireSeat_ok isSeat
    have shown := settled.tidy.shown seat (KeyedRows.mem_of_find found)
    split at isPlan
    · cases isPlan
    · rename_i unlocked
      split at isPlan
      · cases isPlan
      · rename_i notOccupied
        split at isPlan
        · cases isPlan
        · refine settles_applyTo settled isPlan found (fun _ => rfl)
            (SeatTable.not_seatedElsewhere_of_nobody fun _ => nofun) ?_
          refine tidy_applyTo settled found (fun _ => rfl) ⟨?_, ?_, ?_⟩ fun _ _ => id
          · refine iff_of_false nofun ?_
            rw [shown.nobody_of_ne notOccupied]
            exact nofun
          · exact iff_of_false nofun fun isLocked => unlocked (.inl isLocked)
          · exact iff_of_true rfl rfl

theorem settles_release (settled : Settled ownerId table base)
    (isSeat : KeyedRows.find SeatEntrySnapshot.seatIndex seatIndex base.seats = some seat)
    (reserved : seat.status = .reserved) (isPlan : base.release seatIndex = .ok (some plan)) :
    Settles ownerId table base plan := by
  have shown := settled.tidy.shown seat (KeyedRows.mem_of_find isSeat)
  refine settles_applyTo settled isPlan isSeat (fun _ => rfl)
    (SeatTable.not_seatedElsewhere_of_nobody fun _ => nofun) ?_
  refine tidy_applyTo settled isSeat (fun _ => rfl) ⟨?_, ?_, ?_⟩ fun _ _ => id
  · refine iff_of_false nofun ?_
    rw [shown.nobody_of_ne (by rw [reserved]; exact nofun)]
    exact nofun
  · refine iff_of_false nofun ?_
    rw [shown.unlocked_of_ne (by rw [reserved]; exact nofun)]
    exact nofun
  · exact iff_of_false nofun nofun

/-! ### Bulk changes -/

theorem refusal_none {refuses : Nat → Option SeatError} {indexes : List Nat}
    (accepted : base.refusal refuses indexes = none) :
    ∀ seatIndex ∈ indexes, refuses seatIndex = none ∧
      ∃ seat, KeyedRows.find SeatEntrySnapshot.seatIndex seatIndex base.seats = some seat := by
  induction indexes with
  | nil => exact List.forall_mem_nil _
  | cons first rest ih =>
      unfold SeatStageSnapshot.refusal at accepted
      split at accepted
      · cases accepted
      · rename_i allowed
        split at accepted
        · cases accepted
        · rename_i seat isSeat
          intro seatIndex member
          rcases List.mem_cons.mp member with rfl | later
          · exact ⟨allowed, seat, requireSeat_ok isSeat⟩
          · exact ih accepted seatIndex later

/-- What a bulk change leaves in the table. -/
theorem written_applyEach {change : SeatEntrySnapshot → SeatEntrySnapshot}
    {data : SeatEntrySnapshot → SeatUpdate} {indexes : List Nat}
    (settled : Settled ownerId table base)
    (isPlan : base.applyEach indexes change data = .ok (some plan))
    (there : ∀ seatIndex ∈ indexes,
      ∃ seat, KeyedRows.find SeatEntrySnapshot.seatIndex seatIndex base.seats = some seat)
    (keeps : ∀ seat, (change seat).seatIndex = seat.seatIndex)
    (nobody : ∀ seat userId, (data seat).occupantUserId ≠ some (some userId)) :
    ∃ after, Written table plan after ∧ Ordered VideoRoomSeat.seatIndex after.seats ∧
      after.settings = table.settings ∧
        after.entries = base.seats.map fun seat =>
          if seat.seatIndex ∈ indexes then (data (change seat)).applyEntry seat else seat := by
  obtain rfl := Option.some.inj (Except.ok.inj isPlan)
  generalize isWritten : (fun seatIndex : Nat =>
    (KeyedRows.find SeatEntrySnapshot.seatIndex seatIndex (base.seats.map fun seat =>
      if seat.seatIndex ∈ indexes then change seat else seat)).elim {} data) = written
  obtain ⟨ordered, settings⟩ := SeatTable.foldl_updated indexes written settled.ordered
  refine ⟨_, ⟨table, rfl, ?_⟩, ordered, settings, ?_⟩
  · have found : ∀ seatIndex ∈ indexes, ∃ row, table.find seatIndex = some row := by
      intro seatIndex member
      obtain ⟨seat, isSeat⟩ := there seatIndex member
      exact settled.found isSeat
    have leaves : ∀ seatIndex userId, (written seatIndex).occupantUserId ≠ some (some userId) := by
      intro seatIndex userId
      rw [← isWritten]
      dsimp only
      cases KeyedRows.find SeatEntrySnapshot.seatIndex seatIndex _ with
      | none => exact nofun
      | some seat => exact nobody seat userId
    have all := SeatTable.writeAll_updates found leaves []
    rw [List.append_nil] at all
    refine Eq.trans ?_ all
    rw [← isWritten]
  · rw [SeatTable.entries_foldl_updated, ← settled.seats]
    apply List.map_congr_left
    intro seat member
    by_cases isTarget : seat.seatIndex ∈ indexes
    · rw [if_pos isTarget, if_pos isTarget, ← isWritten]
      have shownKey : ∀ seat : SeatEntrySnapshot,
          (if seat.seatIndex ∈ indexes then change seat else seat).seatIndex = seat.seatIndex := by
        intro seat
        split
        · exact keeps seat
        · rfl
      dsimp only
      rw [KeyedRows.find_map shownKey, settled.find_of_mem member, Option.map_some,
        if_pos isTarget]
      rfl
    · rw [if_neg isTarget, if_neg isTarget]

theorem settles_applyEach {change : SeatEntrySnapshot → SeatEntrySnapshot}
    {data : SeatEntrySnapshot → SeatUpdate} {indexes : List Nat}
    (settled : Settled ownerId table base)
    (isPlan : base.applyEach indexes change data = .ok (some plan))
    (there : ∀ seatIndex ∈ indexes,
      ∃ seat, KeyedRows.find SeatEntrySnapshot.seatIndex seatIndex base.seats = some seat)
    (keeps : ∀ seat, (change seat).seatIndex = seat.seatIndex)
    (nobody : ∀ seat userId, (data seat).occupantUserId ≠ some (some userId))
    (stored : ∀ seat, seat.seatIndex ∈ indexes → (data (change seat)).applyEntry seat = change seat)
    (shown : ∀ seat ∈ base.seats, (change seat).Shown)
    (leaving : ∀ seat userId, (change seat).occupantUserId = some userId →
      seat.occupantUserId = some userId) : Settles ownerId table base plan := by
  obtain ⟨after, written, ordered, settings, entries⟩ :=
    written_applyEach settled isPlan there keeps nobody
  obtain rfl := Option.some.inj (Except.ok.inj isPlan)
  refine ⟨after, written, settled.of_entries ordered settings rfl rfl ?_ ?_⟩
  · rw [entries]
    apply List.map_congr_left
    intro seat _
    split
    · rename_i isTarget
      exact stored seat isTarget
    · rfl
  · refine settled.tidy.map_leaving ?_ ?_ ?_
    · intro seat
      split
      · exact keeps seat
      · rfl
    · intro seat member
      split
      · exact shown seat member
      · exact settled.tidy.shown seat member
    · intro seat _ user isUser
      split at isUser
      · exact leaving seat user isUser
      · exact isUser

/-- What a lock says of its seats. -/
theorem lockSeats_plan {indexes : List Nat} {reason : Option String}
    (isPlan : base.lockSeats indexes reason = .ok (some plan)) :
    (∀ seatIndex ∈ indexes, isOwnerSeat seatIndex = false ∧
      ∃ seat, KeyedRows.find SeatEntrySnapshot.seatIndex seatIndex base.seats = some seat) ∧
      base.applyEach indexes
        (fun seat =>
          { seat with
            status := .locked
            isLocked := true
            occupantUserId := none
            reservedForUserId := none
            reason := reason })
        (fun seat =>
          { seatStatus := some .locked
            isLocked := some true
            occupantUserId := some none
            reservedForUserId := some none
            metadata := some (SeatStageSnapshot.metadataFor seat) }) = .ok (some plan) := by
  unfold SeatStageSnapshot.lockSeats at isPlan
  split at isPlan
  · cases isPlan
  · rename_i accepted
    refine ⟨?_, isPlan⟩
    intro seatIndex member
    obtain ⟨allowed, isSeat⟩ := refusal_none accepted seatIndex member
    refine ⟨?_, isSeat⟩
    split at allowed
    · cases allowed
    · rename_i notOwner
      exact Bool.eq_false_of_not_eq_true notOwner

theorem settles_lockSeats {indexes : List Nat} {reason : Option String}
    (settled : Settled ownerId table base)
    (faithful : (SeatOperation.lockSeats indexes reason).Faithful base)
    (isPlan : base.lockSeats indexes reason = .ok (some plan)) :
    Settles ownerId table base plan := by
  obtain ⟨there, isPlan⟩ := lockSeats_plan isPlan
  refine settles_applyEach settled isPlan (fun seatIndex member => (there seatIndex member).2)
    (fun _ => rfl) (fun _ _ => nofun) ?_ (fun _ _ => ⟨?_, ?_, ?_⟩) fun _ _ => nofun
  · intro seat isTarget
    have kept : reason.filter (fun reason => reason ≠ "") = reason := by
      cases isReason : reason with
      | none => rfl
      | some text =>
          rw [Option.filter_some, if_pos]
          refine decide_eq_true ?_
          rintro rfl
          obtain ⟨seatIndex, member, isOwner | absent⟩ :=
            faithful isReason (List.ne_nil_of_mem isTarget)
          · rw [(there seatIndex member).1] at isOwner
            cases isOwner
          · obtain ⟨other, isOther⟩ := (there seatIndex member).2
            rw [absent] at isOther
            cases isOther
    unfold SeatUpdate.applyEntry SeatStageSnapshot.metadataFor
    dsimp only [Option.getD_some, Option.map_some, Option.getD_none]
    rw [kept]
  · exact iff_of_false nofun nofun
  · exact iff_of_true rfl rfl
  · exact iff_of_false nofun nofun

theorem settles_unlockSeats {indexes : List Nat} (settled : Settled ownerId table base)
    (isPlan : base.unlockSeats indexes = .ok (some plan)) : Settles ownerId table base plan := by
  unfold SeatStageSnapshot.unlockSeats at isPlan
  split at isPlan
  · cases isPlan
  · rename_i accepted
    refine settles_applyEach settled isPlan
      (fun seatIndex member => (refusal_none accepted seatIndex member).2) (fun _ => rfl)
      (fun _ _ => nofun) (fun _ _ => rfl) ?_ fun _ _ => id
    intro seat member
    have shown := settled.tidy.shown seat member
    by_cases locked : seat.status = .locked
    · have notOccupied : seat.status ≠ .occupied := by
        rw [locked]
        exact nofun
      have notReserved : seat.status ≠ .reserved := by
        rw [locked]
        exact nofun
      rw [if_pos locked]
      refine ⟨iff_of_false nofun ?_, iff_of_false nofun nofun, iff_of_false nofun ?_⟩
      · rw [shown.nobody_of_ne notOccupied]
        exact nofun
      · rw [shown.unheld_of_ne notReserved]
        exact nofun
    · rw [if_neg locked]
      exact ⟨shown.occupied, iff_of_false locked nofun, shown.reserved⟩

/-! ### Moves -/

theorem written_applyMove {source : SeatEntrySnapshot} {target : Nat}
    (settled : Settled ownerId table base) (member : source ∈ base.seats)
    (isUser : source.occupantUserId = some userId)
    (isTarget : KeyedRows.find SeatEntrySnapshot.seatIndex target base.seats = some seat)
    (isPlan : base.applyMove userId source.seatIndex target = .ok (some plan)) :
    ∃ after, Written table plan after ∧ Ordered VideoRoomSeat.seatIndex after.seats ∧
      after.settings = table.settings ∧
        after.entries = (base.seats.map fun seat =>
          if seat.seatIndex = source.seatIndex then
            { seat with status := .empty, occupantUserId := none }
          else seat).map fun seat =>
            if seat.seatIndex = target then
              { seat with
                status := .occupied, occupantUserId := some userId, reservedForUserId := none }
            else seat := by
  obtain rfl := Option.some.inj (Except.ok.inj isPlan)
  obtain ⟨row, found⟩ := settled.found (settled.find_of_mem member)
  obtain ⟨targetRow, targetFound⟩ := settled.found isTarget
  let vacated : SeatUpdate := { seatStatus := some .empty, occupantUserId := some none }
  let occupied : SeatUpdate :=
    { seatStatus := some .occupied
      occupantUserId := some (some userId)
      reservedForUserId := some none }
  have entriesVacated : (table.updated source.seatIndex vacated).entries =
      base.seats.map fun seat => if seat.seatIndex = source.seatIndex then
        { seat with status := .empty, occupantUserId := none } else seat := by
    rw [SeatTable.entries_updated, ← settled.seats]
    rfl
  have leaves : table.updateSeat source.seatIndex vacated =
      some (table.updated source.seatIndex vacated) :=
    SeatTable.updateSeat_eq found (SeatTable.not_seatedElsewhere_of_nobody fun _ => nofun)
  have stillFound : ∃ row, (table.updated source.seatIndex vacated).find target = some row := by
    rw [SeatTable.find_updated, targetFound]
    split
    · exact ⟨_, rfl⟩
    · exact ⟨_, rfl⟩
  obtain ⟨stillRow, isStill⟩ := stillFound
  have free : ¬(table.updated source.seatIndex vacated).SeatedElsewhere target occupied := by
    rw [SeatTable.seatedElsewhere_iff, entriesVacated]
    rintro ⟨other, otherMember, -, -, same⟩
    obtain ⟨before, inside, rfl⟩ := List.mem_map.mp otherMember
    have seated := (Option.some.inj same).symm
    split at seated
    · cases seated
    · rename_i elsewhere
      exact elsewhere (settled.tidy.once before inside source member userId seated isUser)
  have sits : (table.updated source.seatIndex vacated).updateSeat target occupied =
      some ((table.updated source.seatIndex vacated).updated target occupied) :=
    SeatTable.updateSeat_eq isStill free
  refine ⟨(table.updated source.seatIndex vacated).updated target occupied, ⟨table, rfl, ?_⟩,
    SeatTable.ordered_updated (SeatTable.ordered_updated settled.ordered), rfl, ?_⟩
  · rw [SeatTable.writeAll, SeatTable.write, leaves]
    dsimp only
    rw [SeatTable.writeAll, SeatTable.write, sits]
    rfl
  · rw [SeatTable.entries_updated, entriesVacated]
    rfl

theorem settles_applyMove {source : SeatEntrySnapshot} {target : Nat}
    (settled : Settled ownerId table base) (member : source ∈ base.seats)
    (isUser : source.occupantUserId = some userId)
    (isTarget : KeyedRows.find SeatEntrySnapshot.seatIndex target base.seats = some seat)
    (isPlan : base.applyMove userId source.seatIndex target = .ok (some plan))
    (different : source.seatIndex ≠ target) (unlocked : seat.isLocked = false)
    (allowed : isOwnerSeat target = true → userId = ownerId) :
    Settles ownerId table base plan := by
  obtain ⟨after, written, ordered, settings, entries⟩ :=
    written_applyMove settled member isUser isTarget isPlan
  obtain rfl := Option.some.inj (Except.ok.inj isPlan)
  refine ⟨after, written, settled.of_entries ordered settings rfl rfl ?_ ?_⟩
  · rw [entries, List.map_map]
    apply List.map_congr_left
    intro other _
    rw [Function.comp_apply]
    by_cases isSource : other.seatIndex = source.seatIndex
    · rw [if_pos isSource, if_pos isSource, if_neg]
      exact fun same => different (isSource.symm.trans same)
    · rw [if_neg isSource, if_neg isSource]
  · refine settled.tidy.map ?_ ?_ ?_ ?_ allowed
    · intro other
      split
      · rfl
      · split
        · rfl
        · rfl
    · intro other otherMember
      split
      · rename_i isSource
        obtain rfl := settled.eq_of_index otherMember member isSource
        exact shown_vacate (settled.tidy.shown other member) (by rw [isUser]; rfl)
      · split
        · rename_i same
          obtain rfl := settled.eq_of_index otherMember (KeyedRows.mem_of_find isTarget)
            (same.trans (KeyedRows.key_of_find isTarget).symm)
          exact shown_occupy unlocked
        · exact settled.tidy.shown other otherMember
    · intro other _ user sits
      split at sits
      · cases sits
      · split at sits
        · rename_i same
          exact .inr ⟨same, (Option.some.inj sits).symm⟩
        · exact .inl sits
    · intro other otherMember elsewhere sits
      split at sits
      · cases sits
      · rename_i notSource
        exact notSource (settled.tidy.once other otherMember source member userId sits isUser)

theorem settles_switchSeat {target : Nat} (settled : Settled ownerId table base)
    (isPlan : base.switchSeat ownerId userId target = .ok (some plan)) :
    Settles ownerId table base plan := by
  unfold SeatStageSnapshot.switchSeat at isPlan
  split at isPlan
  · cases isPlan
  · rename_i source isSource
    obtain ⟨member, isUser⟩ := seatOf_some isSource
    split at isPlan
    · cases isPlan
    · rename_i different
      split at isPlan
      · cases isPlan
      · rename_i seat isSeat
        split at isPlan
        · cases isPlan
        · rename_i claimable
          obtain ⟨unlocked, -, allowed⟩ := assertClaimable_ok claimable
          have found := requireSeat_ok isSeat
          rw [show seat.seatIndex = target from KeyedRows.key_of_find found] at allowed
          exact settles_applyMove settled member isUser found isPlan different unlocked allowed

/-- What a transfer has found. -/
theorem transferSeat_plan {target : Nat} {fromSeatIndex : Option Nat} {force : Bool}
    (settled : Settled ownerId table base)
    (isPlan : base.transferSeat userId target fromSeatIndex force = .ok (some plan)) :
    ∃ source seat, base.seatOf userId = some source ∧
      ¬(fromSeatIndex.isSome ∧ fromSeatIndex ≠ some source.seatIndex) ∧
        KeyedRows.find SeatEntrySnapshot.seatIndex target base.seats = some seat ∧
          seat.isLocked = false ∧ (source.seatIndex = target → force = true) ∧
            base.applyMove userId source.seatIndex target = .ok (some plan) := by
  unfold SeatStageSnapshot.transferSeat at isPlan
  split at isPlan
  · cases isPlan
  · rename_i source isSource
    obtain ⟨member, isUser⟩ := seatOf_some isSource
    split at isPlan
    · cases isPlan
    · rename_i given
      split at isPlan
      · cases isPlan
      · rename_i seat isSeat
        have found := requireSeat_ok isSeat
        split at isPlan
        · cases isPlan
        · rename_i unlocked
          split at isPlan
          · cases isPlan
          · rename_i taken
            split at isPlan
            · cases isPlan
            · refine ⟨source, seat, isSource, given, found,
                Bool.eq_false_of_not_eq_true fun isLocked => unlocked (.inl isLocked), ?_, isPlan⟩
              rintro rfl
              rw [settled.find_of_mem member] at found
              obtain rfl := Option.some.inj found
              have occupied := (settled.tidy.shown source member).occupied.mpr (by rw [isUser]; rfl)
              cases force with
              | true => rfl
              | false => exact absurd ⟨occupied, rfl⟩ taken

theorem settles_transferSeat {target : Nat} {fromSeatIndex : Option Nat} {force : Bool}
    (settled : Settled ownerId table base) (notOwnerSeat : isOwnerSeat target ≠ true)
    (faithful : (SeatOperation.transferSeat userId target fromSeatIndex force).Faithful base)
    (isPlan : base.transferSeat userId target fromSeatIndex force = .ok (some plan)) :
    Settles ownerId table base plan := by
  obtain ⟨source, seat, isSource, given, found, unlocked, forced, isMove⟩ :=
    transferSeat_plan settled isPlan
  obtain ⟨member, isUser⟩ := seatOf_some isSource
  refine settles_applyMove settled member isUser found isMove ?_ unlocked
    fun isOwner => absurd isOwner notOwnerSeat
  intro same
  rcases faithful source isSource same (forced same) with isOwner | ⟨isGiven, different⟩
  · exact notOwnerSeat isOwner
  · exact given ⟨isGiven, same ▸ different⟩

/-! ### The layout -/

/-- A seat of the layout, with who was on it before. -/
def desiredEntry (base : SeatStageSnapshot) (entry : SeatLayoutEntry) : SeatEntrySnapshot :=
  match KeyedRows.find SeatEntrySnapshot.seatIndex entry.seatIndex base.seats with
  | none => SeatStageSnapshot.emptyEntry entry.seatIndex entry.seatType
  | some existing => { existing with seatType := entry.seatType }

theorem index_desiredEntry (entry : SeatLayoutEntry) :
    (desiredEntry base entry).seatIndex = entry.seatIndex := by
  unfold desiredEntry
  split
  · rfl
  · rename_i existing found
    have here : existing.seatIndex = entry.seatIndex := KeyedRows.key_of_find found
    exact here

theorem type_of_buildSeatLayout {layout : SeatLayout} {entry : SeatLayoutEntry}
    (member : entry ∈ buildSeatLayout layout) : entry.seatType = layout.typeAt entry.seatIndex := by
  obtain ⟨index, -, rfl⟩ := List.mem_map.mp member
  rfl

theorem ordered_buildSeatLayout (layout : SeatLayout) :
    Ordered SeatLayoutEntry.seatIndex (buildSeatLayout layout) := by
  unfold Ordered buildSeatLayout
  rw [List.pairwise_map]
  exact List.pairwise_lt_range

theorem tidy_desired (settled : Settled ownerId table base) (layout : SeatLayout) :
    Tidy ownerId ((buildSeatLayout layout).map (desiredEntry base)) := by
  have sits : ∀ entry user, (desiredEntry base entry).occupantUserId = some user →
      ∃ existing ∈ base.seats, existing.seatIndex = entry.seatIndex ∧
        existing.occupantUserId = some user := by
    intro entry user isUser
    unfold desiredEntry at isUser
    split at isUser
    · cases isUser
    · rename_i existing found
      exact ⟨existing, KeyedRows.mem_of_find found, KeyedRows.key_of_find found, isUser⟩
  constructor
  · intro seat member other otherMember user isUser isOther
    obtain ⟨entry, -, rfl⟩ := List.mem_map.mp member
    obtain ⟨otherEntry, -, rfl⟩ := List.mem_map.mp otherMember
    obtain ⟨first, inFirst, atFirst, isFirst⟩ := sits entry user isUser
    obtain ⟨second, inSecond, atSecond, isSecond⟩ := sits otherEntry user isOther
    rw [index_desiredEntry, index_desiredEntry, ← atFirst, ← atSecond]
    exact settled.tidy.once first inFirst second inSecond user isFirst isSecond
  · intro seat member
    obtain ⟨entry, -, rfl⟩ := List.mem_map.mp member
    unfold desiredEntry
    split
    · exact ⟨iff_of_false nofun nofun, iff_of_false nofun nofun, iff_of_false nofun nofun⟩
    · rename_i existing found
      obtain ⟨occupied, locked, reserved⟩ :=
        settled.tidy.shown existing (KeyedRows.mem_of_find found)
      exact ⟨occupied, locked, reserved⟩
  · intro seat member isOwner user isUser
    obtain ⟨entry, -, rfl⟩ := List.mem_map.mp member
    obtain ⟨existing, inside, here, isExisting⟩ := sits entry user isUser
    rw [index_desiredEntry, ← here] at isOwner
    exact settled.tidy.owned existing inside isOwner user isExisting

/-- The seats that the new layout gives another type. -/
def retyped (base : SeatStageSnapshot) (layout : SeatLayout) : List SeatLayoutEntry :=
  (buildSeatLayout layout).filter fun entry =>
    (KeyedRows.find SeatEntrySnapshot.seatIndex entry.seatIndex base.seats).any fun existing =>
      existing.seatType ≠ entry.seatType

theorem mem_retyped {layout : SeatLayout} :
    seatIndex ∈ (retyped base layout).map SeatLayoutEntry.seatIndex ↔
      seatIndex < layout.total.toNat ∧ ∃ existing,
        KeyedRows.find SeatEntrySnapshot.seatIndex seatIndex base.seats = some existing ∧
          existing.seatType ≠ layout.typeAt seatIndex := by
  constructor
  · intro member
    obtain ⟨entry, inside, rfl⟩ := List.mem_map.mp member
    obtain ⟨isEntry, differs⟩ := List.mem_filter.mp inside
    obtain ⟨index, below, rfl⟩ := List.mem_map.mp isEntry
    obtain ⟨existing, found, isOther⟩ := (Option.any_eq_true _ _).mp differs
    exact ⟨List.mem_range.mp below, existing, found, of_decide_eq_true isOther⟩
  · rintro ⟨below, existing, found, isOther⟩
    refine List.mem_map.mpr ⟨{ seatIndex := seatIndex, seatType := layout.typeAt seatIndex },
      List.mem_filter.mpr ⟨List.mem_map.mpr ⟨seatIndex, List.mem_range.mpr below, rfl⟩, ?_⟩, rfl⟩
    exact (Option.any_eq_true _ _).mpr ⟨existing, found, decide_eq_true isOther⟩

def retype (layout : SeatLayout) (seatIndex : Nat) : SeatUpdate :=
  { seatType := some (layout.typeAt seatIndex) }

/-- The table with the new layout, before the seats beyond it are deleted. -/
def laidOut (table : SeatTable) (base : SeatStageSnapshot) (layout : SeatLayout) : SeatTable :=
  ((retyped base layout).map SeatLayoutEntry.seatIndex).foldl
    (fun table seatIndex => table.updated seatIndex (retype layout seatIndex))
    (({ table with settings := some layout } : SeatTable).createLayout (buildSeatLayout layout))

theorem laidOut_spec (settled : Settled ownerId table base) (layout : SeatLayout) :
    Ordered VideoRoomSeat.seatIndex (laidOut table base layout).seats ∧
      (laidOut table base layout).settings = some layout := by
  have created := (SeatTable.createLayout_spec (buildSeatLayout layout)
    (show Ordered VideoRoomSeat.seatIndex ({ table with settings := some layout } : SeatTable).seats
      from settled.ordered)).1
  exact SeatTable.foldl_updated _ (retype layout) created

/-- A seat of the new layout is as it is desired. -/
theorem find_laidOut {layout : SeatLayout} (settled : Settled ownerId table base)
    (below : seatIndex < layout.total.toNat) :
    KeyedRows.find SeatEntrySnapshot.seatIndex seatIndex (laidOut table base layout).entries =
      some (desiredEntry base { seatIndex := seatIndex, seatType := layout.typeAt seatIndex }) := by
  have keeps : ∀ seat : SeatEntrySnapshot,
      (if seat.seatIndex ∈ (retyped base layout).map SeatLayoutEntry.seatIndex then
        (retype layout seat.seatIndex).applyEntry seat else seat).seatIndex = seat.seatIndex := by
    intro seat
    split
    · rfl
    · rfl
  have created := (SeatTable.createLayout_spec (buildSeatLayout layout)
    (show Ordered VideoRoomSeat.seatIndex ({ table with settings := some layout } : SeatTable).seats
      from settled.ordered)).2 seatIndex
  rw [SeatTable.find_buildSeatLayout, if_pos below] at created
  have baseFound : KeyedRows.find SeatEntrySnapshot.seatIndex seatIndex base.seats =
      (table.find seatIndex).map seatRowToEntry := by
    rw [settled.seats]
    exact SeatTable.find_entries
  unfold laidOut desiredEntry
  rw [SeatTable.entries_foldl_updated, KeyedRows.find_map keeps, SeatTable.find_entries, created]
  show ((Option.or (table.find seatIndex) _).map _).map _ = _
  dsimp only
  rw [baseFound]
  have retypes : ∀ seat : SeatEntrySnapshot, seat.seatIndex = seatIndex →
      (if seat.seatIndex ∈ (retyped base layout).map SeatLayoutEntry.seatIndex then
        (retype layout seat.seatIndex).applyEntry seat else seat) =
        { seat with
          seatType := if seatIndex ∈ (retyped base layout).map SeatLayoutEntry.seatIndex then
            layout.typeAt seatIndex else seat.seatType } := by
    rintro seat rfl
    split
    · rfl
    · rfl
  cases isRow : table.find seatIndex with
  | none =>
      refine congrArg some ((retypes _ rfl).trans ?_)
      show ({ seatIndex := seatIndex, .. } : SeatEntrySnapshot) = _
      rw [SeatStageSnapshot.emptyEntry]
      congr 1
      exact ite_self _
  | some row =>
      have here : row.seatIndex = seatIndex := KeyedRows.key_of_find isRow
      refine congrArg some ((retypes (seatRowToEntry row) here).trans ?_)
      congr 1
      split
      · rfl
      · rename_i same
        by_contra differs
        refine same (mem_retyped.mpr ⟨below, seatRowToEntry row, ?_, differs⟩)
        rw [baseFound, isRow]
        rfl

/-- The table that a new layout leaves behind. -/
def configured (table : SeatTable) (base : SeatStageSnapshot) (layout : SeatLayout) : SeatTable :=
  { laidOut table base layout with
    seats := (laidOut table base layout).seats.filter fun row =>
      row.seatIndex < layout.total.toNat }

theorem entries_configured (settled : Settled ownerId table base) (layout : SeatLayout) :
    (configured table base layout).entries =
      (buildSeatLayout layout).map (desiredEntry base) := by
  obtain ⟨orderedLaidOut, -⟩ := laidOut_spec settled layout
  have filtered : (configured table base layout).entries =
      (laidOut table base layout).entries.filter fun seat =>
        (fun index : Nat => decide (index < layout.total.toNat)) seat.seatIndex := by
    unfold SeatTable.entries
    rw [List.filter_map]
    rfl
  have ordered : Ordered SeatEntrySnapshot.seatIndex (configured table base layout).entries :=
    SeatTable.ordered_entries (OrderedRows.ordered_filter _ orderedLaidOut)
  refine OrderedRows.eq_of_find ordered ?_ ?_
  · unfold Ordered
    rw [List.pairwise_map]
    refine (ordered_buildSeatLayout layout).imp ?_
    intro first second less
    rw [index_desiredEntry, index_desiredEntry]
    exact less
  · intro seatIndex
    have kept : KeyedRows.find SeatEntrySnapshot.seatIndex seatIndex
        (configured table base layout).entries =
          if (fun index : Nat => decide (index < layout.total.toNat)) seatIndex then
            KeyedRows.find SeatEntrySnapshot.seatIndex seatIndex (laidOut table base layout).entries
          else none := by
      rw [filtered]
      exact OrderedRows.find_filter fun index : Nat => decide (index < layout.total.toNat)
    rw [KeyedRows.find_map index_desiredEntry, SeatTable.find_buildSeatLayout, kept]
    by_cases below : seatIndex < layout.total.toNat
    · rw [if_pos (decide_eq_true below), if_pos below, find_laidOut settled below]
      rfl
    · rw [if_neg fun isBelow => below (of_decide_eq_true isBelow), if_neg below]
      rfl

theorem written_configureLayout {layout : SeatLayout} (settled : Settled ownerId table base)
    (declared : table.settings.isSome = true)
    (isPlan : base.configureLayout layout = .ok (some plan)) :
    Written table plan (configured table base layout) := by
  obtain rfl := Option.some.inj (Except.ok.inj isPlan)
  have writes : table.writeAll (.setSeatLayout layout :: .createLayout (buildSeatLayout layout) ::
      ((retyped base layout).map fun entry =>
        .updateSeat entry.seatIndex { seatType := some entry.seatType }) ++
          [.deleteSeatsFrom layout.total.toNat]) = (configured table base layout, true) := by
    obtain ⟨old, isOld⟩ := Option.isSome_iff_exists.mp declared
    have renamed : ((retyped base layout).map fun entry : SeatLayoutEntry =>
        SeatWrite.updateSeat entry.seatIndex { seatType := some entry.seatType }) =
          ((retyped base layout).map SeatLayoutEntry.seatIndex).map fun seatIndex =>
            .updateSeat seatIndex (retype layout seatIndex) := by
      rw [List.map_map]
      apply List.map_congr_left
      intro entry member
      rw [type_of_buildSeatLayout (List.mem_of_mem_filter member)]
      rfl
    have declares : table.write (.setSeatLayout layout) =
        some { table with settings := some layout } := by
      unfold SeatTable.write
      rw [isOld]
    rw [renamed, List.cons_append, SeatTable.writeAll, declares]
    show (({ table with settings := some layout } : SeatTable).createLayout
      (buildSeatLayout layout)).writeAll (_ ++ [.deleteSeatsFrom layout.total.toNat]) = _
    rw [SeatTable.writeAll_updates]
    · rfl
    · intro seatIndex member
      obtain ⟨-, existing, found, -⟩ := mem_retyped.mp member
      obtain ⟨row, isRow⟩ := settled.found found
      have created := (SeatTable.createLayout_spec (buildSeatLayout layout)
        (show Ordered VideoRoomSeat.seatIndex
          ({ table with settings := some layout } : SeatTable).seats from settled.ordered)).2
          seatIndex
      refine ⟨row, created.trans ?_⟩
      show Option.or (table.find seatIndex) _ = _
      rw [isRow]
      rfl
    · intro seatIndex userId same
      cases same
  exact ⟨configured table base layout, writes, rfl⟩

theorem settles_configureLayout {layout : SeatLayout} (settled : Settled ownerId table base)
    (declared : table.settings.isSome = true)
    (isPlan : base.configureLayout layout = .ok (some plan)) : Settles ownerId table base plan := by
  have written := written_configureLayout settled declared isPlan
  obtain ⟨ordered, settings⟩ := laidOut_spec settled layout
  have entries := entries_configured settled layout
  have isLayout : (configured table base layout).getSeatLayout = layout := by
    unfold SeatTable.getSeatLayout
    rw [show (configured table base layout).settings = some layout from settings]
    rfl
  obtain rfl := Option.some.inj (Except.ok.inj isPlan)
  refine ⟨configured table base layout, written, OrderedRows.ordered_filter _ ordered, ?_,
    isLayout.symm, entries.symm, tidy_desired settled layout⟩
  rintro ⟨none_there, -, positive⟩
  rw [isLayout] at positive
  unfold SeatTable.entries at entries
  rw [none_there, List.map_nil] at entries
  have noLayout := List.map_eq_nil_iff.mp (List.map_eq_nil_iff.mp entries.symm)
  have total : layout.total.toNat = 0 := List.range_eq_nil.mp noLayout
  unfold SeatLayout.total at total
  omega

theorem settles_plan {operation : SeatOperation} (settled : Settled ownerId table base)
    (declared : ∀ layout, operation = .configureLayout layout → table.settings.isSome = true)
    (accepted : operation.refused = none) (faithful : operation.Faithful base)
    (isPlan : operation.plan ownerId base = .ok (some plan)) : Settles ownerId table base plan := by
  cases operation with
  | takeSeat userId seatIndex => exact settles_seatUser settled isPlan
  | leaveSeat userId => exact settles_removeFromSeat settled isPlan
  | lockSeats indexes reason => exact settles_lockSeats settled faithful isPlan
  | unlockSeats indexes => exact settles_unlockSeats settled isPlan
  | configureLayout layout =>
      exact settles_configureLayout settled (declared layout rfl) isPlan
  | switchSeat userId target => exact settles_switchSeat settled isPlan
  | transferSeat userId target fromSeatIndex force =>
      refine settles_transferSeat settled ?_ faithful isPlan
      intro isOwner
      rw [SeatOperation.refused, if_pos isOwner] at accepted
      cases accepted
  | removeFromSeat userId => exact settles_removeFromSeat settled isPlan
  | seatUser userId seatIndex => exact settles_seatUser settled isPlan
  | vacateUser userId => exact settles_vacateUser settled isPlan
  | reserve seatIndex forUserId => exact settles_reserve settled isPlan
  | cancelReservation seatIndex =>
      replace isPlan : base.cancelReservation seatIndex = .ok (some plan) := isPlan
      unfold SeatStageSnapshot.cancelReservation at isPlan
      split at isPlan
      · cases isPlan
      · rename_i seat isSeat
        split at isPlan
        · cases isPlan
        · rename_i reserved
          exact settles_release settled (requireSeat_ok isSeat) (not_not.mp reserved) isPlan
  | releaseExpired seatIndex =>
      replace isPlan : base.releaseExpired seatIndex = .ok (some plan) := isPlan
      unfold SeatStageSnapshot.releaseExpired at isPlan
      split at isPlan
      · cases isPlan
      · rename_i seat isSeat
        split at isPlan
        · cases isPlan
        · rename_i reserved
          refine settles_release settled isSeat (not_not.mp fun other => ?_) isPlan
          exact reserved (.inl other)

/-- Without settings a new layout is refused by its first statement. -/
theorem settles_or_refused {operation : SeatOperation} (settled : Settled ownerId table base)
    (accepted : operation.refused = none) (faithful : operation.Faithful base)
    (isPlan : operation.plan ownerId base = .ok (some plan)) : Settles ownerId table base plan ∨
      ∃ first rest, plan.before = first :: rest ∧ table.write first = none := by
  cases declared : table.settings with
  | some layout =>
      refine .inl (settles_plan settled (fun _ _ => ?_) accepted faithful isPlan)
      rw [declared]
      rfl
  | none =>
      cases operation with
      | configureLayout layout =>
          obtain rfl := Option.some.inj (Except.ok.inj isPlan)
          refine .inr ⟨.setSeatLayout layout, _, rfl, ?_⟩
          unfold SeatTable.write
          rw [declared]
      | _ =>
          refine .inl (settles_plan settled ?_ accepted faithful isPlan)
          intro layout same
          cases same

/-! ### What is not written as it is shown -/

theorem refusal_eq_none {refuses : Nat → Option SeatError} {indexes : List Nat}
    (each : ∀ seatIndex ∈ indexes, refuses seatIndex = none ∧
      ∃ seat, KeyedRows.find SeatEntrySnapshot.seatIndex seatIndex base.seats = some seat) :
    base.refusal refuses indexes = none := by
  induction indexes with
  | nil => rfl
  | cons first rest ih =>
      obtain ⟨allowed, seat, found⟩ := each first List.mem_cons_self
      unfold SeatStageSnapshot.refusal SeatStageSnapshot.requireSeat
      rw [allowed, found]
      exact ih fun seatIndex member => each seatIndex (List.mem_cons_of_mem first member)

/-- A lock for the empty reason shows it, and stores none. -/
theorem differs_lockSeats {indexes : List Nat} (settled : Settled ownerId table base)
    (unfaithful : ¬(SeatOperation.lockSeats indexes (some "")).Faithful base) :
    ∃ plan after, base.lockSeats indexes (some "") = .ok (some plan) ∧ Written table plan after ∧
      ¬after.NeedsLayout ∧ after.entries ≠ plan.seats := by
  have each : ∀ seatIndex ∈ indexes, isOwnerSeat seatIndex = false ∧
      ∃ seat, KeyedRows.find SeatEntrySnapshot.seatIndex seatIndex base.seats = some seat := by
    intro seatIndex member
    constructor
    · refine Bool.eq_false_of_not_eq_true fun isOwner => unfaithful fun _ _ => ?_
      exact ⟨seatIndex, member, .inl isOwner⟩
    · refine Option.ne_none_iff_exists'.mp fun absent => unfaithful fun _ _ => ?_
      exact ⟨seatIndex, member, .inr absent⟩
  have accepted : base.refusal
      (fun seatIndex => if isOwnerSeat seatIndex then some .typeForbidden else none) indexes =
        none := by
    refine refusal_eq_none fun seatIndex member => ⟨?_, (each seatIndex member).2⟩
    rw [(each seatIndex member).1]
    rfl
  cases isPlan : base.lockSeats indexes (some "") with
  | error error =>
      unfold SeatStageSnapshot.lockSeats at isPlan
      rw [accepted] at isPlan
      cases isPlan
  | ok outcome =>
      cases outcome with
      | none =>
          unfold SeatStageSnapshot.lockSeats at isPlan
          rw [accepted] at isPlan
          cases isPlan
      | some plan =>
          obtain ⟨-, isBulk⟩ := lockSeats_plan isPlan
          obtain ⟨after, written, -, settings, entries⟩ := written_applyEach settled isBulk
            (fun seatIndex member => (each seatIndex member).2) (fun _ => rfl) fun _ _ => nofun
          refine ⟨plan, after, rfl, written, settled.still_present settings entries, ?_⟩
          intro same
          obtain rfl := Option.some.inj (Except.ok.inj isBulk)
          rw [entries] at same
          obtain ⟨seatIndex, member⟩ : ∃ seatIndex, seatIndex ∈ indexes := by
            refine List.exists_mem_of_ne_nil indexes ?_
            rintro rfl
            exact unfaithful fun _ isEmpty => absurd rfl isEmpty
          obtain ⟨seat, found⟩ := (each seatIndex member).2
          have here : seat.seatIndex ∈ indexes :=
            (show seat.seatIndex = seatIndex from KeyedRows.key_of_find found) ▸ member
          have shows := List.map_inj_left.mp same seat (KeyedRows.mem_of_find found)
          rw [if_pos here, if_pos here] at shows
          exact nomatch congrArg SeatEntrySnapshot.reason shows

/-- A user who is moved to his own seat leaves it in the snapshot, and stays in the table. -/
theorem differs_transferSeat {target : Nat} {fromSeatIndex : Option Nat} {force : Bool}
    (settled : Settled ownerId table base)
    (unfaithful : ¬(SeatOperation.transferSeat userId target fromSeatIndex force).Faithful base) :
    isOwnerSeat target = false ∧ ∃ plan after,
      base.transferSeat userId target fromSeatIndex force = .ok (some plan) ∧
        Written table plan after ∧ ¬after.NeedsLayout ∧ after.entries ≠ plan.seats := by
  obtain ⟨source, isSource, here, forced, allowed⟩ : ∃ source, base.seatOf userId = some source ∧
      source.seatIndex = target ∧ force = true ∧ ¬(isOwnerSeat target = true ∨
        (fromSeatIndex.isSome ∧ fromSeatIndex ≠ some target)) := by
    by_contra none_there
    refine unfaithful fun source isSource here forced => ?_
    by_contra allowed
    exact none_there ⟨source, isSource, here, forced, allowed⟩
  subst here
  obtain ⟨notOwner, given⟩ := not_or.mp allowed
  obtain ⟨member, isUser⟩ := seatOf_some isSource
  have found := settled.find_of_mem member
  have shown := settled.tidy.shown source member
  have occupied := shown.occupied.mpr (by rw [isUser]; rfl)
  obtain ⟨unlocked, -⟩ := shown.free_of_occupied (by rw [isUser]; rfl)
  have accepted : base.transferSeat userId source.seatIndex fromSeatIndex force =
      base.applyMove userId source.seatIndex source.seatIndex := by
    unfold SeatStageSnapshot.transferSeat SeatStageSnapshot.requireSeat
    rw [isSource]
    dsimp only
    rw [if_neg given, found]
    dsimp only
    rw [unlocked, occupied, forced, if_neg, if_neg, if_neg]
    · exact fun held => nomatch held.1
    · exact fun taken => nomatch taken.2
    · rintro (isLocked | isLocked)
      · cases isLocked
      · cases isLocked
  obtain ⟨plan, isMove⟩ : ∃ plan,
      base.applyMove userId source.seatIndex source.seatIndex = .ok (some plan) := ⟨_, rfl⟩
  obtain ⟨after, written, -, settings, entries⟩ :=
    written_applyMove settled member isUser found isMove
  rw [List.map_map] at entries
  refine ⟨Bool.eq_false_of_not_eq_true notOwner, plan, after, accepted.trans isMove, written,
    settled.still_present settings entries, ?_⟩
  intro same
  obtain rfl := Option.some.inj (Except.ok.inj isMove)
  rw [entries] at same
  have shows := List.map_inj_left.mp same source member
  rw [Function.comp_apply, if_pos rfl, if_pos rfl, if_pos rfl] at shows
  exact nomatch congrArg SeatEntrySnapshot.status shows

end Operations

end Soulzaa.VideoRooms.Stages
