/-
Releases and consumptions that overlap.

A settlement reads its reservation in one step and runs its transaction in a
later one; between the two any other call may run.  The transaction neither
locks nor re-reads the reservation, so it changes the wallet again when another
settlement got there first.
-/

import Soulzaa.Wallet.Holds

namespace Soulzaa.Settlements

open ReservationService

/-- A settlement that has found its reservation HELD and not yet committed. -/
structure Call where
  settlement : Settlement
  reservationId : ReservationId
  reservation : WalletReservation
  deriving DecidableEq, Repr

structure System where
  db : Db
  pending : List Call
  /-- The reservation of every settlement that changed a wallet, in order. -/
  committed : List ReservationId

def System.empty : System :=
  { db := Db.empty
    pending := []
    committed := [] }

def IsSettlement (event : Event) : Prop :=
  match event.operation with
  | .settle _ _ => True
  | _ => False

inductive Action where
  /-- Any operation that is not a settlement runs alone. -/
  | operation (event : Event) (other : ¬IsSettlement event)
  | read (settlement : Settlement) (reservationId : ReservationId)
  | commit (position : Nat)

def act (system : System) : Action → System
  | .operation event _ => { system with db := step system.db event }
  | .read settlement reservationId =>
      match readHeld system.db reservationId with
      | .error _ => system
      | .ok reservation =>
          { system with
            pending := system.pending ++
              [{ settlement := settlement
                 reservationId := reservationId
                 reservation := reservation }] }
  -- The reservation is the one read then; it is not read again.
  | .commit position =>
      match system.pending[position]? with
      | none => system
      | some call =>
          let rest := system.pending.eraseIdx position
          match settleTransaction call.settlement call.reservationId call.reservation system.db with
          | .error _ => { system with pending := rest }
          | .ok (after, _) =>
              { db := after
                pending := rest
                committed := system.committed ++ [call.reservationId] }

/-- No reservation changed its wallet twice, and the reserved columns are the
sums of the HELD reservations. -/
structure SettledOnce (system : System) : Prop where
  once : system.committed.Nodup
  reserved : ∀ userId,
    (system.db.row userId).reservedBalance = heldSum system.db.reservations userId

def Action.FindsHeld (system : System) : Action → Prop
  | .operation _ _ => True
  | .read _ _ => True
  | .commit position =>
      ∀ call, system.pending[position]? = some call →
        ∀ stored, system.db.findReservation call.reservationId = some stored →
          (system.db.findWallet call.reservation.walletId).isSome → stored.status = .held

/-! ### What survives every step -/

/-- The stored row of a call differs from the one it read in status only. -/
def Call.Matches (db : Db) (call : Call) : Prop :=
  ∃ stored, db.findReservation call.reservationId = some stored ∧
    stored.walletId = call.reservation.walletId ∧ stored.amount = call.reservation.amount

def Spent (db : Db) (reservationId : ReservationId) : Prop :=
  ∃ stored, db.findReservation reservationId = some stored ∧ stored.status ≠ .held

structure Consistent (system : System) : Prop where
  positive : ∀ reservation ∈ system.db.reservations, 0 < reservation.amount
  matched : ∀ call ∈ system.pending, call.Matches system.db
  spent : ∀ reservationId ∈ system.committed, Spent system.db reservationId

theorem findReservation_of_append {before after : Db} {added : List WalletReservation}
    (appended : after.reservations = before.reservations ++ added)
    {reservationId : ReservationId} {stored : WalletReservation}
    (found : before.findReservation reservationId = some stored) :
    after.findReservation reservationId = some stored := by
  unfold Db.findReservation at *
  rw [appended, List.getElem?_append_left (List.getElem?_eq_some_iff.mp found).1]
  exact found

theorem reservations_step_of_other (db : Db) (event : Event) (other : ¬IsSettlement event) :
    ∃ added, (step db event).reservations = db.reservations ++ added := by
  rw [(step_wrote db event).reservations]
  unfold Event.writes
  by_cases posts : event.Posts db
  · rw [if_pos posts]
    obtain ⟨platform, operation⟩ := event
    cases operation with
    | reserveCoins dto => exact ⟨[heldReservation dto], rfl⟩
    | settle settlement reservationId => exact absurd trivial other
    | ensureWallet userId => exact ⟨[], (List.append_nil _).symm⟩
    | updateWalletStatus walletId status => exact ⟨[], (List.append_nil _).symm⟩
    | move type input => exact ⟨[], (List.append_nil _).symm⟩
    | wallet call dto actorId => exact ⟨[], (List.append_nil _).symm⟩
    | transferCoins dto actorId => exact ⟨[], (List.append_nil _).symm⟩
  · rw [if_neg posts]
    exact ⟨[], (List.append_nil _).symm⟩

theorem findReservation_of_settle {before after : Db} {settlement : Settlement}
    {settledId : ReservationId} {reservation : WalletReservation}
    (wrote : before.Wrote after (settleWrites settlement settledId reservation))
    {reservationId : ReservationId} {stored : WalletReservation}
    (found : before.findReservation reservationId = some stored) :
    after.findReservation reservationId =
      some (if settledId = reservationId then { stored with status := settlement.status }
        else stored) := by
  unfold Db.findReservation at *
  rw [wrote.reservations]
  change (before.reservations.modify settledId _)[reservationId]? = _
  rw [List.getElem?_modify, found]
  rfl

theorem status_ne_held (settlement : Settlement) : settlement.status ≠ .held := by
  cases settlement <;> decide

theorem Call.Matches.of_settle {before after : Db} {settlement : Settlement}
    {settledId : ReservationId} {reservation : WalletReservation}
    (wrote : before.Wrote after (settleWrites settlement settledId reservation))
    {call : Call} (matched : call.Matches before) : call.Matches after := by
  obtain ⟨stored, found, sameWallet, sameAmount⟩ := matched
  refine ⟨_, findReservation_of_settle wrote found, ?_, ?_⟩
  · split <;> exact sameWallet
  · split <;> exact sameAmount

theorem Spent.of_settle {before after : Db} {settlement : Settlement}
    {settledId : ReservationId} {reservation : WalletReservation}
    (wrote : before.Wrote after (settleWrites settlement settledId reservation))
    {reservationId : ReservationId} (spent : Spent before reservationId) :
    Spent after reservationId := by
  obtain ⟨stored, found, notHeld⟩ := spent
  refine ⟨_, findReservation_of_settle wrote found, ?_⟩
  split
  · exact status_ne_held settlement
  · exact notHeld

theorem spent_of_settle {before after : Db} {settlement : Settlement}
    {settledId : ReservationId} {reservation stored : WalletReservation}
    (wrote : before.Wrote after (settleWrites settlement settledId reservation))
    (found : before.findReservation settledId = some stored) : Spent after settledId := by
  refine ⟨_, findReservation_of_settle wrote found, ?_⟩
  rw [if_pos rfl]
  exact status_ne_held settlement

/-! ### One step -/

/-- What a commit can do: nothing, for want of a call or of its wallet, or the
writes of its settlement. -/
theorem commit_cases {system : System} (consistent : Consistent system) (position : Nat) :
    ((∀ call, system.pending[position]? = some call →
        ¬(system.db.findWallet call.reservation.walletId).isSome) ∧
      act system (.commit position) =
        { system with pending := system.pending.eraseIdx position }) ∨
    ∃ call stored after,
      system.pending[position]? = some call ∧
      (system.db.findWallet call.reservation.walletId).isSome ∧
      system.db.findReservation call.reservationId = some stored ∧
      stored.walletId = call.reservation.walletId ∧
      stored.amount = call.reservation.amount ∧
      system.db.Wrote after
        (settleWrites call.settlement call.reservationId call.reservation) ∧
      act system (.commit position) =
        { db := after
          pending := system.pending.eraseIdx position
          committed := system.committed ++ [call.reservationId] } := by
  cases waiting : system.pending[position]? with
  | none =>
      left
      refine ⟨fun call => nofun, ?_⟩
      simp only [act, waiting]
      rw [List.eraseIdx_of_length_le (List.getElem?_eq_none_iff.mp waiting)]
  | some call =>
      obtain ⟨stored, found, sameWallet, sameAmount⟩ :=
        consistent.matched call (List.mem_of_getElem? waiting)
      cases walletFound : system.db.findWallet call.reservation.walletId with
      | none =>
          left
          refine ⟨fun other same => ?_, ?_⟩
          · obtain rfl : call = other := Option.some.inj same
            rw [walletFound]
            exact Bool.false_ne_true
          · simp only [act, waiting, settleTransaction, Db.updateWallet, walletFound, error_bind]
      | some wallet =>
          right
          obtain ⟨after, response, committed, wrote⟩ :=
            settleTransaction_of_found call.settlement walletFound found
          refine ⟨call, stored, after, rfl, ?_, found, sameWallet, sameAmount, wrote, ?_⟩
          · rw [walletFound]
            rfl
          · simp only [act, waiting, committed]

theorem Call.Matches.of_append {before after : Db} {added : List WalletReservation}
    (appended : after.reservations = before.reservations ++ added) {call : Call}
    (matched : call.Matches before) : call.Matches after := by
  obtain ⟨stored, found, same⟩ := matched
  exact ⟨stored, findReservation_of_append appended found, same⟩

theorem Spent.of_append {before after : Db} {added : List WalletReservation}
    (appended : after.reservations = before.reservations ++ added)
    {reservationId : ReservationId} (spent : Spent before reservationId) :
    Spent after reservationId := by
  obtain ⟨stored, found, notHeld⟩ := spent
  exact ⟨stored, findReservation_of_append appended found, notHeld⟩

theorem holdsBacked_of {system : System} (consistent : Consistent system)
    (settledOnce : SettledOnce system) : HoldsBacked system.db :=
  ⟨consistent.positive, settledOnce.reserved⟩

theorem consistent_act (system : System) (action : Action) (consistent : Consistent system)
    (settledOnce : SettledOnce system) : Consistent (act system action) := by
  have backed := holdsBacked_of consistent settledOnce
  cases action with
  | operation event other =>
      obtain ⟨added, appended⟩ := reservations_step_of_other system.db event other
      exact ⟨(holdsBacked_step system.db event backed).positive,
        fun call member => (consistent.matched call member).of_append appended,
        fun id member => (consistent.spent id member).of_append appended⟩
  | read settlement reservationId =>
      cases outcome : readHeld system.db reservationId with
      | error failure =>
          simp only [act, outcome]
          exact consistent
      | ok reservation =>
          simp only [act, outcome]
          refine ⟨consistent.positive, ?_, consistent.spent⟩
          intro call member
          rw [List.mem_append, List.mem_singleton] at member
          rcases member with old | rfl
          · exact consistent.matched call old
          · have found := ((readHeld_ok_iff system.db reservationId reservation).mp outcome).1
            exact ⟨reservation, found, rfl, rfl⟩
  | commit position =>
      rcases commit_cases consistent position with ⟨-, unchanged⟩ | committed
      · rw [unchanged]
        exact ⟨consistent.positive,
          fun call member => consistent.matched call (List.mem_of_mem_eraseIdx member),
          consistent.spent⟩
      · obtain ⟨call, stored, after, -, -, found, -, -, wrote, result⟩ := committed
        rw [result]
        refine ⟨positive_of_settle backed wrote, ?_, ?_⟩
        · intro other member
          exact (consistent.matched other (List.mem_of_mem_eraseIdx member)).of_settle wrote
        · intro id member
          rw [List.mem_append, List.mem_singleton] at member
          rcases member with old | rfl
          · exact (consistent.spent id old).of_settle wrote
          · exact spent_of_settle wrote found

/-- A commit keeps the books exactly when the stored reservation is still HELD:
the sum of holds then falls by what the reserved column does. -/
theorem settledOnce_commit_iff {system : System} (consistent : Consistent system)
    (settledOnce : SettledOnce system) (position : Nat) :
    SettledOnce (act system (.commit position)) ↔
      Action.FindsHeld system (.commit position) := by
  have backed := holdsBacked_of consistent settledOnce
  rcases commit_cases consistent position with ⟨absent, unchanged⟩ | committed
  · rw [unchanged]
    refine iff_of_true ⟨settledOnce.once, settledOnce.reserved⟩ ?_
    intro call waiting stored found walletExists
    exact absurd walletExists (absent call waiting)
  · obtain ⟨call, stored, after, waiting, walletExists, found, sameWallet, sameAmount, wrote,
      result⟩ := committed
    have moved := reserved_of_settle backed wrote found
    have positive := backed.positive stored (List.mem_of_getElem? found)
    rw [result]
    constructor
    · rintro ⟨-, reserved⟩ other otherWaiting otherStored otherFound -
      obtain rfl : call = other := Option.some.inj (waiting.symm.trans otherWaiting)
      obtain rfl : stored = otherStored := Option.some.inj (found.symm.trans otherFound)
      -- A row no longer HELD holds nothing, yet the column falls by the amount.
      by_contra notHeld
      have atOwner := moved call.reservation.walletId
      have nothing : stored.holds call.reservation.walletId = 0 :=
        if_neg fun both => notHeld both.2
      have kept : (after.row call.reservation.walletId).reservedBalance =
          heldSum after.reservations call.reservation.walletId :=
        reserved call.reservation.walletId
      rw [nothing, if_pos rfl] at atOwner
      omega
    · intro findsHeld
      have held := findsHeld call waiting stored found walletExists
      constructor
      -- A reservation that was settled before is spent, and this one is HELD.
      · have fresh : call.reservationId ∉ system.committed := by
          intro member
          obtain ⟨other, otherFound, notHeld⟩ := consistent.spent call.reservationId member
          obtain rfl : stored = other := Option.some.inj (found.symm.trans otherFound)
          exact notHeld held
        exact List.Nodup.append settledOnce.once (List.nodup_singleton _)
          (List.disjoint_singleton.mpr fresh)
      · intro userId
        have atUser := moved userId
        have whole : stored.holds userId =
            if userId = call.reservation.walletId then call.reservation.amount else 0 := by
          unfold WalletReservation.holds
          simp only [held, and_true, sameWallet, sameAmount, eq_comm]
        change (after.row userId).reservedBalance = heldSum after.reservations userId
        omega

/-! ### Runs -/

/-- In any interleaving, reservations are settled once and the reserved columns
stay right exactly when every commit finds its reservation still HELD. -/
theorem settledOnce_iff_findsHeld (actions : List Action) :
    Runs.Always act SettledOnce System.empty actions ↔
      Runs.Each act Action.FindsHeld System.empty actions := by
  apply Runs.always_iff_each Consistent
  · intro system action consistent settledOnce _
    exact consistent_act system action consistent settledOnce
  · intro system action consistent settledOnce
    cases action with
    | operation event other =>
        refine iff_of_true ⟨settledOnce.once, ?_⟩ trivial
        exact (holdsBacked_step system.db event
          (holdsBacked_of consistent settledOnce)).reserved
    | read settlement reservationId =>
        refine iff_of_true ?_ trivial
        cases outcome : readHeld system.db reservationId with
        | error failure =>
            simp only [act, outcome]
            exact settledOnce
        | ok reservation =>
            simp only [act, outcome]
            exact ⟨settledOnce.once, settledOnce.reserved⟩
    | commit position => exact settledOnce_commit_iff consistent settledOnce position
  · exact ⟨fun reservation member => absurd member List.not_mem_nil,
      fun call member => absurd member List.not_mem_nil,
      fun id member => absurd member List.not_mem_nil⟩
  · exact ⟨List.nodup_nil, holdsBacked_empty.reserved⟩

/-- A release and a consumption that both read the hold of 60 take it twice. -/
theorem settledOnce_fails_on_overlap :
    ¬Runs.Always act SettledOnce System.empty
      [.operation (.ofOperation (.move .credit
        { userId := "alice"
          currency := .gold
          amount := 100
          reason := .recharge
          idempotencyKey := "k1" })) id,
      .operation (.ofOperation (.reserveCoins
        { userId := "alice"
          amount := 60
          purpose := "game" })) id,
      .read .release 0,
      .read .consume 0,
      .commit 0,
      .commit 0] := by
  intro always
  have once := always.final.once
  revert once
  decide

end Soulzaa.Settlements
