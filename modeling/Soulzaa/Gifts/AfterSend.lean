/-
What follows the commit of a send: leaderboards, events and jobs.

A call that finds a row before it takes its locks returns it and is done.  A call that
finds one inside its transaction gets that row back as if it had written it, and goes on
to the effects of it.
-/

import Mathlib.Data.List.Count
import Mathlib.Data.List.Sort
import Soulzaa.Gifts.Replays
import Soulzaa.Lib.Interleaving

namespace Soulzaa.Gifts

open Interleaving

/-! ### The effects -/

inductive GiftEffectKind where
  | leaderboards
  | giftSent
  | giftReceived
  | giftCombo
  | giftLuckyWin
  | giftProcessing
  | notification
  | rankingProcessing
  | analyticsProcessing
  deriving DecidableEq, Repr

structure GiftEffect where
  kind : GiftEffectKind
  txn : GiftTransaction
  deriving DecidableEq, Repr

def effectKinds (txn : GiftTransaction) : List GiftEffectKind :=
  [.leaderboards, .giftSent, .giftReceived] ++
    (if 1 < txn.comboTier then [.giftCombo] else []) ++
    (if txn.isLuckyWin then [.giftLuckyWin] else []) ++
    [.giftProcessing, .notification, .rankingProcessing, .analyticsProcessing]

def effectsOf (kinds : List GiftEffectKind) (txn : GiftTransaction) : List GiftEffect :=
  kinds.map fun kind =>
    { kind := kind
      txn := txn }

def afterSend (txn : GiftTransaction) : List GiftEffect := effectsOf (effectKinds txn) txn

/-! ### The calls -/

def walletLockKey (userId : UserId) : String := s!"wallet:lock:{userId}"

def treasureRoomLockKey (roomId : ContextId) : String := s!"treasure:room:\x7b{roomId}\x7d"

def contextLockKeys (send : GiftSend) : List String :=
  match send.handler with
  | .audioRoom => [treasureRoomLockKey send.contextId]
  | _ => []

/-- Each key once, in one order for all calls. -/
def locksToAcquire (send : GiftSend) : List String :=
  ((send.senderId :: send.receiverIds).map walletLockKey ++ contextLockKeys send).dedup.insertionSort
    (· ≤ ·)

/-- What a call is about to do. -/
inductive BatchCall where
  | looking (surroundings : Surroundings) (send : GiftSend)
  | locking (surroundings : Surroundings) (send : GiftSend) (held : List String) (key : String)
      (rest : List String)
  | transacting (surroundings : Surroundings) (send : GiftSend) (held : List String)
  | following (effect : GiftEffect) (rest : List GiftEffect)
  | ended

namespace BatchCall

def locks : BatchCall → List String
  | .locking _ _ held _ _ => held
  | .transacting _ _ held => held
  | _ => []

def awaits : BatchCall → Option String
  | .locking _ _ _ key _ => some key
  | _ => none

/-- The effects that are still to come. -/
def pending : BatchCall → List GiftEffect
  | .following effect rest => effect :: rest
  | _ => []

end BatchCall

def lockNext (surroundings : Surroundings) (send : GiftSend) (held : List String) :
    List String → BatchCall
  | [] => .transacting surroundings send held
  | key :: rest => .locking surroundings send held key rest

def followNext : List GiftEffect → BatchCall
  | [] => .ended
  | effect :: rest => .following effect rest

structure World where
  state : GiftState
  log : List GiftEffect := []
  calls : List BatchCall := []

def World.withCall (world : World) (position : Nat) (call : BatchCall) : World :=
  { world with calls := world.calls.set position call }

/-- A call goes on to its next await; the locks are released at the commit. -/
def advance (world : World) (position : Nat) : BatchCall → World
  | .looking surroundings send =>
      match world.state.gifts.find? (send.ledgerKeyFor send.firstReceiverId) with
      | some _ => world.withCall position .ended
      | none =>
          match admission surroundings send with
          | .error _ => world.withCall position .ended
          | .ok () => world.withCall position (lockNext surroundings send [] (locksToAcquire send))
  | .locking surroundings send held key rest =>
      world.withCall position (lockNext surroundings send (key :: held) rest)
  | .transacting surroundings send _ =>
      match transaction surroundings.platform send world.state with
      | .error _ => world.withCall position .ended
      | .ok (after, rows) =>
          { world with state := after }.withCall position (followNext (rows.flatMap afterSend))
  | .following effect rest =>
      { world with log := world.log ++ [effect] }.withCall position (followNext rest)
  | .ended => world

inductive SendEvent where
  | arrive (surroundings : Surroundings) (senderId : UserId) (dto : SendGiftBatchDto)
  | goOn (position : Nat)
  /-- A call fails before its commit. -/
  | fail (position : Nat)

/-- The lock that the call waits for, if any, is free. -/
def World.ready (world : World) (call : BatchCall) : Bool :=
  call.awaits.all fun key => Free BatchCall.locks world.calls key

/-- All calls come under one client key. -/
def interleaved (key : String) (world : World) : SendEvent → World
  | .arrive surroundings senderId dto =>
      match sendOf surroundings senderId { dto with idempotencyKey := key } with
      | .error _ => world
      | .ok send => { world with calls := world.calls ++ [.looking surroundings send] }
  | .goOn position =>
      match world.calls[position]? with
      | none => world
      | some call => if world.ready call then advance world position call else world
  | .fail position =>
      match world.calls[position]? with
      | some (.following _ _) => world
      | _ => world.withCall position .ended

/-! ### Once for each row -/

def announcementKinds : List GiftEffectKind := [.leaderboards, .giftSent, .giftReceived]

def announcements (txn : GiftTransaction) : List GiftEffect := effectsOf announcementKinds txn

/-- Each row written since is announced at most once, and once when all calls have ended. -/
def AnnouncedOnce (start : GiftState) (world : World) : Prop :=
  ∀ txn ∈ createdSince start world.state, ∀ effect ∈ announcements txn,
    world.log.count effect ≤ 1 ∧
      ((∀ call ∈ world.calls, call.pending = []) → world.log.count effect = 1)

/-- Where the call is about to run its transaction, there is no row of its first receiver. -/
def BatchCall.FindsNone (state : GiftState) : BatchCall → Prop
  | .transacting _ send _ => state.gifts.Absent (send.ledgerKeyFor send.firstReceiverId)
  | _ => True

instance (state : GiftState) : (call : BatchCall) → Decidable (call.FindsNone state)
  | .looking _ _ => isTrue trivial
  | .locking _ _ _ _ _ => isTrue trivial
  | .transacting _ send _ =>
      inferInstanceAs (Decidable (state.gifts.Absent (send.ledgerKeyFor send.firstReceiverId)))
  | .following _ _ => isTrue trivial
  | .ended => isTrue trivial

/-- The transaction that goes on finds no row of its first receiver. -/
def Unraced (world : World) : SendEvent → Prop
  | .goOn position => ∀ call ∈ world.calls[position]?, call.FindsNone world.state
  | _ => True

instance (world : World) : (event : SendEvent) → Decidable (Unraced world event)
  | .goOn position =>
      inferInstanceAs (Decidable (∀ call ∈ world.calls[position]?, call.FindsNone world.state))
  | .arrive _ _ _ => isTrue trivial
  | .fail _ => isTrue trivial

/-- How often the calls will still have the effect. -/
def due (effect : GiftEffect) (call : BatchCall) : Int := call.pending.count effect

structure Inv (start : GiftState) (world : World) : Prop where
  created : start.gifts.rows <+: world.state.gifts.rows
  logged : ∀ effect ∈ world.log, effect.txn ∈ world.state.gifts.rows
  pending : ∀ call ∈ world.calls, ∀ effect ∈ call.pending, effect.txn ∈ world.state.gifts.rows
  once : ∀ txn ∈ createdSince start world.state, ∀ effect ∈ announcements txn,
    world.log.count effect + underWay (due effect) world.calls = 1

variable {start : GiftState} {world : World} {position : Nat} {call next : BatchCall}
  {effect : GiftEffect} {txn : GiftTransaction} {key : String}

theorem txn_of_effectsOf {kinds : List GiftEffectKind} (member : effect ∈ effectsOf kinds txn) :
    effect.txn = txn := by
  obtain ⟨kind, -, rfl⟩ := List.mem_map.mp member
  rfl

theorem count_effectKinds {kind : GiftEffectKind} (member : kind ∈ announcementKinds)
    (txn : GiftTransaction) : (effectKinds txn).count kind = 1 := by
  unfold announcementKinds at member
  simp only [List.mem_cons, List.not_mem_nil, or_false] at member
  unfold effectKinds
  rcases member with rfl | rfl | rfl <;> split_ifs <;> rfl

theorem count_effectsOf (kinds : List GiftEffectKind) (txn : GiftTransaction) (kind : GiftEffectKind) :
    (effectsOf kinds txn).count { kind := kind, txn := txn } = kinds.count kind := by
  have injective : Function.Injective fun kind : GiftEffectKind => GiftEffect.mk kind txn :=
    fun _ _ same => congrArg GiftEffect.kind same
  exact List.count_map_of_injective kinds _ injective kind

theorem count_afterSend (member : effect ∈ announcements txn) (other : GiftTransaction) :
    (afterSend other).count effect = if other = txn then 1 else 0 := by
  obtain ⟨kind, isKind, rfl⟩ := List.mem_map.mp member
  split_ifs with same
  · subst same
    exact (count_effectsOf _ _ _).trans (count_effectKinds isKind other)
  · apply List.count_eq_zero.mpr
    intro inside
    exact same (txn_of_effectsOf inside).symm

theorem count_flatMap_afterSend (member : effect ∈ announcements txn)
    (rows : List GiftTransaction) : (rows.flatMap afterSend).count effect = rows.count txn := by
  rw [List.count_flatMap]
  induction rows with
  | nil => rfl
  | cons other rest ih =>
      rw [List.map_cons, List.sum_cons, ih, Function.comp_apply, count_afterSend member,
        List.count_cons]
      simp [add_comm]

theorem pending_followNext (effects : List GiftEffect) : (followNext effects).pending = effects := by
  cases effects <;> rfl

theorem due_nonneg (effect : GiftEffect) (calls : List BatchCall) :
    0 ≤ underWay (due effect) calls :=
  underWay_nonneg (fun _ => Int.natCast_nonneg _) calls

theorem announcedOnce_of_inv (inv : Inv start world) : AnnouncedOnce start world := by
  intro txn created effect member
  have counted := inv.once txn created effect member
  have nonneg := due_nonneg effect world.calls
  refine ⟨by omega, ?_⟩
  intro allEnded
  have none : underWay (due effect) world.calls = 0 := by
    apply underWay_eq_zero
    intro call isCall
    unfold due
    rw [allEnded call isCall]
    rfl
  omega

theorem inv_start (start : GiftState) : Inv start { state := start } where
  created := List.prefix_refl _
  logged := List.forall_mem_nil _
  pending := List.forall_mem_nil _
  once := by
    intro txn created
    unfold createdSince at created
    rw [List.drop_length] at created
    cases created

/-! ### Steps -/

theorem due_of_idle (idle : call.pending = []) : due effect call = 0 := by
  unfold due
  rw [idle]
  rfl

theorem inv_spawn (inv : Inv start world) (idle : call.pending = []) :
    Inv start { world with calls := world.calls ++ [call] } where
  created := inv.created
  logged := inv.logged
  pending := by
    intro other member
    rcases List.mem_append.mp member with earlier | new
    · exact inv.pending other earlier
    · rw [List.mem_singleton.mp new, idle]
      exact List.forall_mem_nil _
  once := by
    intro txn created effect member
    rw [underWay_spawn, due_of_idle idle, add_zero]
    exact inv.once txn created effect member

/-- A call without effects under way comes to another such point. -/
theorem inv_withCall (inv : Inv start world) (found : world.calls[position]? = some call)
    (idle : call.pending = []) (nextIdle : next.pending = []) :
    Inv start (world.withCall position next) where
  created := inv.created
  logged := inv.logged
  pending := by
    intro other member
    rcases List.mem_or_eq_of_mem_set member with earlier | rfl
    · exact inv.pending other earlier
    · rw [nextIdle]
      exact List.forall_mem_nil _
  once := by
    intro txn created effect member
    have moved : underWay (due effect) (world.calls.set position next) + due effect call =
        underWay (due effect) world.calls + due effect next := underWay_set _ found next
    rw [due_of_idle idle, due_of_idle nextIdle, add_zero, add_zero] at moved
    change world.log.count effect + underWay (due effect) (world.calls.set position next) = 1
    rw [moved]
    exact inv.once txn created effect member

theorem inv_of_following {rest : List GiftEffect} (inv : Inv start world)
    (found : world.calls[position]? = some (.following effect rest)) :
    Inv start ({ world with log := world.log ++ [effect] }.withCall position
      (followNext rest)) where
  created := inv.created
  logged := by
    intro other member
    rcases List.mem_append.mp member with earlier | new
    · exact inv.logged other earlier
    · rw [List.mem_singleton.mp new]
      exact inv.pending _ (List.mem_of_getElem? found) effect List.mem_cons_self
  pending := by
    intro other member later isLater
    rcases List.mem_or_eq_of_mem_set member with earlier | rfl
    · exact inv.pending other earlier later isLater
    · rw [pending_followNext] at isLater
      exact inv.pending _ (List.mem_of_getElem? found) later (List.mem_cons_of_mem _ isLater)
  once := by
    intro txn created wanted member
    have before := inv.once txn created wanted member
    have moved : underWay (due wanted) (world.calls.set position (followNext rest)) +
        due wanted (.following effect rest) =
          underWay (due wanted) world.calls + due wanted (followNext rest) :=
      underWay_set _ found (followNext rest)
    have isDue : due wanted (.following effect rest) =
        due wanted (followNext rest) + ([effect].count wanted : Nat) := by
      unfold due
      rw [pending_followNext]
      change (((effect :: rest).count wanted : Nat) : Int) = _
      rw [List.count_cons, List.count_singleton]
      push_cast
      rfl
    change ((world.log ++ [effect]).count wanted : Int) +
      underWay (due wanted) (world.calls.set position (followNext rest)) = 1
    rw [List.count_append]
    push_cast
    omega

theorem inv_of_sent {surroundings : Surroundings} {send : GiftSend} {held : List String}
    {after : GiftState} {rows : List GiftTransaction} (inv : Inv start world)
    (found : world.calls[position]? = some (.transacting surroundings send held))
    (sent : Sent send world.state after rows) :
    Inv start ({ world with state := after }.withCall position
      (followNext (rows.flatMap afterSend))) := by
  have stays : ∀ txn ∈ world.state.gifts.rows, txn ∈ after.gifts.rows := by
    intro txn member
    rw [sent.created]
    exact List.mem_append_left _ member
  have isNew : ∀ txn ∈ rows, txn ∉ world.state.gifts.rows := by
    intro txn member stored
    have distinct := after.gifts.distinct
    rw [sent.created, List.map_append] at distinct
    exact List.disjoint_of_nodup_append distinct (List.mem_map_of_mem stored)
      (List.mem_map_of_mem member)
  have isOnce : rows.Nodup := by
    have distinct := after.gifts.distinct
    rw [sent.created, List.map_append] at distinct
    exact (List.Nodup.of_append_right distinct).of_map
  refine ⟨?_, ?_, ?_, ?_⟩
  · change start.gifts.rows <+: after.gifts.rows
    rw [sent.created]
    exact inv.created.trans (List.prefix_append _ _)
  · intro effect member
    exact stays _ (inv.logged effect member)
  · intro other member effect isPending
    rcases List.mem_or_eq_of_mem_set member with earlier | rfl
    · exact stays _ (inv.pending other earlier effect isPending)
    · rw [pending_followNext] at isPending
      obtain ⟨txn, isRow, isEffect⟩ := List.mem_flatMap.mp isPending
      change effect.txn ∈ after.gifts.rows
      rw [txn_of_effectsOf isEffect, sent.created]
      exact List.mem_append_right _ isRow
  · intro txn created effect member
    have moved : underWay (due effect)
          (world.calls.set position (followNext (rows.flatMap afterSend))) +
        due effect (.transacting surroundings send held) =
          underWay (due effect) world.calls + due effect (followNext (rows.flatMap afterSend)) :=
      underWay_set _ found (followNext (rows.flatMap afterSend))
    have idle : due effect (.transacting surroundings send held) = 0 := due_of_idle rfl
    have added : due effect (followNext (rows.flatMap afterSend)) = rows.count txn := by
      unfold due
      rw [pending_followNext, count_flatMap_afterSend member]
    rw [idle, added, add_zero] at moved
    change (world.log.count effect : Int) +
      underWay (due effect) (world.calls.set position (followNext (rows.flatMap afterSend))) = 1
    rw [moved]
    have isCreated : createdSince start after = createdSince start world.state ++ rows := by
      unfold createdSince
      rw [sent.created, List.drop_append_of_le_length inv.created.length_le]
    change txn ∈ createdSince start after at created
    rw [isCreated] at created
    rcases List.mem_append.mp created with earlier | new
    · -- A row written before is none of the new ones.
      have stored : txn ∈ world.state.gifts.rows := List.mem_of_mem_drop earlier
      have absent : rows.count txn = 0 :=
        List.count_eq_zero.mpr fun inside => isNew txn inside stored
      have before := inv.once txn earlier effect member
      omega
    · -- Nothing has been announced of a row that was not there.
      have isRow := txn_of_effectsOf member
      have unlogged : world.log.count effect = 0 := by
        apply List.count_eq_zero.mpr
        intro logged
        exact isNew txn new (isRow ▸ inv.logged effect logged)
      have undue : underWay (due effect) world.calls = 0 := by
        apply underWay_eq_zero
        intro call isCall
        unfold due
        rw [Int.natCast_eq_zero, List.count_eq_zero]
        intro isPending
        exact isNew txn new (isRow ▸ inv.pending call isCall effect isPending)
      have single : rows.count txn = 1 := List.count_eq_one_of_mem isOnce new
      omega

theorem pending_lockNext (surroundings : Surroundings) (send : GiftSend) (held wanted : List String) :
    (lockNext surroundings send held wanted).pending = [] := by
  cases wanted <;> rfl

theorem inv_advance (inv : Inv start world) (found : world.calls[position]? = some call)
    (findsNone : call.FindsNone world.state) : Inv start (advance world position call) := by
  cases call with
  | looking surroundings send =>
      unfold advance
      dsimp only
      split
      · exact inv_withCall inv found rfl rfl
      · split
        · exact inv_withCall inv found rfl rfl
        · exact inv_withCall inv found rfl (pending_lockNext _ _ _ _)
  | locking surroundings send held key rest =>
      exact inv_withCall inv found rfl (pending_lockNext _ _ _ _)
  | transacting surroundings send held =>
      have absent := (UniqueTable.find?_eq_none_iff _ _).mpr findsNone
      have isSettle : transaction surroundings.platform send world.state =
          settle surroundings.platform send world.state := by
        unfold transaction
        rw [absent]
      unfold advance
      dsimp only
      rw [isSettle]
      split
      · exact inv_withCall inv found rfl rfl
      · rename_i after rows settles
        exact inv_of_sent inv found (sent_of_settle settles)
  | following effect rest => exact inv_of_following inv found
  | ended => exact inv

theorem inv_interleaved (inv : Inv start world) {event : SendEvent}
    (unraced : Unraced world event) : Inv start (interleaved key world event) := by
  cases event with
  | arrive surroundings senderId dto =>
      unfold interleaved
      dsimp only
      split
      · exact inv
      · exact inv_spawn inv rfl
  | goOn position =>
      unfold interleaved
      dsimp only
      cases found : world.calls[position]? with
      | none => exact inv
      | some call =>
          dsimp only
          split
          · exact inv_advance inv found (unraced call found)
          · exact inv
  | fail position =>
      unfold interleaved
      dsimp only
      split
      · exact inv
      · rename_i unfollowed
        cases found : world.calls[position]? with
        | none =>
            have outside : world.withCall position .ended = world := by
              unfold World.withCall
              rw [List.set_eq_of_length_le (List.getElem?_eq_none_iff.mp found)]
            rw [outside]
            exact inv
        | some call =>
            have idle : call.pending = [] := by
              cases call with
              | following effect rest => exact absurd found (unfollowed effect rest)
              | _ => rfl
            exact inv_withCall inv found idle rfl

/-! ### Runs -/

/-- However the calls interleave: where no transaction finds a row, each row is announced
once. -/
theorem announcedOnce_of_unraced (key : String) (start : GiftState) (events : List SendEvent)
    (unraced : Runs.Each (interleaved key) Unraced { state := start } events) :
    Runs.Always (interleaved key) (AnnouncedOnce start) { state := start } events := by
  have kept : ∀ (world : World) (event : SendEvent), Inv start world → Unraced world event →
      Inv start (interleaved key world event) := fun _ _ inv unraced => inv_interleaved inv unraced
  have always := Runs.always_of_each kept { state := start } (inv_start start) events unraced
  exact always.imp fun _ inv => announcedOnce_of_inv inv

/-! ### Two calls at once -/

def roseSend : SendEvent :=
  .arrive
    { gift := some rose
      txnId := 1 } "sender"
    { giftId := "rose"
      receiverIds := ["receiver"]
      contextType := .videoRoom
      contextId := "room"
      quantity := 1
      idempotencyKey := "" }

/-- The call takes its two locks, commits and has its seven effects. -/
def goesThrough (position : Nat) : List SendEvent := List.replicate 10 (.goOn position)

/-- The second call looks once the first has committed. -/
theorem announcedOnce_oneAfterTheOther :
    Runs.Always (interleaved "key") (AnnouncedOnce (senderWith 500)) { state := senderWith 500 }
      ([roseSend, roseSend, .goOn 0] ++ goesThrough 0 ++ [.goOn 1]) :=
  announcedOnce_of_unraced "key" (senderWith 500) _ (by decide +kernel)

/-- Both look before either commits: the one row is announced twice. -/
theorem announcedTwice_of_race :
    ¬Runs.Always (interleaved "key") (AnnouncedOnce (senderWith 500)) { state := senderWith 500 }
      ([roseSend, roseSend, .goOn 0, .goOn 1] ++ goesThrough 0 ++ goesThrough 1) := by
  intro always
  have twice : ∃ txn ∈ createdSince (senderWith 500) (Runs.run (interleaved "key")
      { state := senderWith 500 } ([roseSend, roseSend, .goOn 0, .goOn 1] ++ goesThrough 0 ++
        goesThrough 1)).state,
      (Runs.run (interleaved "key") { state := senderWith 500 }
        ([roseSend, roseSend, .goOn 0, .goOn 1] ++ goesThrough 0 ++ goesThrough 1)).log.count
          { kind := .leaderboards, txn := txn } = 2 := by
    decide +kernel
  obtain ⟨txn, created, isTwo⟩ := twice
  have announced : ({ kind := .leaderboards, txn := txn } : GiftEffect) ∈ announcements txn :=
    List.mem_cons_self
  have atMost := (always.final txn created _ announced).1
  omega

end Soulzaa.Gifts
