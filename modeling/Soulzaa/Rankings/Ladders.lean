/-
The gift ladders: how gifts are counted and how leaderboards are read.

A reader that finds nothing on its page of a ladder asks the database, and adds what it is told to
the ladder in the background.
-/

import Mathlib.Data.List.Dedup
import Mathlib.Data.List.Sort
import Soulzaa.Lib.CivilDates
import Soulzaa.Lib.KeyedRows

namespace Soulzaa.Rankings

open CivilDates KeyedRows

abbrev Member := Nat

/-- A date of the server's calendar, and the milliseconds since its midnight. -/
structure Instant where
  date : Date
  time : Nat
  deriving DecidableEq, Repr

def Instant.NotAfter (one two : Instant) : Prop :=
  one.date.rank < two.date.rank ∨ one.date.rank = two.date.rank ∧ one.time ≤ two.time

instance (one two : Instant) : Decidable (one.NotAfter two) :=
  inferInstanceAs (Decidable (_ ∨ _ ∧ _))

/-! ### Ladders -/

inductive Kind where
  | gifters
  | receivers
  | streamers
  deriving DecidableEq, Repr

inductive RankingPeriod where
  | alltime
  | daily
  | weekly
  | monthly
  deriving DecidableEq, Repr

inductive DateKey where
  | alltime
  | day (year month day : Nat)
  | week (year week : Nat)
  | month (year month : Nat)
  deriving DecidableEq, Repr

/-- A week belongs to the year of its Thursday. -/
def dateKeyFor (period : RankingPeriod) (now : Instant) : DateKey :=
  match period with
  | .alltime => .alltime
  | .daily => .day now.date.year now.date.month now.date.day
  | .weekly => .week now.date.thursday.year now.date.weekNumber
  | .monthly => .month now.date.year now.date.month

structure LadderKey where
  kind : Kind
  period : RankingPeriod
  dateKey : DateKey
  deriving DecidableEq, Repr

def resolveRankingKey (kind : Kind) (period : RankingPeriod) (now : Instant) : LadderKey :=
  { kind := kind
    period := period
    dateKey := dateKeyFor period now }

/-- A week is seven days back, and not from its Monday. -/
def getSinceDate (period : RankingPeriod) (now : Instant) : Option Instant :=
  match period with
  | .alltime => none
  | .daily => some ⟨now.date, 0⟩
  | .weekly => some ⟨Date.previous^[7] now.date, now.time⟩
  | .monthly => some ⟨⟨now.date.year, now.date.month, 1⟩, 0⟩

/-- A member of a ladder, or what is added to it. -/
structure Standing where
  key : LadderKey
  member : Member
  score : Nat
  deriving DecidableEq, Repr

def Standing.name (standing : Standing) : LadderKey × Member := (standing.key, standing.member)

def scoreOf (ladders : List Standing) (key : LadderKey) (member : Member) : Nat :=
  ((find Standing.name (key, member) ladders).map (·.score)).getD 0

def incrementScore (ladders : List Standing) (added : Standing) : List Standing :=
  upsert Standing.name
    { added with score := scoreOf ladders added.key added.member + added.score } ladders

def getRangeFromRedis (ladders : List Standing) (key : LadderKey) (start limit : Nat) :
    List Standing :=
  (((ladders.filter fun standing => standing.key = key).mergeSort fun one two =>
    two.score ≤ one.score).drop start).take limit

/-! ### Gifts -/

inductive GiftContextType where
  | audioRoom
  | videoRoom
  | liveStream
  | privateChat
  | pkBattle
  | multiHostBattle
  | event
  | game
  deriving DecidableEq, Repr

/-- A completed gift. -/
structure Gift where
  senderId : Member
  receiverId : Member
  totalCoinValue : Nat
  contextType : GiftContextType
  createdAt : Instant
  deriving DecidableEq, Repr

def Gift.isStreamContext (gift : Gift) : Bool :=
  gift.contextType = .audioRoom ∨ gift.contextType = .videoRoom ∨ gift.contextType = .liveStream

/-- Whom a ladder counts the gift for. -/
def attributed (kind : Kind) (gift : Gift) : Option Member :=
  match kind with
  | .gifters => some gift.senderId
  | .receivers => some gift.receiverId
  | .streamers => if gift.isStreamContext then some gift.receiverId else none

def incrementAllPeriods (kind : Kind) (member : Member) (delta : Nat) (now : Instant) :
    List Standing :=
  [RankingPeriod.alltime, .daily, .weekly, .monthly].map fun period =>
    { key := resolveRankingKey kind period now
      member := member
      score := delta }

/-- What `updateGiftRankings` adds, one after another. -/
def increments (gift : Gift) (now : Instant) : List Standing :=
  [Kind.gifters, .receivers, .streamers].flatMap fun kind =>
    (attributed kind gift).toList.flatMap fun member =>
      incrementAllPeriods kind member gift.totalCoinValue now

structure Entry where
  member : Member
  score : Nat
  deriving DecidableEq, Repr

def isSince (since : Option Instant) (gift : Gift) : Bool :=
  since.all fun sinceDate => decide (sinceDate.NotAfter gift.createdAt)

/-- The coins given since then, by member. -/
def grouped (gifts : List Gift) (kind : Kind) (since : Option Instant) : List Entry :=
  let rows := gifts.filter (isSince since)
  (rows.filterMap (attributed kind)).dedup.map fun member =>
    { member := member
      score := ((rows.filter fun gift => attributed kind gift = some member).map
        (·.totalCoinValue)).sum }

def pageOf (entries : List Entry) (start limit : Nat) : List Entry :=
  ((entries.mergeSort fun one two => two.score ≤ one.score).drop start).take limit

/-! ### Calls -/

inductive Call where
  | dating (gift : Gift)
  | adding (rest : List Standing)
  | ranging (kind : Kind) (period : RankingPeriod) (start limit : Nat)
  | falling (key : LadderKey) (start limit : Nat)
  | grouping (key : LadderKey) (since : Option Instant) (start limit : Nat)
  | fallingBack (key : LadderKey) (start limit : Nat)
  | finished
  deriving DecidableEq, Repr

structure World where
  now : Instant
  gifts : List Gift := []
  ladders : List Standing := []
  /-- `giftsSent` and `coinsReceived` of the users that have any. -/
  giftsSent : List Entry := []
  coinsReceived : List Entry := []
  roomOwners : List Member := []
  calls : List Call := []
  deriving DecidableEq, Repr

inductive Happening where
  /-- A gift is completed, and its event is under way. -/
  | gift (senderId receiverId : Member) (totalCoinValue : Nat) (contextType : GiftContextType)
  | read (kind : Kind) (period : RankingPeriod) (page limit : Nat)
  | goOn (position : Nat)
  | turn (now : Instant)
  | recount (giftsSent coinsReceived : List Entry) (roomOwners : List Member)
  /-- A ladder is past its time to live. -/
  | expire (key : LadderKey)
  deriving DecidableEq, Repr

namespace World

def put (world : World) (position : Nat) (call : Call) : World :=
  { world with calls := world.calls.set position call }

/-- Where no gift is on the page, users by their statistics, or the owners of rooms. -/
def fallback (world : World) (kind : Kind) (start limit : Nat) : List Entry :=
  match kind with
  | .gifters => pageOf world.giftsSent start limit
  | .receivers => pageOf world.coinsReceived start limit
  | .streamers =>
      (((world.roomOwners.dedup.drop start).take limit).zipIdx).map fun (owner, place) =>
        { member := owner
          score := max (100 - place * 10) 10 }

def seeds (key : LadderKey) (entries : List Entry) : List Standing :=
  entries.map fun entry =>
    { key := key
      member := entry.member
      score := entry.score }

def goOn (world : World) (position : Nat) : Call → World
  | .dating gift => world.put position (.adding (increments gift world.now))
  | .adding [] => world.put position .finished
  | .adding (added :: rest) =>
      { world.put position (.adding rest) with ladders := incrementScore world.ladders added }
  | .ranging kind period start limit =>
      let key := resolveRankingKey kind period world.now
      if getRangeFromRedis world.ladders key start limit = [] then
        world.put position (.falling key start limit)
      else world.put position .finished
  | .falling key start limit =>
      world.put position (.grouping key (getSinceDate key.period world.now) start limit)
  | .grouping key since start limit =>
      let entries := pageOf (grouped world.gifts key.kind since) start limit
      if entries = [] then world.put position (.fallingBack key start limit)
      else world.put position (.adding (seeds key entries))
  | .fallingBack key start limit =>
      world.put position (.adding (seeds key (world.fallback key.kind start limit)))
  | .finished => world

def step (world : World) : Happening → World
  | .gift senderId receiverId totalCoinValue contextType =>
      let gift : Gift :=
        { senderId := senderId
          receiverId := receiverId
          totalCoinValue := totalCoinValue
          contextType := contextType
          createdAt := world.now }
      { world with
        gifts := world.gifts ++ [gift]
        calls := world.calls ++ [.dating gift] }
  | .read kind period page limit =>
      { world with
        calls := world.calls ++ [.ranging kind period ((page - 1) * limit) limit] }
  | .goOn position =>
      match world.calls[position]? with
      | none => world
      | some call => world.goOn position call
  | .turn now => { world with now := now }
  | .recount giftsSent coinsReceived roomOwners =>
      { world with
        giftsSent := giftsSent
        coinsReceived := coinsReceived
        roomOwners := roomOwners }
  | .expire key =>
      { world with ladders := world.ladders.filter fun standing => standing.key ≠ key }

end World

end Soulzaa.Rankings
