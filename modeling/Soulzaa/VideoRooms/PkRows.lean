/-
The rows of a video PK battle: its two teams, their participants and the contributions that
gifts leave.
-/

import Soulzaa.VideoRooms.PkStatus

namespace Soulzaa.VideoRooms

abbrev TeamId := String
abbrev ParticipantId := String

structure VideoRoomPkTeam where
  id : TeamId
  side : VideoRoomPkSide
  score : Int := 0
  giftCount : Nat := 0
  deriving DecidableEq, Repr

structure VideoRoomPkParticipant where
  id : ParticipantId
  teamId : TeamId
  userId : UserId
  side : VideoRoomPkSide
  score : Int := 0
  giftCount : Nat := 0
  deriving DecidableEq, Repr

/-- A gift's transaction, or the same followed by ":reversal". -/
inductive GiftKey where
  | gift (giftTxnId : String)
  | reversal (giftTxnId : String)
  deriving DecidableEq, Repr

structure VideoRoomPkContribution where
  teamId : TeamId
  participantId : ParticipantId
  side : VideoRoomPkSide
  senderId : UserId
  receiverId : UserId
  baseAmount : Int
  multiplierBps : Int
  scoredAmount : Int
  giftTxnId : GiftKey
  deriving DecidableEq, Repr

end Soulzaa.VideoRooms
