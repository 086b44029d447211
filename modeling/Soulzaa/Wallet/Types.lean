/-
Rows, enumerations and requests of the wallet module, as the Prisma schema and
the request classes declare them.

A user has at most one wallet and a wallet never changes its owner, so a wallet
is named by its owner: `walletId` columns hold a `UserId`.  Identifiers of
append-only tables are positions in the table.  Coins are unbounded integers.
-/

import Mathlib.Algebra.Ring.Int.Defs
import Mathlib.Data.List.AList
import Soulzaa.Lib.UniqueTable

namespace Soulzaa

abbrev UserId := String
abbrev TransactionId := Nat
abbrev ReservationId := Nat

/-! ### Enumerations -/

inductive WalletCurrency where
  | gold
  | free
  | earnings
  | diamond
  | game
  deriving DecidableEq, Repr

inductive WalletStatus where
  | active
  | locked
  | frozen
  | suspended
  deriving DecidableEq, Repr

inductive WalletEntryType where
  | credit
  | debit
  deriving DecidableEq, Repr

inductive ReservationStatus where
  | held
  | released
  | consumed
  | expired
  deriving DecidableEq, Repr

inductive TransactionStatus where
  | pending
  | completed
  | failed
  | cancelled
  | reversed
  deriving DecidableEq, Repr

inductive TransactionType where
  | purchase
  | gift
  | reward
  | bonus
  | treasure
  | withdrawal
  | deposit
  | refund
  | settlement
  | penalty
  | adjustment
  | transfer
  | gameEntry
  | gameReward
  deriving DecidableEq, Repr

inductive WalletTxnReason where
  | recharge
  | giftSend
  | giftReceive
  | giftRefund
  | adminCredit
  | adminDebit
  | treasureBox
  | gameStake
  | gamePayout
  | vipPurchase
  | eventReward
  | cosmeticPurchase
  | premiumSeat
  | gameRefund
  | luckyPacketCreate
  | luckyPacketClaim
  | luckyPacketRefund
  | spinWheelReward
  | casinoBet
  | casinoWin
  | casinoRefund
  | pkReward
  | hostEarning
  | agencyCommission
  | coinSellerCommission
  | withdrawal
  | vipRenewal
  | systemTransfer
  | reservationHold
  | reservationRelease
  | reservationConsume
  | attendanceReward
  | pkBattleReceiverBonus
  | purchaseReversal
  | coinSellerCredit
  | giftCashback
  | diamondGiftEarning
  | diamondWithdrawalReserve
  | diamondWithdrawalCompleted
  | diamondWithdrawalReversed
  | diamondAdjustment
  | gameDailyLogin
  | gameTaskReward
  | gameEventReward
  | gameSpinReward
  | gameAchievementReward
  | gamePromotionalReward
  | gameCoinStake
  | gameCoinWin
  | gameCoinRefund
  deriving DecidableEq, Repr

def WalletCurrency.name : WalletCurrency → String
  | .gold => "GOLD"
  | .free => "FREE"
  | .earnings => "EARNINGS"
  | .diamond => "DIAMOND"
  | .game => "GAME"

def WalletStatus.name : WalletStatus → String
  | .active => "ACTIVE"
  | .locked => "LOCKED"
  | .frozen => "FROZEN"
  | .suspended => "SUSPENDED"

def ReservationStatus.name : ReservationStatus → String
  | .held => "HELD"
  | .released => "RELEASED"
  | .consumed => "CONSUMED"
  | .expired => "EXPIRED"

/-! ### Rows -/

structure Wallet where
  userId : UserId
  status : WalletStatus := .active
  goldBalance : Int := 0
  freeBalance : Int := 0
  earningsBalance : Int := 0
  diamondBalance : Int := 0
  gameBalance : Int := 0
  availableBalance : Int := 0
  reservedBalance : Int := 0
  pendingBalance : Int := 0
  lockedBalance : Int := 0
  totalRecharged : Int := 0
  totalGiftsSentValue : Int := 0
  totalGiftsReceivedValue : Int := 0
  totalSpent : Int := 0
  version : Nat := 0
  deriving DecidableEq, Repr

structure WalletTransaction where
  id : TransactionId
  transactionType : TransactionType
  status : TransactionStatus := .completed
  sourceWalletId : Option UserId := none
  destinationWalletId : Option UserId := none
  currency : WalletCurrency
  amount : Int
  idempotencyKey : String
  referenceType : Option String := none
  referenceId : Option String := none
  createdBy : Option UserId := none
  deriving DecidableEq, Repr

structure LedgerEntry where
  transactionId : TransactionId
  walletId : UserId
  type : WalletEntryType
  currency : WalletCurrency
  reason : WalletTxnReason
  amount : Int
  balanceBefore : Int
  balanceAfter : Int
  referenceType : Option String := none
  referenceId : Option String := none
  description : Option String := none
  actorId : Option UserId := none
  deriving DecidableEq, Repr

structure WalletReservation where
  walletId : UserId
  currency : WalletCurrency
  amount : Int
  purpose : String
  status : ReservationStatus
  referenceType : Option String := none
  referenceId : Option String := none
  deriving DecidableEq, Repr

/-! ### Requests -/

structure WalletMovementInput where
  userId : UserId
  currency : WalletCurrency
  amount : Int
  reason : WalletTxnReason
  idempotencyKey : String
  referenceType : Option String := none
  referenceId : Option String := none
  actorId : Option UserId := none
  deriving DecidableEq, Repr

/-- An omitted `currency` stays omitted: the class default is applied by the
HTTP layer only, not to objects other modules pass. -/
structure CreditWalletDto where
  userId : UserId
  amount : Int
  currency : Option WalletCurrency := none
  reason : Option WalletTxnReason := none
  idempotencyKey : String
  referenceType : Option String := none
  referenceId : Option String := none
  description : Option String := none
  deriving DecidableEq, Repr

abbrev DebitWalletDto := CreditWalletDto

structure TransferWalletDto where
  senderUserId : UserId
  recipientUserId : UserId
  amount : Int
  currency : Option WalletCurrency := none
  idempotencyKey : String
  referenceType : Option String := none
  referenceId : Option String := none
  description : Option String := none
  deriving DecidableEq, Repr

structure ReserveCoinsDto where
  userId : UserId
  amount : Int
  purpose : String
  currency : Option WalletCurrency := none
  referenceType : Option String := none
  referenceId : Option String := none
  deriving DecidableEq, Repr

/-! ### Errors -/

inductive HttpStatus where
  | badRequest
  | forbidden
  | conflict
  deriving DecidableEq, Repr

inductive ErrorCode where
  | invalidAmount
  | insufficientBalance
  | walletNotActive
  deriving DecidableEq, Repr

/-- What a call can throw.  The last two are the database's own: a taken unique
key (P2002) and an update of a row that is not there (P2025). -/
inductive Failure where
  | business (errorCode : ErrorCode) (message : String) (status : HttpStatus)
  | forbidden (message : String)
  | badRequest (message : String)
  | notFound (message : String)
  | uniqueConstraint
  | recordNotFound
  deriving DecidableEq, Repr

end Soulzaa
