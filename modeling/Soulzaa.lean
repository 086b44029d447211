import Soulzaa.Lib.Runs
import Soulzaa.Lib.Tickets
import Soulzaa.Lib.CivilDates
import Soulzaa.Lib.CivilDays
import Soulzaa.Lib.Streaks
import Soulzaa.Lib.Bookkeeping
import Soulzaa.Lib.UniqueTable
import Soulzaa.Wallet.Types
import Soulzaa.Wallet.Store
import Soulzaa.Lib.Binary64
import Soulzaa.Wallet.Validation
import Soulzaa.Wallet.Movement
import Soulzaa.Wallet.Transaction
import Soulzaa.Wallet.Reservation
import Soulzaa.Wallet.Operation
import Soulzaa.Wallet.Ledger
import Soulzaa.Wallet.Holds
import Soulzaa.Wallet.Aggregate
import Soulzaa.Wallet.Snapshots
import Soulzaa.Wallet.Transfers
import Soulzaa.Wallet.Settlements
import Soulzaa.Wallet.Idempotency
import Soulzaa.Lib.CursorScan
import Soulzaa.Wallet.Reconciliation
import Soulzaa.Wallet.Agreement
import Soulzaa.Lib.LowestTotal
import Soulzaa.Casino.Engines
import Soulzaa.Casino.Settlement
import Soulzaa.Casino.HouseEdge
import Soulzaa.Casino.Credits
import Soulzaa.Casino.Placement
import Soulzaa.Lib.Rotation
import Soulzaa.Games.LiveState
import Soulzaa.Games.Types
import Soulzaa.Games.Lobby
import Soulzaa.Games.LobbyRules
import Soulzaa.Games.Match
import Soulzaa.Games.Session
import Soulzaa.Games.Postings
import Soulzaa.Games.Forfeits
import Soulzaa.Games.Hosts
import Soulzaa.Games.Relay
import Soulzaa.Games.Matchmaking
import Soulzaa.Games.MatchmakingSteps
import Soulzaa.Games.ReadyChecks
import Soulzaa.Games.Exclusivity
import Soulzaa.Games.Formation
import Soulzaa.Lib.Interleaving
import Soulzaa.Lib.KeyedRows
import Soulzaa.Lib.SortedSets
import Soulzaa.CoinSeller.Channel
import Soulzaa.CoinSeller.Supply
import Soulzaa.CoinSeller.AuditTrail
import Soulzaa.CoinSeller.Orders
import Soulzaa.LuckyPackets.Shares
import Soulzaa.LuckyPackets.Packets
import Soulzaa.LuckyPackets.Distribution
import Soulzaa.Lib.Matching
import Soulzaa.LuckyPackets.Backing
import Soulzaa.Withdrawals.Requests
import Soulzaa.Withdrawals.Resolution
import Soulzaa.Withdrawals.Refunds
import Soulzaa.Treasure.Boxes
import Soulzaa.Treasure.Progress
import Soulzaa.Treasure.Accounting
import Soulzaa.Treasure.Sessions
import Soulzaa.Treasure.Contribution
import Soulzaa.Treasure.Agreement
import Soulzaa.Treasure.Ladder
import Soulzaa.Treasure.Days
import Soulzaa.Treasure.DailyLadder
import Soulzaa.Treasure.Capacity
import Soulzaa.Treasure.Pipeline
import Soulzaa.Gifts.Sending
import Soulzaa.Gifts.Bookings
import Soulzaa.Gifts.Minting
import Soulzaa.Gifts.Replays
import Soulzaa.Gifts.AfterSend
import Soulzaa.Wealth.Exp
import Soulzaa.Wealth.Months
import Soulzaa.Wealth.Rewards
import Soulzaa.Payments.Purchases
import Soulzaa.Payments.Safety
import Soulzaa.Payments.Reversals
import Soulzaa.Payments.Convergence
import Soulzaa.Attendance.Claims
import Soulzaa.Attendance.Histories
import Soulzaa.VideoRooms.PkStatus
import Soulzaa.VideoRooms.TreasureLadder
import Soulzaa.VideoRooms.TreasureUnlocks
import Soulzaa.VideoRooms.TreasureClimbs
import Soulzaa.VideoRooms.TreasureProgress
import Soulzaa.VideoRooms.TreasurePayouts
import Soulzaa.VideoRooms.TreasureWinners
import Soulzaa.VideoRooms.PkTimer
import Soulzaa.VideoRooms.PkDeadline
import Soulzaa.VideoRooms.PkInvitations
import Soulzaa.VideoRooms.PkConsent
import Soulzaa.VideoRooms.PkRows
import Soulzaa.VideoRooms.PkSettlement
import Soulzaa.VideoRooms.PkRewards
import Soulzaa.VideoRooms.PkScoring
import Soulzaa.VideoRooms.PkLedger
import Soulzaa.VideoRooms.PkRaces
import Soulzaa.VideoRooms.PkFinality
import Soulzaa.Lib.Portions
import Soulzaa.Lib.OrderedRows
import Soulzaa.VideoRooms.SeatStage
import Soulzaa.VideoRooms.SeatTables
import Soulzaa.VideoRooms.SeatOperations
import Soulzaa.VideoRooms.SeatProjection
import Soulzaa.VideoRooms.SeatCommits
import Soulzaa.VideoRooms.SeatQueueScores
import Soulzaa.VideoRooms.SeatAdvances
import Soulzaa.AudioRooms.PkBattles
import Soulzaa.AudioRooms.PkResults
import Soulzaa.Calls.Lifecycle
import Soulzaa.Calls.Outcomes
import Soulzaa.Calls.Placing
import Soulzaa.Otp.Codes
import Soulzaa.Otp.Limits
import Soulzaa.Sessions.Refresh
import Soulzaa.Sessions.Revocation
import Soulzaa.Sessions.Chains
import Soulzaa.Tasks.Progress
import Soulzaa.Tasks.Counting
import Soulzaa.Tasks.Rewards
import Soulzaa.Tasks.PeriodKeys
import Soulzaa.Tasks.Missions
import Soulzaa.Rankings.Ladders
import Soulzaa.Rankings.Standings
import Soulzaa.Rankings.PeriodResolver
import Soulzaa.Rankings.PeriodKeys
import Soulzaa.Rankings.PeriodWindows
import Soulzaa.Wallet.TopUps
import Soulzaa.Casino.Replays
import Soulzaa.Lib.Reachability
import Soulzaa.Authorization.Roles
import Soulzaa.Authorization.Invalidation
import Soulzaa.Agencies.Rewards
import Soulzaa.Agencies.Shelves
import Soulzaa.Lib.Journals
import Soulzaa.Referrals.Lifecycle
import Soulzaa.Referrals.Orders
import Soulzaa.Families.Members
import Soulzaa.Families.Founders
import Soulzaa.Backpacks.Items
import Soulzaa.Backpacks.Grants
import Soulzaa.Backpacks.GrantKeys
import Soulzaa.Games.Payouts
import Soulzaa.Games.Charges
import Soulzaa.Games.Sides
import Soulzaa.Games.Watchdog
import Soulzaa.LuckyPackets.Retries
import Soulzaa.Lib.Counters
import Soulzaa.Treasure.RewardDistributor
import Soulzaa.Treasure.Distributions
import Soulzaa.Wealth.Refunds
import Soulzaa.Attendance.Previews
import Soulzaa.Exp.LevelTables
import Soulzaa.Exp.Engines
import Soulzaa.Families.Fees
import Soulzaa.Chat.Sync
import Soulzaa.Social.Friends
