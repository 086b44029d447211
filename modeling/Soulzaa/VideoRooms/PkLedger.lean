/-
The scores of a video PK battle and its contributions.

Where every leg of a gift or of a refund is written as a whole, the scores are sums of the
contributions, gifts have all of their legs or none, and what is undone adds up to nothing.
-/

import Mathlib.Algebra.Ring.Int.Defs
import Soulzaa.Lib.Runs
import Soulzaa.VideoRooms.PkScoring

namespace Soulzaa.VideoRooms

open Runs

/-! ### What is promised -/

/-- The score of the rows that are kept. -/
def scoredBy (rows : List VideoRoomPkContribution) (keep : VideoRoomPkContribution → Bool) : Int :=
  ((rows.filter keep).map VideoRoomPkContribution.scoredAmount).sum

/-- The row is the gift's, or the undoing of it. -/
def isOf (giftTxnId : String) (row : VideoRoomPkContribution) : Bool :=
  row.giftTxnId = .gift giftTxnId || row.giftTxnId = .reversal giftTxnId

structure PkHistory.Ledger (history : PkHistory) : Prop where
  teams : ∀ team ∈ history.board.teams,
    team.score = scoredBy history.board.contributions fun row => row.teamId = team.id
  participants : ∀ participant ∈ history.board.participants,
    participant.score =
      scoredBy history.board.contributions fun row => row.participantId = participant.id
  whole : ∀ gift ∈ history.gifts,
    history.board.findContributions (.gift gift.giftTxnId) = [] ∨
      (history.board.findContributions (.gift gift.giftTxnId)).map
        VideoRoomPkContribution.participantId = gift.legs
  undone : ∀ giftTxnId ∈ history.reversed,
    (∀ teamId, scoredBy history.board.contributions
      (fun row => isOf giftTxnId row && row.teamId = teamId) = 0) ∧
    ∀ participantId, scoredBy history.board.contributions
      (fun row => isOf giftTxnId row && row.participantId = participantId) = 0

/-- A battle as it is created, with distinct ids and nothing scored. -/
structure PkBoard.Fresh (board : PkBoard) : Prop where
  teamIds : (board.teams.map VideoRoomPkTeam.id).Nodup
  participantIds : (board.participants.map VideoRoomPkParticipant.id).Nodup
  placed : ∀ participant ∈ board.participants,
    participant.teamId ∈ board.teams.map VideoRoomPkTeam.id
  teams : ∀ team ∈ board.teams, team.score = 0
  participants : ∀ participant ∈ board.participants, participant.score = 0
  contributions : board.contributions = []

/-! ### Legs that are written as a whole -/

def Leg.records (leg : Leg) : Bool :=
  wins leg.teamAttempts && wins leg.participantAttempts && leg.throwsBefore = none

/-- Every team update is lost, until something is thrown before one. -/
def untouched : List Leg → Bool
  | [] => true
  | leg :: rest =>
      leg.throwsBefore = some .team || (!wins leg.teamAttempts && untouched rest)

/-- A refund meets a lost participant update before anything is thrown. -/
def rollsBack : List Leg → Bool
  | [] => false
  | leg :: rest =>
      leg.throwsBefore ≠ some .team &&
        if wins leg.teamAttempts then
          leg.throwsBefore ≠ some .participant &&
            (!wins leg.participantAttempts || (leg.throwsBefore = none && rollsBack rest))
        else rollsBack rest

/-- Nothing is thrown between the first won team update and its row. -/
def unbroken : List Leg → Bool
  | [] => true
  | leg :: rest =>
      leg.throwsBefore = some .team ||
        if wins leg.teamAttempts then
          leg.throwsBefore ≠ some .participant &&
            (!wins leg.participantAttempts || leg.throwsBefore = none)
        else unbroken rest

/-- A gift's legs are all written or none is touched; a refund's are all written, it is rolled
back, or it undoes again what is undone. -/
def PkHistory.Kept (history : PkHistory) : PkCall → Prop
  | .gift input meets commits =>
      commits = true → ¬history.sent input.giftTxnId →
        ((history.board.legs input meets).map Prod.snd).all Leg.records ∨
          untouched ((history.board.legs input meets).map Prod.snd)
  | .reverse giftTxnId meets commits =>
      commits = true → history.sent giftTxnId → isPkTerminal history.board.status = false →
        ((history.board.reversalLegs giftTxnId meets).map Prod.snd).all Leg.records ∨
          rollsBack ((history.board.reversalLegs giftTxnId meets).map Prod.snd) ∨
          (giftTxnId ∈ history.reversed ∧
            unbroken ((history.board.reversalLegs giftTxnId meets).map Prod.snd))
  | .move _ => True

namespace PkBoard

variable {board after : PkBoard} {row : VideoRoomPkContribution} {leg : Leg}
  {legs : List (VideoRoomPkContribution × Leg)}

/-! ### Boards that balance -/

def rowKey (row : VideoRoomPkContribution) : GiftKey × ParticipantId :=
  (row.giftTxnId, row.participantId)

structure Placed (board : PkBoard) (row : VideoRoomPkContribution) : Prop where
  team : row.teamId ∈ board.teams.map VideoRoomPkTeam.id
  participant : row.participantId ∈ board.participants.map VideoRoomPkParticipant.id

structure Balanced (board : PkBoard) : Prop where
  teamIds : (board.teams.map VideoRoomPkTeam.id).Nodup
  participantIds : (board.participants.map VideoRoomPkParticipant.id).Nodup
  placed : ∀ participant ∈ board.participants,
    participant.teamId ∈ board.teams.map VideoRoomPkTeam.id
  rows : ∀ row ∈ board.contributions, board.Placed row
  teams : ∀ team ∈ board.teams,
    team.score = scoredBy board.contributions fun row => row.teamId = team.id
  participants : ∀ participant ∈ board.participants,
    participant.score = scoredBy board.contributions fun row => row.participantId = participant.id

theorem Fresh.balanced (fresh : board.Fresh) : board.Balanced where
  teamIds := fresh.teamIds
  participantIds := fresh.participantIds
  placed := fresh.placed
  rows := by
    rw [fresh.contributions]
    exact nofun
  teams := by
    rw [fresh.contributions]
    exact fresh.teams
  participants := by
    rw [fresh.contributions]
    exact fresh.participants

theorem scoredBy_concat (rows : List VideoRoomPkContribution) (row : VideoRoomPkContribution)
    (keep : VideoRoomPkContribution → Bool) :
    scoredBy (rows ++ [row]) keep =
      scoredBy rows keep + if keep row then row.scoredAmount else 0 := by
  unfold scoredBy
  rw [List.filter_append, List.map_append, List.sum_append, List.filter_singleton]
  cases keep row with
  | true => exact congrArg _ (List.sum_singleton ..)
  | false => rfl

/-- The leg's three writes together. -/
def record (board : PkBoard) (row : VideoRoomPkContribution) : PkBoard :=
  { board with
    teams := KeyedRows.update VideoRoomPkTeam.id row.teamId (addTeamScore row.scoredAmount)
      board.teams
    participants :=
      KeyedRows.update VideoRoomPkParticipant.id row.participantId
        (addParticipantScore row.scoredAmount) board.participants
    contributions := board.contributions ++ [row] }

theorem keepsTeamId (delta : Int) :
    KeyedRows.KeepsKey VideoRoomPkTeam.id (addTeamScore delta) := fun _ => rfl

theorem keepsParticipantId (delta : Int) :
    KeyedRows.KeepsKey VideoRoomPkParticipant.id (addParticipantScore delta) := fun _ => rfl

theorem teamIds_record :
    (board.record row).teams.map VideoRoomPkTeam.id = board.teams.map VideoRoomPkTeam.id :=
  KeyedRows.keys_update (keepsTeamId _)

theorem participantIds_record :
    (board.record row).participants.map VideoRoomPkParticipant.id =
      board.participants.map VideoRoomPkParticipant.id :=
  KeyedRows.keys_update (keepsParticipantId _)

theorem Placed.record {other : VideoRoomPkContribution} (placed : board.Placed other) :
    (board.record row).Placed other where
  team := by
    rw [teamIds_record]
    exact placed.team
  participant := by
    rw [participantIds_record]
    exact placed.participant

/-- A leg that is written as a whole keeps every sum. -/
theorem balanced_record (balanced : board.Balanced) (placed : board.Placed row) :
    (board.record row).Balanced where
  teamIds := by
    rw [teamIds_record]
    exact balanced.teamIds
  participantIds := by
    rw [participantIds_record]
    exact balanced.participantIds
  placed := by
    intro participant member
    rw [teamIds_record]
    obtain ⟨before, inside, rfl⟩ := KeyedRows.mem_update member
    have sameTeam : (if before.id = row.participantId then
        addParticipantScore row.scoredAmount before else before).teamId = before.teamId := by
      split
      · rfl
      · rfl
    rw [sameTeam]
    exact balanced.placed before inside
  rows := by
    intro other member
    rcases List.mem_append.mp member with old | isNew
    · exact (balanced.rows other old).record
    · obtain rfl := List.mem_singleton.mp isNew
      exact placed.record
  teams := by
    intro team member
    obtain ⟨before, inside, rfl⟩ := KeyedRows.mem_update member
    have sum := balanced.teams before inside
    unfold PkBoard.record
    dsimp only
    rw [scoredBy_concat]
    by_cases same : before.id = row.teamId
    · rw [if_pos same]
      have matched : decide (row.teamId = before.id) = true := decide_eq_true same.symm
      unfold addTeamScore
      dsimp only
      rw [matched, if_pos rfl, sum]
    · rw [if_neg same]
      have unmatched : decide (row.teamId = before.id) = false :=
        decide_eq_false fun isSame => same isSame.symm
      rw [unmatched, if_neg Bool.false_ne_true, Int.add_zero]
      exact sum
  participants := by
    intro participant member
    obtain ⟨before, inside, rfl⟩ := KeyedRows.mem_update member
    have sum := balanced.participants before inside
    unfold PkBoard.record
    dsimp only
    rw [scoredBy_concat]
    by_cases same : before.id = row.participantId
    · rw [if_pos same]
      have matched : decide (row.participantId = before.id) = true := decide_eq_true same.symm
      unfold addParticipantScore
      dsimp only
      rw [matched, if_pos rfl, sum]
    · rw [if_neg same]
      have unmatched : decide (row.participantId = before.id) = false :=
        decide_eq_false fun isSame => same isSame.symm
      rw [unmatched, if_neg Bool.false_ne_true, Int.add_zero]
      exact sum

def recordAll (board : PkBoard) (rows : List VideoRoomPkContribution) : PkBoard :=
  rows.foldl record board

theorem recordAll_spec {rows : List VideoRoomPkContribution} (balanced : board.Balanced)
    (placed : ∀ row ∈ rows, board.Placed row) :
    (board.recordAll rows).Balanced ∧
      (board.recordAll rows).contributions = board.contributions ++ rows ∧
      (board.recordAll rows).status = board.status ∧
      ∀ row, board.Placed row → (board.recordAll rows).Placed row := by
  induction rows generalizing board with
  | nil => exact ⟨balanced, (List.append_nil _).symm, rfl, fun _ => id⟩
  | cons row rest ih =>
      have first := placed row List.mem_cons_self
      have later : ∀ other ∈ rest, (board.record row).Placed other := fun other member =>
        (placed other (List.mem_cons_of_mem row member)).record
      obtain ⟨balancedNow, rows, status, stays⟩ := ih (balanced_record balanced first) later
      refine ⟨balancedNow, rows.trans (List.append_assoc _ _ _), status, fun other isPlaced => ?_⟩
      exact stays other isPlaced.record

/-! ### One transaction -/

theorem casTeam_eq (placed : board.Placed row) (attempts : List Bool) :
    board.casTeam row.teamId row.scoredAmount attempts =
      if wins attempts then
        some
          { board with
            teams := KeyedRows.update VideoRoomPkTeam.id row.teamId
              (addTeamScore row.scoredAmount) board.teams }
      else none := by
  obtain ⟨team, member, same⟩ := List.mem_map.mp placed.team
  have found : (KeyedRows.find VideoRoomPkTeam.id row.teamId board.teams).isSome = true := by
    unfold KeyedRows.find
    rw [List.find?_isSome]
    exact ⟨team, member, decide_eq_true same⟩
  unfold casTeam
  rw [found, Bool.true_and]

theorem casParticipant_eq (placed : board.Placed row) (attempts : List Bool) :
    board.casParticipant row.participantId row.scoredAmount attempts =
      if wins attempts then
        some
          { board with
            participants := KeyedRows.update VideoRoomPkParticipant.id row.participantId
              (addParticipantScore row.scoredAmount) board.participants }
      else none := by
  obtain ⟨participant, member, same⟩ := List.mem_map.mp placed.participant
  have found : (KeyedRows.find VideoRoomPkParticipant.id row.participantId
      board.participants).isSome = true := by
    unfold KeyedRows.find
    rw [List.find?_isSome]
    exact ⟨participant, member, decide_eq_true same⟩
  unfold casParticipant
  rw [found, Bool.true_and]

theorem addContribution_eq :
    board.addContribution row =
      if rowKey row ∈ board.contributions.map rowKey then none
      else some { board with contributions := board.contributions ++ [row] } := by
  have there : (board.contributions.any fun other =>
      other.giftTxnId = row.giftTxnId && other.participantId = row.participantId) =
        decide (rowKey row ∈ board.contributions.map rowKey) := by
    rw [List.any_eq, decide_eq_decide]
    constructor
    · rintro ⟨other, member, same⟩
      obtain ⟨sameGift, sameParticipant⟩ := Bool.and_eq_true_iff.mp same
      exact List.mem_map.mpr
        ⟨other, member, Prod.ext (of_decide_eq_true sameGift) (of_decide_eq_true sameParticipant)⟩
    · intro inside
      obtain ⟨other, member, same⟩ := List.mem_map.mp inside
      obtain ⟨sameGift, sameParticipant⟩ := Prod.mk.inj same
      exact ⟨other, member,
        by rw [decide_eq_true sameGift, decide_eq_true sameParticipant]; rfl⟩
  unfold addContribution
  rw [there]
  by_cases known : rowKey row ∈ board.contributions.map rowKey
  · rw [if_pos known, decide_eq_true known, if_pos rfl]
  · rw [if_neg known, decide_eq_false known, if_neg Bool.false_ne_true]

structure Leg.Recorded (leg : Leg) : Prop where
  team : wins leg.teamAttempts = true
  participant : wins leg.participantAttempts = true
  nothing : leg.throwsBefore = none

theorem recorded_of_records (records : leg.records = true) : Leg.Recorded leg := by
  obtain ⟨both, nothing⟩ := Bool.and_eq_true_iff.mp records
  obtain ⟨team, participant⟩ := Bool.and_eq_true_iff.mp both
  exact ⟨team, participant, of_decide_eq_true nothing⟩

theorem placed_teamed (placed : board.Placed row) :
    Placed
      { board with
        teams := KeyedRows.update VideoRoomPkTeam.id row.teamId (addTeamScore row.scoredAmount)
          board.teams } row where
  team := by
    dsimp only
    rw [KeyedRows.keys_update (keepsTeamId _)]
    exact placed.team
  participant := placed.participant

section Recorded

variable (placed : board.Placed row) (fresh : rowKey row ∉ board.contributions.map rowKey)
  (recorded : Leg.Recorded leg)

include placed fresh recorded

theorem applyLegs_cons :
    applyLegs ((row, leg) :: legs) board = applyLegs legs (board.record row) := by
  conv_lhs => unfold applyLegs
  rw [recorded.nothing, casTeam_eq placed, if_pos recorded.team]
  dsimp only
  rw [casParticipant_eq (placed_teamed placed), if_pos recorded.participant, addContribution_eq]
  dsimp only [Option.getD_some]
  rw [if_neg fresh]
  rfl

theorem reverseLegs_cons :
    reverseLegs ((row, leg) :: legs) board = reverseLegs legs (board.record row) := by
  conv_lhs => unfold reverseLegs
  rw [recorded.nothing, casTeam_eq placed, if_pos recorded.team]
  dsimp only
  rw [casParticipant_eq (placed_teamed placed), if_pos recorded.participant]
  dsimp only
  rw [addContribution_eq, if_neg fresh]
  rfl

end Recorded

/-- Rows that can all be written, each for the first time. -/
structure Writable (board : PkBoard) (rows : List VideoRoomPkContribution) : Prop where
  placed : ∀ row ∈ rows, board.Placed row
  fresh : ∀ row ∈ rows, rowKey row ∉ board.contributions.map rowKey
  distinct : (rows.map rowKey).Nodup

theorem Writable.tail {rest : List VideoRoomPkContribution} (writable : board.Writable (row :: rest)) :
    (board.record row).Writable rest where
  placed := fun other member => (writable.placed other (List.mem_cons_of_mem row member)).record
  fresh := by
    intro other member inside
    unfold record at inside
    dsimp only at inside
    rw [List.map_append] at inside
    rcases List.mem_append.mp inside with old | isRow
    · exact writable.fresh other (List.mem_cons_of_mem row member) old
    · have same : rowKey other = rowKey row := List.mem_singleton.mp isRow
      have apart := (List.nodup_cons.mp writable.distinct).1
      exact apart (same ▸ List.mem_map_of_mem member)
  distinct := (List.nodup_cons.mp writable.distinct).2

theorem applyLegs_records (writable : board.Writable (legs.map Prod.fst))
    (all : (legs.map Prod.snd).all Leg.records = true) :
    applyLegs legs board = .kept (board.recordAll (legs.map Prod.fst)) := by
  induction legs generalizing board with
  | nil => rfl
  | cons pair rest ih =>
      obtain ⟨row, leg⟩ := pair
      obtain ⟨first, others⟩ := Bool.and_eq_true_iff.mp all
      have member : row ∈ row :: rest.map Prod.fst := List.mem_cons_self
      rw [applyLegs_cons (writable.placed row member) (writable.fresh row member)
        (recorded_of_records first)]
      exact ih writable.tail others

theorem reverseLegs_records (writable : board.Writable (legs.map Prod.fst))
    (all : (legs.map Prod.snd).all Leg.records = true) :
    reverseLegs legs board = .kept (board.recordAll (legs.map Prod.fst)) := by
  induction legs generalizing board with
  | nil => rfl
  | cons pair rest ih =>
      obtain ⟨row, leg⟩ := pair
      obtain ⟨first, others⟩ := Bool.and_eq_true_iff.mp all
      have member : row ∈ row :: rest.map Prod.fst := List.mem_cons_self
      rw [reverseLegs_cons (writable.placed row member) (writable.fresh row member)
        (recorded_of_records first)]
      exact ih writable.tail others

theorem applyLegs_untouched (placed : ∀ row ∈ legs.map Prod.fst, board.Placed row)
    (none : untouched (legs.map Prod.snd) = true) : applyLegs legs board = .kept board := by
  induction legs with
  | nil => rfl
  | cons pair rest ih =>
      obtain ⟨row, leg⟩ := pair
      unfold applyLegs
      split
      · rfl
      · rename_i goesOn
        have later := (Bool.or_eq_true_iff.mp none).resolve_left fun thrown =>
          goesOn (of_decide_eq_true thrown)
        obtain ⟨lost, others⟩ := Bool.and_eq_true_iff.mp later
        have notWon : ¬wins leg.teamAttempts = true := by
          rw [Bool.not_eq_true'] at lost
          rw [lost]
          exact Bool.false_ne_true
        rw [casTeam_eq (placed row List.mem_cons_self), if_neg notWon]
        exact ih (fun other member => placed other (List.mem_cons_of_mem row member)) others

/-- A refund that meets a lost participant update leaves nothing, whatever its rows are. -/
theorem reverseLegs_rollsBack (placed : ∀ row ∈ legs.map Prod.fst, board.Placed row)
    (rolls : rollsBack (legs.map Prod.snd) = true) : reverseLegs legs board = .rolledBack := by
  induction legs generalizing board with
  | nil => cases rolls
  | cons pair rest ih =>
      obtain ⟨row, leg⟩ := pair
      obtain ⟨quiet, goesOn⟩ := Bool.and_eq_true_iff.mp rolls
      have isPlaced := placed row List.mem_cons_self
      have restPlaced : ∀ other ∈ rest.map Prod.fst, board.Placed other := fun other member =>
        placed other (List.mem_cons_of_mem row member)
      unfold reverseLegs
      rw [if_neg (of_decide_eq_true quiet), casTeam_eq isPlaced]
      by_cases won : wins leg.teamAttempts = true
      · rw [if_pos won] at goesOn ⊢
        obtain ⟨quietAgain, ends⟩ := Bool.and_eq_true_iff.mp goesOn
        dsimp only
        rw [if_neg (of_decide_eq_true quietAgain), casParticipant_eq (placed_teamed isPlaced)]
        by_cases joins : wins leg.participantAttempts = true
        · rw [if_pos joins]
          dsimp only
          rw [joins, Bool.not_true, Bool.false_or] at ends
          obtain ⟨nothing, later⟩ := Bool.and_eq_true_iff.mp ends
          rw [of_decide_eq_true nothing, if_neg (by decide), addContribution_eq]
          by_cases known : rowKey row ∈ board.contributions.map rowKey
          · rw [if_pos known]
          · rw [if_neg known]
            exact ih (fun other member => (restPlaced other member).record) later
        · rw [if_neg joins]
      · rw [if_neg won] at goesOn ⊢
        exact ih restPlaced goesOn

/-- Undoing again what is undone leaves the board or is rolled back. -/
theorem reverseLegs_again (placed : ∀ row ∈ legs.map Prod.fst, board.Placed row)
    (known : ∀ row ∈ legs.map Prod.fst, rowKey row ∈ board.contributions.map rowKey)
    (whole : unbroken (legs.map Prod.snd) = true) :
    reverseLegs legs board = .kept board ∨ reverseLegs legs board = .rolledBack := by
  induction legs with
  | nil => exact .inl rfl
  | cons pair rest ih =>
      obtain ⟨row, leg⟩ := pair
      have isPlaced := placed row List.mem_cons_self
      unfold reverseLegs
      by_cases thrown : leg.throwsBefore = some .team
      · rw [if_pos thrown]
        exact .inl rfl
      · rw [if_neg thrown, casTeam_eq isPlaced]
        have goesOn := (Bool.or_eq_true_iff.mp whole).resolve_left fun isThrown =>
          thrown (of_decide_eq_true isThrown)
        by_cases won : wins leg.teamAttempts = true
        · rw [if_pos won] at goesOn ⊢
          obtain ⟨quiet, ends⟩ := Bool.and_eq_true_iff.mp goesOn
          dsimp only
          rw [if_neg (of_decide_eq_true quiet), casParticipant_eq (placed_teamed isPlaced)]
          by_cases joins : wins leg.participantAttempts = true
          · rw [if_pos joins]
            dsimp only
            rw [joins, Bool.not_true, Bool.false_or] at ends
            rw [of_decide_eq_true ends, if_neg (by decide), addContribution_eq]
            dsimp only
            rw [if_pos (known row List.mem_cons_self)]
            exact .inr rfl
          · rw [if_neg joins]
            exact .inr rfl
        · rw [if_neg won] at goesOn ⊢
          exact ih (fun other member => placed other (List.mem_cons_of_mem row member))
            (fun other member => known other (List.mem_cons_of_mem row member)) goesOn

theorem unbroken_of_records {all : List Leg} (records : all.all Leg.records = true) :
    unbroken all = true := by
  cases all with
  | nil => rfl
  | cons leg rest =>
      have recorded := recorded_of_records (Bool.and_eq_true_iff.mp records).1
      unfold unbroken
      rw [if_pos recorded.team, recorded.nothing, recorded.participant]
      rfl

end PkBoard

/-! ### Histories -/

/-- Rows under one key are found by it, and by no other. -/
theorem filter_of_key {rows : List VideoRoomPkContribution} {key wanted : GiftKey}
    (all : ∀ row ∈ rows, row.giftTxnId = key) :
    rows.filter (fun row => row.giftTxnId = wanted) = if key = wanted then rows else [] := by
  by_cases same : key = wanted
  · rw [if_pos same, List.filter_eq_self]
    intro row member
    exact decide_eq_true ((all row member).trans same)
  · rw [if_neg same, List.filter_eq_nil_iff]
    intro row member isWanted
    exact same ((all row member).symm.trans (of_decide_eq_true isWanted))

theorem PkBoard.found_recordAll {board : PkBoard} {rows : List VideoRoomPkContribution}
    {written : GiftKey} (balanced : board.Balanced) (placed : ∀ row ∈ rows, board.Placed row)
    (all : ∀ row ∈ rows, row.giftTxnId = written) (key : GiftKey) :
    (board.recordAll rows).findContributions key =
      board.findContributions key ++ if written = key then rows else [] := by
  unfold findContributions
  rw [(recordAll_spec balanced placed).2.1, List.filter_append, filter_of_key all]

namespace PkHistory

open PkBoard

structure Sound (history : PkHistory) : Prop where
  balanced : history.board.Balanced
  unique : (history.board.contributions.map rowKey).Nodup
  keyed : ∀ row ∈ history.board.contributions,
    ∃ giftTxnId, history.sent giftTxnId ∧
      (row.giftTxnId = .gift giftTxnId ∨ row.giftTxnId = .reversal giftTxnId)
  whole : ∀ gift ∈ history.gifts,
    history.board.findContributions (.gift gift.giftTxnId) = [] ∨
      (history.board.findContributions (.gift gift.giftTxnId)).map
        VideoRoomPkContribution.participantId = gift.legs
  mirrored : ∀ giftTxnId ∈ history.reversed,
    history.board.findContributions (.reversal giftTxnId) =
      (history.board.findContributions (.gift giftTxnId)).map (reversalRow giftTxnId)
  unreversed : ∀ giftTxnId, giftTxnId ∉ history.reversed →
    history.board.findContributions (.reversal giftTxnId) = []
  refunded : ∀ giftTxnId ∈ history.reversed, history.sent giftTxnId

variable {history : PkHistory} {giftTxnId : String}

theorem scoredBy_or {one two keep : VideoRoomPkContribution → Bool}
    (rows : List VideoRoomPkContribution) (apart : ∀ row, one row = true → two row = false) :
    scoredBy rows (fun row => (one row || two row) && keep row) =
      scoredBy (rows.filter one) keep + scoredBy (rows.filter two) keep := by
  induction rows with
  | nil => rfl
  | cons row rest ih =>
      have cons : ∀ (keep : VideoRoomPkContribution → Bool) (row : VideoRoomPkContribution)
          (rest : List VideoRoomPkContribution), scoredBy (row :: rest) keep =
            (if keep row then row.scoredAmount else 0) + scoredBy rest keep := by
        intro keep row rest
        unfold scoredBy
        rw [List.filter_cons]
        split
        · rw [List.map_cons, List.sum_cons]
        · exact (Int.zero_add _).symm
      rw [cons, ih, List.filter_cons, List.filter_cons]
      cases isOne : one row with
      | true =>
          rw [apart row isOne, if_pos rfl, if_neg Bool.false_ne_true, cons, Bool.true_or,
            Bool.true_and, Int.add_assoc]
      | false =>
          rw [if_neg Bool.false_ne_true, Bool.false_or]
          cases two row with
          | true =>
              rw [if_pos rfl, cons, Bool.true_and]
              omega
          | false =>
              rw [if_neg Bool.false_ne_true, Bool.false_and, if_neg Bool.false_ne_true,
                Int.zero_add]

/-- A gift and what undoes it add up to nothing. -/
theorem Sound.net_zero (sound : history.Sound) (isReversed : giftTxnId ∈ history.reversed)
    {keep : VideoRoomPkContribution → Bool}
    (stays : ∀ row, keep (reversalRow giftTxnId row) = keep row) :
    scoredBy history.board.contributions (fun row => isOf giftTxnId row && keep row) = 0 := by
  have split := @scoredBy_or (fun row => row.giftTxnId = .gift giftTxnId)
    (fun row => row.giftTxnId = .reversal giftTxnId) keep history.board.contributions (by
      intro row isGift
      rw [of_decide_eq_true isGift]
      rfl)
  have mirrored := sound.mirrored giftTxnId isReversed
  unfold findContributions at mirrored
  have negated : scoredBy ((history.board.contributions.filter fun row =>
        row.giftTxnId = .gift giftTxnId).map (reversalRow giftTxnId)) keep =
      -scoredBy (history.board.contributions.filter fun row => row.giftTxnId = .gift giftTxnId)
        keep := by
    have same : keep ∘ reversalRow giftTxnId = keep := funext stays
    have amounts : VideoRoomPkContribution.scoredAmount ∘ reversalRow giftTxnId =
        (fun amount => -amount) ∘ VideoRoomPkContribution.scoredAmount := rfl
    unfold scoredBy
    rw [List.filter_map, same, List.map_map, amounts, ← List.map_map, ← List.sum_neg]
  unfold isOf
  rw [split, mirrored, negated]
  exact Int.add_right_neg _

theorem Sound.ledger (sound : history.Sound) : history.Ledger where
  teams := sound.balanced.teams
  participants := sound.balanced.participants
  whole := sound.whole
  undone := fun _ isReversed =>
    ⟨fun _ => sound.net_zero isReversed fun _ => rfl,
      fun _ => sound.net_zero isReversed fun _ => rfl⟩

theorem Sound.unsent (sound : history.Sound) (unsent : ¬history.sent giftTxnId) :
    history.board.findContributions (.gift giftTxnId) = [] := by
  apply List.filter_eq_nil_iff.mpr
  intro row member isGift
  obtain ⟨other, isSent, isGiftOf | isReversalOf⟩ := sound.keyed row member
  · have same := isGiftOf.symm.trans (of_decide_eq_true isGift)
    exact unsent (GiftKey.gift.inj same ▸ isSent)
  · exact nomatch isReversalOf.symm.trans (of_decide_eq_true isGift)

theorem sound_fresh {board : PkBoard} (fresh : board.Fresh) : Sound { board := board } where
  balanced := fresh.balanced
  unique := by
    dsimp only
    rw [fresh.contributions]
    exact List.nodup_nil
  keyed := by
    dsimp only
    rw [fresh.contributions]
    exact nofun
  whole := nofun
  mirrored := nofun
  unreversed := by
    intro giftTxnId _
    unfold findContributions
    dsimp only
    rw [fresh.contributions]
    rfl
  refunded := nofun

/-- A gift whose rows are all written. -/
theorem Sound.scored (sound : history.Sound) {input : PkScoringInput}
    {rows : List VideoRoomPkContribution} (unsent : ¬history.sent input.giftTxnId)
    (writable : history.board.Writable rows)
    (all : ∀ row ∈ rows, row.giftTxnId = .gift input.giftTxnId)
    (legs : rows = [] ∨ rows.map VideoRoomPkContribution.participantId =
      (history.board.receivers input).map VideoRoomPkParticipant.id) :
    Sound
      { history with
        board := history.board.recordAll rows
        gifts := history.gifts ++
          [{ giftTxnId := input.giftTxnId
             legs := (history.board.receivers input).map VideoRoomPkParticipant.id }] } := by
  obtain ⟨balanced, contributions, -, -⟩ := recordAll_spec sound.balanced writable.placed
  have found := found_recordAll sound.balanced writable.placed all
  have stays : ∀ giftTxnId, history.sent giftTxnId → GiftKey.gift input.giftTxnId ≠ .gift giftTxnId := by
    rintro giftTxnId isSent same
    exact unsent (GiftKey.gift.inj same ▸ isSent)
  refine ⟨balanced, ?_, ?_, ?_, ?_, ?_, ?_⟩
  · dsimp only
    rw [contributions, List.map_append]
    apply List.nodup_append.mpr
    refine ⟨sound.unique, writable.distinct, ?_⟩
    rintro key old _ isNew rfl
    obtain ⟨row, member, rfl⟩ := List.mem_map.mp isNew
    exact writable.fresh row member old
  · intro row member
    dsimp only at member
    rw [contributions] at member
    unfold sent
    dsimp only
    rw [List.map_append]
    rcases List.mem_append.mp member with old | isNew
    · obtain ⟨giftTxnId, isSent, key⟩ := sound.keyed row old
      exact ⟨giftTxnId, List.mem_append_left _ isSent, key⟩
    · exact ⟨input.giftTxnId, List.mem_append_right _ List.mem_cons_self, .inl (all row isNew)⟩
  · intro gift member
    dsimp only
    rw [found]
    rcases List.mem_append.mp member with old | isNew
    · rw [if_neg (stays _ (List.mem_map_of_mem old)), List.append_nil]
      exact sound.whole gift old
    · obtain rfl := List.mem_singleton.mp isNew
      rw [if_pos rfl, sound.unsent unsent, List.nil_append]
      exact legs
  · intro giftTxnId isReversed
    dsimp only
    rw [found, found, if_neg (stays _ (sound.refunded giftTxnId isReversed)), if_neg nofun,
      List.append_nil, List.append_nil]
    exact sound.mirrored giftTxnId isReversed
  · intro giftTxnId notReversed
    dsimp only
    rw [found, if_neg nofun, List.append_nil]
    exact sound.unreversed giftTxnId notReversed
  · intro giftTxnId isReversed
    unfold sent
    dsimp only
    rw [List.map_append]
    exact List.mem_append_left _ (sound.refunded giftTxnId isReversed)

/-- A first refund whose rows are all written. -/
theorem Sound.undone (sound : history.Sound) (isSent : history.sent giftTxnId)
    (notReversed : giftTxnId ∉ history.reversed)
    (writable : history.board.Writable
      ((history.board.findContributions (.gift giftTxnId)).map (reversalRow giftTxnId))) :
    Sound
      { history with
        board := history.board.recordAll
          ((history.board.findContributions (.gift giftTxnId)).map (reversalRow giftTxnId))
        reversed := history.reversed ++ [giftTxnId] } := by
  obtain ⟨balanced, contributions, -, -⟩ := recordAll_spec sound.balanced writable.placed
  have all : ∀ row ∈ (history.board.findContributions (.gift giftTxnId)).map
      (reversalRow giftTxnId), row.giftTxnId = .reversal giftTxnId := by
    intro row member
    obtain ⟨original, -, rfl⟩ := List.mem_map.mp member
    rfl
  have found := found_recordAll sound.balanced writable.placed all
  have apart : ∀ other, GiftKey.reversal giftTxnId ≠ .gift other := nofun
  refine ⟨balanced, ?_, ?_, ?_, ?_, ?_, ?_⟩
  · dsimp only
    rw [contributions, List.map_append]
    apply List.nodup_append.mpr
    refine ⟨sound.unique, writable.distinct, ?_⟩
    rintro key old _ isNew rfl
    obtain ⟨row, member, rfl⟩ := List.mem_map.mp isNew
    exact writable.fresh row member old
  · intro row member
    dsimp only at member
    rw [contributions] at member
    rcases List.mem_append.mp member with old | isNew
    · exact sound.keyed row old
    · exact ⟨giftTxnId, isSent, .inr (all row isNew)⟩
  · intro gift member
    dsimp only
    rw [found, if_neg (apart _), List.append_nil]
    exact sound.whole gift member
  · intro other member
    dsimp only
    rw [found, found, if_neg (apart _), List.append_nil]
    by_cases same : other = giftTxnId
    · subst same
      rw [if_pos rfl, sound.unreversed other notReversed, List.nil_append]
    · rw [if_neg fun isSame => same (GiftKey.reversal.inj isSame).symm, List.append_nil]
      apply sound.mirrored
      exact (List.mem_append.mp member).resolve_right fun isNew =>
        same (List.mem_singleton.mp isNew)
  · intro other absent
    dsimp only
    have notSame : other ≠ giftTxnId := by
      rintro rfl
      exact absent (List.mem_append_right _ List.mem_cons_self)
    rw [found, if_neg fun isSame => notSame (GiftKey.reversal.inj isSame).symm, List.append_nil]
    exact sound.unreversed other fun before => absent (List.mem_append_left _ before)
  · intro other member
    rcases List.mem_append.mp member with before | isNew
    · exact sound.refunded other before
    · exact List.mem_singleton.mp isNew ▸ isSent

theorem rows_of_legs {board : PkBoard} {input : PkScoringInput} {meets : ParticipantId → Leg} :
    (board.legs input meets).map Prod.fst = [] ∨
      (board.legs input meets).map Prod.fst =
        (board.receivers input).map fun participant =>
          legRow input (perReceiver input) participant (meets participant.id) := by
  unfold PkBoard.legs
  split
  · exact .inl rfl
  · split
    · exact .inl rfl
    · split
      · exact .inl rfl
      · right
        rw [List.map_map]
        rfl

/-- The rows of a gift that was not sent before can all be written. -/
theorem Sound.writable_legs (sound : history.Sound) {input : PkScoringInput}
    {meets : ParticipantId → Leg} (unsent : ¬history.sent input.giftTxnId) :
    history.board.Writable ((history.board.legs input meets).map Prod.fst) ∧
      (∀ row ∈ (history.board.legs input meets).map Prod.fst,
        row.giftTxnId = .gift input.giftTxnId) ∧
      ((history.board.legs input meets).map Prod.fst = [] ∨
        ((history.board.legs input meets).map Prod.fst).map
          VideoRoomPkContribution.participantId =
            (history.board.receivers input).map VideoRoomPkParticipant.id) := by
  rcases @rows_of_legs history.board input meets with none | rows
  · rw [none]
    exact ⟨⟨nofun, nofun, List.nodup_nil⟩, nofun, .inl rfl⟩
  · rw [rows]
    have ids : ((history.board.receivers input).map fun participant =>
        legRow input (perReceiver input) participant (meets participant.id)).map
          VideoRoomPkContribution.participantId =
        (history.board.receivers input).map VideoRoomPkParticipant.id := by
      rw [List.map_map]
      rfl
    have distinctIds : ((history.board.receivers input).map VideoRoomPkParticipant.id).Nodup :=
      sound.balanced.participantIds.sublist ((List.filter_sublist).map _)
    refine ⟨⟨?_, ?_, ?_⟩, ?_, .inr ids⟩
    · intro row member
      obtain ⟨participant, inside, rfl⟩ := List.mem_map.mp member
      have isParticipant := List.mem_of_mem_filter inside
      exact ⟨sound.balanced.placed participant isParticipant, List.mem_map_of_mem isParticipant⟩
    · intro row member known
      obtain ⟨participant, -, rfl⟩ := List.mem_map.mp member
      obtain ⟨other, isRow, same⟩ := List.mem_map.mp known
      have none := sound.unsent unsent
      have isGift : other.giftTxnId = .gift input.giftTxnId := (Prod.mk.inj same).1
      have found : other ∈ history.board.findContributions (.gift input.giftTxnId) :=
        List.mem_filter.mpr ⟨isRow, decide_eq_true isGift⟩
      rw [none] at found
      exact List.not_mem_nil found
    · apply List.Nodup.of_map Prod.snd
      rw [List.map_map]
      have second : (Prod.snd ∘ rowKey) = VideoRoomPkContribution.participantId := rfl
      rw [second, ids]
      exact distinctIds
    · intro row member
      obtain ⟨participant, -, rfl⟩ := List.mem_map.mp member
      rfl

theorem sound_gift (sound : history.Sound) {input : PkScoringInput} {meets : ParticipantId → Leg}
    {commits : Bool} (kept : history.Kept (.gift input meets commits)) :
    (history.gift input meets commits).Sound := by
  unfold gift
  split
  · exact sound
  · rename_i goesOn
    obtain ⟨unsent, committing⟩ := not_or.mp goesOn
    have commits : commits = true := eq_true_of_ne_false committing
    obtain ⟨writable, all, legs⟩ := sound.writable_legs unsent
    unfold PkBoard.apply
    rcases kept commits unsent with records | none
    · rw [applyLegs_records writable records]
      exact sound.scored unsent writable all legs
    · have nothing : history.board.Writable [] := ⟨nofun, nofun, List.nodup_nil⟩
      have noKeys : ∀ row ∈ ([] : List VideoRoomPkContribution),
          row.giftTxnId = .gift input.giftTxnId := nofun
      rw [applyLegs_untouched writable.placed none]
      exact sound.scored unsent nothing noKeys (.inl rfl)

theorem rows_of_reversal {board : PkBoard} {meets : ParticipantId → Leg}
    (current : isPkTerminal board.status = false) :
    (board.reversalLegs giftTxnId meets).map Prod.fst =
      (board.findContributions (.gift giftTxnId)).map (reversalRow giftTxnId) := by
  unfold reversalLegs
  rw [current, if_neg Bool.false_ne_true, List.map_map]
  rfl

theorem sound_reverse (sound : history.Sound) {meets : ParticipantId → Leg} {commits : Bool}
    (kept : history.Kept (.reverse giftTxnId meets commits)) :
    (history.reverse giftTxnId meets commits).Sound := by
  unfold PkHistory.reverse
  split
  · exact sound
  · rename_i goesOn
    obtain ⟨sentNot, rest⟩ := not_or.mp goesOn
    obtain ⟨going, committing⟩ := not_or.mp rest
    have isSent : history.sent giftTxnId := Decidable.not_not.mp sentNot
    have current : isPkTerminal history.board.status = false := eq_false_of_ne_true going
    have rows := @rows_of_reversal giftTxnId history.board meets current
    have placed : ∀ row ∈ (history.board.reversalLegs giftTxnId meets).map Prod.fst,
        history.board.Placed row := by
      rw [rows]
      intro row member
      obtain ⟨original, inside, rfl⟩ := List.mem_map.mp member
      have isPlaced := sound.balanced.rows original (List.mem_of_mem_filter inside)
      exact ⟨isPlaced.team, isPlaced.participant⟩
    have again : giftTxnId ∈ history.reversed →
        unbroken ((history.board.reversalLegs giftTxnId meets).map Prod.snd) = true →
          history.board.reverse giftTxnId meets = .kept history.board ∨
            history.board.reverse giftTxnId meets = .rolledBack := by
      intro isReversed whole
      refine reverseLegs_again placed ?_ whole
      rw [rows, ← sound.mirrored giftTxnId isReversed]
      intro row member
      exact List.mem_map_of_mem (List.mem_of_mem_filter member)
    have repeated : giftTxnId ∈ history.reversed →
        Sound { history with reversed := history.reversed ++ [giftTxnId] } := by
      intro isReversed
      have same : ∀ other, other ∈ history.reversed ++ [giftTxnId] ↔ other ∈ history.reversed := by
        intro other
        rw [List.mem_append, List.mem_singleton]
        exact or_iff_left_of_imp fun isSame => isSame ▸ isReversed
      exact
        { balanced := sound.balanced
          unique := sound.unique
          keyed := sound.keyed
          whole := sound.whole
          mirrored := fun other member => sound.mirrored other ((same other).mp member)
          unreversed := fun other absent => sound.unreversed other (mt (same other).mpr absent)
          refunded := fun other member => sound.refunded other ((same other).mp member) }
    by_cases known : giftTxnId ∈ history.reversed ∧
        unbroken ((history.board.reversalLegs giftTxnId meets).map Prod.snd) = true
    · rcases again known.1 known.2 with stays | rolled
      · rw [stays]
        exact repeated known.1
      · rw [rolled]
        exact sound
    · rcases kept (eq_true_of_ne_false committing) isSent current with records | rolls | both
      · have isNew : giftTxnId ∉ history.reversed :=
          fun isReversed => known ⟨isReversed, unbroken_of_records records⟩
        have writable : history.board.Writable
            ((history.board.reversalLegs giftTxnId meets).map Prod.fst) := by
          refine ⟨placed, ?_, ?_⟩
          · rw [rows]
            intro row member found
            obtain ⟨original, -, rfl⟩ := List.mem_map.mp member
            obtain ⟨other, isRow, same⟩ := List.mem_map.mp found
            have isReversal : other.giftTxnId = .reversal giftTxnId := (Prod.mk.inj same).1
            have inside : other ∈ history.board.findContributions (.reversal giftTxnId) :=
              List.mem_filter.mpr ⟨isRow, decide_eq_true isReversal⟩
            rw [sound.unreversed giftTxnId isNew] at inside
            exact List.not_mem_nil inside
          · rw [rows]
            have unique : ((history.board.findContributions (.gift giftTxnId)).map rowKey).Nodup :=
              sound.unique.sublist ((List.filter_sublist).map _)
            unfold List.Nodup at unique ⊢
            rw [List.map_map, List.pairwise_map]
            rw [List.pairwise_map] at unique
            apply unique.imp_of_mem
            intro one two isOne isTwo apart same
            have keyOne := of_decide_eq_true (List.mem_filter.mp isOne).2
            have keyTwo := of_decide_eq_true (List.mem_filter.mp isTwo).2
            exact apart (Prod.ext (keyOne.trans keyTwo.symm) (Prod.mk.inj same).2)
        unfold PkBoard.reverse
        rw [reverseLegs_records writable records, rows]
        exact sound.undone isSent isNew (rows ▸ writable)
      · unfold PkBoard.reverse
        rw [reverseLegs_rollsBack placed rolls]
        exact sound
      · exact absurd both known

theorem sound_step (sound : history.Sound) {call : PkCall} (kept : history.Kept call) :
    (history.step call).Sound := by
  cases call with
  | gift input meets commits => exact sound_gift sound kept
  | reverse giftTxnId meets commits => exact sound_reverse sound kept
  | move status =>
      have balanced := sound.balanced
      exact
        { balanced :=
            { teamIds := balanced.teamIds
              participantIds := balanced.participantIds
              placed := balanced.placed
              rows := fun row member =>
                ⟨(balanced.rows row member).team, (balanced.rows row member).participant⟩
              teams := balanced.teams
              participants := balanced.participants }
          unique := sound.unique
          keyed := sound.keyed
          whole := sound.whole
          mirrored := sound.mirrored
          unreversed := sound.unreversed
          refunded := sound.refunded }

end PkHistory

/-- Where gifts and refunds are written as a whole, the ledger agrees with every score. -/
theorem ledger_of_kept (board : PkBoard) (fresh : board.Fresh) (calls : List PkCall)
    (kept : Each PkHistory.step PkHistory.Kept { board := board } calls) :
    Always PkHistory.step PkHistory.Ledger { board := board } calls := by
  have preserved : ∀ (history : PkHistory) (call : PkCall), history.Sound → history.Kept call →
      (history.step call).Sound := fun _ _ sound kept => PkHistory.sound_step sound kept
  exact (always_of_each preserved _ (PkHistory.sound_fresh fresh) calls kept).imp
    fun _ => PkHistory.Sound.ledger

/-- Anna and Emma against Bert. -/
def threeLive : PkBoard where
  status := .live
  teams :=
    [{ id := "team-red"
       side := .red },
     { id := "team-blue"
       side := .blue }]
  participants :=
    [{ id := "participant-anna"
       teamId := "team-red"
       userId := "anna"
       side := .red },
     { id := "participant-emma"
       teamId := "team-red"
       userId := "emma"
       side := .red },
     { id := "participant-bert"
       teamId := "team-blue"
       userId := "bert"
       side := .blue }]

theorem fresh_threeLive : threeLive.Fresh where
  teamIds := by decide
  participantIds := by decide
  placed := by decide
  teams := by decide
  participants := by decide
  contributions := rfl

def toEveryone : PkScoringInput where
  senderId := "carl"
  receiverIds := ["anna", "bert", "emma"]
  totalCoinValue := 300
  giftTxnId := "gift-1"

/-- Two attempts are lost on the way, and the refund is asked for twice. -/
def refundedTwice : List PkCall :=
  [.gift toEveryone (fun _ => { teamAttempts := [false, false, true] }) true,
    .reverse "gift-1" (fun _ => {}) true, .reverse "gift-1" (fun _ => {}) true]

theorem ledger_refundedTwice :
    Always PkHistory.step PkHistory.Ledger { board := threeLive } refundedTwice ∧
      (run PkHistory.step { board := threeLive } refundedTwice).reversed = ["gift-1"] := by
  refine ⟨ledger_of_kept threeLive fresh_threeLive _ ⟨?_, ?_, ?_, trivial⟩, by decide +kernel⟩
  · exact fun _ _ => .inl (by decide +kernel)
  · exact fun _ _ _ => .inl (by decide +kernel)
  · exact fun _ _ _ => .inl (by decide +kernel)

/-- Anna's update is lost three times, and her score misses what her row says. -/
def lostParticipant : List PkCall :=
  [.gift { toEveryone with receiverIds := ["anna"] }
    (fun _ => { participantAttempts := [false, false, false, true] }) true]

/-- Of three legs one is lost, and of two legs the second is thrown out of. -/
def lostTeam : List PkCall :=
  [.gift toEveryone (fun id =>
    { teamAttempts := if id = "participant-emma" then [false, false, false] else [true] }) true]

def thrown : List PkCall :=
  [.gift toEveryone (fun id =>
    { throwsBefore := if id = "participant-emma" then some .team else none }) true]

/-- The refund of one leg is lost, and stays lost. -/
def halfRefunded : List PkCall :=
  [.gift toEveryone (fun _ => {}) true,
    .reverse "gift-1" (fun id =>
      { teamAttempts := if id = "participant-emma" then [false, false, false] else [true] }) true,
    .reverse "gift-1" (fun _ => {}) true]

theorem not_ledger_lost :
    ¬Always PkHistory.step PkHistory.Ledger { board := threeLive } lostParticipant ∧
      ¬Always PkHistory.step PkHistory.Ledger { board := threeLive } lostTeam ∧
      ¬Always PkHistory.step PkHistory.Ledger { board := threeLive } thrown ∧
      ¬Always PkHistory.step PkHistory.Ledger { board := threeLive } halfRefunded := by
  refine ⟨?_, ?_, ?_, ?_⟩
  · intro always
    exact absurd always.final.participants (by decide +kernel)
  · intro always
    exact absurd always.final.whole (by decide +kernel)
  · intro always
    exact absurd always.final.whole (by decide +kernel)
  · intro always
    have undone := (always.final.undone "gift-1" (by decide +kernel)).1 "team-red"
    exact absurd undone (by decide +kernel)

end Soulzaa.VideoRooms
