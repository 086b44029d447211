/-
What the scores of a ladder come to.

A gift that was completed is on its way to its ladders until it is counted.  What a reader adds
counts the gifts of the database once more, unless the ladder has none of them.
-/

import Mathlib.Algebra.Order.Group.Int
import Soulzaa.Lib.Interleaving
import Soulzaa.Lib.Runs
import Soulzaa.Rankings.Ladders

namespace Soulzaa.Rankings

open Interleaving KeyedRows Runs

variable {gifts : List Gift} {ladders : List Standing} {calls : List Call} {key : LadderKey}
  {member : Member}

/-- The coins of a gift that a ladder owes to a member. -/
def worth (key : LadderKey) (member : Member) (gift : Gift) : Nat :=
  if attributed key.kind gift = some member ∧
      dateKeyFor key.period gift.createdAt = key.dateKey then gift.totalCoinValue
  else 0

/-- The coins of the gifts of the ladder's own period. -/
def earned (gifts : List Gift) (key : LadderKey) (member : Member) : Nat :=
  (gifts.map (worth key member)).sum

/-- What the call will add to the score. -/
def Call.comes (key : LadderKey) (member : Member) : Call → Int
  | .dating gift => worth key member gift
  | .adding rest => (total Standing.name Standing.score (key, member) rest : Nat)
  | _ => 0

namespace World

/-- No score is more than the coins of the gifts of the ladder's own period. -/
def Fair (world : World) : Prop :=
  ∀ key member, scoreOf world.ladders key member ≤ earned world.gifts key member

/-- The member is not on the ladder nor on the way there, and the gifts that were summed are of
its period. -/
def Absent (world : World) (key : LadderKey) (since : Option Instant) (member : Member) : Prop :=
  scoreOf world.ladders key member = 0 ∧ (∀ call ∈ world.calls, call.comes key member = 0) ∧
    ∀ gift ∈ world.gifts, isSince since gift = true → attributed key.kind gift = some member →
      dateKeyFor key.period gift.createdAt = key.dateKey

def PermitsCall (world : World) : Call → Prop
  | .dating gift => ∀ period ∈ [RankingPeriod.alltime, .daily, .weekly, .monthly],
      dateKeyFor period world.now = dateKeyFor period gift.createdAt
  | .grouping key since start limit =>
      ∀ entry ∈ pageOf (grouped world.gifts key.kind since) start limit,
        world.Absent key since entry.member
  | .fallingBack key start limit => world.fallback key.kind start limit = []
  | _ => True

/-- Gifts are counted in the periods in which they were completed, and readers add nothing that is
there or coming, or that no gift of the period stands for. -/
def Permits (world : World) : Happening → Prop
  | .goOn position => ∀ call ∈ world.calls[position]?, world.PermitsCall call
  | _ => True

instance (world : World) (key : LadderKey) (since : Option Instant) (member : Member) :
    Decidable (world.Absent key since member) :=
  inferInstanceAs (Decidable (_ = 0 ∧ (∀ call ∈ _, _) ∧ ∀ gift ∈ _, _ = true → _ = _ → _ = _))

instance (world : World) (call : Call) : Decidable (world.PermitsCall call) :=
  match call with
  | .dating _ => inferInstanceAs (Decidable (∀ period ∈ (_ : List RankingPeriod), _ = _))
  | .grouping _ _ _ _ => inferInstanceAs (Decidable (∀ entry ∈ (_ : List Entry), _))
  | .fallingBack _ _ _ => inferInstanceAs (Decidable (_ = []))
  | .adding _ | .ranging _ _ _ _ | .falling _ _ _ | .finished => inferInstanceAs (Decidable True)

instance (world : World) (happening : Happening) : Decidable (world.Permits happening) :=
  match happening with
  | .goOn _ => inferInstanceAs (Decidable (∀ call ∈ (_ : Option Call), _))
  | .gift _ _ _ _ | .read _ _ _ _ | .turn _ | .recount _ _ _ | .expire _ =>
      inferInstanceAs (Decidable True)

/-- Nothing was given or read yet. -/
structure Unused (world : World) : Prop where
  ladders : world.ladders = []
  calls : world.calls = []

end World

/-! ### What is added -/

theorem scoreOf_incrementScore (ladders : List Standing) (added : Standing) (key : LadderKey)
    (member : Member) :
    scoreOf (incrementScore ladders added) key member =
      scoreOf ladders key member + if added.name = (key, member) then added.score else 0 := by
  have isName : ({ added with score := scoreOf ladders added.key added.member + added.score } :
      Standing).name = added.name := rfl
  unfold incrementScore
  rw [scoreOf, find_upsert, isName]
  by_cases same : added.name = (key, member)
  · obtain ⟨sameKey, sameMember⟩ := Prod.mk.inj same
    rw [if_pos same, if_pos same.symm, ← sameKey, ← sameMember]
    rfl
  · rw [if_neg same, if_neg fun isName => same isName.symm, Nat.add_zero, scoreOf]

theorem scoreOf_filter_le (ladders : List Standing) (gone key : LadderKey) (member : Member) :
    scoreOf (ladders.filter fun standing => standing.key ≠ gone) key member ≤
      scoreOf ladders key member := by
  unfold scoreOf
  by_cases same : key = gone
  · have none_left : find Standing.name (key, member)
        (ladders.filter fun standing => standing.key ≠ gone) = none := by
      refine List.find?_eq_none.mpr fun standing inside isName => ?_
      have isKey := (Prod.mk.inj (of_decide_eq_true isName)).1
      exact of_decide_eq_true (List.mem_filter.mp inside).2 (isKey.trans same)
    rw [none_left]
    exact Nat.zero_le _
  · have stays : find Standing.name (key, member)
        (ladders.filter fun standing => standing.key ≠ gone) =
          find Standing.name (key, member) ladders := by
      unfold find
      rw [List.find?_filter]
      congr 1
      funext standing
      rw [decide_eq_decide, decide_eq_true_iff, decide_eq_true_iff]
      constructor
      · exact And.right
      · intro isName
        exact ⟨fun isGone => same ((Prod.mk.inj isName).1.symm.trans isGone), isName⟩
    rw [stays]

theorem total_incrementAllPeriods (kind : Kind) (other : Member) (delta : Nat) (now : Instant)
    (key : LadderKey) (member : Member) :
    total Standing.name Standing.score (key, member) (incrementAllPeriods kind other delta now) =
      if (kind = key.kind ∧ other = member) ∧ dateKeyFor key.period now = key.dateKey then delta
      else 0 := by
  have isName : ∀ period, ((resolveRankingKey kind period now, other) = (key, member)) ↔
      period = key.period ∧ (kind = key.kind ∧ other = member) ∧
        dateKeyFor key.period now = key.dateKey := by
    intro period
    obtain ⟨wantedKind, wantedPeriod, wantedKey⟩ := key
    unfold resolveRankingKey
    rw [Prod.mk.injEq, LadderKey.mk.injEq]
    constructor
    · rintro ⟨⟨sameKind, rfl, sameKey⟩, sameMember⟩
      exact ⟨rfl, ⟨sameKind, sameMember⟩, sameKey⟩
    · rintro ⟨rfl, ⟨sameKind, sameMember⟩, sameKey⟩
      exact ⟨⟨sameKind, rfl, sameKey⟩, sameMember⟩
  unfold incrementAllPeriods
  simp only [List.map_cons, List.map_nil, total_cons, Standing.name, isName]
  cases key.period with
  | alltime => simp [total]
  | daily => simp [total]
  | weekly => simp [total]
  | monthly => simp [total]

/-- A gift adds to a ladder of the day on which it is counted what it is worth there. -/
theorem total_increments (gift : Gift) (now : Instant) (key : LadderKey) (member : Member) :
    total Standing.name Standing.score (key, member) (increments gift now) =
      if attributed key.kind gift = some member ∧ dateKeyFor key.period now = key.dateKey then
        gift.totalCoinValue
      else 0 := by
  have part : ∀ kind,
      total Standing.name Standing.score (key, member)
          ((attributed kind gift).toList.flatMap fun other =>
            incrementAllPeriods kind other gift.totalCoinValue now) =
        if (kind = key.kind ∧ attributed kind gift = some member) ∧
            dateKeyFor key.period now = key.dateKey then gift.totalCoinValue
        else 0 := by
    intro kind
    cases attributed kind gift with
    | none => exact (if_neg fun counts => nomatch counts.1.2).symm
    | some other =>
        rw [Option.toList_some, List.flatMap_singleton, total_incrementAllPeriods]
        exact if_congr (and_congr_left' (and_congr_right' Option.some_inj.symm)) rfl rfl
  have elsewhere : ∀ kind, kind ≠ key.kind →
      total Standing.name Standing.score (key, member)
          ((attributed kind gift).toList.flatMap fun other =>
            incrementAllPeriods kind other gift.totalCoinValue now) = 0 := by
    intro kind different
    rw [part kind, if_neg fun counts => different counts.1.1]
  have here := part key.kind
  rw [if_congr (and_congr_left' (and_iff_right rfl)) rfl rfl] at here
  unfold increments
  simp only [List.flatMap_cons, List.flatMap_nil, List.append_nil, total_concat]
  cases isKind : key.kind with
  | gifters =>
      rw [isKind] at here elsewhere
      rw [here, elsewhere .receivers (by decide), elsewhere .streamers (by decide),
        add_zero, add_zero]
  | receivers =>
      rw [isKind] at here elsewhere
      rw [here, elsewhere .gifters (by decide), elsewhere .streamers (by decide), zero_add,
        add_zero]
  | streamers =>
      rw [isKind] at here elsewhere
      rw [here, elsewhere .gifters (by decide), elsewhere .receivers (by decide), zero_add, zero_add]

/-! ### What a reader adds -/

theorem nodup_grouped (gifts : List Gift) (kind : Kind) (since : Option Instant) :
    ((grouped gifts kind since).map Entry.member).Nodup := by
  unfold grouped
  rw [List.map_map]
  exact (List.map_id _).symm ▸ List.nodup_dedup _

theorem nodup_pageOf {entries : List Entry} (distinct : (entries.map Entry.member).Nodup)
    (start limit : Nat) : ((pageOf entries start limit).map Entry.member).Nodup := by
  have part := (List.take_sublist limit _).trans (List.drop_sublist start
    (entries.mergeSort fun one two => two.score ≤ one.score))
  refine List.Nodup.sublist (part.map Entry.member) ?_
  exact ((List.mergeSort_perm entries _).map Entry.member).nodup_iff.mpr distinct

theorem mem_of_pageOf {entries : List Entry} {start limit : Nat} {entry : Entry}
    (member : entry ∈ pageOf entries start limit) : entry ∈ entries :=
  List.mem_mergeSort.mp (List.mem_of_mem_drop (List.mem_of_mem_take member))

/-- Gifts of the ladder's period come to no more than the ladder owes. -/
theorem score_le_earned {kind : Kind} {since : Option Instant} {entry : Entry}
    (listed : entry ∈ grouped gifts kind since) (isKind : key.kind = kind)
    (ofPeriod : ∀ gift ∈ gifts, isSince since gift = true →
      attributed kind gift = some entry.member → dateKeyFor key.period gift.createdAt = key.dateKey) :
    entry.score ≤ earned gifts key entry.member := by
  obtain ⟨other, absent, rfl⟩ := List.mem_map.mp listed
  clear listed absent
  dsimp only at ofPeriod ⊢
  unfold earned
  rw [List.filter_filter]
  induction gifts with
  | nil => exact Nat.zero_le _
  | cons first rest ih =>
      have others := ih fun gift member => ofPeriod gift (List.mem_cons_of_mem first member)
      rw [List.map_cons, List.sum_cons, List.filter_cons]
      split
      · rename_i counted
        obtain ⟨isMember, isSince⟩ := Bool.and_eq_true_iff.mp counted
        have toMember := of_decide_eq_true isMember
        have isWorth : worth key other first = first.totalCoinValue :=
          if_pos ⟨isKind ▸ toMember, ofPeriod first List.mem_cons_self isSince toMember⟩
        rw [List.map_cons, List.sum_cons, isWorth]
        exact Nat.add_le_add_left others _
      · exact others.trans (Nat.le_add_left _ _)

theorem total_seeds (key other : LadderKey) (member : Member) (entries : List Entry) :
    total Standing.name Standing.score (other, member) (World.seeds key entries) =
      if key = other then total Entry.member Entry.score member entries else 0 := by
  induction entries with
  | nil => exact (ite_self 0).symm
  | cons first rest ih =>
      unfold World.seeds at ih ⊢
      rw [List.map_cons, total_cons, ih, total_cons]
      by_cases same : key = other
      · rw [if_pos same, if_pos same]
        refine congrArg (· + _) (if_congr ?_ rfl rfl)
        exact ⟨fun isName => (Prod.mk.inj isName).2, fun isMember => Prod.ext same isMember⟩
      · rw [if_neg same, if_neg same, add_zero]
        exact if_neg fun isName => same (Prod.mk.inj isName).1

/-! ### Steps -/

/-- What is on a ladder and on the way there is earned. -/
def Backed (gifts : List Gift) (ladders : List Standing) (calls : List Call) : Prop :=
  ∀ key member,
    scoreOf ladders key member + underWay (Call.comes key member) calls ≤
      earned gifts key member

theorem comes_nonneg (key : LadderKey) (member : Member) (call : Call) :
    0 ≤ call.comes key member := by
  cases call with
  | dating gift => exact Int.natCast_nonneg _
  | adding rest => exact Int.natCast_nonneg _
  | _ => exact Int.le_refl 0

namespace Backed

variable {position : Nat} {call next : Call}

/-- One call goes on, and what it adds now is not on its way any more. -/
theorem puts (backed : Backed gifts ladders calls) (found : calls[position]? = some call)
    {after : List Standing}
    (moves : ∀ key member, scoreOf after key member + next.comes key member ≤
      scoreOf ladders key member + call.comes key member) :
    Backed gifts after (calls.set position next) := by
  intro key member
  have moved := underWay_set (Call.comes key member) found next
  have before := backed key member
  have isMoved := moves key member
  omega

/-- A reader is about to add what the ladder has none of. -/
theorem seeds (backed : Backed gifts ladders calls) {key : LadderKey} {start limit : Nat}
    (found : calls[position]? = some call) (idle : ∀ other member, call.comes other member = 0)
    {since : Option Instant} {entries : List Entry}
    (isPage : entries = pageOf (grouped gifts key.kind since) start limit)
    (absent : ∀ entry ∈ entries, scoreOf ladders key entry.member = 0 ∧
      (∀ call ∈ calls, call.comes key entry.member = 0) ∧
        ∀ gift ∈ gifts, isSince since gift = true → attributed key.kind gift = some entry.member →
          dateKeyFor key.period gift.createdAt = key.dateKey) :
    Backed gifts ladders (calls.set position (.adding (World.seeds key entries))) := by
  intro other member
  have moved := underWay_set (Call.comes other member) found (.adding (World.seeds key entries))
  have before := backed other member
  rw [idle other member, add_zero] at moved
  have isTotal : Call.comes other member (.adding (World.seeds key entries)) =
      (if key = other then total Entry.member Entry.score member entries else 0 : Nat) :=
    congrArg Nat.cast (total_seeds key other member entries)
  rw [isTotal] at moved
  by_cases same : key = other
  · subst same
    rw [if_pos rfl] at moved
    by_cases listed : ∃ entry ∈ entries, entry.member = member
    · obtain ⟨entry, isEntry, rfl⟩ := listed
      obtain ⟨noScore, noneComing, _⟩ := absent entry isEntry
      have noneUnderWay := underWay_eq_zero noneComing
      have most : total Entry.member Entry.score entry.member entries ≤
          earned gifts key entry.member := by
        refine total_le_of_distinct ?_ fun row isRow isMember => ?_
        · rw [isPage]
          exact nodup_pageOf (nodup_grouped gifts key.kind since) start limit
        · have inGroup := mem_of_pageOf (isPage ▸ isRow)
          rw [← isMember]
          exact score_le_earned inGroup rfl (absent row isRow).2.2
      omega
    · have none : total Entry.member Entry.score member entries = 0 :=
        total_eq_zero fun row isRow isMember => listed ⟨row, isRow, isMember⟩
      omega
  · rw [if_neg same] at moved
    omega

/-- A gift is completed. -/
theorem gives (backed : Backed gifts ladders calls) (gift : Gift) :
    Backed (gifts ++ [gift]) ladders (calls ++ [.dating gift]) := by
  intro key member
  have before := backed key member
  have isWorth : Call.comes key member (.dating gift) = worth key member gift := rfl
  unfold earned at before ⊢
  rw [underWay_spawn, List.map_append, List.map_singleton, List.sum_append, List.sum_singleton,
    isWorth, Nat.cast_add]
  omega

end Backed

namespace World

variable {world : World} {position : Nat}

theorem backed_goOn (backed : Backed world.gifts world.ladders world.calls) {call : Call}
    (found : world.calls[position]? = some call) (permits : world.PermitsCall call) :
    Backed (world.goOn position call).gifts (world.goOn position call).ladders
      (world.goOn position call).calls := by
  cases call with
  | dating gift =>
      refine backed.puts found fun key member => ?_
      have isWorth : Call.comes key member (.dating gift) = worth key member gift := rfl
      have isTotal : Call.comes key member (.adding (increments gift world.now)) =
          (total Standing.name Standing.score (key, member) (increments gift world.now) : Nat) :=
        rfl
      have sameDay : dateKeyFor key.period world.now = dateKeyFor key.period gift.createdAt := by
        refine permits key.period ?_
        cases key.period with
        | alltime => decide
        | daily => decide
        | weekly => decide
        | monthly => decide
      rw [isWorth, isTotal, total_increments, sameDay]
      exact Int.le_refl _
  | adding rest =>
      cases rest with
      | nil => exact backed.puts found fun _ _ => Int.le_refl _
      | cons added rest =>
          refine backed.puts found fun key member => ?_
          have isFirst : Call.comes key member (.adding (added :: rest)) =
              (total Standing.name Standing.score (key, member) (added :: rest) : Nat) := rfl
          have isRest : Call.comes key member (.adding rest) =
              (total Standing.name Standing.score (key, member) rest : Nat) := rfl
          have isAfter : (world.goOn position (.adding (added :: rest))).ladders =
              incrementScore world.ladders added := rfl
          rw [isFirst, isRest, isAfter, scoreOf_incrementScore, total_cons]
          push_cast
          omega
  | ranging kind period start limit =>
      dsimp only [goOn]
      split
      · exact backed.puts found fun _ _ => Int.le_refl _
      · exact backed.puts found fun _ _ => Int.le_refl _
  | falling key start limit => exact backed.puts found fun _ _ => Int.le_refl _
  | grouping key since start limit =>
      dsimp only [goOn]
      split
      · exact backed.puts found fun _ _ => Int.le_refl _
      · exact backed.seeds found (fun _ _ => rfl) rfl permits
  | fallingBack key start limit =>
      have nobody : world.fallback key.kind start limit = [] := permits
      dsimp only [goOn]
      rw [nobody]
      exact backed.puts found fun _ _ => Int.le_refl _
  | finished => exact backed

theorem backed_step (backed : Backed world.gifts world.ladders world.calls)
    {happening : Happening} (permits : world.Permits happening) :
    Backed (world.step happening).gifts (world.step happening).ladders
      (world.step happening).calls := by
  cases happening with
  | gift senderId receiverId totalCoinValue contextType => exact backed.gives _
  | read kind period page limit =>
      intro key member
      have none : Call.comes key member (.ranging kind period ((page - 1) * limit) limit) = 0 := rfl
      dsimp only [step]
      rw [underWay_spawn, none, add_zero]
      exact backed key member
  | goOn position =>
      rw [step]
      split
      · exact backed
      · rename_i call found
        exact backed_goOn backed found (permits call found)
  | turn now => exact backed
  | recount giftsSent coinsReceived roomOwners => exact backed
  | expire gone =>
      intro key member
      have before := backed key member
      have fewer := scoreOf_filter_le world.ladders gone key member
      dsimp only [step]
      omega

theorem fair_of_backed (backed : Backed world.gifts world.ladders world.calls) : world.Fair := by
  intro key member
  have before := backed key member
  have coming := underWay_nonneg (comes_nonneg key member) world.calls
  omega

theorem fair_always (world : World) (unused : world.Unused) (happenings : List Happening)
    (permitted : Each World.step World.Permits world happenings) :
    Always World.step World.Fair world happenings := by
  have kept : ∀ (state : World) (happening : Happening),
      Backed state.gifts state.ladders state.calls → state.Permits happening →
        Backed (state.step happening).gifts (state.step happening).ladders
          (state.step happening).calls :=
    fun _ _ backed permits => backed_step backed permits
  have initial : Backed world.gifts world.ladders world.calls := by
    intro key member
    rw [unused.ladders, unused.calls]
    exact Int.natCast_nonneg _
  exact (always_of_each kept world initial happenings permitted).imp fun _ => fair_of_backed

end World

/-- Noon of a day of the first two weeks of a June that begins with a Monday. -/
def noonOf (day : Nat) : Instant := ⟨⟨2026, 6, day⟩, 43200000⟩

def unread : World where
  now := noonOf 5
  roomOwners := [7]

def given : Happening := .gift 1 2 10 .audioRoom

def goes (position steps : Nat) : List Happening := List.replicate steps (.goOn position)

/-- A gift is counted, and a ladder that was lost is read. -/
def readAgain : List Happening :=
  given :: goes 0 14 ++ .expire (resolveRankingKey .gifters .daily (noonOf 5)) ::
    .read .gifters .daily 1 20 :: goes 1 5

theorem fair_readAgain :
    Always World.step World.Fair unread readAgain ∧
      scoreOf (run World.step unread readAgain).ladders
        (resolveRankingKey .gifters .daily (noonOf 5)) 1 = 10 :=
  ⟨World.fair_always unread ⟨rfl, rfl⟩ readAgain (by decide +kernel), by decide +kernel⟩

/-- The new week is read on its Monday, after a gift of the Friday before. -/
def newWeek : List Happening :=
  given :: goes 0 14 ++ .turn (noonOf 8) :: .read .gifters .weekly 1 20 :: goes 1 5

/-- The ladder is read before the gift is counted. -/
def readEarly : List Happening :=
  given :: .read .gifters .daily 1 20 :: goes 1 5 ++ goes 0 14

/-- Nothing was ever given, and the owner of a room is put on the ladder. -/
def nothingGiven : List Happening := .read .streamers .daily 1 20 :: goes 0 6

theorem not_fair_newWeek :
    ¬(run World.step unread newWeek).Fair ∧ ¬(run World.step unread readEarly).Fair ∧
      ¬(run World.step unread nothingGiven).Fair := by
  refine ⟨?_, ?_, ?_⟩
  · intro fair
    have weekly := fair (resolveRankingKey .gifters .weekly (noonOf 8)) 1
    revert weekly
    decide +kernel
  · intro fair
    have daily := fair (resolveRankingKey .gifters .daily (noonOf 5)) 1
    revert daily
    decide +kernel
  · intro fair
    have daily := fair (resolveRankingKey .streamers .daily (noonOf 5)) 7
    revert daily
    decide +kernel

end Soulzaa.Rankings
