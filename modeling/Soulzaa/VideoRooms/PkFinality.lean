/-
The result of a video PK battle, over every interleaving of gifts, refunds and settlements.

The battle's row lock lets one settlement commit.  What it has read is not locked, so the result
is final where no points are committed behind its back.
-/

import Soulzaa.Lib.Runs
import Soulzaa.VideoRooms.PkRaces

namespace Soulzaa.VideoRooms.PkRaces

open Interleaving Runs

/-! ### What is promised -/

/-- What a finished battle has to keep. -/
structure Tables where
  winningTeamId : Option TeamId
  isDraw : Bool
  teams : List VideoRoomPkTeam
  participants : List VideoRoomPkParticipant
  contributions : List VideoRoomPkContribution

def Store.tables (store : Store) : Tables where
  winningTeamId := store.winningTeamId
  isDraw := store.isDraw
  teams := store.teams
  participants := store.participants
  contributions := store.contributions

/-- The winner has more than every other team, and a draw is an equal score. -/
structure World.Decided (world : World) : Prop where
  once : world.store.settlements ≤ 1
  completed : world.store.status = .completed ↔ world.store.settlements = 1
  winner : world.store.status = .completed → ∀ team ∈ world.store.teams,
    world.store.winningTeamId = some team.id ↔
      ∀ other ∈ world.store.teams, other.id ≠ team.id → other.score < team.score
  draw : world.store.status = .completed →
    (world.store.isDraw = true ↔
      ∀ one ∈ world.store.teams, ∀ two ∈ world.store.teams, one.score = two.score)

/-- A battle between two teams that is not over, and nobody at work on it. -/
structure World.Running (world : World) : Prop where
  teams : ∃ red blue, world.store.teams = [red, blue] ∧ red.id ≠ blue.id
  current : isPkTerminal world.store.status = false
  unsettled : world.store.settlements = 0
  idle : world.calls = []

def Writes.isEmpty (writes : Writes) : Bool :=
  writes.teams.isEmpty && writes.participants.isEmpty && writes.rows.isEmpty

/-- A settlement commits on the scores that it has read, and points only before one. -/
def Store.KeepsCommit (store : Store) : Call → Prop
  | .scoring _ [] _ writes => store.status = .completed → writes.isEmpty = true
  | .paying teams => teams.map VideoRoomPkTeam.score = store.teams.map VideoRoomPkTeam.score
  | _ => True

def World.Keeps (world : World) : Event → Prop
  | .commit position => ∀ call ∈ world.calls[position]?, world.store.KeepsCommit call
  | _ => True

instance (store : Store) : (call : Call) → Decidable (store.KeepsCommit call)
  | .scoring _ [] _ _ => inferInstanceAs (Decidable (_ → _))
  | .scoring _ (_ :: _) _ _ => inferInstanceAs (Decidable True)
  | .paying _ => inferInstanceAs (Decidable (_ = _))
  | .findingLive _ _ => inferInstanceAs (Decidable True)
  | .findingCurrent _ => inferInstanceAs (Decidable True)
  | .gettingBattle => inferInstanceAs (Decidable True)
  | .transitioning _ => inferInstanceAs (Decidable True)
  | .listingTeams => inferInstanceAs (Decidable True)
  | .ended => inferInstanceAs (Decidable True)

instance (world : World) : (event : Event) → Decidable (world.Keeps event)
  | .commit position => inferInstanceAs (Decidable (∀ call ∈ world.calls[position]?, _))
  | .send _ _ => inferInstanceAs (Decidable True)
  | .refund _ => inferInstanceAs (Decidable True)
  | .settle => inferInstanceAs (Decidable True)
  | .resume _ => inferInstanceAs (Decidable True)
  | .rollBack _ => inferInstanceAs (Decidable True)
  | .swallow _ => inferInstanceAs (Decidable True)

/-! ### Two teams -/

variable {red blue : VideoRoomPkTeam}

theorem ranked_pair : ranked [red, blue] =
    if blue.score ≤ red.score then [red, blue] else [blue, red] := by
  unfold ranked
  rw [List.insertionSort_cons, List.insertionSort_cons, List.insertionSort_nil]
  rfl

theorem isDraw_pair : VideoRooms.isDraw [red, blue] = true ↔ red.score = blue.score := by
  unfold VideoRooms.isDraw
  rw [ranked_pair]
  split
  · rename_i first second rest order
    split at order
    · obtain ⟨rfl, tail⟩ := List.cons.inj order
      obtain ⟨rfl, -⟩ := List.cons.inj tail
      exact decide_eq_true_iff
    · obtain ⟨rfl, tail⟩ := List.cons.inj order
      obtain ⟨rfl, -⟩ := List.cons.inj tail
      rw [decide_eq_true_iff]
      exact eq_comm
  · rename_i short
    split at short
    · exact absurd rfl (short red blue [])
    · exact absurd rfl (short blue red [])

theorem winner_pair :
    (winningTeam [red, blue]).map VideoRoomPkTeam.id =
      if blue.score < red.score then some red.id
      else if red.score < blue.score then some blue.id
      else none := by
  unfold winningTeam
  by_cases same : red.score = blue.score
  · rw [if_pos (isDraw_pair.mpr same), if_neg (by omega), if_neg (by omega)]
    rfl
  · rw [if_neg fun draw => same (isDraw_pair.mp draw), ranked_pair]
    by_cases less : blue.score < red.score
    · rw [if_pos (by omega), if_pos less]
      rfl
    · rw [if_neg (by omega), if_neg less, if_pos (by omega)]
      rfl

/-! ### The outline -/

/-- Two teams, and a result that is theirs once the battle is over. -/
structure Sound (redId blueId : TeamId) (store : Store) : Prop where
  distinct : redId ≠ blueId
  teams : store.teams.map VideoRoomPkTeam.id = [redId, blueId]
  open_iff : store.status = .completed ∨ store.settlements = 0
  settled : store.status = .completed → store.settlements = 1 ∧
    store.winningTeamId = (winningTeam store.teams).map VideoRoomPkTeam.id ∧
    store.isDraw = VideoRooms.isDraw store.teams

/-- Who holds the battle's row has found it not over, and has read its two teams. -/
structure Asserts (redId blueId : TeamId) (store : Store) (call : Call) : Prop where
  current : call.holdsBattle = true → store.status ≠ .completed
  teams : ∀ teams, call = .paying teams → teams.map VideoRoomPkTeam.id = [redId, blueId]

/-- Two calls do not hold the row together. -/
def apart (one two : Call) : Prop := ¬(one.holdsBattle = true ∧ two.holdsBattle = true)

def outline (redId blueId : TeamId) : Outline Store Call where
  world := Sound redId blueId
  asserts := Asserts redId blueId
  apart := apart

variable {redId blueId : TeamId} {store : Store} {world : World} {call : Call}
  {others : List Call}

theorem leg_unlocked {refund : Bool} {row : VideoRoomPkContribution}
    {rest : List VideoRoomPkContribution} {point : Point} {writes : Writes} :
    (store.leg others refund row rest point writes).holdsBattle = false := by
  unfold Store.leg
  split
  · split
    · rfl
    · rfl
  · split
    · rfl
    · split
      · rfl
      · split
        · rfl
        · rfl
  · split
    · split
      · rfl
      · rfl
    · rfl
  · split
    · rfl
    · split
      · rfl
      · split
        · rfl
        · split
          · rfl
          · rfl
  · split
    · rfl
    · split
      · rfl
      · rfl

/-- A call that holds the row after a statement held it before, or has taken it from nobody on
a battle that is not over. -/
theorem holds_next (held : (store.next others call).holdsBattle = true) :
    call.holdsBattle = true ∨
      (store.status ≠ .completed ∧ others.any Call.holdsBattle = false) := by
  unfold Store.next at held
  split at held
  · cases held
  · cases held
  · rw [leg_unlocked] at held
    cases held
  · split at held
    · cases held
    · cases held
  · rename_i seen
    split at held
    · cases held
    · rename_i legal
      split at held
      · cases held
      · rename_i free
        split at held
        · rename_i same
          refine .inr ⟨?_, eq_false_of_ne_true free⟩
          rintro completed
          rw [← same, completed] at legal
          exact legal rfl
        · cases held
  · exact .inl rfl
  · exact .inl held

/-- What a statement leads to is as the outline has it. -/
theorem asserts_next (sound : Sound redId blueId store) (before : Asserts redId blueId store call) :
    Asserts redId blueId store (store.next others call) where
  current := by
    intro held
    rcases holds_next held with heldBefore | ⟨notOver, -⟩
    · exact before.current heldBefore
    · exact notOver
  teams := by
    intro teams isPaying
    unfold Store.next at isPaying
    split at isPaying
    · cases isPaying
    · cases isPaying
    · have unlocked := @leg_unlocked store others
      rename_i refund row rest point writes
      have held := congrArg Call.holdsBattle isPaying
      rw [unlocked] at held
      cases held
    · split at isPaying
      · cases isPaying
      · cases isPaying
    · split at isPaying
      · cases isPaying
      · split at isPaying
        · cases isPaying
        · split at isPaying
          · cases isPaying
          · cases isPaying
    · split at isPaying
      · cases isPaying
      · exact Call.paying.inj isPaying ▸ sound.teams
    · exact before.teams teams isPaying

theorem holds_goOn (holds : (outline redId blueId).Holds store world.calls) {position : Nat}
    (found : world.calls[position]? = some call) {next : Call}
    (own : Asserts redId blueId store next)
    (only : next.holdsBattle = true → call.holdsBattle = true ∨
      (world.calls.eraseIdx position).any Call.holdsBattle = false) :
    (outline redId blueId).Holds store (world.calls.set position next) := by
  refine holds.goOn_at found holds.world own ?_
  intro place other elsewhere foundOther keeps away awayToo
  have inside : other ∈ world.calls.eraseIdx position :=
    List.mem_eraseIdx_iff_getElem?.mpr ⟨place, elsewhere, foundOther⟩
  refine ⟨keeps, ?_, ?_⟩
  · rintro ⟨held, heldToo⟩
    rcases only held with before | free
    · exact away ⟨before, heldToo⟩
    · exact List.any_eq_false.mp free other inside heldToo
  · rintro ⟨heldToo, held⟩
    rcases only held with before | free
    · exact awayToo ⟨heldToo, before⟩
    · exact List.any_eq_false.mp free other inside heldToo

theorem asserts_unlocked (unlocked : call.holdsBattle = false) :
    Asserts redId blueId store call where
  current := by
    rw [unlocked]
    exact nofun
  teams := by
    rintro teams rfl
    cases unlocked

theorem holds_spawn (holds : (outline redId blueId).Holds store world.calls)
    (unlocked : call.holdsBattle = false) :
    (outline redId blueId).Holds store (world.calls ++ [call]) := by
  apply holds.spawn (asserts_unlocked unlocked)
  intro other _
  refine ⟨?_, ?_⟩
  · rintro ⟨held, -⟩
    exact nomatch unlocked.symm.trans held
  · rintro ⟨-, held⟩
    exact nomatch unlocked.symm.trans held

/-- A call that holds nothing takes the place of another. -/
theorem holds_set (holds : (outline redId blueId).Holds store world.calls) (position : Nat)
    {next : Call} (unlocked : next.holdsBattle = false) :
    (outline redId blueId).Holds store (world.calls.set position next) := by
  cases found : world.calls[position]? with
  | none =>
      rw [List.set_eq_of_length_le (List.getElem?_eq_none_iff.mp found)]
      exact holds
  | some call =>
      apply holds_goOn holds found (asserts_unlocked unlocked)
      rw [unlocked]
      exact nofun

/-! ### Commits -/

theorem write_of_empty {writes : Writes} (none : writes.isEmpty = true) :
    store.write writes = store := by
  obtain ⟨both, noRows⟩ := Bool.and_eq_true_iff.mp none
  obtain ⟨noTeams, noParticipants⟩ := Bool.and_eq_true_iff.mp both
  unfold Store.write
  rw [List.isEmpty_iff.mp noTeams, List.isEmpty_iff.mp noParticipants, List.isEmpty_iff.mp noRows,
    List.append_nil]
  have sameTeams : (store.teams.map fun team =>
      (KeyedRows.find VideoRoomPkTeam.id team.id []).getD team) = store.teams := List.map_id' _
  have sameParticipants : (store.participants.map fun participant =>
      (KeyedRows.find VideoRoomPkParticipant.id participant.id []).getD participant) =
        store.participants := List.map_id' _
  rw [sameTeams, sameParticipants]

theorem teamIds_write (writes : Writes) :
    (store.write writes).teams.map VideoRoomPkTeam.id = store.teams.map VideoRoomPkTeam.id := by
  unfold Store.write
  dsimp only
  rw [List.map_map]
  apply List.map_congr_left
  intro team _
  dsimp only [Function.comp_apply]
  cases found : KeyedRows.find VideoRoomPkTeam.id team.id writes.teams with
  | none => rfl
  | some written => exact KeyedRows.key_of_find found

theorem sound_write (sound : Sound redId blueId store) {writes : Writes}
    (before : store.status = .completed → writes.isEmpty = true) :
    Sound redId blueId (store.write writes) := by
  by_cases isOver : store.status = .completed
  · rw [write_of_empty (before isOver)]
    exact sound
  · refine ⟨sound.distinct, ?_, sound.open_iff, fun completed => absurd completed isOver⟩
    rw [teamIds_write]
    exact sound.teams

/-- Two teams by their ids and scores. -/
theorem exists_pair {teams : List VideoRoomPkTeam}
    (ids : teams.map VideoRoomPkTeam.id = [redId, blueId]) :
    ∃ red blue, teams = [red, blue] ∧ red.id = redId ∧ blue.id = blueId := by
  obtain ⟨red, rest, rfl, isRed, tail⟩ := List.map_eq_cons_iff.mp ids
  obtain ⟨blue, none, rfl, isBlue, nothing⟩ := List.map_eq_cons_iff.mp tail
  rw [List.map_eq_nil_iff.mp nothing]
  exact ⟨red, blue, rfl, isRed, isBlue⟩

theorem result_congr {one two : List VideoRoomPkTeam}
    (idsOne : one.map VideoRoomPkTeam.id = [redId, blueId])
    (idsTwo : two.map VideoRoomPkTeam.id = [redId, blueId])
    (scores : one.map VideoRoomPkTeam.score = two.map VideoRoomPkTeam.score) :
    (winningTeam one).map VideoRoomPkTeam.id = (winningTeam two).map VideoRoomPkTeam.id ∧
      VideoRooms.isDraw one = VideoRooms.isDraw two := by
  obtain ⟨red, blue, rfl, rfl, rfl⟩ := exists_pair idsOne
  obtain ⟨otherRed, otherBlue, rfl, sameRed, sameBlue⟩ := exists_pair idsTwo
  obtain ⟨redScore, tail⟩ := List.cons.inj scores
  obtain ⟨blueScore, -⟩ := List.cons.inj tail
  refine ⟨?_, ?_⟩
  · rw [winner_pair, winner_pair, redScore, blueScore, sameRed, sameBlue]
  · apply Bool.eq_iff_iff.mpr
    rw [isDraw_pair, isDraw_pair, redScore, blueScore]

theorem sound_complete (sound : Sound redId blueId store) {teams : List VideoRoomPkTeam}
    (current : store.status ≠ .completed) (ids : teams.map VideoRoomPkTeam.id = [redId, blueId])
    (scores : teams.map VideoRoomPkTeam.score = store.teams.map VideoRoomPkTeam.score) :
    Sound redId blueId (store.complete teams) := by
  obtain ⟨winner, draw⟩ := result_congr ids sound.teams scores
  have none := sound.open_iff.resolve_left current
  refine ⟨sound.distinct, sound.teams, .inl rfl, fun _ => ⟨?_, winner, draw⟩⟩
  exact congrArg (· + 1) none

/-! ### Runs -/

/-- What commits, as the condition has it. -/
theorem commit_cases {position : Nat} (found : world.calls[position]? = some call)
    (keeps : world.Keeps (.commit position)) :
    world.store.commit call = none ∨
      (∃ refund point writes, call = .scoring refund [] point writes ∧
        (world.store.status = .completed → writes.isEmpty = true)) ∨
      ∃ teams, call = .paying teams ∧
        teams.map VideoRoomPkTeam.score = world.store.teams.map VideoRoomPkTeam.score := by
  have keeps := keeps call found
  cases call with
  | scoring refund legs point writes =>
      cases legs with
      | nil => exact .inr (.inl ⟨refund, point, writes, rfl, keeps⟩)
      | cons row rest => exact .inl rfl
  | paying teams => exact .inr (.inr ⟨teams, rfl, keeps⟩)
  | _ => exact .inl rfl

theorem holds_step (holds : (outline redId blueId).Holds world.store world.calls) {event : Event}
    (keeps : world.Keeps event) :
    (outline redId blueId).Holds (world.step event).store (world.step event).calls := by
  cases event with
  | send input multiplierBps => exact holds_spawn holds rfl
  | refund giftTxnId => exact holds_spawn holds rfl
  | settle => exact holds_spawn holds rfl
  | resume position =>
      unfold World.step
      dsimp only
      cases found : world.calls[position]? with
      | none => exact holds
      | some call =>
          have before := holds.asserts call (List.mem_of_getElem? found)
          apply holds_goOn holds found (asserts_next holds.world before)
          exact fun held => (holds_next held).imp id And.right
  | commit position =>
      unfold World.step
      dsimp only
      cases found : world.calls[position]? with
      | none => exact holds
      | some call =>
          rcases commit_cases found keeps with
            none | ⟨refund, point, writes, rfl, empty⟩ | ⟨teams, rfl, scores⟩
          · dsimp only
            rw [none]
            exact holds
          · have ended := @holds_set redId blueId world.store world holds position .ended rfl
            exact ended.disturb (sound_write holds.world empty) fun other _ keepsOther =>
              ⟨keepsOther.current, keepsOther.teams⟩
          · have own := holds.asserts (.paying teams) (List.mem_of_getElem? found)
            have complete := sound_complete holds.world (own.current rfl) (own.teams teams rfl)
              scores
            refine holds.goOn_at found complete (asserts_unlocked rfl) ?_
            intro place other elsewhere foundOther keepsOther away awayToo
            have unlocked : other.holdsBattle = false := by
              apply eq_false_of_ne_true
              exact fun held => away ⟨rfl, held⟩
            refine ⟨asserts_unlocked unlocked, ?_, ?_⟩
            · rintro ⟨never, -⟩
              cases never
            · rintro ⟨-, never⟩
              cases never
  | rollBack position => exact holds_set holds position rfl
  | swallow position =>
      unfold World.step
      dsimp only
      split
      · exact holds_set holds position rfl
      · exact holds

theorem Sound.decided (sound : Sound redId blueId world.store) : world.Decided := by
  obtain ⟨red, blue, isTeams, rfl, rfl⟩ := exists_pair sound.teams
  have distinct := sound.distinct
  refine ⟨?_, ⟨fun completed => (sound.settled completed).1, ?_⟩, ?_, ?_⟩
  · rcases sound.open_iff with completed | none
    · exact Nat.le_of_eq (sound.settled completed).1
    · exact none ▸ Nat.zero_le 1
  · intro one
    refine sound.open_iff.resolve_right fun none => ?_
    exact nomatch one.symm.trans none
  · intro completed
    have winner := (sound.settled completed).2.1
    rw [isTeams, winner_pair] at winner
    rw [winner, isTeams]
    simp only [List.forall_mem_cons, List.not_mem_nil, false_implies, implies_true, and_true]
    refine ⟨⟨?_, ?_⟩, ⟨?_, ?_⟩⟩
    · intro isRed
      refine ⟨fun never => absurd rfl never, fun _ => ?_⟩
      split at isRed
      · assumption
      · split at isRed
        · exact absurd (Option.some.inj isRed).symm distinct
        · cases isRed
    · rintro ⟨-, less⟩
      exact if_pos (less distinct.symm)
    · intro isBlue
      refine ⟨fun _ => ?_, fun never => absurd rfl never⟩
      split at isBlue
      · exact absurd (Option.some.inj isBlue) distinct
      · split at isBlue
        · assumption
        · cases isBlue
    · rintro ⟨less, -⟩
      have more := less distinct
      rw [if_neg (by omega), if_pos more]
  · intro completed
    have draw := (sound.settled completed).2.2
    rw [isTeams] at draw
    rw [draw, isTeams, isDraw_pair]
    simp only [List.forall_mem_cons, List.not_mem_nil, false_implies, implies_true, and_true]
    exact ⟨fun same => ⟨⟨trivial, same⟩, same.symm⟩, fun all => all.1.2⟩

/-- A finished battle keeps its tables. -/
theorem stays_step (holds : (outline redId blueId).Holds world.store world.calls) {event : Event}
    (keeps : world.Keeps event) (isOver : world.store.status = .completed) :
    (world.step event).store = world.store := by
  cases event with
  | commit position =>
      unfold World.step
      dsimp only
      cases found : world.calls[position]? with
      | none => rfl
      | some call =>
          rcases commit_cases found keeps with
            none | ⟨refund, point, writes, rfl, empty⟩ | ⟨teams, rfl, -⟩
          · dsimp only
            rw [none]
          · exact write_of_empty (empty isOver)
          · have own := holds.asserts (.paying teams) (List.mem_of_getElem? found)
            exact absurd isOver (own.current rfl)
  | resume position =>
      unfold World.step
      dsimp only
      split
      · rfl
      · rfl
  | swallow position =>
      unfold World.step
      dsimp only
      split
      · rfl
      · rfl
  | _ => rfl

theorem stays_run (holds : (outline redId blueId).Holds world.store world.calls)
    {events : List Event} (keeps : Each World.step World.Keeps world events)
    (isOver : world.store.status = .completed) :
    (run World.step world events).store = world.store := by
  induction events generalizing world with
  | nil => rfl
  | cons event rest ih =>
      have same := stays_step holds keeps.1 isOver
      have next := ih (holds_step holds keeps.1) keeps.2 (same.symm ▸ isOver)
      exact next.trans same

theorem holds_run (holds : (outline redId blueId).Holds world.store world.calls)
    {events : List Event} (keeps : Each World.step World.Keeps world events) :
    Always World.step (fun world => (outline redId blueId).Holds world.store world.calls) world
      events := by
  have preserved : ∀ (world : World) (event : Event),
      (outline redId blueId).Holds world.store world.calls → world.Keeps event →
        (outline redId blueId).Holds (world.step event).store (world.step event).calls :=
    fun _ _ holds keeps => holds_step holds keeps
  exact always_of_each preserved world holds events keeps

/-- Where no points are committed behind a settlement's back, its result is right and final. -/
theorem final_of_keeps (world : World) (running : world.Running) (events : List Event)
    (keeps : Each World.step World.Keeps world events) :
    Always World.step World.Decided world events ∧
      ∀ front back, events = front ++ back →
        (run World.step world front).store.status = .completed →
          (run World.step world events).store.tables =
            (run World.step world front).store.tables := by
  obtain ⟨⟨red, blue, isTeams, distinct⟩, current, unsettled, idle⟩ := running
  have open_now : world.store.status ≠ .completed := by
    intro completed
    rw [completed] at current
    cases current
  have sound : Sound red.id blue.id world.store :=
    { distinct := distinct
      teams := by rw [isTeams]; rfl
      open_iff := .inr unsettled
      settled := fun completed => absurd completed open_now }
  have holds : (outline red.id blue.id).Holds world.store world.calls := by
    rw [idle]
    exact Outline.holds_nil sound
  refine ⟨(holds_run holds keeps).imp fun _ holds => holds.world.decided, ?_⟩
  rintro front back rfl isOver
  obtain ⟨frontKeeps, backKeeps⟩ := each_append.mp keeps
  rw [run_append, stays_run (holds_run holds frontKeeps).final backKeeps isOver]

def annaAndBert : World where
  store :=
    { status := .live
      teams :=
        [{ id := "team-red"
           side := .red },
         { id := "team-blue"
           side := .blue }]
      participants :=
        [{ id := "participant-anna"
           teamId := "team-red"
           userId := "anna"
           side := .red },
         { id := "participant-bert"
           teamId := "team-blue"
           userId := "bert"
           side := .blue }] }

theorem running_annaAndBert : annaAndBert.Running where
  teams := ⟨_, _, rfl, by decide⟩
  current := rfl
  unsettled := rfl
  idle := rfl

def toBert : PkScoringInput where
  senderId := "carl"
  receiverIds := ["bert"]
  totalCoinValue := 100
  giftTxnId := "gift-1"

/-- A call's statements, one after the other. -/
def resumes (position count : Nat) : List Event := List.replicate count (.resume position)

/-- Two settlements at once, after a gift. -/
def giftFirst : List Event :=
  .send toBert (fun _ => 20000) :: resumes 0 6 ++ .commit 0 :: .settle :: .settle ::
    resumes 1 3 ++ resumes 2 2 ++ .commit 1 :: resumes 2 1 ++ [.commit 2]

theorem final_giftFirst :
    Always World.step World.Decided annaAndBert giftFirst ∧
      (run World.step annaAndBert giftFirst).store.winningTeamId = some "team-blue" :=
  ⟨(final_of_keeps annaAndBert running_annaAndBert giftFirst (by decide +kernel)).1,
    by decide +kernel⟩

/-- The battle is found live, then settled, and the gift is written after that. -/
def giftAfterwards : List Event :=
  .send toBert (fun _ => 20000) :: resumes 0 1 ++ .settle :: resumes 1 3 ++ .commit 1 ::
    resumes 0 5 ++ [.commit 0]

theorem not_final_giftAfterwards :
    ¬Always World.step World.Decided annaAndBert giftAfterwards := by
  intro always
  have draw := (always.final.draw (by decide +kernel)).mp (by decide +kernel)
  exact absurd draw (by decide +kernel)

end Soulzaa.VideoRooms.PkRaces
