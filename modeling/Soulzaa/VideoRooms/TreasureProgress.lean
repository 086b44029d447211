/-
Gifts that fill a treasure ladder one after another.

The loop walks the levels by adding one, so it fills the boxes from level 1 up to the first level
that is missing, and those beyond stay empty.
-/

import Soulzaa.VideoRooms.TreasureClimbs

namespace Soulzaa.VideoRooms.Ladders

open Treasure (TreasureBoxStatus TreasureSessionStatus)

/-! ### The service -/

structure VideoRoomTreasureLevel where
  level : Nat
  threshold : Int
  deriving DecidableEq, Repr

structure EnabledLevels where
  rows : List VideoRoomTreasureLevel
  distinct : (rows.map VideoRoomTreasureLevel.level).Nodup
  positive : ∀ row ∈ rows, 0 < row.threshold

structure TreasureContribution where
  level : Nat
  userId : UserId
  amount : Int
  giftTxnId : String
  deriving DecidableEq, Repr

structure Gift where
  senderId : UserId
  amount : Int
  giftTxnId : String
  countsTowardRanking : Bool := true
  deriving DecidableEq, Repr

def Gift.contribution (gift : Gift) (level : Nat) (amount : Int) : TreasureContribution where
  level := level
  userId := gift.senderId
  amount := amount
  giftTxnId := gift.giftTxnId

/-- The loop's state with what it counts, and what it has added to each box. -/
structure Filling extends Pouring where
  applied : Int := 0
  deltas : List (Nat × Int) := []
  contributions : List TreasureContribution
  deriving DecidableEq, Repr

def Filling.count (filling : Filling) (gift : Gift) (level : Nat) (store : Store) (delta : Int) :
    Filling :=
  { filling with
    store := store
    remaining := filling.remaining - delta
    applied := filling.applied + delta
    deltas := filling.deltas ++ [(level, delta)]
    contributions :=
      if gift.countsTowardRanking then filling.contributions ++ [gift.contribution level delta]
      else filling.contributions }

/-- The loop, of gifts that come one after another. -/
def Filling.fill (gift : Gift) : Nat → Filling → Filling
  | 0, filling => filling
  | turns + 1, filling =>
      if filling.remaining ≤ 0 then filling
      else
        match KeyedRows.find TreasureBox.level filling.level filling.boxes with
        | none => filling
        | some box =>
            if box.status = .opened ∨ box.status = .unlocking then
              fill gift turns { filling with level := filling.level + 1 }
            else
              match filling.store.applyToBox filling.remaining maxCasRetries box with
              | none => filling
              | some (store, updated, delta) =>
                  let counted := filling.count gift box.level store delta
                  if updated.progress < updated.threshold then counted
                  else fill gift turns { counted with toPouring := counted.cross box.level }

/-- A gift that was counted while the ladder was ACTIVE, with its result. -/
structure Counted where
  gift : Gift
  applied : Int
  deltas : List (Nat × Int)
  deriving DecidableEq, Repr

structure Room where
  store : Store
  contributions : List TreasureContribution := []
  /-- The last comes first. -/
  counted : List Counted := []
  deriving DecidableEq, Repr

inductive Happening where
  | start
  | pause
  | resume
  | close
  | gift (gift : Gift)
  /-- The transaction of an unlock whose box was found UNLOCKING. -/
  | unlock (level : Nat)
  /-- The claim of the box after an unlocked one. -/
  | chain (level : Nat)
  deriving DecidableEq, Repr

namespace Room

/-- No ladder is created without levels. -/
def create (levels : EnabledLevels) : Room where
  store := { boxes := levels.rows.map fun row => { level := row.level, threshold := row.threshold }
             rules := [] }

def started (room : Room) (gift : Gift) : Filling where
  store := room.store
  boxes := room.store.boxes
  level := room.store.currentLevel
  remaining := gift.amount
  contributions := room.contributions

def apply (room : Room) (gift : Gift) : Room :=
  if gift.amount ≤ 0 then room
  else if room.store.session ≠ .active then room
  else
    let filled := Filling.fill gift (room.store.boxes.length + 1) (room.started gift)
    { store := filled.store
      contributions := filled.contributions
      counted :=
        { gift := gift, applied := asNumber filled.applied, deltas := filled.deltas } ::
          room.counted }

def command (room : Room) (source : List TreasureSessionStatus) (target : TreasureSessionStatus) :
    Room :=
  { room with store := (room.store.transitionSession source target).getD room.store }

def start (room : Room) : Room :=
  match room.store.transitionSession [.draft] .active with
  | none => room
  | some store => { room with store := store.activateBox store.currentLevel }

def unlock (room : Room) (level : Nat) : Room :=
  if room.store.statusOf level = some .unlocking then
    { room with store := (room.store.openBox level).advance level }
  else room

def chain (room : Room) (level : Nat) : Room :=
  match room.store.getBox (level + 1) with
  | none => room
  | some next =>
      if next.progress < next.threshold then room
      else { room with store := (room.store.claimUnlock next.level).1 }

def step (room : Room) : Happening → Room
  | .start => room.start
  | .pause => room.command [.active] .paused
  | .resume => room.command [.paused] .active
  | .close => room.command [.draft, .active, .paused] .closed
  | .gift gift => room.apply gift
  | .unlock level => room.unlock level
  | .chain level => room.chain level

def run (room : Room) (happenings : List Happening) : Room := happenings.foldl step room

/-! ### The property -/

/-- What was given while the ladder was ACTIVE, the last first. -/
def amounts (room : Room) : List Int := room.counted.map fun counted => counted.gift.amount

def total (room : Room) : Int := room.amounts.sum

end Room

def addedAt (level : Nat) (deltas : List (Nat × Int)) : Int :=
  ((deltas.filter fun delta => delta.1 = level).map Prod.snd).sum

def Counted.at (level : Nat) (counted : Counted) : Int := addedAt level counted.deltas

structure Room.Sound (levels : EnabledLevels) (room : Room) : Prop where
  sum : (room.store.boxes.map TreasureBox.progress).sum =
    min room.total (levels.rows.map VideoRoomTreasureLevel.threshold).sum
  within : ∀ box ∈ room.store.boxes, box.progress ≤ box.threshold
  inOrder : ∀ lower ∈ room.store.boxes, ∀ higher ∈ room.store.boxes,
    lower.level < higher.level → 0 < higher.progress → lower.progress = lower.threshold
  applied : ∀ counted ∈ room.counted, counted.applied = (counted.deltas.map Prod.snd).sum
  progress : ∀ box ∈ room.store.boxes,
    box.progress = (room.counted.map (Counted.at box.level)).sum
  ranked : ∀ level, ((room.contributions.filter fun row => row.level = level).map
      TreasureContribution.amount).sum =
    ((room.counted.filter fun counted => counted.gift.countsTowardRanking).map
      (Counted.at level)).sum

namespace EnabledLevels

/-- The levels from 1 on up to this one are there. -/
def Reached (levels : EnabledLevels) (level : Nat) : Prop :=
  1 ≤ level ∧ ∀ lower < level + 1, 1 ≤ lower → lower ∈ levels.rows.map VideoRoomTreasureLevel.level

instance (levels : EnabledLevels) (level : Nat) : Decidable (levels.Reached level) :=
  inferInstanceAs (Decidable (_ ∧ _))

/-- What the boxes hold that the loop comes to. -/
def capacity (levels : EnabledLevels) : Int :=
  (levels.rows.map fun row => if levels.Reached row.level then row.threshold else 0).sum

/-- What of each gift is counted, the last first. -/
def counts (levels : EnabledLevels) : List Int → List Int
  | [] => []
  | amount :: earlier =>
      min amount (levels.capacity - min earlier.sum levels.capacity) :: levels.counts earlier

/-- Nothing was given; or the levels have no gap or all was counted before it, and what is counted
is represented exactly. -/
def Carried (levels : EnabledLevels) (amounts : List Int) : Prop :=
  amounts = [] ∨
    ((∀ row ∈ levels.rows, levels.Reached row.level) ∨
      amounts.sum ≤ levels.capacity ∧ ∀ row ∈ levels.rows, 1 ≤ row.level) ∧
    ∀ count ∈ levels.counts amounts, asNumber count = count

end EnabledLevels

/-! ### Boxes that are filled in order -/

namespace Store

/-- A box's threshold and progress. -/
def measure (store : Store) (level : Nat) : Option (Int × Int) :=
  (store.getBox level).map fun box => (box.threshold, box.progress)

def Full (store : Store) (level : Nat) : Prop :=
  ∃ amount, store.measure level = some (amount, amount)

def FullBelow (store : Store) (level : Nat) : Prop :=
  ∀ lower < level, 1 ≤ lower → store.Full lower

def setProgress (store : Store) (level : Nat) (progress : Int) : Store :=
  store.changeBox level fun box => { box with progress := progress }

structure InOrder (levels : EnabledLevels) (store : Store) : Prop where
  frames : store.boxes.map TreasureBox.frame = levels.rows.map fun row => (row.level, row.threshold)
  within : ∀ level threshold progress, store.measure level = some (threshold, progress) →
    0 ≤ progress ∧ progress ≤ threshold
  taken : ∀ level, store.Claimed level → store.Full level
  order : ∀ level threshold progress, store.measure level = some (threshold, progress) →
    0 < progress → 1 ≤ level ∧ store.FullBelow level

variable {levels : EnabledLevels} {store : Store} {level other : Nat}

theorem InOrder.levels_eq (inOrder : InOrder levels store) :
    store.boxes.map TreasureBox.level = levels.rows.map VideoRoomTreasureLevel.level := by
  have firsts := congrArg (List.map Prod.fst) inOrder.frames
  rw [List.map_map, List.map_map] at firsts
  exact firsts

theorem InOrder.distinct (inOrder : InOrder levels store) :
    (store.boxes.map TreasureBox.level).Nodup :=
  inOrder.levels_eq ▸ levels.distinct

theorem InOrder.measure_of_mem (inOrder : InOrder levels store) {box : TreasureBox}
    (member : box ∈ store.boxes) :
    store.measure box.level = some (box.threshold, box.progress) := by
  unfold measure getBox
  rw [KeyedRows.find_of_mem inOrder.distinct member]
  rfl

theorem InOrder.mem_levels (inOrder : InOrder levels store) {amounts : Int × Int}
    (there : store.measure level = some amounts) :
    level ∈ levels.rows.map VideoRoomTreasureLevel.level := by
  obtain ⟨box, found, -⟩ := Option.map_eq_some_iff.mp there
  rw [← inOrder.levels_eq, ← KeyedRows.key_of_find found]
  exact List.mem_map_of_mem (KeyedRows.mem_of_find found)

theorem InOrder.row_of_mem (inOrder : InOrder levels store) {box : TreasureBox}
    (member : box ∈ store.boxes) :
    ∃ row ∈ levels.rows, row.level = box.level ∧ row.threshold = box.threshold := by
  have framed := List.mem_map_of_mem (f := TreasureBox.frame) member
  rw [inOrder.frames] at framed
  obtain ⟨row, isRow, same⟩ := List.mem_map.mp framed
  exact ⟨row, isRow, congrArg Prod.fst same, congrArg Prod.snd same⟩

theorem InOrder.positive (inOrder : InOrder levels store) {box : TreasureBox}
    (member : box ∈ store.boxes) : 0 < box.threshold := by
  obtain ⟨row, isRow, -, threshold⟩ := inOrder.row_of_mem member
  exact threshold ▸ levels.positive row isRow

/-- Where the boxes below are full, their levels are there. -/
theorem InOrder.reached (inOrder : InOrder levels store) (below : store.FullBelow level)
    {amounts : Int × Int} (there : store.measure level = some amounts) (positive : 1 ≤ level) :
    levels.Reached level := by
  refine ⟨positive, fun lower isLower least => ?_⟩
  rcases Nat.lt_or_eq_of_le (Nat.le_of_lt_succ isLower) with less | same
  · obtain ⟨amount, isFull⟩ := below lower less least
    exact inOrder.mem_levels isFull
  · exact same ▸ inOrder.mem_levels there

theorem InOrder.level_le (inOrder : InOrder levels store) (below : store.FullBelow level) :
    level ≤ levels.rows.length + 1 := by
  have among : List.range' 1 (level - 1) ⊆ levels.rows.map VideoRoomTreasureLevel.level := by
    intro lower member
    obtain ⟨least, less⟩ := List.mem_range'_1.mp member
    obtain ⟨amount, isFull⟩ := below lower (by omega) least
    exact inOrder.mem_levels isFull
  have few := (List.subperm_of_subset List.nodup_range' among).length_le
  rw [List.length_range', List.length_map] at few
  omega

theorem FullBelow.succ (below : store.FullBelow level) (isFull : store.Full level) :
    store.FullBelow (level + 1) := by
  intro lower isLower least
  rcases Nat.lt_or_eq_of_le (Nat.le_of_lt_succ isLower) with less | same
  · exact below lower less least
  · exact same ▸ isFull

/-! ### The sum of the progress -/

theorem InOrder.capacity_eq (inOrder : InOrder levels store) :
    levels.capacity =
      (store.boxes.map fun box => if levels.Reached box.level then box.threshold else 0).sum := by
  have same := congrArg
    (List.map fun frame : Nat × Int => if levels.Reached frame.1 then frame.2 else 0)
    inOrder.frames
  rw [List.map_map, List.map_map] at same
  exact (congrArg List.sum same).symm

theorem InOrder.progress_le (inOrder : InOrder levels store) {box : TreasureBox}
    (member : box ∈ store.boxes) :
    box.progress ≤ if levels.Reached box.level then box.threshold else 0 := by
  have there := inOrder.measure_of_mem member
  split
  · exact (inOrder.within _ _ _ there).2
  · rename_i apart
    refine Int.not_lt.mp fun some => apart ?_
    obtain ⟨positive, below⟩ := inOrder.order _ _ _ there some
    exact inOrder.reached below there positive

theorem InOrder.sum_le (inOrder : InOrder levels store) :
    (store.boxes.map TreasureBox.progress).sum ≤ levels.capacity := by
  rw [inOrder.capacity_eq]
  exact List.sum_le_sum fun box member => inOrder.progress_le member

/-- Where the next level is missing, the boxes hold all that they ever will. -/
theorem InOrder.sum_eq (inOrder : InOrder levels store) (below : store.FullBelow level)
    (positive : 1 ≤ level) (missing : store.measure level = none) :
    (store.boxes.map TreasureBox.progress).sum = levels.capacity := by
  rw [inOrder.capacity_eq]
  refine congrArg List.sum (List.map_congr_left fun box member => ?_)
  have there := inOrder.measure_of_mem member
  have most := inOrder.progress_le member
  split at most
  · rename_i reached
    rw [if_pos reached]
    have less : box.level < level := by
      refine Nat.not_le.mp fun beyond => ?_
      have isLevel := reached.2 level (Nat.lt_succ_of_le beyond) positive
      rw [← inOrder.levels_eq] at isLevel
      obtain ⟨stored, found⟩ := KeyedRows.find_of_key isLevel
      have isThere : store.measure level = _ := congrArg (Option.map _) found
      rw [missing] at isThere
      cases isThere
    obtain ⟨amount, isFull⟩ := below box.level less reached.1
    rw [there] at isFull
    have amounts := Prod.mk.inj (Option.some.inj isFull)
    exact amounts.2.trans amounts.1.symm
  · rename_i apart
    rw [if_neg apart]
    exact Int.le_antisymm most (inOrder.within _ _ _ there).1

/-! ### Statements -/

theorem measure_setStatus {status : TreasureBoxStatus} :
    (store.setStatus level status).measure = store.measure := by
  have keeps : KeyedRows.KeepsKey TreasureBox.level
      fun box => { box with status := status } := fun _ => rfl
  funext other
  unfold measure setStatus
  rw [getBox_changeBox keeps]
  split
  · rw [Option.map_map]
    rfl
  · rfl

theorem measure_casStatus {source target : TreasureBoxStatus} :
    (store.casStatus level source target).1.measure = store.measure := by
  rcases casStatus_spec store level source target with ⟨same, -⟩ | ⟨moved, -⟩
  · rw [same]
  · rw [moved]
    exact measure_setStatus

theorem measure_setProgress {progress : Int} :
    (store.setProgress level progress).measure other =
      if other = level then (store.measure other).map fun amounts => (amounts.1, progress)
      else store.measure other := by
  have keeps : KeyedRows.KeepsKey TreasureBox.level
      fun box => { box with progress := progress } := fun _ => rfl
  unfold measure setProgress
  rw [getBox_changeBox keeps]
  split
  · rw [Option.map_map, Option.map_map]
    rfl
  · rfl

theorem FullBelow.of_measure {after : Store} (same : after.measure = store.measure)
    (below : store.FullBelow level) : after.FullBelow level := by
  unfold FullBelow Full at *
  rw [same]
  exact below

/-- A change of a box's status, which claims it when it is full only. -/
theorem InOrder.casStatus (inOrder : InOrder levels store) {source target : TreasureBoxStatus}
    (filled : claimed target = true → store.statusOf level = some source → store.Full level) :
    InOrder levels (store.casStatus level source target).1 := by
  have same : (store.casStatus level source target).1.measure = store.measure := measure_casStatus
  rcases casStatus_spec store level source target with ⟨unmoved, -⟩ | ⟨moved, found⟩
  · rw [unmoved]
    exact inOrder
  · rw [moved] at same ⊢
    have frames : (store.setStatus level target).boxes.map TreasureBox.frame =
        store.boxes.map TreasureBox.frame := frames_changeBox fun _ => rfl
    refine ⟨frames.trans inOrder.frames, ?_, ?_, ?_⟩
    · intro other threshold progress there
      exact inOrder.within other threshold progress (same ▸ there)
    · rintro other ⟨status, isStatus, isClaimed⟩
      unfold Full
      rw [same]
      rw [statusOf_setStatus] at isStatus
      split at isStatus
      · rename_i isLevel
        rw [isLevel, found] at isStatus
        cases isStatus
        exact isLevel ▸ filled isClaimed found
      · exact inOrder.taken other ⟨status, isStatus, isClaimed⟩
    · intro other threshold progress there some
      obtain ⟨positive, below⟩ := inOrder.order other threshold progress (same ▸ there) some
      exact ⟨positive, below.of_measure same⟩

theorem InOrder.claimUnlock (inOrder : InOrder levels store) (filled : store.Full level) :
    InOrder levels (store.claimUnlock level).1 :=
  inOrder.casStatus fun _ _ => filled

theorem InOrder.openBox (inOrder : InOrder levels store) : InOrder levels (store.openBox level) :=
  inOrder.casStatus fun _ found => inOrder.taken level ⟨.unlocking, found, rfl⟩

theorem InOrder.activateBox (inOrder : InOrder levels store) :
    InOrder levels (store.activateBox level) :=
  inOrder.casStatus fun isClaimed _ => absurd isClaimed (by decide)

theorem fullBelow_setProgress {threshold progress delta : Int} (below : store.FullBelow other)
    (there : store.measure level = some (threshold, progress)) (nonneg : 0 ≤ delta)
    (fits : progress + delta ≤ threshold) :
    (store.setProgress level (progress + delta)).FullBelow other := by
  intro lower isLower least
  obtain ⟨amount, isFull⟩ := below lower isLower least
  refine ⟨amount, ?_⟩
  rw [measure_setProgress]
  split
  · rename_i same
    rw [same, there] at isFull
    have amounts := Prod.mk.inj (Option.some.inj isFull)
    rw [same, there, Option.map_some]
    have unchanged : progress + delta = amount := by omega
    rw [unchanged, amounts.1]
  · exact isFull

/-- Progress is added to the lowest box that is not full. -/
theorem InOrder.setProgress (inOrder : InOrder levels store) {threshold progress delta : Int}
    (there : store.measure level = some (threshold, progress)) (positive : 1 ≤ level)
    (below : store.FullBelow level) (nonneg : 0 ≤ delta) (fits : progress + delta ≤ threshold) :
    InOrder levels (store.setProgress level (progress + delta)) := by
  have least := (inOrder.within level threshold progress there).1
  have frames : (store.setProgress level (progress + delta)).boxes.map TreasureBox.frame =
      store.boxes.map TreasureBox.frame := frames_changeBox fun _ => rfl
  refine ⟨frames.trans inOrder.frames, ?_, ?_, ?_⟩
  · intro other ceiling amount found
    rw [measure_setProgress] at found
    split at found
    · rename_i same
      rw [same, there, Option.map_some] at found
      have amounts := Prod.mk.inj (Option.some.inj found)
      omega
    · exact inOrder.within other ceiling amount found
  · rintro other ⟨status, isStatus, isClaimed⟩
    unfold Store.setProgress at isStatus
    rw [statusOf_changeProgress] at isStatus
    obtain ⟨amount, isFull⟩ := inOrder.taken other ⟨status, isStatus, isClaimed⟩
    refine ⟨amount, ?_⟩
    rw [measure_setProgress]
    split
    · rename_i same
      rw [same, there] at isFull
      have amounts := Prod.mk.inj (Option.some.inj isFull)
      have unchanged : progress + delta = amount := by omega
      rw [same, there, Option.map_some, unchanged, amounts.1]
    · exact isFull
  · intro other ceiling amount found some
    rw [measure_setProgress] at found
    split at found
    · rename_i same
      rw [same]
      exact ⟨positive, fullBelow_setProgress below there nonneg fits⟩
    · obtain ⟨isPositive, isBelow⟩ := inOrder.order other ceiling amount found some
      exact ⟨isPositive, fullBelow_setProgress isBelow there nonneg fits⟩

/-- Nobody else changes the box, so the first attempt succeeds. -/
theorem applyToBox_eq {box : TreasureBox} (distinct : (store.boxes.map TreasureBox.level).Nodup)
    (there : store.measure box.level = some (box.threshold, box.progress))
    (within : box.progress ≤ box.threshold) {remaining : Int} (some : 0 < remaining) :
    store.applyToBox remaining maxCasRetries box =
      Option.some (store.setProgress box.level
          (box.progress + min remaining (box.threshold - box.progress)),
        { box with progress := box.progress + min remaining (box.threshold - box.progress) },
        min remaining (box.threshold - box.progress)) := by
  obtain ⟨stored, found, same⟩ := Option.map_eq_some_iff.mp there
  have progress : stored.progress = box.progress := congrArg Prod.snd same
  unfold maxCasRetries applyToBox
  dsimp only
  split
  · rename_i full
    have nothing : min remaining (box.threshold - box.progress) = 0 := by omega
    have unchanged : store.setProgress box.level box.progress = store := by
      unfold setProgress changeBox
      rw [KeyedRows.update_eq_self distinct found (by rw [← progress])]
    rw [nothing, Int.add_zero, unchanged]
  · have isDelta : (if remaining < box.threshold - box.progress then remaining
        else box.threshold - box.progress) = min remaining (box.threshold - box.progress) := by
      split <;> omega
    unfold addProgress
    rw [isDelta, found, Option.filter_some, if_pos (decide_eq_true progress)]
    rfl

end Store

/-! ### The loop -/

/-- A gift on its way, with the boxes from its level on as it has read them. -/
structure Pours (levels : EnabledLevels) (gift : Pouring) : Prop where
  inOrder : Store.InOrder levels gift.store
  current : 1 ≤ gift.store.currentLevel
  currentBelow : gift.store.FullBelow gift.store.currentLevel
  positive : 1 ≤ gift.level
  below : gift.store.FullBelow gift.level
  nonneg : 0 ≤ gift.remaining
  snapshot : ∀ level, gift.level ≤ level →
    (KeyedRows.find TreasureBox.level level gift.boxes).map
      (fun box => (box.threshold, box.progress)) = gift.store.measure level
  skips : ∀ level box, KeyedRows.find TreasureBox.level level gift.boxes = some box →
    gift.level ≤ level → claimed box.status = true → gift.store.Full level

variable {levels : EnabledLevels} {gift : Pouring} {level : Nat} {box : TreasureBox}

theorem Pours.there (pours : Pours levels gift)
    (found : KeyedRows.find TreasureBox.level gift.level gift.boxes = some box) :
    gift.store.measure box.level = some (box.threshold, box.progress) := by
  rw [KeyedRows.key_of_find found, ← pours.snapshot gift.level (Nat.le_refl _), found]
  rfl

/-- A box that was claimed is full, and is passed. -/
theorem Pours.skip (pours : Pours levels gift)
    (found : KeyedRows.find TreasureBox.level gift.level gift.boxes = some box)
    (isClaimed : claimed box.status = true) :
    Pours levels { gift with level := gift.level + 1 } where
  inOrder := pours.inOrder
  current := pours.current
  currentBelow := pours.currentBelow
  positive := Nat.le_succ_of_le pours.positive
  below := pours.below.succ (pours.skips gift.level box found (Nat.le_refl _) isClaimed)
  nonneg := pours.nonneg
  snapshot := fun level above => pours.snapshot level (Nat.le_of_succ_le above)
  skips := fun level box at_ above => pours.skips level box at_ (Nat.le_of_succ_le above)

/-- What is added to a box that is not passed. -/
def Pouring.delta (gift : Pouring) (box : TreasureBox) : Int :=
  min gift.remaining (box.threshold - box.progress)

def Pouring.poured (gift : Pouring) (box : TreasureBox) : Pouring :=
  { gift with
    store := gift.store.setProgress box.level (box.progress + gift.delta box)
    remaining := gift.remaining - gift.delta box }

theorem Pours.delta_spec (pours : Pours levels gift)
    (found : KeyedRows.find TreasureBox.level gift.level gift.boxes = some box) :
    0 ≤ gift.delta box ∧ box.progress + gift.delta box ≤ box.threshold := by
  have within := (pours.inOrder.within _ _ _ (pours.there found)).2
  have nonneg := pours.nonneg
  unfold Pouring.delta
  omega

/-- The store after a box was poured into, with the gift still at its level. -/
theorem Pours.pour (pours : Pours levels gift)
    (found : KeyedRows.find TreasureBox.level gift.level gift.boxes = some box) :
    Store.InOrder levels (gift.poured box).store ∧
      (gift.poured box).store.FullBelow gift.store.currentLevel ∧
      (gift.poured box).store.FullBelow gift.level := by
  have there := pours.there found
  have isLevel := KeyedRows.key_of_find found
  obtain ⟨nonneg, fits⟩ := pours.delta_spec found
  exact ⟨pours.inOrder.setProgress there (isLevel ▸ pours.positive) (isLevel ▸ pours.below) nonneg
      fits,
    Store.fullBelow_setProgress pours.currentBelow there nonneg fits,
    Store.fullBelow_setProgress pours.below there nonneg fits⟩

theorem Pours.measure_poured (pours : Pours levels gift)
    (found : KeyedRows.find TreasureBox.level gift.level gift.boxes = some box) (other : Nat) :
    (gift.poured box).store.measure other =
      if other = gift.level then some (box.threshold, box.progress + gift.delta box)
      else gift.store.measure other := by
  unfold Pouring.poured
  dsimp only
  rw [Store.measure_setProgress, KeyedRows.key_of_find found]
  split
  · rename_i same
    rw [same, ← KeyedRows.key_of_find found, pours.there found]
    rfl
  · rfl

/-- Promoting the next box changes only what the gift knows of its status. -/
theorem find_promoted {boxes : List TreasureBox} {next : Nat} :
    KeyedRows.find TreasureBox.level level
        (KeyedRows.update TreasureBox.level next (fun box => { box with status := .active }) boxes) =
      if level = next then
        (KeyedRows.find TreasureBox.level level boxes).map fun box => { box with status := .active }
      else KeyedRows.find TreasureBox.level level boxes :=
  KeyedRows.find_update_eq_ite fun _ => rfl

theorem measure_cross : (gift.cross level).store.measure = gift.store.measure := by
  unfold Pouring.cross
  dsimp only
  split
  · exact Store.measure_casStatus
  · exact Store.measure_casStatus.trans Store.measure_casStatus

theorem level_cross : (gift.cross level).level = level + 1 := by
  unfold Pouring.cross
  dsimp only
  split <;> rfl

theorem remaining_cross : (gift.cross level).remaining = gift.remaining := by
  unfold Pouring.cross
  dsimp only
  split <;> rfl

theorem boxes_cross (found : KeyedRows.find TreasureBox.level (level + 1) gift.boxes = some box) :
    (gift.cross level).boxes =
      KeyedRows.update TreasureBox.level (level + 1) (fun box => { box with status := .active })
        gift.boxes := by
  have isNext := KeyedRows.key_of_find found
  unfold Pouring.cross
  dsimp only
  rw [found]
  dsimp only
  rw [isNext]

theorem boxes_cross_of_last
    (missing : KeyedRows.find TreasureBox.level (level + 1) gift.boxes = none) :
    (gift.cross level).boxes = gift.boxes := by
  unfold Pouring.cross
  dsimp only
  rw [missing]

theorem inOrder_cross (inOrder : Store.InOrder levels gift.store) (isFull : gift.store.Full level) :
    Store.InOrder levels (gift.cross level).store := by
  have claimed := inOrder.claimUnlock isFull
  unfold Pouring.cross
  dsimp only
  split
  · exact claimed
  · exact Store.InOrder.activateBox
      ⟨claimed.frames, claimed.within, claimed.taken, claimed.order⟩

theorem progress_casStatus (store : Store) (level : Nat) (source target : TreasureBoxStatus) :
    (store.casStatus level source target).1.boxes.map TreasureBox.progress =
      store.boxes.map TreasureBox.progress := by
  unfold Store.casStatus
  split
  · rfl
  · exact KeyedRows.map_update fun _ => rfl

theorem progress_cross :
    (gift.cross level).store.boxes.map TreasureBox.progress =
      gift.store.boxes.map TreasureBox.progress := by
  have claims := progress_casStatus gift.store level .active .unlocking
  unfold Pouring.cross
  dsimp only
  split
  · exact claims
  · exact (progress_casStatus _ _ _ _).trans claims

theorem currentLevel_casStatus (store : Store) (level : Nat) (source target : TreasureBoxStatus) :
    (store.casStatus level source target).1.currentLevel = store.currentLevel := by
  unfold Store.casStatus
  split <;> rfl

theorem currentLevel_cross (gift : Pouring) (level : Nat) :
    (gift.cross level).store.currentLevel = gift.store.currentLevel ∨
      (gift.cross level).store.currentLevel = level + 1 := by
  unfold Pouring.cross
  dsimp only
  split
  · exact Or.inl (currentLevel_casStatus gift.store level _ _)
  · exact Or.inr (currentLevel_casStatus _ _ _ _)

/-- What the gift knows of the boxes above stays true when it goes up. -/
theorem find_cross {other : Nat} (found : KeyedRows.find TreasureBox.level other
    (gift.cross level).boxes = some box) :
    ∃ old, KeyedRows.find TreasureBox.level other gift.boxes = some old ∧
      (claimed box.status = true → claimed old.status = true) := by
  cases there : KeyedRows.find TreasureBox.level (level + 1) gift.boxes with
  | none =>
      rw [boxes_cross_of_last there] at found
      exact ⟨box, found, id⟩
  | some next =>
      rw [boxes_cross there, find_promoted] at found
      split at found
      · obtain ⟨old, isOld, rfl⟩ := Option.map_eq_some_iff.mp found
        have notClaimed : claimed .active ≠ true := by decide
        exact ⟨old, isOld, fun isClaimed => absurd isClaimed notClaimed⟩
      · exact ⟨box, found, id⟩

theorem measures_cross {other : Nat} :
    (KeyedRows.find TreasureBox.level other (gift.cross level).boxes).map
        (fun box => (box.threshold, box.progress)) =
      (KeyedRows.find TreasureBox.level other gift.boxes).map
        fun box => (box.threshold, box.progress) := by
  cases there : KeyedRows.find TreasureBox.level (level + 1) gift.boxes with
  | none => rw [boxes_cross_of_last there]
  | some next =>
      rw [boxes_cross there, find_promoted]
      split
      · rw [Option.map_map]
        rfl
      · rfl

/-- A box that the gift fills is crossed. -/
theorem Pours.cross (pours : Pours levels gift)
    (found : KeyedRows.find TreasureBox.level gift.level gift.boxes = some box)
    (fills : box.threshold ≤ box.progress + gift.delta box) :
    Pours levels ((gift.poured box).cross box.level) := by
  have isLevel := KeyedRows.key_of_find found
  obtain ⟨inOrder, currentBelow, below⟩ := pours.pour found
  obtain ⟨nonneg, fits⟩ := pours.delta_spec found
  have isFull : (gift.poured box).store.Full gift.level := by
    refine ⟨box.threshold, ?_⟩
    rw [pours.measure_poured found, if_pos rfl]
    exact congrArg some (Prod.ext rfl (Int.le_antisymm fits fills))
  have same : ((gift.poured box).cross gift.level).store.measure =
      (gift.poured box).store.measure := measure_cross
  have higher := (below.succ isFull).of_measure same
  have level_eq : ((gift.poured box).cross gift.level).level = gift.level + 1 := level_cross
  rw [isLevel]
  refine
    { inOrder := inOrder_cross inOrder isFull
      current := ?_
      currentBelow := ?_
      positive := level_eq ▸ Nat.le_succ_of_le pours.positive
      below := level_eq ▸ higher
      nonneg := ?_
      snapshot := ?_
      skips := ?_ }
  · rcases currentLevel_cross (gift.poured box) gift.level with stays | moves
    · rw [stays]
      exact pours.current
    · rw [moves]
      exact Nat.le_add_left 1 _
  · rcases currentLevel_cross (gift.poured box) gift.level with stays | moves
    · rw [stays]
      exact currentBelow.of_measure same
    · rw [moves]
      exact higher
  · rw [remaining_cross]
    have isDelta : gift.delta box ≤ gift.remaining := Int.min_le_left _ _
    exact Int.sub_nonneg_of_le isDelta
  · intro other above
    rw [level_eq] at above
    rw [measures_cross, same, pours.measure_poured found, if_neg (by omega)]
    exact pours.snapshot other (Nat.le_of_succ_le above)
  · intro other known isKnown above isClaimed
    rw [level_eq] at above
    obtain ⟨old, isOld, wasClaimed⟩ := find_cross isKnown
    obtain ⟨amount, filled⟩ :=
      pours.skips other old isOld (Nat.le_of_succ_le above) (wasClaimed isClaimed)
    refine ⟨amount, ?_⟩
    rw [same, pours.measure_poured found, if_neg (by omega)]
    exact filled

/-! ### What a gift adds -/

/-- What the loop has counted of the gift so far. -/
structure Fills (room : Room) (gift : Gift) (filling : Filling) : Prop where
  remaining : filling.remaining + filling.applied = gift.amount
  applied : filling.applied = (filling.deltas.map Prod.snd).sum
  sum : (filling.store.boxes.map TreasureBox.progress).sum =
    (room.store.boxes.map TreasureBox.progress).sum + filling.applied
  progress : ∀ level, filling.store.measure level =
    (room.store.measure level).map fun amounts => (amounts.1, amounts.2 + addedAt level filling.deltas)
  contributions : filling.contributions = room.contributions ++
    if gift.countsTowardRanking then
      filling.deltas.map fun delta => gift.contribution delta.1 delta.2
    else []

theorem addedAt_append (deltas : List (Nat × Int)) (level other : Nat) (delta : Int) :
    addedAt other (deltas ++ [(level, delta)]) =
      addedAt other deltas + if other = level then delta else 0 := by
  unfold addedAt
  rw [List.filter_append, List.map_append, List.sum_append, List.filter_singleton]
  by_cases same : level = other
  · rw [decide_eq_true same, cond_true, if_pos same.symm, List.map_singleton, List.sum_singleton]
  · rw [decide_eq_false same, cond_false, if_neg (Ne.symm same)]
    rfl

/-- What has been counted once a box was poured into. -/
theorem Fills.count {room : Room} {gift : Gift} {filling : Filling}
    (fills : Fills room gift filling) (pours : Pours levels filling.toPouring)
    (found : KeyedRows.find TreasureBox.level filling.level filling.boxes = some box) :
    Fills room gift (filling.count gift box.level (filling.poured box).store
      (filling.delta box)) := by
  have remaining := fills.remaining
  have applied := fills.applied
  have isLevel := KeyedRows.key_of_find found
  refine ⟨?_, ?_, ?_, ?_, ?_⟩
  · change filling.remaining - filling.delta box + (filling.applied + filling.delta box) = _
    omega
  · change filling.applied + filling.delta box =
      ((filling.deltas ++ [(box.level, filling.delta box)]).map Prod.snd).sum
    rw [List.map_append, List.sum_append, ← applied, List.map_singleton, List.sum_singleton]
  · obtain ⟨stored, isStored, same⟩ := Option.map_eq_some_iff.mp (pours.there found)
    have progress : stored.progress = box.progress := congrArg Prod.snd same
    have gain : box.progress + filling.delta box = stored.progress + filling.delta box := by
      rw [progress]
    have gains := KeyedRows.sum_update TreasureBox.progress
      (fun row => { row with progress := box.progress + filling.delta box })
      pours.inOrder.distinct isStored gain
    change (((filling.poured box).store.boxes).map TreasureBox.progress).sum = _ +
      (filling.applied + filling.delta box)
    rw [← Int.add_assoc, ← fills.sum]
    exact gains
  · intro other
    change (filling.poured box).store.measure other = (room.store.measure other).map fun amounts =>
      (amounts.1, amounts.2 + addedAt other (filling.deltas ++ [(box.level, filling.delta box)]))
    rw [pours.measure_poured found, addedAt_append, ← isLevel]
    have before := fills.progress other
    split
    · rename_i same
      rw [same, pours.there found] at before
      obtain ⟨start, isStart, amounts⟩ := Option.map_eq_some_iff.mp before.symm
      obtain ⟨isThreshold, isProgress⟩ := Prod.mk.inj amounts
      rw [same, isStart, Option.map_some, isThreshold, ← Int.add_assoc, isProgress]
    · simp only [Int.add_zero]
      exact before
  · unfold Filling.count
    dsimp only
    rw [fills.contributions]
    split
    · rw [List.map_append, List.append_assoc]
      rfl
    · rfl

theorem Fills.cross {room : Room} {gift : Gift} {filling : Filling}
    (fills : Fills room gift filling) (level : Nat) :
    Fills room gift { filling with toPouring := filling.cross level } := by
  refine ⟨?_, fills.applied, ?_, ?_, fills.contributions⟩
  · change (filling.cross level).remaining + filling.applied = gift.amount
    rw [remaining_cross]
    exact fills.remaining
  · change ((filling.cross level).store.boxes.map TreasureBox.progress).sum = _ + filling.applied
    rw [progress_cross]
    exact fills.sum
  · intro other
    change (filling.cross level).store.measure other = _
    rw [measure_cross]
    exact fills.progress other

/-- The gift is used up, or the boxes are full up to the first level that is missing. -/
structure Filled (levels : EnabledLevels) (room : Room) (gift : Gift) (filling : Filling) :
    Prop where
  inOrder : Store.InOrder levels filling.store
  current : 1 ≤ filling.store.currentLevel
  currentBelow : filling.store.FullBelow filling.store.currentLevel
  nonneg : 0 ≤ filling.remaining
  ended : filling.remaining = 0 ∨
    (filling.store.boxes.map TreasureBox.progress).sum = levels.capacity
  fills : Fills room gift filling

theorem Pours.filled {room : Room} {gift : Gift} {filling : Filling}
    (pours : Pours levels filling.toPouring) (fills : Fills room gift filling)
    (ended : filling.remaining ≤ 0 ∨
      KeyedRows.find TreasureBox.level filling.level filling.boxes = none) :
    Filled levels room gift filling := by
  refine ⟨pours.inOrder, pours.current, pours.currentBelow, pours.nonneg, ?_, fills⟩
  rcases ended with used | missing
  · exact Or.inl (Int.le_antisymm used pours.nonneg)
  · have apart := pours.snapshot filling.level (Nat.le_refl _)
    rw [missing] at apart
    exact Or.inr (pours.inOrder.sum_eq pours.below pours.positive apart.symm)

/-- The turns are enough for every level, so that the loop ends as the source's does. -/
theorem filled_fill {room : Room} {gift : Gift} {turns : Nat} {filling : Filling}
    (pours : Pours levels filling.toPouring) (fills : Fills room gift filling)
    (enough : levels.rows.length + 2 ≤ turns + filling.level) :
    Filled levels room gift (Filling.fill gift turns filling) := by
  induction turns generalizing filling with
  | zero =>
      have few := pours.inOrder.level_le pours.below
      omega
  | succ turns ih =>
      unfold Filling.fill
      split
      · rename_i used
        exact pours.filled fills (Or.inl used)
      · rename_i some
        have positive : 0 < filling.remaining := Int.not_le.mp some
        split
        · rename_i missing
          exact pours.filled fills (Or.inr missing)
        · rename_i box found
          have isLevel := KeyedRows.key_of_find found
          split
          · rename_i isClaimed
            have goesOn : claimed box.status = true := by
              unfold claimed
              rw [Bool.or_eq_true, decide_eq_true_iff, decide_eq_true_iff]
              exact isClaimed.symm
            have higher : levels.rows.length + 2 ≤ turns + (filling.level + 1) := by omega
            have skipped : Fills room gift { filling with level := filling.level + 1 } :=
              ⟨fills.remaining, fills.applied, fills.sum, fills.progress, fills.contributions⟩
            exact ih (pours.skip found goesOn) skipped higher
          · have there := pours.there found
            rw [Store.applyToBox_eq pours.inOrder.distinct there
              (pours.inOrder.within _ _ _ there).2 positive]
            dsimp only
            have counts := fills.count pours found
            split
            · rename_i short
              obtain ⟨inOrder, currentBelow, below⟩ := pours.pour found
              have all : filling.delta box = filling.remaining := by
                change box.progress + filling.delta box < box.threshold at short
                unfold Pouring.delta at short ⊢
                omega
              have none : filling.remaining - filling.delta box = 0 := by omega
              exact ⟨inOrder, pours.current, currentBelow, Int.le_of_eq none.symm, Or.inl none,
                counts⟩
            · rename_i full
              have crossed := pours.cross found (Int.not_lt.mp full)
              refine ih crossed ?_ ?_
              · exact counts.cross box.level
              · rw [level_cross, isLevel]
                omega

/-! ### Runs -/

namespace Room

structure Stands (levels : EnabledLevels) (room : Room) : Prop where
  inOrder : Store.InOrder levels room.store
  current : 1 ≤ room.store.currentLevel
  currentBelow : room.store.FullBelow room.store.currentLevel
  sum : (room.store.boxes.map TreasureBox.progress).sum = min room.total levels.capacity
  counts : (room.counted.map fun counted => (counted.deltas.map Prod.snd).sum) =
    levels.counts room.amounts
  applied : ∀ counted ∈ room.counted,
    counted.applied = asNumber (counted.deltas.map Prod.snd).sum
  positive : ∀ counted ∈ room.counted, 0 < counted.gift.amount
  progress : ∀ level threshold progress, room.store.measure level = some (threshold, progress) →
    progress = (room.counted.map (Counted.at level)).sum
  ranked : ∀ level, ((room.contributions.filter fun row => row.level = level).map
      TreasureContribution.amount).sum =
    ((room.counted.filter fun counted => counted.gift.countsTowardRanking).map
      (Counted.at level)).sum

variable {room : Room}

theorem Stands.pours_started (stands : Stands levels room) {gift : Gift}
    (some : 0 < gift.amount) : Pours levels (room.started gift).toPouring where
  inOrder := stands.inOrder
  current := stands.current
  currentBelow := stands.currentBelow
  positive := stands.current
  below := stands.currentBelow
  nonneg := Int.le_of_lt some
  snapshot := fun _ _ => rfl
  skips := fun level box found _ isClaimed =>
    stands.inOrder.taken level ⟨box.status, congrArg (Option.map TreasureBox.status) found, isClaimed⟩

theorem fills_started (room : Room) (gift : Gift) : Fills room gift (room.started gift) where
  remaining := Int.add_zero _
  applied := rfl
  sum := (Int.add_zero _).symm
  progress := by
    intro level
    change room.store.measure level = _
    cases room.store.measure level with
    | none => rfl
    | some amounts => exact congrArg some (Prod.ext rfl (Int.add_zero _).symm)
  contributions := by
    change room.contributions = _
    split <;> exact (List.append_nil _).symm

/-- The rows that a gift writes carry what it adds to each box. -/
theorem amounts_contributions (gift : Gift) (deltas : List (Nat × Int)) (level : Nat) :
    (((deltas.map fun delta => gift.contribution delta.1 delta.2).filter
      fun row => row.level = level).map TreasureContribution.amount).sum = addedAt level deltas := by
  unfold addedAt
  rw [List.filter_map, List.map_map]
  rfl

theorem Stands.apply (stands : Stands levels room) (gift : Gift) :
    Stands levels (room.apply gift) := by
  unfold Room.apply
  split
  · exact stands
  · rename_i positive
    split
    · exact stands
    · have length : room.store.boxes.length = levels.rows.length := by
        have same := congrArg List.length stands.inOrder.levels_eq
        rwa [List.length_map, List.length_map] at same
      have current := stands.current
      have enough : levels.rows.length + 2 ≤
          room.store.boxes.length + 1 + room.store.currentLevel := by omega
      have filled := filled_fill (stands.pours_started (Int.not_le.mp positive))
        (fills_started room gift) enough
      dsimp only
      generalize Filling.fill gift (room.store.boxes.length + 1) (room.started gift) = after at filled
      have before := stands.sum
      have most := filled.inOrder.sum_le
      have nonneg := filled.nonneg
      obtain ⟨remaining, applied, sum, progress, contributions⟩ := filled.fills
      have isCount : after.applied =
          min gift.amount (levels.capacity - min room.total levels.capacity) := by
        rcases filled.ended with used | full <;> omega
      refine
        { inOrder := filled.inOrder
          current := filled.current
          currentBelow := filled.currentBelow
          sum := ?_
          counts := ?_
          applied := ?_
          positive := ?_
          progress := ?_
          ranked := ?_ }
      · change (after.store.boxes.map TreasureBox.progress).sum =
          min (gift.amount + room.total) levels.capacity
        omega
      · rw [List.map_cons, stands.counts]
        exact congrArg (fun count => count :: levels.counts _) (applied.symm.trans isCount)
      · intro counted member
        rcases List.mem_cons.mp member with rfl | earlier
        · exact congrArg asNumber applied
        · exact stands.applied counted earlier
      · intro counted member
        rcases List.mem_cons.mp member with rfl | earlier
        · exact Int.not_le.mp positive
        · exact stands.positive counted earlier
      · intro level threshold amount found
        change after.store.measure level = _ at found
        rw [progress level] at found
        obtain ⟨start, isStart, amounts⟩ := Option.map_eq_some_iff.mp found
        have was := stands.progress level start.1 start.2 isStart
        have isAmount := (Prod.mk.inj amounts).2
        rw [List.map_cons, List.sum_cons, ← was, ← isAmount, Int.add_comm]
        rfl
      · intro level
        have was := stands.ranked level
        dsimp only
        rw [contributions, List.filter_append, List.map_append, List.sum_append, was,
          List.filter_cons]
        dsimp only
        by_cases ranks : gift.countsTowardRanking = true
        · rw [if_pos ranks, if_pos ranks, amounts_contributions, List.map_cons, List.sum_cons,
            Int.add_comm]
          rfl
        · rw [if_neg ranks, if_neg ranks]
          exact Int.add_zero _

/-- What changes no progress leaves the accounts as they are. -/
theorem Stands.of_store (stands : Stands levels room) {store : Store}
    (inOrder : Store.InOrder levels store) (current : 1 ≤ store.currentLevel)
    (currentBelow : store.FullBelow store.currentLevel)
    (sum : store.boxes.map TreasureBox.progress = room.store.boxes.map TreasureBox.progress)
    (measure : store.measure = room.store.measure) : Stands levels { room with store := store } where
  inOrder := inOrder
  current := current
  currentBelow := currentBelow
  sum := (congrArg List.sum sum).trans stands.sum
  counts := stands.counts
  applied := stands.applied
  positive := stands.positive
  progress := fun level threshold progress found =>
    stands.progress level threshold progress (measure ▸ found)
  ranked := stands.ranked

theorem Stands.casStatus (stands : Stands levels room) {source target : TreasureBoxStatus}
    (inOrder : Store.InOrder levels (room.store.casStatus level source target).1) :
    Stands levels { room with store := (room.store.casStatus level source target).1 } := by
  have same : (room.store.casStatus level source target).1.measure = room.store.measure :=
    Store.measure_casStatus
  refine stands.of_store inOrder ?_ ?_ (progress_casStatus _ _ _ _) same
  · rw [currentLevel_casStatus]
    exact stands.current
  · rw [currentLevel_casStatus]
    exact stands.currentBelow.of_measure same

theorem Stands.transition (stands : Stands levels room) {store : Store}
    {source : List TreasureSessionStatus} {target : TreasureSessionStatus}
    (moved : room.store.transitionSession source target = some store) :
    Stands levels { room with store := store } := by
  unfold Store.transitionSession at moved
  split at moved
  · cases moved
    exact ⟨⟨stands.inOrder.frames, stands.inOrder.within, stands.inOrder.taken,
      stands.inOrder.order⟩, stands.current, stands.currentBelow, stands.sum, stands.counts,
      stands.applied, stands.positive, stands.progress, stands.ranked⟩
  · cases moved

theorem Stands.command (stands : Stands levels room) (source : List TreasureSessionStatus)
    (target : TreasureSessionStatus) : Stands levels (room.command source target) := by
  unfold Room.command
  cases moved : room.store.transitionSession source target with
  | none => exact stands
  | some store => exact stands.transition moved

theorem Stands.start (stands : Stands levels room) : Stands levels room.start := by
  unfold Room.start
  split
  · exact stands
  · rename_i store moved
    have begun := stands.transition moved
    exact begun.casStatus begun.inOrder.activateBox

/-- A box that was claimed is full, so the level after it is one that the gifts have come to. -/
theorem Stands.unlock (stands : Stands levels room) (level : Nat) :
    Stands levels (room.unlock level) := by
  unfold Room.unlock
  split
  · rename_i unlocking
    have inOrder : Store.InOrder levels (room.store.openBox level) := stands.inOrder.openBox
    have opened := stands.casStatus inOrder
    have isFull : room.store.Full level := stands.inOrder.taken level ⟨.unlocking, unlocking, rfl⟩
    have same : (room.store.openBox level).measure = room.store.measure := Store.measure_casStatus
    unfold Store.advance
    split
    · cases moved : (room.store.openBox level).transitionSession Store.unlockable .completed with
      | none => exact opened
      | some store => exact opened.transition moved
    · rename_i next found
      have isNext : next.level = level + 1 := KeyedRows.key_of_find found
      obtain ⟨amount, filled⟩ := isFull
      obtain ⟨box, isBox, amounts⟩ := Option.map_eq_some_iff.mp filled
      have threshold := stands.inOrder.positive (KeyedRows.mem_of_find isBox)
      have isAmount : box.threshold = amount := congrArg Prod.fst amounts
      obtain ⟨positive, below⟩ := stands.inOrder.order level amount amount filled
        (isAmount ▸ threshold)
      have higher : (room.store.openBox level).FullBelow next.level := by
        rw [isNext]
        exact (below.succ ⟨amount, filled⟩).of_measure same
      have set : Stands levels
          { room with store := (room.store.openBox level).setSessionLevel next.level } :=
        opened.of_store ⟨opened.inOrder.frames, opened.inOrder.within, opened.inOrder.taken,
          opened.inOrder.order⟩ (isNext ▸ Nat.le_add_left 1 level) higher rfl rfl
      exact set.casStatus set.inOrder.activateBox
  · exact stands

theorem Stands.chain (stands : Stands levels room) (level : Nat) :
    Stands levels (room.chain level) := by
  unfold Room.chain
  split
  · exact stands
  · rename_i next found
    split
    · exact stands
    · rename_i full
      have there : room.store.measure next.level = some (next.threshold, next.progress) := by
        rw [KeyedRows.key_of_find found]
        exact congrArg (Option.map fun box => (box.threshold, box.progress)) found
      have within := (stands.inOrder.within _ _ _ there).2
      have isFull : room.store.Full next.level :=
        ⟨next.threshold, there.trans (congrArg some
          (Prod.ext rfl (Int.le_antisymm within (Int.not_lt.mp full))))⟩
      exact stands.casStatus (stands.inOrder.claimUnlock isFull)

theorem Stands.step (stands : Stands levels room) (happening : Happening) :
    Stands levels (room.step happening) := by
  cases happening with
  | start => exact stands.start
  | pause => exact stands.command _ _
  | resume => exact stands.command _ _
  | close => exact stands.command _ _
  | gift gift => exact stands.apply gift
  | unlock level => exact stands.unlock level
  | chain level => exact stands.chain level

theorem stands_create (levels : EnabledLevels) : Stands levels (create levels) := by
  have frames : (create levels).store.boxes.map TreasureBox.frame =
      levels.rows.map fun row => (row.level, row.threshold) := List.map_map
  have empty : ∀ box ∈ (create levels).store.boxes, box.progress = 0 ∧ 0 < box.threshold ∧
      box.status = .pending := by
    intro box member
    obtain ⟨row, isRow, rfl⟩ := List.mem_map.mp member
    exact ⟨rfl, levels.positive row isRow, rfl⟩
  have found : ∀ level threshold progress,
      (create levels).store.measure level = some (threshold, progress) →
        progress = 0 ∧ 0 < threshold := by
    intro level threshold progress there
    obtain ⟨box, isBox, amounts⟩ := Option.map_eq_some_iff.mp there
    obtain ⟨isThreshold, isProgress⟩ := Prod.mk.inj amounts
    have isEmpty := empty box (KeyedRows.mem_of_find isBox)
    exact ⟨isProgress ▸ isEmpty.1, isThreshold ▸ isEmpty.2.1⟩
  have nothing : ((create levels).store.boxes.map TreasureBox.progress).sum = 0 :=
    List.sum_eq_zero fun progress member => by
      obtain ⟨box, isBox, rfl⟩ := List.mem_map.mp member
      exact (empty box isBox).1
  have below : (create levels).store.FullBelow 1 :=
    fun lower less positive => absurd positive (Nat.not_le.mpr less)
  refine
    { inOrder := ⟨frames, ?_, ?_, ?_⟩
      current := Nat.le_refl 1
      currentBelow := below
      sum := ?_
      counts := rfl
      applied := fun _ member => absurd member List.not_mem_nil
      positive := fun _ member => absurd member List.not_mem_nil
      progress := fun level threshold progress there => (found level threshold progress there).1
      ranked := fun _ => rfl }
  · intro level threshold progress there
    have bounds := found level threshold progress there
    omega
  · rintro level ⟨status, isStatus, isClaimed⟩
    obtain ⟨box, isBox, rfl⟩ := Option.map_eq_some_iff.mp isStatus
    rw [(empty box (KeyedRows.mem_of_find isBox)).2.2] at isClaimed
    exact absurd isClaimed (by decide)
  · intro level threshold progress there some
    have bounds := found level threshold progress there
    omega
  · have nonneg : 0 ≤ levels.capacity := by
      refine List.sum_nonneg fun amount member => ?_
      obtain ⟨row, isRow, rfl⟩ := List.mem_map.mp member
      split
      · exact Int.le_of_lt (levels.positive row isRow)
      · exact Int.le_refl 0
    rw [nothing]
    exact (Int.min_eq_left nonneg).symm

theorem stands_run (levels : EnabledLevels) (happenings : List Happening) :
    Stands levels ((create levels).run happenings) := by
  unfold run
  generalize isStart : create levels = start
  have stands : Stands levels start := isStart ▸ stands_create levels
  clear isStart
  induction happenings generalizing start with
  | nil => exact stands
  | cons happening rest ih => exact ih _ (stands.step happening)

end Room

/-! ### What gaps cost -/

namespace EnabledLevels

variable (levels : EnabledLevels)

theorem threshold_le {row : VideoRoomTreasureLevel} (member : row ∈ levels.rows) :
    (if levels.Reached row.level then row.threshold else 0) ≤ row.threshold := by
  split
  · exact Int.le_refl _
  · exact Int.le_of_lt (levels.positive row member)

theorem capacity_le : levels.capacity ≤ (levels.rows.map VideoRoomTreasureLevel.threshold).sum :=
  List.sum_le_sum fun _ member => levels.threshold_le member

theorem capacity_of_reached (reached : ∀ row ∈ levels.rows, levels.Reached row.level) :
    levels.capacity = (levels.rows.map VideoRoomTreasureLevel.threshold).sum :=
  congrArg List.sum (List.map_congr_left fun row member => if_pos (reached row member))

theorem capacity_lt {row : VideoRoomTreasureLevel} (member : row ∈ levels.rows)
    (apart : ¬levels.Reached row.level) :
    levels.capacity < (levels.rows.map VideoRoomTreasureLevel.threshold).sum := by
  refine List.sum_lt_sum _ _ (fun _ => levels.threshold_le) ⟨row, member, ?_⟩
  rw [if_neg apart]
  exact levels.positive row member

end EnabledLevels

namespace Room

variable {room : Room}

theorem Stands.count_of_counted (stands : Stands levels room) {counted : Counted}
    (member : counted ∈ room.counted) :
    (counted.deltas.map Prod.snd).sum ∈ levels.counts room.amounts := by
  rw [← stands.counts]
  exact List.mem_map_of_mem (f := fun counted : Counted => (counted.deltas.map Prod.snd).sum) member

theorem Stands.progress_of_mem (stands : Stands levels room) (member : box ∈ room.store.boxes) :
    box.progress = (room.counted.map (Counted.at box.level)).sum :=
  stands.progress box.level _ _ (stands.inOrder.measure_of_mem member)

theorem Stands.within_of_mem (stands : Stands levels room) (member : box ∈ room.store.boxes) :
    box.progress ≤ box.threshold :=
  (stands.inOrder.within box.level _ _ (stands.inOrder.measure_of_mem member)).2

/-- Before the first gift no box holds anything. -/
theorem Stands.sound_of_nothing (stands : Stands levels room) (nothing : room.amounts = []) :
    room.Sound levels := by
  have none : room.counted = [] := List.map_eq_nil_iff.mp nothing
  have empty : ∀ box ∈ room.store.boxes, box.progress = 0 := by
    intro box member
    rw [stands.progress_of_mem member, none]
    rfl
  have sum : (room.store.boxes.map TreasureBox.progress).sum = 0 :=
    List.sum_eq_zero fun progress member => by
      obtain ⟨box, isBox, rfl⟩ := List.mem_map.mp member
      exact empty box isBox
  have isTotal : room.total = 0 := congrArg List.sum nothing
  have isMin := stands.sum
  have most := levels.capacity_le
  refine ⟨by omega, fun _ => stands.within_of_mem, ?_, ?_, fun _ => stands.progress_of_mem,
    stands.ranked⟩
  · intro lower _ higher isHigher _ some
    rw [empty higher isHigher] at some
    exact absurd some (Int.lt_irrefl 0)
  · intro counted member
    rw [none] at member
    exact absurd member List.not_mem_nil

theorem Stands.sound_of_carried (stands : Stands levels room)
    (carried : levels.Carried room.amounts) : room.Sound levels := by
  rcases carried with nothing | ⟨gapless, exact⟩
  · exact stands.sound_of_nothing nothing
  · have most := levels.capacity_le
    have isTotal : room.total = room.amounts.sum := rfl
    refine ⟨?_, fun _ => stands.within_of_mem, ?_, ?_, fun _ => stands.progress_of_mem,
      stands.ranked⟩
    · rw [stands.sum]
      rcases gapless with reached | ⟨few, -⟩
      · rw [levels.capacity_of_reached reached]
      · omega
    · intro lower isLower higher isHigher less some
      obtain ⟨row, isRow, isLevel, -⟩ := stands.inOrder.row_of_mem isLower
      have positive : 1 ≤ lower.level := by
        rcases gapless with reached | ⟨-, positive⟩
        · exact isLevel ▸ (reached row isRow).1
        · exact isLevel ▸ positive row isRow
      obtain ⟨-, below⟩ := stands.inOrder.order _ _ _ (stands.inOrder.measure_of_mem isHigher) some
      obtain ⟨amount, isFull⟩ := below lower.level less positive
      rw [stands.inOrder.measure_of_mem isLower] at isFull
      have amounts := Prod.mk.inj (Option.some.inj isFull)
      exact amounts.2.trans amounts.1.symm
    · intro counted member
      rw [stands.applied counted member]
      exact exact _ (stands.count_of_counted member)

/-- Once something is given some box holds of it. -/
theorem Stands.exists_progress (stands : Stands levels room) (some : 0 < room.total)
    (few : room.total ≤ levels.capacity) : ∃ box ∈ room.store.boxes, 0 < box.progress := by
  have sum := stands.sum
  by_contra none
  have nothing : (room.store.boxes.map TreasureBox.progress).sum = 0 := by
    refine List.sum_eq_zero fun progress member => ?_
    obtain ⟨box, isBox, rfl⟩ := List.mem_map.mp member
    have nonneg := (stands.inOrder.within _ _ _ (stands.inOrder.measure_of_mem isBox)).1
    exact Int.le_antisymm (Int.not_lt.mp fun positive => none ⟨box, isBox, positive⟩) nonneg
  omega

theorem Stands.carried_of_sound (stands : Stands levels room) (sound : room.Sound levels) :
    levels.Carried room.amounts := by
  by_cases nothing : room.amounts = []
  · exact Or.inl nothing
  · refine Or.inr ⟨?_, ?_⟩
    · by_cases reached : ∀ row ∈ levels.rows, levels.Reached row.level
      · exact Or.inl reached
      · right
        rw [not_forall] at reached
        obtain ⟨apart, isApart⟩ := reached
        rw [Classical.not_imp] at isApart
        have less := levels.capacity_lt isApart.1 isApart.2
        have both := stands.sum.symm.trans sound.sum
        have few : room.total ≤ levels.capacity := by omega
        refine ⟨few, fun row member => Nat.one_le_iff_ne_zero.mpr fun isZero => ?_⟩
        have some : 0 < room.total := by
          refine List.sum_pos _ (fun amount isAmount => ?_) nothing
          obtain ⟨counted, isCounted, rfl⟩ := List.mem_map.mp isAmount
          exact stands.positive counted isCounted
        obtain ⟨higher, isHigher, holds⟩ := stands.exists_progress some few
        have above := (stands.inOrder.order _ _ _ (stands.inOrder.measure_of_mem isHigher) holds).1
        have isLevel : row.level ∈ room.store.boxes.map TreasureBox.level := by
          rw [stands.inOrder.levels_eq]
          exact List.mem_map_of_mem member
        obtain ⟨lower, isLower, same⟩ := List.mem_map.mp isLevel
        have full := sound.inOrder lower isLower higher isHigher (by omega) holds
        have threshold := stands.inOrder.positive isLower
        have ordered := (stands.inOrder.order _ _ _ (stands.inOrder.measure_of_mem isLower)
          (by omega)).1
        omega
    · intro count member
      rw [← stands.counts] at member
      obtain ⟨counted, isCounted, rfl⟩ := List.mem_map.mp member
      exact (stands.applied counted isCounted).symm.trans (sound.applied counted isCounted)

/-- The boxes hold what was given, in order, exactly when no gap of the levels was come to. -/
theorem sound_iff_carried (levels : EnabledLevels) (happenings : List Happening) :
    ((create levels).run happenings).Sound levels ↔
      levels.Carried ((create levels).run happenings).amounts :=
  ⟨(stands_run levels happenings).carried_of_sound, (stands_run levels happenings).sound_of_carried⟩

theorem distinct_withoutFirst :
    (([⟨2, 60000⟩, ⟨3, 200000⟩] : List VideoRoomTreasureLevel).map
      VideoRoomTreasureLevel.level).Nodup := by decide

theorem positive_withoutFirst :
    ∀ row ∈ ([⟨2, 60000⟩, ⟨3, 200000⟩] : List VideoRoomTreasureLevel), 0 < row.threshold := by
  decide

/-- The levels of a ladder whose first is not enabled. -/
def withoutFirst : EnabledLevels where
  rows := [⟨2, 60000⟩, ⟨3, 200000⟩]
  distinct := distinct_withoutFirst
  positive := positive_withoutFirst

/-- A gift to it goes nowhere. -/
theorem not_sound_withoutFirst :
    ¬((create withoutFirst).run [.start, .gift ⟨"u1", 5000, "g1", true⟩]).Sound withoutFirst := by
  intro sound
  have sum := sound.sum
  revert sum
  decide +kernel

end Room

end Soulzaa.VideoRooms.Ladders
