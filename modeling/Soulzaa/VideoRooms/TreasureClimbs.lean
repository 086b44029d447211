/-
What gifts and commands change of a treasure ladder: boxes go up from PENDING to UNLOCKING, and
nothing is paid.
-/

import Soulzaa.VideoRooms.TreasureUnlocks

namespace Soulzaa.VideoRooms.Ladders

open Treasure (TreasureBoxStatus TreasureSessionStatus)

/-- What of a box never changes. -/
def TreasureBox.frame (box : TreasureBox) : Nat × Int := (box.level, box.threshold)

def claimed (status : TreasureBoxStatus) : Bool := status = .unlocking || status = .opened

namespace Store

def statusOf (store : Store) (level : Nat) : Option TreasureBoxStatus :=
  (store.getBox level).map TreasureBox.status

/-- The box of the level has been claimed by who fills it. -/
def Claimed (store : Store) (level : Nat) : Prop :=
  ∃ status ∈ store.statusOf level, claimed status = true

/-- A later store, to which nothing has been paid. -/
structure Climbs (before after : Store) : Prop where
  pools : after.pools = before.pools
  winners : after.winners = before.winners
  rewards : after.rewards = before.rewards
  credits : after.credits = before.credits
  rules : after.rules = before.rules
  frames : after.boxes.map TreasureBox.frame = before.boxes.map TreasureBox.frame
  opened : ∀ level, after.statusOf level = some .opened ↔ before.statusOf level = some .opened
  claimed : ∀ level, before.Claimed level → after.Claimed level

variable {before after store : Store} {level other : Nat}

theorem Climbs.refl (store : Store) : Climbs store store :=
  ⟨rfl, rfl, rfl, rfl, rfl, rfl, fun _ => Iff.rfl, fun _ => id⟩

theorem Climbs.trans {last : Store} (first : Climbs before after) (second : Climbs after last) :
    Climbs before last where
  pools := second.pools.trans first.pools
  winners := second.winners.trans first.winners
  rewards := second.rewards.trans first.rewards
  credits := second.credits.trans first.credits
  rules := second.rules.trans first.rules
  frames := second.frames.trans first.frames
  opened := fun level => (second.opened level).trans (first.opened level)
  claimed := fun level was => second.claimed level (first.claimed level was)

/-! ### Statements -/

theorem getBox_changeBox {change : TreasureBox → TreasureBox}
    (keeps : KeyedRows.KeepsKey TreasureBox.level change) :
    (store.changeBox level change).getBox other =
      if other = level then (store.getBox other).map change else store.getBox other := by
  unfold getBox changeBox
  rw [KeyedRows.find_update_eq_ite keeps]

theorem statusOf_setStatus {status : TreasureBoxStatus} :
    (store.setStatus level status).statusOf other =
      if other = level then (store.statusOf other).map fun _ => status else store.statusOf other := by
  have keeps : KeyedRows.KeepsKey TreasureBox.level
      fun box => { box with status := status } := fun _ => rfl
  unfold statusOf setStatus
  rw [getBox_changeBox keeps]
  split
  · rw [Option.map_map, Option.map_map]
    rfl
  · rfl

theorem frames_changeBox {change : TreasureBox → TreasureBox}
    (keeps : ∀ box, (change box).frame = box.frame) :
    (store.changeBox level change).boxes.map TreasureBox.frame =
      store.boxes.map TreasureBox.frame :=
  KeyedRows.map_update keeps

/-- A conditional update changes nothing, or finds the status that it asks for. -/
theorem casStatus_spec (store : Store) (level : Nat) (source target : TreasureBoxStatus) :
    (store.casStatus level source target = (store, false) ∧
        store.statusOf level ≠ some source) ∨
      (store.casStatus level source target = (store.setStatus level target, true) ∧
        store.statusOf level = some source) := by
  unfold casStatus statusOf
  cases found : store.getBox level with
  | none => exact .inl ⟨rfl, nofun⟩
  | some box =>
      by_cases isSource : box.status = source
      · refine .inr ⟨?_, congrArg some isSource⟩
        rw [Option.filter_some, decide_eq_true isSource]
        rfl
      · refine .inl ⟨?_, fun same => isSource (Option.some.inj same)⟩
        rw [Option.filter_some, decide_eq_false isSource]
        rfl

/-- A box that has not been opened is not opened by going up. -/
theorem climbs_setStatus {source target : TreasureBoxStatus}
    (found : store.statusOf level = some source) (notOpened : source ≠ .opened)
    (notOpens : target ≠ .opened) (goesUp : claimed source = true → claimed target = true) :
    Climbs store (store.setStatus level target) := by
  refine ⟨rfl, rfl, rfl, rfl, rfl, frames_changeBox fun _ => rfl, ?_, ?_⟩
  · intro other
    rw [statusOf_setStatus]
    split
    · rename_i same
      rw [same, found]
      exact iff_of_false (fun opens => notOpens (Option.some.inj opens))
        (fun opened => notOpened (Option.some.inj opened))
    · exact Iff.rfl
  · rintro other ⟨status, isStatus, was⟩
    unfold Claimed
    rw [statusOf_setStatus]
    split
    · rename_i same
      rw [same, found] at isStatus
      obtain rfl : source = status := Option.some.inj isStatus
      rw [same, found]
      exact ⟨target, rfl, goesUp was⟩
    · exact ⟨status, isStatus, was⟩

theorem climbs_casStatus {source target : TreasureBoxStatus} (notOpened : source ≠ .opened)
    (notOpens : target ≠ .opened) (goesUp : claimed source = true → claimed target = true) :
    Climbs store (store.casStatus level source target).1 := by
  rcases casStatus_spec store level source target with
    ⟨same, -⟩ | ⟨moved, found⟩
  · rw [same]
    exact .refl store
  · rw [moved]
    exact climbs_setStatus found notOpened notOpens goesUp

theorem climbs_claimUnlock : Climbs store (store.claimUnlock level).1 :=
  climbs_casStatus nofun nofun fun _ => rfl

theorem climbs_activateBox : Climbs store (store.activateBox level) :=
  climbs_casStatus nofun nofun nofun

theorem climbs_setSessionLevel : Climbs store (store.setSessionLevel level) :=
  ⟨rfl, rfl, rfl, rfl, rfl, rfl, fun _ => Iff.rfl, fun _ => id⟩

theorem climbs_transitionSession {source : List TreasureSessionStatus}
    {target : TreasureSessionStatus} {next : Store}
    (moved : store.transitionSession source target = some next) : Climbs store next := by
  unfold transitionSession at moved
  split at moved
  · obtain rfl := Option.some.inj moved
    exact ⟨rfl, rfl, rfl, rfl, rfl, rfl, fun _ => Iff.rfl, fun _ => id⟩
  · cases moved

theorem climbs_getD_transitionSession (source : List TreasureSessionStatus)
    (target : TreasureSessionStatus) :
    Climbs store ((store.transitionSession source target).getD store) := by
  cases moved : store.transitionSession source target with
  | none => exact .refl store
  | some next => exact climbs_transitionSession moved

theorem climbs_advance : Climbs store (store.advance level) := by
  unfold advance
  split
  · exact climbs_getD_transitionSession _ _
  · exact climbs_setSessionLevel.trans climbs_activateBox

theorem statusOf_changeProgress {progress : Int} :
    (store.changeBox level fun box => { box with progress := progress }).statusOf other =
      store.statusOf other := by
  have keeps : KeyedRows.KeepsKey TreasureBox.level
      fun box => { box with progress := progress } := fun _ => rfl
  unfold statusOf
  rw [getBox_changeBox keeps]
  split
  · rw [Option.map_map]
    rfl
  · rfl

theorem climbs_addProgress {observed delta : Int} {next : Store}
    (added : store.addProgress level observed delta = some next) : Climbs store next := by
  unfold addProgress at added
  split at added
  · cases added
  · obtain rfl := Option.some.inj added
    refine ⟨rfl, rfl, rfl, rfl, rfl, frames_changeBox fun _ => rfl, ?_, ?_⟩
    · intro other
      rw [statusOf_changeProgress]
    · rintro other ⟨status, isStatus, was⟩
      exact ⟨status, by rw [statusOf_changeProgress]; exact isStatus, was⟩

/-! ### A gift -/

theorem climbs_applyToBox {remaining delta : Int} {attempts : Nat} {box updated : TreasureBox}
    {next : Store}
    (applied : store.applyToBox remaining attempts box = some (next, updated, delta)) :
    Climbs store next := by
  induction attempts generalizing box with
  | zero => cases applied
  | succ attempts ih =>
      unfold applyToBox at applied
      dsimp only at applied
      split at applied
      · cases applied
        exact .refl store
      · split at applied
        · rename_i added
          cases applied
          exact climbs_addProgress added
        · split at applied
          · cases applied
          · exact ih applied

end Store

theorem Pouring.climbs_cross (gift : Pouring) (level : Nat) :
    Store.Climbs gift.store (gift.cross level).store := by
  unfold cross
  dsimp only
  split
  · exact Store.climbs_claimUnlock
  · exact Store.climbs_claimUnlock.trans
      (Store.climbs_setSessionLevel.trans Store.climbs_activateBox)

theorem Pouring.climbs_pour (contended : List Nat) (turns : Nat) (gift : Pouring) :
    Store.Climbs gift.store (Pouring.pour contended turns gift).store := by
  induction turns generalizing gift with
  | zero => exact .refl gift.store
  | succ turns ih =>
      unfold pour
      split
      · exact .refl gift.store
      · split
        · exact .refl gift.store
        · rename_i box found
          split
          · exact ih { gift with level := gift.level + 1 }
          · split
            · exact .refl gift.store
            · split
              · exact .refl gift.store
              · rename_i store updated delta applied
                have climbs := Store.climbs_applyToBox applied
                dsimp only
                split
                · exact climbs
                · have crossed := Pouring.climbs_cross
                    { gift with store := store, remaining := gift.remaining - delta } box.level
                  exact climbs.trans (crossed.trans (ih _))

theorem Store.climbs_apply {store : Store} {boxes : List TreasureBox} {level : Nat} {amount : Int}
    {contended : List Nat} :
    Store.Climbs store (store.apply boxes level amount contended).store :=
  Pouring.climbs_pour contended (boxes.length + 1)
    { store := store, boxes := boxes, level := level, remaining := amount }

end Soulzaa.VideoRooms.Ladders
