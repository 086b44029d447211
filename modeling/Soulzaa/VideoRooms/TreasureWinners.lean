/-
The draws of a treasure box's winners.

A weighted draw walks down the pool as it is listed, so what a roll picks depends on the order,
unless one user outweighs all the others together and the roll falls where it is his in every
order.  The ranking by contribution does not depend on the order.
-/

import Mathlib.Data.List.Sort
import Mathlib.Data.String.Basic
import Soulzaa.Lib.Binary64
import Soulzaa.VideoRooms.TreasureLadder

namespace Soulzaa.VideoRooms.Winners

open Ladders (TreasureWinnerAlgorithm)
open Binary64 (addUp exactLimit)

/-! ### The service -/

/-- Ids are lower-case uuids, which `localeCompare` orders as strings. -/
structure WinnerSelectionInput where
  eligible : List UserId
  distinct : eligible.Nodup
  want : Nat
  seed : String
  contributions : UserId → Option Int
  activity : UserId → Option Int
  vipTiers : UserId → Option Int

def nextState (state : BitVec 32) : BitVec 32 := state + 0x6d2b79f5

/-- The state's random number, in parts of 2 ^ 32. -/
def random (state : BitVec 32) : Nat :=
  let t := (state ^^^ (state >>> 15)) * (state ||| 1)
  let t := t ^^^ (t + (t ^^^ (t >>> 7)) * (t ||| 61))
  (t ^^^ (t >>> 14)).toNat

def parts : Int := 2 ^ 32

/-- The roll in parts of 2 ^ 32, which takes no more bits than the roll. -/
def rollOf (random : Nat) (total : Int) : Int := Binary64.round (random * total)

/-- The first entry at which the roll is used up, or else the last. -/
def pickIndex (roll : Int) : List Int → Nat
  | [] => 0
  | weight :: rest =>
      let left := Binary64.sub roll (parts * weight)
      if left ≤ 0 ∨ rest = [] then 0 else pickIndex left rest + 1

def drawIndex (weightOf : UserId → Int) (state : BitVec 32) (pool : List UserId) : Nat :=
  let weights := pool.map weightOf
  pickIndex (rollOf (random state) (addUp 0 weights)) weights

def weightedDraw (weightOf : UserId → Int) : Nat → BitVec 32 → List UserId → List UserId
  | 0, _, _ => []
  | take + 1, state, pool =>
      let index := drawIndex weightOf (nextState state) pool
      match pool[index]? with
      | none => []
      | some winner => winner :: weightedDraw weightOf take (nextState state) (pool.eraseIdx index)

namespace WinnerSelectionInput

/-- Every eligible user weighs 1 at least. -/
def weightOf (input : WinnerSelectionInput) (algorithm : TreasureWinnerAlgorithm)
    (userId : UserId) : Int :=
  max 1 (Binary64.round (match algorithm with
    | .weightedRandom => (input.contributions userId).getD 0
    | .activityBased => (input.activity userId).getD 0
    | .vipPriority => 1 + (input.vipTiers userId).getD 0 * 2
    | _ => 1))

def contribution (input : WinnerSelectionInput) (userId : UserId) : Int :=
  (input.contributions userId).getD 0

/-- The greater contribution comes first, and of equal ones the lesser id. -/
def before (input : WinnerSelectionInput) (one two : UserId) : Bool :=
  input.contribution two < input.contribution one ||
    (input.contribution one = input.contribution two && one ≤ two)

def select (sha256 : String → BitVec 32) (algorithm : TreasureWinnerAlgorithm)
    (input : WinnerSelectionInput) : List UserId :=
  if input.eligible = [] then []
  else
    match algorithm with
    | .contributionBased => (input.eligible.mergeSort input.before).take input.want
    | _ =>
        weightedDraw (input.weightOf algorithm) (min input.want input.eligible.length)
          (sha256 input.seed) input.eligible

def listed (input : WinnerSelectionInput) (other : List UserId)
    (perm : other.Perm input.eligible) : WinnerSelectionInput :=
  { input with
    eligible := other
    distinct := perm.nodup_iff.mpr input.distinct }

/-! ### The property -/

structure Fair (sha256 : String → BitVec 32) (algorithm : TreasureWinnerAlgorithm)
    (input : WinnerSelectionInput) : Prop where
  count : (input.select sha256 algorithm).length = min input.want input.eligible.length
  different : (input.select sha256 algorithm).Nodup
  eligible : ∀ winner ∈ input.select sha256 algorithm, winner ∈ input.eligible
  ranked : algorithm = .contributionBased → ∀ winner ∈ input.select sha256 algorithm,
    ∀ user ∈ input.eligible, user ∉ input.select sha256 algorithm →
      input.contribution user ≤ input.contribution winner
  reproducible : ∀ other (perm : other.Perm input.eligible),
    (input.listed other perm).select sha256 algorithm = input.select sha256 algorithm

end WinnerSelectionInput

section Draws

variable (weightOf : UserId → Int)

def total (pool : List UserId) : Int := (pool.map weightOf).sum

/-- The roll falls within the user's weight, and beyond those of all the others together. -/
def Carries (random : Nat) (pool : List UserId) (user : UserId) : Prop :=
  parts * (total weightOf pool - weightOf user) < rollOf random (total weightOf pool) ∧
    rollOf random (total weightOf pool) ≤ parts * weightOf user

/-- At each draw but the last that is possible one user carries it. -/
def Dominated : Nat → BitVec 32 → List UserId → Prop
  | 0, _, _ => True
  | take + 1, state, pool =>
      pool.length ≤ 1 ∨ ∃ user ∈ pool, Carries weightOf (random (nextState state)) pool user ∧
        Dominated take (nextState state) (pool.erase user)

end Draws

namespace WinnerSelectionInput

/-- The weights add up exactly. -/
def Exact (algorithm : TreasureWinnerAlgorithm) (input : WinnerSelectionInput) : Prop :=
  total (input.weightOf algorithm) input.eligible < exactLimit

/-- The ranking, a draw of or among at most one, or a draw that is carried throughout. -/
def Settled (sha256 : String → BitVec 32) (algorithm : TreasureWinnerAlgorithm)
    (input : WinnerSelectionInput) : Prop :=
  algorithm = .contributionBased ∨ input.want = 0 ∨ input.eligible.length ≤ 1 ∨
    input.Exact algorithm ∧
      Dominated (input.weightOf algorithm) (min input.want input.eligible.length)
        (sha256 input.seed) input.eligible

end WinnerSelectionInput

/-! ### Picks -/

theorem pickIndex_cons (roll weight : Int) (rest : List Int) :
    pickIndex roll (weight :: rest) =
      if Binary64.sub roll (parts * weight) ≤ 0 ∨ rest = [] then 0
      else pickIndex (Binary64.sub roll (parts * weight)) rest + 1 := rfl

theorem pickIndex_lt {weights : List Int} (some : weights ≠ []) (roll : Int) :
    pickIndex roll weights < weights.length := by
  induction weights generalizing roll with
  | nil => exact absurd rfl some
  | cons weight rest ih =>
      rw [pickIndex_cons]
      split
      · exact Nat.succ_pos _
      · rename_i goesOn
        rw [not_or] at goesOn
        exact Nat.succ_lt_succ (ih goesOn.2 _)

/-- A roll within the first weight picks the first, and of several only such a roll does. -/
theorem pickIndex_eq_zero_iff {weight : Int} {rest : List Int} (several : rest ≠ []) (roll : Int) :
    pickIndex roll (weight :: rest) = 0 ↔ roll ≤ parts * weight := by
  have left : Binary64.sub roll (parts * weight) ≤ 0 ↔ roll ≤ parts * weight := by
    unfold Binary64.sub
    rw [Binary64.round_nonpos_iff]
    omega
  rw [pickIndex_cons]
  split
  · rename_i within
    exact iff_of_true rfl (left.mp (within.resolve_right several))
  · rename_i beyond
    exact iff_of_false (Nat.succ_ne_zero _) fun within => beyond (Or.inl (left.mpr within))

/-- A number that takes 53 bits of a unit, of which the parts are a multiple. -/
def Grained (roll : Int) : Prop :=
  ∃ bits, bits ≤ 32 ∧ (2 ^ bits : Int) ∣ roll ∧ 0 ≤ roll ∧ roll ≤ 2 ^ (bits + 53)

/-- Of such a number the parts of a lesser weight are taken exactly. -/
theorem Grained.sub_spec {roll weight : Int} (grained : Grained roll) (positive : 0 ≤ weight)
    (beyond : parts * weight < roll) :
    Binary64.sub roll (parts * weight) = roll - parts * weight ∧
      Grained (roll - parts * weight) := by
  obtain ⟨bits, few, divides, _, small⟩ := grained
  have unit : (2 ^ bits : Int) ∣ parts * weight :=
    Dvd.dvd.mul_right (pow_dvd_pow 2 few) weight
  have divided := Int.dvd_sub divides unit
  have nonneg : 0 ≤ parts * weight := Int.mul_nonneg (by decide) positive
  have atMost : roll - parts * weight ≤ 2 ^ (bits + 53) := by omega
  refine ⟨?_, bits, few, divided, by omega, atMost⟩
  unfold Binary64.sub Binary64.round
  have lies : 0 < roll - parts * weight := by omega
  generalize roll - parts * weight = left at lies divided atMost
  obtain ⟨n, rfl⟩ := Int.eq_ofNat_of_zero_le (Int.le_of_lt lies)
  have natDivides : 2 ^ bits ∣ n := by exact_mod_cast divided
  have natSmall : n ≤ 2 ^ (bits + 53) := by exact_mod_cast atMost
  rw [Int.natAbs_natCast, Binary64.roundNat_of_dvd natDivides natSmall,
    Int.sign_eq_one_of_pos lies, Int.one_mul]

theorem grained_rollOf {number : Nat} (drawn : number < 2 ^ 32) {sum : Int} (nonneg : 0 ≤ sum)
    (exact : sum < exactLimit) : Grained (rollOf number sum) := by
  obtain ⟨whole, rfl⟩ := Int.eq_ofNat_of_zero_le nonneg
  have isNat : rollOf number whole = (Binary64.roundNat (number * whole) : Nat) := by
    unfold rollOf Binary64.round
    rw [← Int.natCast_mul, Int.natAbs_natCast]
    rcases Nat.eq_zero_or_pos (number * whole) with isZero | isPositive
    · rw [isZero]
      rfl
    · rw [Int.sign_eq_one_of_pos (by exact_mod_cast isPositive), Int.one_mul]
  obtain ⟨bits, few, divides, small⟩ := Binary64.roundNat_grained (number * whole)
  have below : number * whole < 2 ^ 85 := by
    have wholeBelow : whole < 2 ^ 53 := by exact_mod_cast exact
    calc number * whole ≤ number * 2 ^ 53 := Nat.mul_le_mul_left _ (Nat.le_of_lt wholeBelow)
      _ < 2 ^ 32 * 2 ^ 53 := Nat.mul_lt_mul_of_pos_right drawn (by decide)
      _ = 2 ^ 85 := by decide
  have log : (number * whole).log2 ≤ 84 := by
    rcases Nat.eq_zero_or_pos (number * whole) with isZero | isPositive
    · rw [isZero]
      decide
    · exact Nat.le_of_lt_succ ((Nat.log2_lt (Nat.ne_of_gt isPositive)).mpr below)
  rw [isNat]
  exact ⟨bits, by omega, by exact_mod_cast divides, Int.natCast_nonneg _,
    by exact_mod_cast small⟩

/-- Weights that are used up are passed over. -/
theorem pickIndex_append {front back : List Int} (several : back ≠ []) {roll : Int}
    (grained : Grained roll) (positive : ∀ weight ∈ front, 0 ≤ weight)
    (beyond : parts * front.sum < roll) :
    pickIndex roll (front ++ back) = front.length + pickIndex (roll - parts * front.sum) back := by
  induction front generalizing roll with
  | nil =>
      rw [List.nil_append, List.sum_nil, Int.mul_zero, Int.sub_zero, List.length_nil, Nat.zero_add]
  | cons weight rest ih =>
      have others : ∀ other ∈ rest, 0 ≤ other :=
        fun other member => positive other (List.mem_cons_of_mem weight member)
      have own := positive weight List.mem_cons_self
      have restNonneg : 0 ≤ parts * rest.sum :=
        Int.mul_nonneg (by decide) (List.sum_nonneg others)
      rw [List.sum_cons, Int.mul_add] at beyond ⊢
      obtain ⟨isLeft, still⟩ := grained.sub_spec own (by omega)
      have goesOn : rest ++ back ≠ [] := fun empty => several (List.append_eq_nil_iff.mp empty).2
      have notHere : ¬(roll - parts * weight ≤ 0 ∨ rest ++ back = []) := by
        rw [not_or]
        exact ⟨by omega, goesOn⟩
      rw [List.cons_append, pickIndex_cons, isLeft, if_neg notHere, ih still others (by omega),
        List.length_cons, Int.sub_sub]
      omega

/-- A roll that the weights before the last use up does not pick the last. -/
theorem pickIndex_lt_front {front : List Int} (some : front ≠ []) (last : Int) {roll : Int}
    (grained : Grained roll) (positive : ∀ weight ∈ front, 0 ≤ weight)
    (within : roll ≤ parts * front.sum) : pickIndex roll (front ++ [last]) < front.length := by
  induction front generalizing roll with
  | nil => exact absurd rfl some
  | cons weight rest ih =>
      have goesOn : rest ++ [last] ≠ [] :=
        List.append_ne_nil_of_right_ne_nil _ (List.cons_ne_nil _ _)
      rw [List.cons_append]
      by_cases first : roll ≤ parts * weight
      · rw [(pickIndex_eq_zero_iff goesOn roll).mpr first]
        exact Nat.succ_pos _
      · obtain ⟨isLeft, still⟩ :=
          grained.sub_spec (positive weight List.mem_cons_self) (Int.not_le.mp first)
        rw [List.sum_cons, Int.mul_add] at within
        have more : rest ≠ [] := by
          intro empty
          rw [empty, List.sum_nil, Int.mul_zero] at within
          omega
        have notHere : ¬(roll - parts * weight ≤ 0 ∨ rest ++ [last] = []) := by
          rw [not_or]
          exact ⟨by omega, goesOn⟩
        rw [pickIndex_cons, isLeft, if_neg notHere, List.length_cons]
        exact Nat.succ_lt_succ (ih more still
          (fun other member => positive other (List.mem_cons_of_mem weight member)) (by omega))

/-! ### Draws -/

section Draws

variable {weightOf : UserId → Int}

variable (weightOf) in
theorem exists_picked {pool : List UserId} (some : pool ≠ []) (state : BitVec 32) :
    ∃ winner ∈ pool, pool[drawIndex weightOf state pool]? = Option.some winner := by
  have bound : drawIndex weightOf state pool < pool.length := by
    have weighted : pool.map weightOf ≠ [] := fun empty => some (List.map_eq_nil_iff.mp empty)
    have within := pickIndex_lt weighted (rollOf (random state) (addUp 0 (pool.map weightOf)))
    rwa [List.length_map] at within
  exact ⟨_, List.getElem_mem bound, List.getElem?_eq_getElem bound⟩

theorem weightedDraw_succ {pool : List UserId} (distinct : pool.Nodup) {state : BitVec 32}
    {winner : UserId}
    (picked : pool[drawIndex weightOf (nextState state) pool]? = some winner) (take : Nat) :
    weightedDraw weightOf (take + 1) state pool =
      winner :: weightedDraw weightOf take (nextState state) (pool.erase winner) := by
  obtain ⟨bound, isWinner⟩ := List.getElem?_eq_some_iff.mp picked
  rw [weightedDraw, picked, ← isWinner, distinct.erase_getElem _ bound]

theorem weightedDraw_spec {take : Nat} {pool : List UserId} (distinct : pool.Nodup)
    (enough : take ≤ pool.length) (state : BitVec 32) :
    (weightedDraw weightOf take state pool).length = take ∧
      (weightedDraw weightOf take state pool).Nodup ∧
      ∀ winner ∈ weightedDraw weightOf take state pool, winner ∈ pool := by
  induction take generalizing state pool with
  | zero => exact ⟨rfl, List.nodup_nil, fun winner member => absurd member List.not_mem_nil⟩
  | succ take ih =>
      have some : pool ≠ [] := List.ne_nil_of_length_pos (Nat.lt_of_lt_of_le take.succ_pos enough)
      obtain ⟨winner, member, picked⟩ := exists_picked weightOf some (nextState state)
      have left : take ≤ (pool.erase winner).length := by
        rw [List.length_erase_of_mem member]
        omega
      obtain ⟨count, different, among⟩ := ih (distinct.erase winner) left (nextState state)
      rw [weightedDraw_succ distinct picked take]
      refine ⟨congrArg Nat.succ count, List.nodup_cons.mpr ⟨?_, different⟩, ?_⟩
      · intro again
        exact (distinct.mem_erase_iff.mp (among winner again)).1 rfl
      · intro other chosen
        rcases List.mem_cons.mp chosen with isWinner | later
        · exact isWinner ▸ member
        · exact List.mem_of_mem_erase (among other later)

theorem perm_eq_of_length_le_one {pool other : List UserId} (few : pool.length ≤ 1)
    (perm : other.Perm pool) : other = pool := by
  rcases Nat.le_one_iff_eq_zero_or_eq_one.mp few with none | one
  · rw [List.length_eq_zero_iff.mp none] at perm ⊢
    exact perm.eq_nil
  · obtain ⟨user, isPool⟩ := List.length_eq_one_iff.mp one
    rw [isPool] at perm ⊢
    exact List.perm_singleton.mp perm

theorem total_perm {pool other : List UserId} (perm : other.Perm pool) :
    total weightOf other = total weightOf pool :=
  (perm.map weightOf).sum_eq

theorem total_erase {pool : List UserId} {user : UserId} (member : user ∈ pool) :
    total weightOf (pool.erase user) = total weightOf pool - weightOf user := by
  rw [← total_perm (List.perm_cons_erase member).symm]
  unfold total
  rw [List.map_cons, List.sum_cons]
  omega

variable (least : ∀ user, 1 ≤ weightOf user)

include least

theorem total_nonneg (pool : List UserId) : 0 ≤ total weightOf pool := by
  apply List.sum_nonneg
  intro weight member
  obtain ⟨user, -, rfl⟩ := List.mem_map.mp member
  exact Int.le_trans (by decide) (least user)

theorem total_erase_lt {pool : List UserId} {user : UserId} (member : user ∈ pool)
    (exact : total weightOf pool < exactLimit) :
    total weightOf (pool.erase user) < exactLimit := by
  have own := least user
  rw [total_erase member]
  omega

theorem map_nonneg (pool : List UserId) : ∀ weight ∈ pool.map weightOf, 0 ≤ weight := by
  intro weight member
  obtain ⟨user, -, rfl⟩ := List.mem_map.mp member
  exact Int.le_trans (by decide) (least user)

theorem drawIndex_eq {pool : List UserId} (exact : total weightOf pool < exactLimit)
    (state : BitVec 32) :
    drawIndex weightOf state pool =
      pickIndex (rollOf (random state) (total weightOf pool)) (pool.map weightOf) := by
  have small : 0 + (pool.map weightOf).sum ≤ exactLimit := by
    rw [Int.zero_add]
    exact Int.le_of_lt exact
  unfold drawIndex
  dsimp only
  rw [Binary64.addUp_eq (Int.le_refl 0) (map_nonneg least pool) small, Int.zero_add]
  rfl

theorem grained_roll {pool : List UserId} (exact : total weightOf pool < exactLimit)
    (state : BitVec 32) : Grained (rollOf (random state) (total weightOf pool)) :=
  grained_rollOf (BitVec.isLt _) (total_nonneg least pool) exact

/-- Who carries the draw is picked wherever the list has him. -/
theorem picked_of_carries {pool : List UserId} (exact : total weightOf pool < exactLimit)
    {state : BitVec 32} {user : UserId} (member : user ∈ pool)
    (carries : Carries weightOf (random state) pool user) :
    pool[drawIndex weightOf state pool]? = some user := by
  rw [drawIndex_eq least exact state]
  have grained := grained_roll least exact state
  obtain ⟨beyond, within⟩ := carries
  generalize rollOf (random state) (total weightOf pool) = roll at grained beyond within
  obtain ⟨front, back, rfl⟩ := List.append_of_mem member
  have behind := total_nonneg least back
  have splits : total weightOf (front ++ user :: back) =
      total weightOf front + (weightOf user + total weightOf back) := by
    unfold total
    rw [List.map_append, List.sum_append, List.map_cons, List.sum_cons]
  have passes : parts * (front.map weightOf).sum < roll := by
    rw [splits] at beyond
    refine Int.lt_of_le_of_lt (Int.mul_le_mul_of_nonneg_left ?_ (by decide)) beyond
    change total weightOf front ≤ _
    omega
  have nonneg : 0 ≤ parts * (front.map weightOf).sum :=
    Int.mul_nonneg (by decide) (total_nonneg least front)
  have here : pickIndex (roll - parts * (front.map weightOf).sum)
      (weightOf user :: back.map weightOf) = 0 := by
    by_cases several : back.map weightOf = []
    · rw [pickIndex_cons, if_pos (Or.inr several)]
    · exact (pickIndex_eq_zero_iff several _).mpr (by omega)
  rw [List.map_append, List.map_cons,
    pickIndex_append (List.cons_ne_nil _ _) grained (map_nonneg least front) passes, here,
    Nat.add_zero, List.length_map, List.getElem?_append_right (Nat.le_refl _), Nat.sub_self]
  rfl

theorem weightedDraw_perm {take : Nat} {pool other : List UserId} (distinct : pool.Nodup)
    (exact : total weightOf pool < exactLimit) (perm : other.Perm pool) {state : BitVec 32}
    (dominated : Dominated weightOf take state pool) :
    weightedDraw weightOf take state other = weightedDraw weightOf take state pool := by
  induction take generalizing state pool other with
  | zero => rfl
  | succ take ih =>
      rcases dominated with few | ⟨user, member, carries, later⟩
      · rw [perm_eq_of_length_le_one few perm]
      · have same : Carries weightOf (random (nextState state)) other user := by
          unfold Carries
          rw [total_perm perm]
          exact carries
        have otherExact : total weightOf other < exactLimit := by
          rw [total_perm perm]
          exact exact
        rw [weightedDraw_succ distinct (picked_of_carries least exact member carries),
          weightedDraw_succ (perm.nodup_iff.mpr distinct)
            (picked_of_carries least otherExact (perm.mem_iff.mpr member) same),
          ih (distinct.erase user) (total_erase_lt least member exact) (perm.erase user) later]

/-- Of two users or more, who is picked both as the first and as the last carries the draw. -/
theorem carries_of_perm {pool : List UserId} (several : 1 < pool.length) (distinct : pool.Nodup)
    (exact : total weightOf pool < exactLimit) {state : BitVec 32} {winner : UserId}
    (member : winner ∈ pool)
    (everywhere : ∀ other : List UserId, other.Perm pool →
      other[drawIndex weightOf state other]? = some winner) :
    Carries weightOf (random state) pool winner := by
  have others : pool.erase winner ≠ [] := by
    apply List.ne_nil_of_length_pos
    rw [List.length_erase_of_mem member]
    omega
  have mapped : (pool.erase winner).map weightOf ≠ [] :=
    fun empty => others (List.map_eq_nil_iff.mp empty)
  have absent : winner ∉ pool.erase winner :=
    fun again => (distinct.mem_erase_iff.mp again).1 rfl
  have sum : ((pool.erase winner).map weightOf).sum = total weightOf pool - weightOf winner :=
    total_erase member
  have grained := grained_roll least exact state
  constructor
  · have perm : (pool.erase winner ++ [winner]).Perm pool :=
      (List.perm_append_singleton _ _).trans (List.perm_cons_erase member).symm
    have picked := everywhere _ perm
    have same : total weightOf _ = total weightOf pool := total_perm perm
    rw [drawIndex_eq least (same ▸ exact), same, List.map_append] at picked
    refine Int.not_le.mp fun within => absent ?_
    rw [← sum] at within
    have front := pickIndex_lt_front mapped (weightOf winner) grained (map_nonneg least _) within
    rw [List.length_map] at front
    rw [List.map_cons, List.map_nil, List.getElem?_append_left front] at picked
    exact List.mem_of_getElem? picked
  · have perm : (winner :: pool.erase winner).Perm pool := (List.perm_cons_erase member).symm
    have picked := everywhere _ perm
    have same : total weightOf _ = total weightOf pool := total_perm perm
    rw [drawIndex_eq least (same ▸ exact), same, List.map_cons] at picked
    refine (pickIndex_eq_zero_iff mapped _).mp ?_
    refine Nat.eq_zero_of_not_pos fun positive => absent ?_
    obtain ⟨index, isLater⟩ := Nat.exists_eq_succ_of_ne_zero (Nat.ne_of_gt positive)
    rw [isLater, List.getElem?_cons_succ] at picked
    exact List.mem_of_getElem? picked

theorem dominated_of_perm {take : Nat} {pool : List UserId} (distinct : pool.Nodup)
    (exact : total weightOf pool < exactLimit) {state : BitVec 32}
    (same : ∀ other : List UserId, other.Perm pool →
      weightedDraw weightOf take state other = weightedDraw weightOf take state pool) :
    Dominated weightOf take state pool := by
  induction take generalizing state pool with
  | zero => exact trivial
  | succ take ih =>
      by_cases few : pool.length ≤ 1
      · exact Or.inl few
      · have several : 1 < pool.length := Nat.lt_of_not_le few
        have some : pool ≠ [] := List.ne_nil_of_length_pos (Nat.zero_lt_of_lt several)
        obtain ⟨winner, member, picked⟩ := exists_picked weightOf some (nextState state)
        have everywhere : ∀ other : List UserId, other.Perm pool →
            other[drawIndex weightOf (nextState state) other]? = Option.some winner := by
          intro other perm
          obtain ⟨first, -, pickedFirst⟩ := exists_picked weightOf
            (fun empty => some (List.nil_perm.mp (empty ▸ perm))) (nextState state)
          have agrees := same other perm
          rw [weightedDraw_succ (perm.nodup_iff.mpr distinct) pickedFirst,
            weightedDraw_succ distinct picked] at agrees
          rw [pickedFirst, (List.cons.inj agrees).1]
        have carries := carries_of_perm least several distinct exact member everywhere
        refine Or.inr ⟨winner, member, carries,
          ih (distinct.erase winner) (total_erase_lt least member exact) ?_⟩
        intro other perm
        have whole : (winner :: other).Perm pool :=
          (perm.cons winner).trans (List.perm_cons_erase member).symm
        have agrees := same _ whole
        rw [weightedDraw_succ (whole.nodup_iff.mpr distinct) (everywhere _ whole),
          weightedDraw_succ distinct picked, List.erase_cons_head] at agrees
        exact (List.cons.inj agrees).2

end Draws

namespace WinnerSelectionInput

variable (input : WinnerSelectionInput)

/-! ### The ranking -/

theorem before_iff (one two : UserId) : input.before one two = true ↔
    input.contribution two < input.contribution one ∨
      input.contribution one = input.contribution two ∧ one ≤ two := by
  unfold before
  rw [Bool.or_eq_true, Bool.and_eq_true, decide_eq_true_iff, decide_eq_true_iff,
    decide_eq_true_iff]

theorem before_trans (one two three : UserId) (first : input.before one two = true)
    (second : input.before two three = true) : input.before one three = true := by
  rw [before_iff] at *
  rcases first with less | ⟨equal, le⟩ <;> rcases second with less' | ⟨equal', le'⟩
  · exact Or.inl (Int.lt_trans less' less)
  · exact Or.inl (equal' ▸ less)
  · exact Or.inl (equal.symm ▸ less')
  · exact Or.inr ⟨equal.trans equal', le_trans le le'⟩

theorem before_total (one two : UserId) :
    (input.before one two || input.before two one) = true := by
  rw [Bool.or_eq_true, before_iff, before_iff]
  rcases Int.lt_trichotomy (input.contribution one) (input.contribution two) with
    less | equal | greater
  · exact Or.inr (Or.inl less)
  · rcases le_total one two with le | le
    · exact Or.inl (Or.inr ⟨equal, le⟩)
    · exact Or.inr (Or.inr ⟨equal.symm, le⟩)
  · exact Or.inl (Or.inl greater)

theorem before_antisymm {one two : UserId} (first : input.before one two = true)
    (second : input.before two one = true) : one = two := by
  rw [before_iff] at *
  rcases first with less | ⟨equal, le⟩
  · omega
  · rcases second with less' | ⟨-, le'⟩
    · omega
    · exact le_antisymm le le'

theorem pairwise_ranking (users : List UserId) :
    (users.mergeSort input.before).Pairwise fun one two => input.before one two = true :=
  List.pairwise_mergeSort input.before_trans input.before_total users

/-! ### Selections -/

theorem select_ranking (sha256 : String → BitVec 32) :
    input.select sha256 .contributionBased =
      (input.eligible.mergeSort input.before).take input.want := by
  unfold select
  split
  · rename_i empty
    rw [empty, List.mergeSort_nil, List.take_nil]
  · rfl

theorem select_draw {algorithm : TreasureWinnerAlgorithm} (draws : algorithm ≠ .contributionBased)
    (sha256 : String → BitVec 32) :
    input.select sha256 algorithm =
      weightedDraw (input.weightOf algorithm) (min input.want input.eligible.length)
        (sha256 input.seed) input.eligible := by
  unfold select
  split
  · rename_i empty
    rw [empty, List.length_nil, Nat.min_zero]
    rfl
  · cases algorithm
    case contributionBased => exact absurd rfl draws
    all_goals rfl

theorem least_weightOf (algorithm : TreasureWinnerAlgorithm) (userId : UserId) :
    1 ≤ input.weightOf algorithm userId := Int.le_max_left _ _

section Properties

variable (sha256 : String → BitVec 32)

theorem ranking_perm {other : List UserId} (perm : other.Perm input.eligible) :
    other.mergeSort input.before = input.eligible.mergeSort input.before := by
  have sorted : (other.mergeSort input.before).Perm (input.eligible.mergeSort input.before) :=
    ((List.mergeSort_perm _ _).trans perm).trans (List.mergeSort_perm _ _).symm
  exact sorted.eq_of_pairwise (fun one two _ _ => input.before_antisymm)
    (input.pairwise_ranking other) (input.pairwise_ranking input.eligible)

/-- Who is ranked above the cut has contributed no less than who is below it. -/
theorem ranked_select {winner user : UserId}
    (chosen : winner ∈ input.select sha256 .contributionBased) (member : user ∈ input.eligible)
    (missing : user ∉ input.select sha256 .contributionBased) :
    input.contribution user ≤ input.contribution winner := by
  rw [select_ranking] at chosen missing
  have ranking := input.pairwise_ranking input.eligible
  rw [← List.take_append_drop input.want (input.eligible.mergeSort input.before),
    List.pairwise_append] at ranking
  have below : user ∈ (input.eligible.mergeSort input.before).drop input.want := by
    have whole : user ∈ input.eligible.mergeSort input.before := List.mem_mergeSort.mpr member
    rw [← List.take_append_drop input.want (input.eligible.mergeSort input.before)] at whole
    exact (List.mem_append.mp whole).resolve_left missing
  rcases (input.before_iff winner user).mp (ranking.2.2 winner chosen user below) with
    less | ⟨equal, -⟩
  · exact Int.le_of_lt less
  · exact Int.le_of_eq equal.symm

theorem length_select (algorithm : TreasureWinnerAlgorithm) :
    (input.select sha256 algorithm).length = min input.want input.eligible.length := by
  by_cases ranks : algorithm = .contributionBased
  · rw [ranks, select_ranking, List.length_take, List.length_mergeSort]
  · rw [input.select_draw ranks]
    exact (weightedDraw_spec input.distinct (Nat.min_le_right _ _) _).1

theorem nodup_select (algorithm : TreasureWinnerAlgorithm) :
    (input.select sha256 algorithm).Nodup := by
  by_cases ranks : algorithm = .contributionBased
  · rw [ranks, select_ranking]
    exact ((List.mergeSort_perm _ _).nodup_iff.mpr input.distinct).sublist (List.take_sublist _ _)
  · rw [input.select_draw ranks]
    exact (weightedDraw_spec input.distinct (Nat.min_le_right _ _) _).2.1

theorem mem_select (algorithm : TreasureWinnerAlgorithm) {winner : UserId}
    (chosen : winner ∈ input.select sha256 algorithm) : winner ∈ input.eligible := by
  by_cases ranks : algorithm = .contributionBased
  · rw [ranks, select_ranking] at chosen
    exact List.mem_mergeSort.mp (List.mem_of_mem_take chosen)
  · rw [input.select_draw ranks] at chosen
    exact (weightedDraw_spec input.distinct (Nat.min_le_right _ _) _).2.2 winner chosen

/-- A selection is fair where it is the same in every order. -/
theorem fair_of_reproducible {algorithm : TreasureWinnerAlgorithm}
    (reproducible : ∀ other (perm : other.Perm input.eligible),
      (input.listed other perm).select sha256 algorithm = input.select sha256 algorithm) :
    input.Fair sha256 algorithm where
  count := input.length_select sha256 algorithm
  different := input.nodup_select sha256 algorithm
  eligible := fun _ => input.mem_select sha256 algorithm
  ranked := by
    intro ranks winner chosen user member missing
    rw [ranks] at chosen missing
    exact input.ranked_select sha256 chosen member missing
  reproducible := reproducible

theorem select_listed {algorithm : TreasureWinnerAlgorithm} (draws : algorithm ≠ .contributionBased)
    {other : List UserId} (perm : other.Perm input.eligible) :
    (input.listed other perm).select sha256 algorithm =
      weightedDraw (input.weightOf algorithm) (min input.want input.eligible.length)
        (sha256 input.seed) other := by
  rw [select_draw _ draws, ← perm.length_eq]
  rfl

theorem fair_of_settled {algorithm : TreasureWinnerAlgorithm}
    (settled : input.Settled sha256 algorithm) : input.Fair sha256 algorithm := by
  apply fair_of_reproducible
  intro other perm
  by_cases ranks : algorithm = .contributionBased
  · rw [ranks, select_ranking, select_ranking]
    exact congrArg (List.take input.want) (input.ranking_perm perm)
  · rw [input.select_listed sha256 ranks perm, input.select_draw ranks]
    rcases settled with isRanking | none | few | ⟨exact, dominated⟩
    · exact absurd isRanking ranks
    · rw [none, Nat.zero_min]
      rfl
    · rw [perm_eq_of_length_le_one few perm]
    · exact weightedDraw_perm (input.least_weightOf algorithm) input.distinct exact perm dominated

theorem settled_of_fair {algorithm : TreasureWinnerAlgorithm} (exact : input.Exact algorithm)
    (fair : input.Fair sha256 algorithm) : input.Settled sha256 algorithm := by
  by_cases ranks : algorithm = .contributionBased
  · exact Or.inl ranks
  · refine Or.inr (Or.inr (Or.inr ⟨exact, ?_⟩))
    apply dominated_of_perm (input.least_weightOf algorithm) input.distinct exact
    intro other perm
    rw [← input.select_listed sha256 ranks perm, fair.reproducible other perm,
      input.select_draw ranks]

end Properties

/-- A selection that is settled is fair, and while the weights add up exactly no other is. -/
theorem fair_iff_settled (sha256 : String → BitVec 32) (algorithm : TreasureWinnerAlgorithm)
    (input : WinnerSelectionInput) :
    (input.Settled sha256 algorithm → input.Fair sha256 algorithm) ∧
      (input.Exact algorithm → input.Fair sha256 algorithm → input.Settled sha256 algorithm) :=
  ⟨input.fair_of_settled sha256, input.settled_of_fair sha256⟩

theorem nodup_pair : (["u1", "u2"] : List UserId).Nodup := by decide

/-- Two users of equal weight, one of whom is to win. -/
def pair : WinnerSelectionInput where
  eligible := ["u1", "u2"]
  distinct := nodup_pair
  want := 1
  seed := "seed-a"
  contributions := fun _ => none
  activity := fun _ => none
  vipTiers := fun _ => none

/-- The draw picks the same place of the list, whoever stands there. -/
theorem not_fair_pair : ¬pair.Fair (fun _ => 0xcc6109e0#32) .random := by
  intro fair
  have swapped := fair.reproducible ["u2", "u1"] (List.Perm.swap _ _ _)
  revert swapped
  decide +kernel

end WinnerSelectionInput

end Soulzaa.VideoRooms.Winners
