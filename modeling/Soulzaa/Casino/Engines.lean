/-
The engines of the house-banked games.

Both games spin a wheel of ten outcomes and let the outcome that pays the least
win.  Amounts are whole chips, so a stake times a multiplier is an integer; the
double arithmetic of the engines agrees with it while the sums stay within
`Binary64.exactLimit`.
-/

import Mathlib.Algebra.Order.Ring.Int
import Soulzaa.Lib.Binary64
import Soulzaa.Lib.LowestTotal

namespace Soulzaa.Casino

abbrev Item := String

/-! ### Constants -/

def casinoChips : List Int := [100, 500, 1000, 10000, 50000]

def greedyMultipliers : List (Item × Int) :=
  [("carrot", 5), ("corn", 5), ("broccoli", 5), ("tomato", 5), ("burger", 10),
    ("chicken", 15), ("mutton", 25), ("crab", 45), ("vegSalad", 5), ("nonVegSalad", 10)]

def greedyItems : List Item := greedyMultipliers.map Prod.fst

def greedyVeg : List Item := ["carrot", "corn", "broccoli", "tomato"]

def greedyNonVeg : List Item := ["burger", "chicken", "mutton", "crab"]

def luckyMultipliers : List (Item × Int) :=
  [("pineapple", 5), ("kiwi", 5), ("blueberry", 5), ("peach", 5), ("pear", 10),
    ("coconut", 15), ("dragonFruit", 25), ("muskmelon", 45), ("smallLucky", 0),
    ("bigLucky", 0)]

def luckySmall : List Item := ["pineapple", "kiwi", "blueberry", "peach"]

def luckyBig : List Item := ["pear", "coconut", "dragonFruit", "muskmelon"]

def luckyBettable : List Item := luckySmall ++ luckyBig

def luckyOutcomes : List Item := luckyBettable ++ ["smallLucky", "bigLucky"]

/-- `multipliers[item] ?? 0`. -/
def multiplierOf (multipliers : List (Item × Int)) (item : Item) : Int :=
  (multipliers.lookup item).getD 0

/-! ### Liability selector -/

structure CasinoBetLike where
  item : Item
  amount : Int
  deriving DecidableEq, Repr

/-- What the house pays on `bets` when `outcome` wins. -/
def liability (effMult : Item → Item → Int) (bets : List CasinoBetLike) (outcome : Item) : Int :=
  bets.foldl (fun total bet => total + bet.amount * effMult bet.item outcome) 0

/-- `none` where the source indexes past the candidates. -/
def pickLowestLiability (outcomes : List Item) (bets : List CasinoBetLike)
    (effMult : Item → Item → Int) (rng : Nat → Nat) : Option Item :=
  let liabilities := outcomes.map (liability effMult bets)
  let min := LowestTotal.runningMin ⊤ liabilities
  let candidates :=
    ((outcomes.zip liabilities).filter fun entry => (entry.2 : WithTop Int) = min).map Prod.fst
  candidates[rng candidates.length]?

/-- The contract of `rng`: given `n`, an integer in `[0, n)`. -/
def InRange (rng : Nat → Nat) : Prop :=
  ∀ n, 0 < n → rng n < n

/-! ### Greedy Food -/

/-- Keys that every object literal inherits, which `in` finds as well. -/
def objectPrototypeKeys : List String :=
  ["__defineGetter__", "__defineSetter__", "__lookupGetter__", "__lookupSetter__",
    "__proto__", "constructor", "hasOwnProperty", "isPrototypeOf", "propertyIsEnumerable",
    "toLocaleString", "toString", "valueOf"]

/-- `item in GREEDY_MULTIPLIERS`. -/
def isGreedyBettable (item : Item) : Bool :=
  greedyItems.contains item || objectPrototypeKeys.contains item

/-- An inherited key is no outcome, so its own entry is never looked up. -/
def greedyEffectiveMultiplier (betItem outcome : Item) : Int :=
  let win :=
    outcome = betItem ∨
      (outcome = "vegSalad" ∧ betItem ∈ greedyVeg) ∨
      (outcome = "nonVegSalad" ∧ betItem ∈ greedyNonVeg)
  if win then multiplierOf greedyMultipliers betItem else 0

def selectGreedyOutcome (bets : List CasinoBetLike) (rng : Nat → Nat) : Option Item :=
  pickLowestLiability greedyItems bets greedyEffectiveMultiplier rng

/-! ### Lucky Fruit -/

def isLuckyBettable (symbol : Item) : Bool :=
  luckyBettable.contains symbol

def luckyEffectiveMultiplier (betSymbol outcome : Item) : Int :=
  if outcome = betSymbol then multiplierOf luckyMultipliers betSymbol
  else if outcome = "smallLucky" ∧ betSymbol ∈ luckySmall then 5
  else if outcome = "bigLucky" ∧ betSymbol ∈ luckyBig then
    multiplierOf luckyMultipliers betSymbol
  else 0

def selectLuckyOutcome (bets : List CasinoBetLike) (rng : Nat → Nat) : Option Item :=
  pickLowestLiability luckyOutcomes bets luckyEffectiveMultiplier rng

/-! ### Both games -/

inductive CasinoGame where
  | greedyFood
  | luckyFruit
  deriving DecidableEq, Repr

namespace CasinoGame

def outcomes : CasinoGame → List Item
  | .greedyFood => greedyItems
  | .luckyFruit => luckyOutcomes

def bettable : CasinoGame → Item → Bool
  | .greedyFood => isGreedyBettable
  | .luckyFruit => isLuckyBettable

def effectiveMultiplier : CasinoGame → Item → Item → Int
  | .greedyFood => greedyEffectiveMultiplier
  | .luckyFruit => luckyEffectiveMultiplier

def selectOutcome : CasinoGame → List CasinoBetLike → (Nat → Nat) → Option Item
  | .greedyFood => selectGreedyOutcome
  | .luckyFruit => selectLuckyOutcome

theorem selectOutcome_eq (game : CasinoGame) (bets : List CasinoBetLike) (rng : Nat → Nat) :
    game.selectOutcome bets rng =
      pickLowestLiability game.outcomes bets game.effectiveMultiplier rng := by
  cases game <;> rfl

theorem outcomes_ne_nil (game : CasinoGame) : game.outcomes ≠ [] := by
  cases game <;> exact List.cons_ne_nil _ _

end CasinoGame

/-! ### What the selector returns -/

theorem liability_eq_total (effMult : Item → Item → Int) (bets : List CasinoBetLike)
    (outcome : Item) :
    liability effMult bets outcome =
      LowestTotal.total CasinoBetLike.amount (fun bet => effMult bet.item outcome) bets := by
  unfold liability LowestTotal.total
  rw [List.sum_eq_foldl, List.foldl_map]

theorem mem_candidates_iff {outcomes : List Item} {price : Item → Int} {least : WithTop Int}
    {outcome : Item} :
    outcome ∈ ((outcomes.zip (outcomes.map price)).filter
        fun entry => (entry.2 : WithTop Int) = least).map Prod.fst ↔
      outcome ∈ outcomes ∧ (price outcome : WithTop Int) = least := by
  rw [← List.map_prod_left_eq_zip]
  simp only [List.mem_map, List.mem_filter, decide_eq_true_eq]
  constructor
  · rintro ⟨entry, ⟨⟨source, member, rfl⟩, isLeast⟩, rfl⟩
    exact ⟨member, isLeast⟩
  · rintro ⟨member, isLeast⟩
    exact ⟨(outcome, price outcome), ⟨⟨outcome, member, rfl⟩, isLeast⟩, rfl⟩

/-- Within the contract of `rng` the selector returns an outcome, and no outcome
pays less. -/
theorem pickLowestLiability_lowest {outcomes : List Item} (nonempty : outcomes ≠ [])
    (bets : List CasinoBetLike) (effMult : Item → Item → Int) {rng : Nat → Nat}
    (inRange : InRange rng) :
    ∃ outcome ∈ outcomes, pickLowestLiability outcomes bets effMult rng = some outcome ∧
      ∀ other ∈ outcomes, liability effMult bets outcome ≤ liability effMult bets other := by
  have priced : outcomes.map (liability effMult bets) ≠ [] := by
    simpa using nonempty
  obtain ⟨least, isPrice, isLeast⟩ := LowestTotal.runningMin_mem priced
  obtain ⟨cheapest, isOutcome, rfl⟩ := List.mem_map.mp isPrice
  let candidates := ((outcomes.zip (outcomes.map (liability effMult bets))).filter fun entry =>
    (entry.2 : WithTop Int) =
      LowestTotal.runningMin ⊤ (outcomes.map (liability effMult bets))).map Prod.fst
  have candidate : cheapest ∈ candidates := mem_candidates_iff.mpr ⟨isOutcome, isLeast.symm⟩
  have picked : rng candidates.length < candidates.length :=
    inRange _ (List.length_pos_of_mem candidate)
  refine ⟨candidates[rng candidates.length], ?_, List.getElem?_eq_getElem picked, ?_⟩
  · exact (mem_candidates_iff.mp (List.getElem_mem picked)).1
  · intro other member
    have lowest := (mem_candidates_iff.mp (List.getElem_mem picked)).2
    rw [← WithTop.coe_le_coe]
    exact le_trans (le_of_eq lowest)
      (LowestTotal.runningMin_le (List.mem_map_of_mem member))

/-! ### Bets that can win -/

namespace CasinoGame

/-- Outcomes that only the wheel can name. -/
def outcomeOnly : CasinoGame → List Item
  | .greedyFood => []
  | .luckyFruit => ["smallLucky", "bigLucky"]

def CanWin (game : CasinoGame) (item : Item) : Prop :=
  ∃ outcome ∈ game.outcomes, 0 < game.effectiveMultiplier item outcome

/-- An accepted item can win, and an item that can win is accepted. -/
def AcceptsFairly (game : CasinoGame) (item : Item) : Prop :=
  (game.bettable item = true → game.CanWin item) ∧
    (game.CanWin item → game.bettable item = true ∨ item ∈ game.outcomeOnly)

instance (game : CasinoGame) (item : Item) : Decidable (game.AcceptsFairly item) :=
  inferInstanceAs (Decidable
    ((game.bettable item = true →
        ∃ outcome ∈ game.outcomes, 0 < game.effectiveMultiplier item outcome) ∧
      ((∃ outcome ∈ game.outcomes, 0 < game.effectiveMultiplier item outcome) →
        game.bettable item = true ∨ item ∈ game.outcomeOnly)))

theorem multiplierOf_of_absent {multipliers : List (Item × Int)} {item : Item}
    (absent : item ∉ multipliers.map Prod.fst) : multiplierOf multipliers item = 0 := by
  have unlisted : multipliers.lookup item = none := by
    rw [List.lookup_eq_none_iff]
    intro entry member
    rw [bne_iff_ne]
    rintro rfl
    exact absent (List.mem_map_of_mem member)
  unfold multiplierOf
  rw [unlisted]
  rfl

/-- The items of the payout table are those that can win. -/
theorem canWin_greedyFood_iff (item : Item) :
    greedyFood.CanWin item ↔ item ∈ greedyItems := by
  constructor
  · rintro ⟨outcome, _, positive⟩
    by_contra absent
    have nothing : multiplierOf greedyMultipliers item = 0 := multiplierOf_of_absent absent
    change 0 < greedyEffectiveMultiplier item outcome at positive
    unfold greedyEffectiveMultiplier at positive
    rw [nothing, ite_self] at positive
    exact lt_irrefl 0 positive
  · have each : ∀ listed ∈ greedyItems, ∃ outcome ∈ greedyItems,
        0 < greedyEffectiveMultiplier listed outcome := by decide
    exact each item

theorem canWin_luckyFruit_iff (item : Item) :
    luckyFruit.CanWin item ↔ item ∈ luckyBettable := by
  constructor
  · rintro ⟨outcome, isOutcome, positive⟩
    by_contra absent
    have others : item ∉ luckySmall ∧ item ∉ luckyBig :=
      ⟨fun small => absent (List.mem_append_left _ small),
        fun big => absent (List.mem_append_right _ big)⟩
    change 0 < luckyEffectiveMultiplier item outcome at positive
    unfold luckyEffectiveMultiplier at positive
    have nothing : multiplierOf luckyMultipliers item = 0 ∨ outcome ≠ item := by
      by_cases isItem : outcome = item
      · -- The outcome is one of the wheel's own, which pay nothing.
        have isSegment : item ∈ luckyFruit.outcomeOnly :=
          (List.mem_append.mp (isItem ▸ isOutcome)).resolve_left absent
        have segments : ∀ segment ∈ luckyFruit.outcomeOnly,
            multiplierOf luckyMultipliers segment = 0 := by decide
        exact Or.inl (segments item isSegment)
      · exact Or.inr isItem
    rw [if_neg (fun isSmall : outcome = "smallLucky" ∧ item ∈ luckySmall => others.1 isSmall.2),
      if_neg (fun isBig : outcome = "bigLucky" ∧ item ∈ luckyBig => others.2 isBig.2)] at positive
    rcases nothing with nothing | isOther
    · rw [nothing, ite_self] at positive
      exact lt_irrefl 0 positive
    · rw [if_neg isOther] at positive
      exact lt_irrefl 0 positive
  · have each : ∀ listed ∈ luckyBettable, ∃ outcome ∈ luckyOutcomes,
        0 < luckyEffectiveMultiplier listed outcome := by decide
    exact each item

theorem bettable_greedyFood_iff (item : Item) : greedyFood.bettable item = true ↔
    item ∈ greedyItems ∨ item ∈ objectPrototypeKeys := by
  change (greedyItems.contains item || objectPrototypeKeys.contains item) = true ↔ _
  rw [Bool.or_eq_true, List.contains_iff_mem, List.contains_iff_mem]

/-- Acceptance and the chance to win agree but for the keys that every object has. -/
theorem acceptsFairly_iff (game : CasinoGame) (item : Item) :
    game.AcceptsFairly item ↔ ¬(game = .greedyFood ∧ item ∈ objectPrototypeKeys) := by
  cases game with
  | greedyFood =>
      have apart : ∀ key ∈ objectPrototypeKeys, key ∉ greedyItems := by decide
      unfold AcceptsFairly
      rw [canWin_greedyFood_iff, bettable_greedyFood_iff]
      constructor
      · rintro ⟨accepted, _⟩ ⟨_, inherited⟩
        exact apart item inherited (accepted (Or.inr inherited))
      · intro own
        refine ⟨fun accepted => accepted.resolve_right fun inherited => own ⟨rfl, inherited⟩, ?_⟩
        exact fun listed => Or.inl (Or.inl listed)
  | luckyFruit =>
      have accepts : luckyFruit.bettable item = true ↔ item ∈ luckyBettable :=
        List.contains_iff_mem
      unfold AcceptsFairly
      rw [canWin_luckyFruit_iff, accepts]
      exact iff_of_true ⟨id, Or.inl⟩ nofun

theorem not_acceptsFairly_toString : ¬greedyFood.AcceptsFairly "toString" := by decide

end CasinoGame

end Soulzaa.Casino
