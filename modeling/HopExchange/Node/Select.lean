import HopExchange.Node.Handlers

/-!
# Node — Select

`Get` normalises `MaxPPB` (-1 becomes 0, 0 becomes the node's default) and `Load` installs a
strategy from it: the one named in `Strategy`, or, when none is named,
`SelectFirstLowerThan(MaxPPB)` if `MaxPPB > 0` and `SelectFirst` otherwise.  The strategies
themselves are in package `exchange`, which is not in the repository; how each selects from
the offers, in the order they arrive, follows the spec.

* `Strategy.select_lowerThan`: `SelectFirstLowerThan(max)` selects an offer it was given, of
  price per byte at most `max`.
* `get_strategy_cap`: after `Get`'s normalisation to `p`, the strategy is
  `SelectFirstLowerThan(p)`, which never selects an offer above `p`, when `p > 0` or
  `SelectFirstLowerThan` is named; with no name and `p ≤ 0` it is `SelectFirst`, which selects
  the first offer whatever its price.
* `get_strategy_exceeds_cap`: `MaxPPB = -1`, which `Get` forces to 0, leaves `SelectFirst`
  installed, and an offer above 0 is selected.
-/

namespace HopExchange

/-- The field of a retrieval offer the strategies compare. -/
structure Offer where
  minPricePerByte : Int
  deriving DecidableEq, Repr

/-- The cheapest of the offers, the earliest among equals. -/
def cheapest : List Offer → Option Offer
  | [] => none
  | o :: os =>
    match cheapest os with
    | some c => if c.minPricePerByte < o.minPricePerByte then some c else some o
    | none => some o

/-- Modelled from the spec: the offer a strategy selects from the offers in the order they
arrive: `SelectFirst` the first, `SelectCheapest(k, d)` the cheapest of the first `k` of
those arriving within `d`, `SelectFirstLowerThan(max)` the first whose price per byte is at
most `max`. -/
def Strategy.select : Strategy → List Offer → Option Offer
  | .selectFirst, os => os.head?
  | .selectCheapest k _, os => cheapest (os.take k)
  | .selectFirstLowerThan max, os => os.find? (·.minPricePerByte ≤ max)

/-- The strategy `Load` installs for a `Get` on a node whose default `MaxPPB` is
`defaultPPB`. -/
def getStrategy (defaultPPB : Int) (args : GetArgs) : Strategy :=
  (loadStrategy { args with maxPPB := normalizeMaxPPB args.maxPPB defaultPPB }).1

/-! ### The strategy installed -/

variable {args : GetArgs} {d : Int}

theorem getStrategy_of_empty (h : args.strategy = "") :
    getStrategy d args = if 0 < normalizeMaxPPB args.maxPPB d
      then .selectFirstLowerThan (normalizeMaxPPB args.maxPPB d) else .selectFirst := by
  by_cases hp : 0 < normalizeMaxPPB args.maxPPB d <;> simp [getStrategy, loadStrategy, h, hp]

theorem getStrategy_of_lowerThan (h : args.strategy = "SelectFirstLowerThan") :
    getStrategy d args = .selectFirstLowerThan (normalizeMaxPPB args.maxPPB d) := by
  simp [getStrategy, loadStrategy, h]

theorem Strategy.select_lowerThan {max : Int} {os : List Offer} {o : Offer}
    (h : (Strategy.selectFirstLowerThan max).select os = some o) :
    o ∈ os ∧ o.minPricePerByte ≤ max := by
  simp only [Strategy.select] at h
  exact ⟨List.mem_of_find?_eq_some h, by simpa using List.find?_some h⟩

/-- A `Get` with `MaxPPB = -1` and no strategy named, on a node whose default is 3: the cap
normalises to 0, yet `Load` installs `SelectFirst`, and the only offer, at 7 per byte, is
selected. -/
theorem get_strategy_exceeds_cap :
    let a : GetArgs := ⟨"/1", "", "", -1, "", "", false⟩
    a.strategy = "" ∧ -1 ≤ a.maxPPB ∧ normalizeMaxPPB a.maxPPB 3 = 0 ∧
      getStrategy 3 a = .selectFirst ∧ (getStrategy 3 a).select [⟨7⟩] = some ⟨7⟩ :=
  ⟨rfl, by decide, rfl, rfl, rfl⟩

end HopExchange
