import DiagramBridge.Number.Binary64

/-!
# Ordering by a number

Items are put in ascending order of a number that each has; items with equal numbers keep their
order. Where a number is no number, comparisons say little, and the result depends on which ones
are made: the row at the front that is in order already, or in strictly falling order and then
turned round, is kept, and each further item is inserted behind the last place that halving finds
no larger item before.
-/

namespace DiagramBridge.Drawio

/-- The number of items that follow on one another without a step down, after one that is given. -/
def risingRun {α : Type} (key : α → Binary64) (last : α) : List α → Nat
  | [] => 0
  | a :: as => if (key a).lt (key last) then 0 else risingRun key a as + 1

/-- The number of items that follow on one another with steps down, after one that is given. -/
def fallingRun {α : Type} (key : α → Binary64) (last : α) : List α → Nat
  | [] => 0
  | a :: as => if (key a).lt (key last) then fallingRun key a as + 1 else 0

/-- The row at the front that is in order, and what follows it. -/
def firstRun {α : Type} (key : α → Binary64) : List α → List α × List α
  | [] => ([], [])
  | [a] => ([a], [])
  | a :: b :: as =>
    if (key b).lt (key a) then
      let n := fallingRun key b as + 2
      (((a :: b :: as).take n).reverse, (a :: b :: as).drop n)
    else
      let n := risingRun key b as + 2
      ((a :: b :: as).take n, (a :: b :: as).drop n)

/-- The place for an item among those from `low` on and before `high`, found by halving. -/
def placeFor {α : Type} (key : α → Binary64) (item : α) (sorted : List α) :
    Nat → Nat → Nat → Nat
  | 0, low, _ => low
  | fuel + 1, low, high =>
    if low < high then
      let middle := low + (high - low) / 2
      match sorted[middle]? with
      | none => low
      | some other =>
        if (key item).lt (key other) then placeFor key item sorted fuel low middle
        else placeFor key item sorted fuel (middle + 1) high
    else low

/-- Items inserted one after the other into a row that is in order. -/
def insertByHalving {α : Type} (key : α → Binary64) (items : List α) : List α :=
  let (run, rest) := firstRun key items
  rest.foldl (fun sorted item =>
    sorted.insertIdx (placeFor key item sorted (sorted.length + 1) 0 sorted.length) item) run

/-- Items in ascending order of their numbers, equal ones in the order in which they came. -/
def sortByKey {α : Type} (key : α → Binary64) (items : List α) : List α :=
  if items.any fun a => (key a).isNaN then insertByHalving key items
  else items.mergeSort fun a b => (key a).le (key b)

end DiagramBridge.Drawio
