import PassiveAggressive.Learner.Weights
import PassiveAggressive.Number.Double
import PassiveAggressive.Value.Operand
import PassiveAggressive.Weights.Columns

/-!
# Averaging models

Models trained on parts of the data are averaged: each id gets the mean of its weights
over the models that have it, in the order in which the ids first come up.  Ids that
are missing are left out.

## Two ways to add up

In exact arithmetic a sum is a sum.  On doubles the last digits depend on the order of
the additions, and the order used depends on the rows: if equal ids stand together
already and every weight is a number, the weights of an id are added in a balanced
tree (`treeSum`); otherwise they are added one by one with the rounding error carried
along (`carriedSum`).
-/

namespace PassiveAggressive
namespace Weights

variable {F : Type} [NumberSystem F]

/-- What is no number compares with nothing. -/
def isNoNumber (x : F) : Bool := (NumberSystem.compareInt? x 0).isNone

/-- The sum from the left. -/
def leftSum : List F → F
  | [] => NumberSystem.zero
  | x :: xs => xs.foldl NumberSystem.add x

/-- Eight sums side by side: those so far, each continued by one of the next eight terms. -/
def addLanes (lanes terms : List F) : List F := lanes.zipWith NumberSystem.add terms

/-- The terms in rows of eight, and the fewer than eight terms left over. -/
def lanesOf : Nat → List F → List (List F) × List F
  | 0, xs => ([], xs)
  | n + 1, xs =>
    let (rows, rest) := lanesOf n (xs.drop 8)
    (xs.take 8 :: rows, rest)

/-- Eight sums added up in pairs. -/
def pairUp : List F → F
  | [a, b, c, d, e, f, g, h] =>
    NumberSystem.add (NumberSystem.add (NumberSystem.add a b) (NumberSystem.add c d))
      (NumberSystem.add (NumberSystem.add e f) (NumberSystem.add g h))
  | xs => leftSum xs

/-- The sum of eight terms or more: eight lanes, then the terms left over. -/
def laneSum (xs : List F) : F :=
  match lanesOf (xs.length / 8) xs with
  | ([], rest) => leftSum rest
  | (row :: rows, rest) => rest.foldl NumberSystem.add (pairUp (rows.foldl addLanes row))

/-- The sum in a balanced tree whose leaves are lanes of at most 128 terms. -/
def treeSum (xs : List F) : F :=
  if xs.length < 8 then leftSum xs
  else if h : xs.length ≤ 128 then laneSum xs
  else
    let half := xs.length / 2 - xs.length / 2 % 8
    NumberSystem.add (treeSum (xs.take half)) (treeSum (xs.drop half))
termination_by xs.length
decreasing_by
  all_goals simp only [List.length_take, List.length_drop]; omega

/-- A sum with the rounding error of the last addition. -/
structure Carried (F : Type) where
  sum : F
  error : F

/-- A term added with the error carried along. -/
def Carried.add (s : Carried F) (x : F) : Carried F :=
  let y := NumberSystem.sub x s.error
  let sum := NumberSystem.add s.sum y
  let error := NumberSystem.sub (NumberSystem.sub sum s.sum) y
  ⟨sum, if isNoNumber error then NumberSystem.zero else error⟩

/-- The sum of terms with the rounding error carried along. -/
def carriedSum (xs : List F) : F :=
  (xs.foldl Carried.add ⟨NumberSystem.zero, NumberSystem.zero⟩).sum

/-- A number of things as a number. -/
def countOf (n : Nat) : F := (NumberSystem.ofInt? (n : Int)).getD NumberSystem.infinity

/-- The mean of weights that stand together, by `treeSum`. -/
def togetherMean : List F → F
  | [] => NumberSystem.div NumberSystem.zero NumberSystem.zero
  | [x] => NumberSystem.div x (countOf 1)
  | x :: xs => NumberSystem.div (NumberSystem.add x (treeSum xs)) (countOf (xs.length + 1))

/-- The mean of the weights that are numbers, by `carriedSum`. -/
def carriedMean (xs : List F) : F :=
  let known := xs.filter fun x => !isNoNumber x
  NumberSystem.div (carriedSum known) (countOf known.length)

variable {ι : Type} [Key ι]

/-- The weights of each id, in the order in which the ids first come up. -/
def group (rows : List (ι × F)) : List (ι × List F) :=
  rows.foldl
    (fun (groups : WeightMap ι (List F)) row =>
      groups.insert row.1 ((groups.find? row.1).getD [] ++ [row.2]))
    .empty |>.entries

/-- The ids of the rows as they change from row to row. -/
def changes (rows : List (ι × F)) : List ι :=
  match rows with
  | [] => []
  | [row] => [row.1]
  | a :: b :: rest => if Key.same a.1 b.1 then changes (b :: rest) else a.1 :: changes (b :: rest)
termination_by rows.length

/-- Equal ids stand together, and no row but the first ones is left out. -/
def standTogether (leftOut : ι → Bool) (rows : List (ι × F)) : Bool :=
  let known := rows.dropWhile fun r => leftOut r.1
  known.all (fun r => !leftOut r.1) && (changes known).length ≤ (group known).length

/-- The mean weight of each id. -/
def meansOf (leftOut : ι → Bool) (rows : List (ι × F)) : List (ι × F) :=
  let known := rows.filter fun r => !leftOut r.1
  let together := standTogether leftOut rows && rows.all fun r => !isNoNumber r.2
  (group known).map fun g => (g.1, if together then togetherMean g.2 else carriedMean g.2)

/-- An id that is missing. -/
def isMissingId : Value → Bool
  | .null => true
  | .float x => x.isNaN
  | _ => false

/-- Columns put below each other: each is settled by itself, and then as a part of the whole. -/
def stacked (columns : List (List Value)) : List (List Value) :=
  let contents := columns.map content
  let whole : Content :=
    match contents with
    | [] => .mixed
    | c :: cs => cs.foldl Content.join c
  (columns.zip contents).map fun (vs, c) => vs.map fun v => settle whole (settle c v)

/-- The average of models whose weights are numbers of one system. -/
def averageNumbers (models : List (List (Value × F))) : List (Value × F) :=
  let models := models.filter fun m => !m.isEmpty
  let ids := stacked (models.map fun m => m.map Prod.fst)
  let weights := models.map fun m => m.map Prod.snd
  meansOf isMissingId (ids.flatten.zip weights.flatten)

/-- A weight as a double. -/
def realWeight (v : Value) : Except Fault Float := v.scalar.toReal

/-- The average of models given as lists of ids with their weights. -/
def average (models : List (List (Value × Value))) : Except Fault (List (Value × Float)) := do
  let models := models.filter fun m => !m.isEmpty
  let weights := stacked (models.map fun m => m.map Prod.snd)
  let models ← (models.zip weights).mapM fun (m, ws) => (m.zip ws).mapM fun (p, v) => do
    Key.check p.1
    let w ← realWeight v
    .ok (p.1, w)
  .ok (averageNumbers models)

end Weights
end PassiveAggressive
