/-! Edit distance. -/
namespace Stencil
namespace Text

/-- One row of the table: the cheapest of an insertion, a deletion and a replacement. `diagonal`
and `left` are the costs up left and to the left. -/
def nextRow (c : Char) : Nat → Nat → List Char → List Nat → List Nat
  | diagonal, left, d :: ds, above :: row =>
    let cost := min (min (left + 1) (above + 1)) (diagonal + if c = d then 0 else 1)
    cost :: nextRow c above cost ds row
  | _, _, _, _ => []

/-- The costs of turning what was read so far into each beginning of `t`. -/
def distanceRows (t : List Char) : Nat → List Nat → List Char → List Nat
  | _, row, [] => row
  | read, row, c :: cs => distanceRows t (read + 1) (nextRow c read (read + 1) t row) cs

/-- The least number of insertions, deletions and replacements that turn `s` into `t`. -/
def distance (s t : String) : Nat :=
  let target := t.toList
  let row := distanceRows target 0 ((List.range target.length).map (· + 1)) s.toList
  row.getLast?.getD s.toList.length

end Text
end Stencil
