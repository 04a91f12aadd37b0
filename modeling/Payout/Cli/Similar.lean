/-!
# Similar names

When a command line names something that does not exist, the names that are close to it are
suggested. Closeness is the Jaro similarity of the two character sequences: with `m` the
number of characters that match (equal characters at most `max(|a|, |b|) / 2 - 1` places
apart, each character of either side used once, taken greedily from the left) and `t` half
the number of matched pairs that appear in a different order,

  `sim = (m / |a| + m / |b| + (m - t) / m) / 3`,

computed in double precision; two empty sequences have similarity 1, one empty sequence 0.

A name is suggested when its similarity is above 0.7; suggestions are listed from the least
to the most similar, names of equal similarity in the order they were offered.
-/

namespace Payout.Cli

/-- The positions of `b` matched by the characters of `a`, greedily from the left: for each
character of `a`, the first unused equal character of `b` within the window. -/
def jaroMatches (a b : List Char) (window : Nat) : List (Nat × Nat) :=
  let bs := b.toArray
  let step := fun (acc : List (Nat × Nat)) (ic : Nat × Char) =>
    let (i, c) := ic
    let lo := i - window
    let hi := min b.length (i + window + 1)
    match (List.range hi).find? (fun j => lo ≤ j && bs[j]? == some c && !(acc.any (·.2 == j))) with
    | some j => acc ++ [(i, j)]
    | none => acc
  (a.zipIdx.map fun (c, i) => (i, c)).foldl step []

/-- The Jaro similarity of two character sequences. -/
def jaro (a b : List Char) : Float :=
  if a.isEmpty && b.isEmpty then 1.0
  else if a.isEmpty || b.isEmpty then 0.0
  else
    let window := max a.length b.length / 2 - 1
    let ms := jaroMatches a b window
    let m := ms.length
    if m == 0 then 0.0
    else
      -- the matched characters of each side, in the order of that side
      let fromA := ms.filterMap fun (i, _) => a[i]?
      let fromB := ((ms.map (·.2)).mergeSort (· ≤ ·)).filterMap fun j => b[j]?
      let t := ((fromA.zip fromB).filter fun (x, y) => x != y).length / 2
      let mf := m.toFloat
      (mf / a.length.toFloat + mf / b.length.toFloat + (m - t).toFloat / mf) / 3.0

/-- The offered names close enough to a name, from the least to the most similar. -/
def similarNames (name : String) (offered : List String) : List String :=
  let scored := offered.filterMap fun o =>
    let s := jaro name.toList o.toList
    if s > 0.7 then some (s, o) else none
  (scored.mergeSort fun x y => x.1 ≤ y.1).map (·.2)

end Payout.Cli
