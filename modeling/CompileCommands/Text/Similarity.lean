import CompileCommands.Decimal.Binary64

/-!
# Similarity of texts

Two texts are similar if many of their characters stand in both at about the same place and in
about the same order. The measure is the mean of three ratios: common characters to the
characters of the first text, to those of the second text, and those in order to all common
ones. Ratios, sums and the mean are binary numbers, so that two measures may differ in the last
bit where the exact ones agree.
-/

namespace CompileCommands.Text.Similarity

/-- A ratio of two numbers. -/
structure Ratio where
  /-- The part. -/
  part : Nat
  /-- The whole. -/
  whole : Nat
  deriving DecidableEq, Repr

/-- The binary number nearest to a ratio. -/
def Ratio.rounded (r : Ratio) : Ratio :=
  match Binary64.ofFraction? r.part r.whole with
  | some (m, e) => ⟨m * Nat.pow 2 e.toNat, Nat.pow 2 (-e).toNat⟩
  | none => r

/-- The binary number nearest to the sum of two ratios. -/
def Ratio.plus (r s : Ratio) : Ratio :=
  Ratio.rounded ⟨r.part * s.whole + s.part * r.whole, r.whole * s.whole⟩

/-- The first ratio is less than the second. -/
def Ratio.less (r s : Ratio) : Bool :=
  r.part * s.whole < s.part * r.whole

/-- The characters of a text, each with its place. -/
abbrev Placed := List (Nat × Char)

/-- Take out the first character that is `c` and no further than `range` from a place. -/
def takeNear (range place : Nat) (c : Char) : Placed → Option ((Nat × Char) × Placed)
  | [] => none
  | (p, d) :: rest =>
    -- Each character of the second text is common with one of the first at most.
    if c = d ∧ p ≤ place + range ∧ place ≤ p + range then some ((p, d), rest)
    else (takeNear range place c rest).map fun (found, left) => (found, (p, d) :: left)

/-- The common characters of some text and of a second text, in the order of the first, with
the places in the second. -/
def common (range : Nat) : (place : Nat) → List Char → Placed → Placed
  | _, [], _ => []
  | place, c :: cs, second =>
    match takeNear range place c second with
    | some ((p, _), left) => (p, c) :: common range (place + 1) cs left
    | none => common range (place + 1) cs second

/-- How similar two texts are. -/
def similarity (first second : String) : Ratio :=
  let a := first.length
  let b := second.length
  let range := max a b / 2 - 1
  let found := common range 0 first.toList (second.toList.zipIdx.map fun (c, p) => (p, c))
  let inOrder := (found.mergeSort fun x y => x.1 ≤ y.1).map (·.2)
  let m := found.length
  let displaced := ((found.map (·.2)).zip inOrder).countP fun (c, d) => c ≠ d
  if m = 0 then ⟨0, 1⟩
  else
    let total := ((Ratio.rounded ⟨m, a⟩).plus (Ratio.rounded ⟨m, b⟩)).plus
      (Ratio.rounded ⟨m - displaced / 2, m⟩)
    Ratio.rounded ⟨total.part, 3 * total.whole⟩

end CompileCommands.Text.Similarity
