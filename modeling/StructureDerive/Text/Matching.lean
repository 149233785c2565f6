/-! # Matching of two lists

The common parts of two lists: the longest common block, and in the same way those on either side of
it.
-/
namespace StructureDerive.Matching

variable {α : Type} [DecidableEq α]

/-- A common block: where it starts in either list, and its length. -/
structure Block where
  old : Nat
  new : Nat
  size : Nat
deriving DecidableEq, Repr

/-- In a long list an item that makes up more than a hundredth of it starts no block. -/
def popularItems (new : List α) : List α :=
  if new.length < 200 then []
  else (new.filter fun item => new.length / 100 + 1 < new.count item).eraseDups

/-- How far a common block reaches back that ends at this item and at each item of the other list. -/
def reach (isPopular : α → Bool) (item : α) : List α → Nat → List Nat → List Nat
  | other :: new, diagonal, above :: row =>
    (if item = other && !isPopular item then diagonal + 1 else 0) ::
      reach isPopular item new above row
  | _, _, _ => []

/-- The longest block found so far, in favour of the first one. -/
def longer (old : Nat) (best : Block) (row : List Nat) : Block :=
  row.zipIdx.foldl
    (fun best (size, new) => if best.size < size then ⟨old + 1 - size, new + 1 - size, size⟩ else best)
    best

def longestCore (isPopular : α → Bool) (new : List α) : Nat → Block → List Nat → List α → Block
  | _, best, _, [] => best
  | i, best, row, item :: old =>
    let row := reach isPopular item new 0 row
    longestCore isPopular new (i + 1) (longer i best row) row old

def commonLength : List α → List α → Nat
  | a :: old, b :: new => if a = b then commonLength old new + 1 else 0
  | _, _ => 0

/-- Popular items at the ends of a block belong to it as well. -/
def extended (old new : List α) (b : Block) : Block :=
  let before := commonLength (old.take b.old).reverse (new.take b.new).reverse
  let after := commonLength (old.drop (b.old + b.size)) (new.drop (b.new + b.size))
  ⟨b.old - before, b.new - before, before + b.size + after⟩

def longest (isPopular : α → Bool) (old new : List α) : Block :=
  extended old new
    (longestCore isPopular new 0 ⟨0, 0, 0⟩ (new.map fun _ => 0) old)

/-- The common blocks in order: the longest one, and those on either side of it. -/
def blocksFrom (isPopular : α → Bool) : Nat → Nat → Nat → List α → List α → List Block
  | 0, _, _, _, _ => []
  | fuel + 1, i, j, old, new =>
    let b := longest isPopular old new
    if old.isEmpty || new.isEmpty || b.size = 0 then []
    else
      blocksFrom isPopular fuel i j (old.take b.old) (new.take b.new) ++
        ⟨i + b.old, j + b.new, b.size⟩ ::
          blocksFrom isPopular fuel (i + b.old + b.size) (j + b.new + b.size)
            (old.drop (b.old + b.size)) (new.drop (b.new + b.size))

def blocks (old new : List α) : List Block :=
  blocksFrom (popularItems new).contains (old.length + new.length + 1) 0 0 old new

end StructureDerive.Matching
