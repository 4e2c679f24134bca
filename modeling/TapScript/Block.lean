import TapScript.Line

/-!
# Blocks

A block reaches from a header line to the line at which the braces opened since then are closed
again. Blocks are not parsed ahead: their ends are found by counting braces from the header on. A
block that is never closed reaches to the last line.

* `Block.finish` is the index of the line that ends the block opened at an index.
* `Block.body` are the lines inside, and `Block.cut` splits the lines from a header on into the
  block's body and what follows the block.
-/

namespace TapScript

namespace Block

/-- What one character adds to the number of open braces. -/
def weight (m : Text.Mark) : Int := if m.is '{' then 1 else if m.is '}' then -1 else 0

/-- What the characters add to it together. -/
def balance : List Text.Mark → Int
  | [] => 0
  | m :: ms => weight m + balance ms

/-- The braces that a line opens minus those that it closes, literals apart. -/
def delta (t : Text) : Int := balance (Text.marks t)

/-- Counting on from `opened`, the index of the first line behind which no brace is open. -/
def closedAt? (opened : Int) : List Line → Option Nat
  | [] => none
  | line :: rest =>
    let now := opened + delta line.text
    if now ≤ 0 then some 0 else (closedAt? now rest).map (· + 1)

/-- The index of the line that ends the block opened at index `start`. -/
def finish (lines : List Line) (start : Nat) : Nat :=
  match lines.drop start with
  | [] => lines.length - 1
  | header :: rest =>
    match closedAt? (delta header.text) rest with
    | some k => start + 1 + k
    | none => lines.length - 1

/-- The lines behind index `start` up to index `last`, without the last one if it is a closing
brace. -/
def body (lines : List Line) (start last : Nat) : List Line :=
  if last ≤ start then []
  else
    match lines[last]? with
    | some line =>
      if line.text == Line.closer then (lines.take last).drop (start + 1)
      else (lines.take (last + 1)).drop (start + 1)
    | none => lines.drop (start + 1)

/-- The body of the block that the first line opens, and the lines behind the block. -/
def cut (lines : List Line) : List Line × List Line :=
  let last := finish lines 0
  (body lines 0 last, lines.drop (last + 1))

/-- Without lines the depth does not change. -/
@[simp] theorem delta_nil : delta [] = 0 := rfl

/-- What follows a block is shorter than the lines from its header on. -/
theorem length_cut_lt (line : Line) (rest : List Line) :
    (cut (line :: rest)).2.length < (line :: rest).length := by
  simp only [cut, List.length_drop, List.length_cons]
  omega

end Block

end TapScript
