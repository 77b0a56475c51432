/-!
Aligning text in columns.

Text is read as lines of cells separated by tab characters; the text after a line's last tab
is not part of a column. A column is laid out in blocks: a block is a run of consecutive lines
that all have a cell in that column, and every cell of the block is padded with blanks to the
widest cell of the block plus the padding. Widths count characters.
-/

namespace CrudRoutes.Text

def cellsOf (text : String) : List (List String) :=
  (text.splitOn "\n").map (·.splitOn "\t")

def hasColumn (cells : List String) (col : Nat) : Bool :=
  col + 1 < cells.length

def blockAround (lines : List (List String)) (i col : Nat) : List (List String) :=
  let before := ((lines.take i).reverse.takeWhile (hasColumn · col))
  let after := (lines.drop i).takeWhile (hasColumn · col)
  before ++ after

def columnWidth (lines : List (List String)) (padding i col : Nat) : Nat :=
  (blockAround lines i col).foldl (fun w cells => max w ((cells.getD col "").length + padding)) 0

def alignColumns (padding : Nat) (text : String) : String :=
  let lines := cellsOf text
  let rendered := lines.zipIdx.map fun (cells, i) =>
    String.join (cells.zipIdx.map fun (cell, col) =>
      if hasColumn cells col then
        cell.pushn ' ' (columnWidth lines padding i col - cell.length)
      else cell)
  "\n".intercalate rendered

end CrudRoutes.Text
