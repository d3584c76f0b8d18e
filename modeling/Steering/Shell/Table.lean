/-!
# Tables

A table has a header and rows of cells. It is printed in columns as wide as their widest cell,
one blank apart, with a rule under the header. If that is wider than allowed, the widest column,
the first of them if there are several, is cut by the excess.
-/

namespace Steering.Shell

structure Table where
  columns : List String
  rows : List (List String)
deriving Repr, DecidableEq

namespace Table

/-- Column widths that also hold the cells of a row. Cells without a column do not count. -/
def widen : List Nat → List String → List Nat
  | w :: widths, cell :: cells => max w cell.length :: widen widths cells
  | widths, _ => widths

/-- The width of the widest cell of each column. -/
def naturalWidths (t : Table) : List Nat :=
  (t.columns :: t.rows).foldl widen (t.columns.map fun _ => 0)

/-- The width of a line with the given column widths. -/
def lineWidth (widths : List Nat) : Nat := widths.foldr (· + ·) 0 + (widths.length - 1)

/-- The first of the largest widths is reduced by the excess. -/
def cutWidest (excess : Nat) (widths : List Nat) : List Nat :=
  match widths.max? with
  | some widest => widths.modify (widths.idxOf widest) (· - excess)
  | none => []

/-- The widths that columns are printed with, if a line may have `width` characters. -/
def widths (t : Table) (width : Nat) : List Nat :=
  let natural := t.naturalWidths
  cutWidest (lineWidth natural - width) natural

/-- A cell cut or filled up to a width. -/
def fit (width : Nat) (cell : String) : String :=
  let cut := cell.toList.take width
  String.ofList (cut ++ List.replicate (width - cut.length) ' ')

def row (widths : List Nat) (cells : List String) : String :=
  String.intercalate " " (List.zipWith fit widths cells)

def rule (widths : List Nat) : String :=
  String.intercalate " " (widths.map fun w => String.ofList (List.replicate w '='))

/-- The lines of the table. -/
def lines (t : Table) (width : Nat) : List String :=
  let widths := t.widths width
  row widths t.columns :: rule widths :: t.rows.map (row widths)

/-- The table as a text, each line ended. -/
def print (t : Table) (width : Nat) : String :=
  String.join ((t.lines width).map (· ++ "\n"))

end Table

end Steering.Shell
