import Steering.Shell.Table

/-!
# The width of printed tables

All lines of a printed table are equally wide. The columns are first as wide as their widest cells
(`naturalWidths_eq`); if that is too wide, the widest column gives up what is too much, or all it
has (`lineWidth_cutWidest`). So the lines are as wide as they may be, unless a line is too wide even
without the widest column: then they are as wide as the other columns (`printed_width`).
-/

namespace Steering.Shell.Table

/-! ### Natural widths -/

/-- The cells of a column, its header first. -/
def column (t : Table) (i : Nat) : List String := (t.columns :: t.rows).filterMap (·[i]?)

/-- The number of characters of the longest of the cells. -/
def longest (cells : List String) : Nat := (cells.map String.length).foldr max 0

/-- The number of characters of a column's widest cell. -/
def columnWidth (t : Table) (i : Nat) : Nat := longest (t.column i)

def columnWidths (t : Table) : List Nat := (List.range t.columns.length).map t.columnWidth

/-- The width of a line if no column is cut: the columns and the blanks between them. -/
def naturalWidth (t : Table) : Nat :=
  t.columnWidths.foldr (· + ·) 0 + (t.columns.length - 1)

/-- The width of the widest column. -/
def widestColumn (t : Table) : Nat := t.columnWidths.foldr max 0

/-- A row widens each column to its own cell. -/
theorem getElem?_widen (widths : List Nat) (cells : List String) (i : Nat) :
    (widen widths cells)[i]? = widths[i]?.map fun w => max w (longest cells[i]?.toList) := by
  induction widths generalizing cells i with
  | nil => cases cells <;> simp [widen]
  | cons w widths ih =>
    cases cells with
    | nil => simp [widen, longest]
    | cons cell cells =>
      cases i with
      | zero => simp [widen, longest]
      | succ i => simpa [widen] using ih cells i

theorem longest_append (cells more : List String) :
    longest (cells ++ more) = max (longest cells) (longest more) := by
  induction cells with
  | nil => simp [longest]
  | cons cell cells ih =>
    simp only [longest, List.cons_append, List.map_cons, List.foldr_cons] at ih ⊢
    rw [ih, Nat.max_assoc]

/-- All rows together widen each column to the widest of their cells. -/
theorem getElem?_foldl_widen (rows : List (List String)) (widths : List Nat) (i : Nat) :
    (rows.foldl widen widths)[i]? =
      widths[i]?.map fun w => max w (longest (rows.filterMap (·[i]?))) := by
  induction rows generalizing widths with
  | nil => simp [longest]
  | cons cells rows ih =>
    -- The first row adds its cell, if it has one, to those of the column.
    have first : (cells :: rows).filterMap (·[i]?) = cells[i]?.toList ++ rows.filterMap (·[i]?) := by
      cases cell : cells[i]? <;> simp [cell]
    rw [List.foldl_cons, ih, getElem?_widen, Option.map_map, first]
    congr
    funext w
    simp only [Function.comp, longest_append, Nat.max_assoc]

theorem naturalWidths_eq (t : Table) : t.naturalWidths = t.columnWidths := by
  refine List.ext_getElem? fun i => ?_
  rw [naturalWidths, getElem?_foldl_widen, columnWidths]
  by_cases within : i < t.columns.length
  · simp [within, columnWidth, column]
  · simp [within]

theorem lineWidth_naturalWidths (t : Table) : lineWidth t.naturalWidths = t.naturalWidth := by
  rw [naturalWidths_eq, lineWidth, naturalWidth, columnWidths, List.length_map, List.length_range]

/-! ### Cutting the widest column -/

theorem foldr_max_eq (widths : List Nat) : widths.foldr max 0 = widths.max?.getD 0 := by
  induction widths with
  | nil => rfl
  | cons w widths ih =>
    rw [List.foldr_cons, ih, List.max?_cons]
    cases widths.max? <;> simp

/-- What a width gives up is the excess, but no more than there is. -/
theorem sum_modify_sub {widths : List Nat} {i w : Nat} (there : widths[i]? = some w)
    (excess : Nat) : (widths.modify i (· - excess)).foldr (· + ·) 0 + min excess w =
      widths.foldr (· + ·) 0 := by
  induction widths generalizing i with
  | nil => simp at there
  | cons first rest ih =>
    cases i with
    | zero =>
      have same : first = w := by simpa using there
      rw [List.modify_zero_cons, List.foldr_cons, List.foldr_cons]
      omega
    | succ i =>
      have later : rest[i]? = some w := by simpa using there
      rw [List.modify_succ_cons, List.foldr_cons, List.foldr_cons, ← ih later, Nat.add_assoc]

/-- A line gets narrower by the excess, but by no more than its widest column. -/
theorem lineWidth_cutWidest (excess : Nat) (widths : List Nat) :
    lineWidth (cutWidest excess widths) =
      lineWidth widths - min excess (widths.foldr max 0) := by
  rw [foldr_max_eq, cutWidest]
  cases largest : widths.max? with
  | none => simp [List.max?_eq_none_iff.mp largest, lineWidth]
  | some widest =>
    have member : widest ∈ widths := List.max?_mem largest
    have there : widths[widths.idxOf widest]? = some widest := by
      rw [List.getElem?_eq_getElem (List.idxOf_lt_length_of_mem member), List.getElem_idxOf]
    have cut := sum_modify_sub there excess
    simp only [lineWidth, List.length_modify, Option.getD_some]
    omega

/-- How wide the lines of a table are: as wide as they may be, but not narrower than they are
without the widest column. -/
def printedWidth (t : Table) (width : Nat) : Nat :=
  max (min width t.naturalWidth) (t.naturalWidth - t.widestColumn)

theorem lineWidth_widths (t : Table) (width : Nat) :
    lineWidth (t.widths width) = t.printedWidth width := by
  have widest : t.naturalWidths.foldr max 0 = t.widestColumn := by
    rw [naturalWidths_eq, widestColumn]
  rw [widths, lineWidth_cutWidest, lineWidth_naturalWidths, widest, printedWidth]
  omega

theorem length_widths (t : Table) (width : Nat) :
    (t.widths width).length = t.columns.length := by
  have natural : t.naturalWidths.length = t.columns.length := by
    rw [naturalWidths_eq, columnWidths, List.length_map, List.length_range]
  rw [widths, cutWidest]
  split
  · rw [List.length_modify, natural]
  next none => rw [← natural, List.max?_eq_none_iff.mp none]

/-! ### Lines -/

theorem toList_fit (width : Nat) (cell : String) :
    (fit width cell).toList =
      cell.toList.take width ++ List.replicate (width - (cell.toList.take width).length) ' ' := by
  rw [fit, String.toList_ofList]

/-- A cell fills its column. -/
theorem length_fit (width : Nat) (cell : String) : (fit width cell).length = width := by
  rw [← String.length_toList, toList_fit, List.length_append, List.length_replicate,
    List.length_take]
  omega

/-- Texts that are joined by blanks are as wide as a line of columns of their widths. -/
theorem length_joined (parts : List String) :
    (String.intercalate " " parts).length = lineWidth (parts.map String.length) := by
  induction parts with
  | nil => rfl
  | cons part rest ih =>
    cases rest with
    | nil => simp [lineWidth, String.intercalate_singleton]
    | cons next rest =>
      rw [String.intercalate_cons_cons, String.length_append, String.length_append, ih]
      have blank : " ".length = 1 := rfl
      simp only [lineWidth, List.map_cons, List.foldr_cons, List.length_cons, blank]
      omega

/-- A row is a line of its columns' widths, if it has a cell for each of them. -/
theorem length_row {widths : List Nat} {cells : List String} (full : cells.length = widths.length) :
    (row widths cells).length = lineWidth widths := by
  have fitted : (List.zipWith fit widths cells).map String.length = widths := by
    refine List.ext_getElem (by simp [full]) fun i _ _ => ?_
    simp [length_fit]
  rw [row, length_joined, fitted]

theorem length_rule (widths : List Nat) : (rule widths).length = lineWidth widths := by
  rw [rule, length_joined, List.map_map]
  congr
  exact (List.map_congr_left fun w _ => by simp).trans (List.map_id widths)

/-! ### Line breaks -/

/-- Texts without line breaks are joined without line breaks. -/
theorem unbroken_joined {parts : List String} (unbroken : ∀ part ∈ parts, '\n' ∉ part.toList) :
    '\n' ∉ (String.intercalate " " parts).toList := by
  induction parts with
  | nil => simp [String.intercalate_nil]
  | cons part rest ih =>
    obtain ⟨first, others⟩ := List.forall_mem_cons.mp unbroken
    cases rest with
    | nil => simpa [String.intercalate_singleton] using first
    | cons next rest =>
      rw [String.intercalate_cons_cons, String.toList_append, String.toList_append,
        List.mem_append, List.mem_append, not_or, not_or]
      exact ⟨⟨first, by decide⟩, ih others⟩

theorem unbroken_fit (width : Nat) {cell : String} (unbroken : '\n' ∉ cell.toList) :
    '\n' ∉ (fit width cell).toList := by
  rw [toList_fit, List.mem_append, not_or]
  exact ⟨fun cut => unbroken (List.mem_of_mem_take cut), by simp⟩

theorem unbroken_row (widths : List Nat) {cells : List String}
    (unbroken : ∀ cell ∈ cells, '\n' ∉ cell.toList) : '\n' ∉ (row widths cells).toList := by
  refine unbroken_joined fun part member => ?_
  rw [← List.map_uncurry_zip_eq_zipWith] at member
  obtain ⟨⟨w, cell⟩, there, rfl⟩ := List.mem_map.mp member
  exact unbroken_fit w (unbroken cell (List.of_mem_zip there).2)

theorem unbroken_rule (widths : List Nat) : '\n' ∉ (rule widths).toList := by
  refine unbroken_joined fun part member => ?_
  obtain ⟨w, _, rfl⟩ := List.mem_map.mp member
  simp

/-- Ended lines are read back as they are, with nothing behind the last of them. -/
theorem splitOn_ended {lines : List String} (unbroken : ∀ line ∈ lines, '\n' ∉ line.toList) :
    (String.join (lines.map (· ++ "\n"))).toList.splitOn '\n' =
      lines.map String.toList ++ [[]] := by
  rw [String.toList_join, List.flatMap_map]
  induction lines with
  | nil => rfl
  | cons line rest ih =>
    obtain ⟨first, others⟩ := List.forall_mem_cons.mp unbroken
    have ended : (line ++ "\n").toList = line.toList ++ ['\n'] := String.toList_append
    rw [List.flatMap_cons, ended, List.append_assoc, List.singleton_append,
      List.splitOn_append_cons_self_of_not_mem first, ih others]
    rfl

/-- **All lines of a table are equally wide.** Take a table whose rows have a cell for each column
and whose cells have no line breaks. What is printed are a header, a rule and a line for each row,
all of them `printedWidth` characters wide. They are as wide as the table is by nature, or as wide
as they may be if that is less, exactly if the widest column alone can give up what is too much. -/
theorem printed_width (t : Table) (full : ∀ row ∈ t.rows, row.length = t.columns.length)
    (unbroken : ∀ cells ∈ t.columns :: t.rows, ∀ cell ∈ cells, '\n' ∉ cell.toList) (width : Nat) :
    (t.print width).toList.splitOn '\n' = (t.lines width).map String.toList ++ [[]] ∧
    (t.lines width).length = t.rows.length + 2 ∧
    (∀ line ∈ t.lines width, line.length = t.printedWidth width) ∧
    ((∀ line ∈ t.lines width, line.length = min width t.naturalWidth) ↔
      t.naturalWidth ≤ width + t.widestColumn) := by
  obtain ⟨header, rows⟩ := List.forall_mem_cons.mp unbroken
  have unbrokenLines : ∀ line ∈ t.lines width, '\n' ∉ line.toList := by
    simp only [lines, List.forall_mem_cons, List.forall_mem_map]
    exact ⟨unbroken_row _ header, unbroken_rule _, fun row member => unbroken_row _ (rows row member)⟩
  have wide : ∀ line ∈ t.lines width, line.length = t.printedWidth width := by
    simp only [lines, List.forall_mem_cons, List.forall_mem_map, ← lineWidth_widths]
    exact ⟨length_row (t.length_widths width).symm, length_rule _, fun row member =>
      length_row (by rw [full row member, length_widths])⟩
  refine ⟨splitOn_ended unbrokenLines, by simp [lines], wide, ?_⟩
  -- There is always a header, so what holds of all lines holds of their common width.
  have narrow : t.printedWidth width = min width t.naturalWidth ↔
      t.naturalWidth ≤ width + t.widestColumn := by
    rw [printedWidth]
    omega
  rw [← narrow]
  constructor
  · intro asWide
    have header : row (t.widths width) t.columns ∈ t.lines width := List.mem_cons_self
    rw [← wide _ header, asWide _ header]
  · intro same line member
    rw [wide line member, same]

/-- A small table to look at. -/
def zones : Table :=
  { columns := ["Zone", "Records"], rows := [["example.org", "12"], ["a.example", "3"]] }

/-- The first column of the small table gives up seven characters. -/
theorem printed_width_zones :
    (∀ row ∈ zones.rows, row.length = zones.columns.length) ∧
    (∀ cells ∈ zones.columns :: zones.rows, ∀ cell ∈ cells, '\n' ∉ cell.toList) ∧
    zones.naturalWidth = 19 ∧ ∀ line ∈ zones.lines 12, line.length = 12 := by
  have full : ∀ row ∈ zones.rows, row.length = zones.columns.length := by decide
  have unbroken : ∀ cells ∈ zones.columns :: zones.rows, ∀ cell ∈ cells, '\n' ∉ cell.toList := by
    decide
  obtain ⟨-, -, -, asWide⟩ := printed_width zones full unbroken 12
  exact ⟨full, unbroken, by decide, asWide.mpr (by decide)⟩

/-- Three characters are enough for two columns and a blank, but columns of three characters are not
cut so far: the first one loses all it has, and the second one is kept whole. -/
theorem too_wide_without_widest :
    let t : Table := { columns := ["aaa", "bbb"], rows := [] }
    2 * t.columns.length - 1 ≤ 3 ∧ t.naturalWidth = 7 ∧ t.print 3 = " bbb\n ===\n" ∧
      ∀ line ∈ t.lines 3, line.length ≠ min 3 t.naturalWidth := by
  decide

end Steering.Shell.Table
