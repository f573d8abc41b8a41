import ContainerRoster.Output
import ContainerRoster.Proofs.Text.TabStops

/-!
# The layout of tables

`tables_laid_out`: whatever the cells of a table hold, it has one line for the header and one for
each row, and every column starts at the same display offset on all of them.  Tab stops alone do
not give this, as a tab or a newline in a cell would end the columns on its line.  Cleaned cells
hold neither, so all lines have as many cells as the header and the columns go through.
-/

namespace ContainerRoster
namespace Table

open Text.TabStops

/-- Whether a text is some lines of cells, laid out as a table.  A column is as wide as its widest
cell and nineteen at least, and one blank more stands between columns. -/
def LaidOut (rows : List Line) (text : String) : Prop :=
  let w := widest 19 rows
  text.toList.splitOn '\n' = rows.map (filled 1 w 0) ++ [[]] ∧
    (∀ cells ∈ rows, ∀ place cell, cells[place]? = some cell →
      Text.width cell ≤ w place ∧
        ∃ before behind, filled 1 w 0 cells = before ++ cell ++ behind ∧
          Text.width before = offset 1 w place ∧
          if place + 1 < cells.length then
            ∃ rest, behind = List.replicate (w place + 1 - Text.width cell) ' ' ++ rest
          else behind = []) ∧
    ∀ place, offset 1 w place + 20 ≤ offset 1 w (place + 1)

/-- Lines that are filled up to their columns are laid out, whatever cells they have. -/
theorem laidOut_of_splitOn {rows : List Line} {text : String}
    (h : text.toList.splitOn '\n' = rows.map (filled 1 (widest 19 rows) 0) ++ [[]]) :
    LaidOut rows text := by
  refine ⟨h, fun cells hc place cell hcell => ?_, fun place => ?_⟩
  · have hwidth : ∀ k, Text.width (cells.getD k []) ≤ widest 19 rows (0 + k) := by
      intro k
      rw [Nat.zero_add]
      exact width_le_widest hc _ _
    obtain ⟨before, behind, hfilled, hbefore, hbehind⟩ := filled_eq_append 1 hwidth hcell
    have hcellWidth := hwidth place
    rw [Nat.zero_add] at hbefore hbehind hcellWidth
    rw [List.getD_eq_getElem?_getD, hcell, Option.getD_some] at hcellWidth
    rw [offset, Nat.zero_add] at hbefore
    exact ⟨hcellWidth, before, behind, hfilled, hbefore, hbehind⟩
  · have hleast := minWidth_le_widest 19 rows place
    rw [offset]
    omega

theorem cleanChar_ne (c : Char) : cleanChar c ≠ '\t' ∧ cleanChar c ≠ '\n' := by
  unfold cleanChar
  split
  · exact ⟨by decide, by decide⟩
  · next h =>
    simp only [not_or] at h
    exact ⟨h.1, h.2.1⟩

theorem notMem_clean (cell : String) : '\t' ∉ clean cell ∧ '\n' ∉ clean cell := by
  unfold clean
  simp only [List.mem_map, not_exists, not_and]
  exact ⟨fun c _ => (cleanChar_ne c).1, fun c _ => (cleanChar_ne c).2⟩

/-- A table is laid out whenever its rows are as long as its header, and the header does not break
the line. -/
theorem laidOut_render (header : List String) (rows : List (List String)) {n : Nat}
    (hheader : header.length = n + 1) (hrows : ∀ row ∈ rows, row.length = n + 1)
    (hplain : ∀ name ∈ header, '\t' ∉ name.toList ∧ '\n' ∉ name.toList) :
    LaidOut (header.map String.toList :: rows.map fun row => row.map clean)
      (render header rows) := by
  have hlength : ∀ cells ∈ header.map String.toList :: rows.map fun row => row.map clean,
      cells.length = n + 1 := by
    simp only [List.forall_mem_cons, List.forall_mem_map, List.length_map]
    exact ⟨hheader, hrows⟩
  have hcells : ∀ cells ∈ header.map String.toList :: rows.map fun row => row.map clean,
      ∀ cell ∈ cells, '\t' ∉ cell ∧ '\n' ∉ cell := by
    simp only [List.forall_mem_cons, List.forall_mem_map]
    exact ⟨hplain, fun row _ cell _ => notMem_clean cell⟩
  have halign := align_lines style (List.cons_ne_nil _ _) hlength hcells
  rw [List.flatMap_cons, List.flatMap_map] at halign
  apply laidOut_of_splitOn
  rw [render, String.toList_ofList]
  exact halign

/-- A tab in a cell is a blank. -/
example : render ["KEY", "VALUE"] [["a\tb", "c\n"]] =
    "KEY                 VALUE\na b                 c \n" := by decide +kernel

end Table

theorem Store.length_of_mem_rows {store : Store} : ∀ row ∈ store.rows, row.length = 2 := by
  intro row hrow
  simp only [rows, List.mem_cons, List.not_mem_nil, or_false] at hrow
  rcases hrow with rfl | rfl | rfl | rfl | rfl | rfl <;> rfl

/-- A setting of a store stands on a line of its own behind its name. -/
theorem Store.exists_line (store : Store) {name value : String} (h : [name, value] ∈ store.rows) :
    ∃ blanks, Table.clean name ++ List.replicate (blanks + 1) ' ' ++ Table.clean value ∈
      (renderStore .table store).toList.splitOn '\n' := by
  have hlaid := Table.laidOut_render header store.rows rfl length_of_mem_rows (by decide)
  obtain ⟨hlines, hcells, -⟩ := hlaid
  have hrow : [Table.clean name, Table.clean value] ∈
      header.map String.toList :: store.rows.map fun row => row.map Table.clean :=
    List.mem_cons_of_mem _ (List.mem_map_of_mem (f := fun row => row.map Table.clean) h)
  obtain ⟨hwidth, -⟩ := hcells _ hrow 0 _ rfl
  have hline := List.mem_append_left [[]] (List.mem_map_of_mem
    (f := Text.TabStops.filled 1 (Text.TabStops.widest 19
      (header.map String.toList :: store.rows.map fun row => row.map Table.clean)) 0) hrow)
  rw [← hlines, Text.TabStops.filled_cons (List.cons_ne_nil _ _), Nat.succ_sub hwidth] at hline
  exact ⟨_, hline⟩

theorem tables_laid_out :
    (∀ records : List Record, Table.LaidOut
      (["CONTAINER", "CREATED", "STATE", "NAME", "PID", "IP", "MOUNTPOINT"].map String.toList ::
        records.map fun r =>
          [r.id, r.created, r.state, r.name, r.pid, r.ip, r.mountPoint].map Table.clean)
      (renderRecords .table records)) ∧
    (∀ store : Store, Table.LaidOut
      (["KEY", "VALUE"].map String.toList ::
        [["runroot", store.runRoot],
         ["root", store.graphRoot],
         ["driver", store.driver],
         ["driver-options", String.intercalate "," store.driverOptions],
         ["uidmap", String.intercalate "," (store.uidMap.map IdMap.text)],
         ["gidmap", String.intercalate "," (store.gidMap.map IdMap.text)]].map fun row =>
          row.map Table.clean)
      (renderStore .table store)) := by
  refine ⟨fun records => ?_, fun store => ?_⟩
  · have hcells : ∀ row ∈ records.map Record.cells, row.length = 7 := by
      intro row hrow
      obtain ⟨r, -, rfl⟩ := List.mem_map.mp hrow
      rfl
    have h := Table.laidOut_render Record.header (records.map Record.cells) rfl hcells (by decide)
    rw [List.map_map] at h
    exact h
  · exact Table.laidOut_render Store.header store.rows rfl Store.length_of_mem_rows (by decide)

end ContainerRoster
