import ContainerRoster.Text.TabStops

/-!
# Columns of lines with as many cells

`align_lines`: where all lines have the same number of cells, every column goes through the whole
text, so a line is set by the widths of whole columns alone.  The text is given as it is written,
with tabs and newlines, and that it falls into its cells again needs them to hold neither.
`filled_eq_append` adds where a cell stands on its line, which depends on the columns before it but
not on the line.
-/

namespace ContainerRoster.Text

@[simp] theorem width_append (cs ds : List Char) : width (cs ++ ds) = width cs + width ds := by
  have hds : (ds.map charWidth).foldl (· + ·) (width cs + 0) = width cs + width ds :=
    List.foldl_assoc
  rw [width, List.map_append, List.foldl_append, ← hds, Nat.add_zero]
  rfl

@[simp] theorem width_blanks (n : Nat) : width (List.replicate n ' ') = n := by
  induction n with
  | zero => rfl
  | succ n ih =>
    have hblank : width [' '] = 1 := by decide
    rw [List.replicate_succ', width_append, ih, hblank]

namespace TabStops

variable {minWidth padding place n : Nat} {cells : Line} {rows : List Line} {w : Nat → Nat}

/-! ## The widths of the columns -/

/-- The width of a column that goes through some lines. -/
def widest (minWidth : Nat) (rows : List Line) (place : Nat) : Nat :=
  (rows.map fun cells => width (cells.getD place [])).foldl max minWidth

theorem le_foldl_max (widths : List Nat) (least : Nat) :
    least ≤ widths.foldl max least ∧ ∀ w ∈ widths, w ≤ widths.foldl max least := by
  induction widths generalizing least with
  | nil => exact ⟨Nat.le_refl _, fun w hw => absurd hw List.not_mem_nil⟩
  | cons first rest ih =>
    obtain ⟨hleast, hrest⟩ := ih (max least first)
    rw [List.foldl_cons]
    refine ⟨Nat.le_trans (Nat.le_max_left _ _) hleast, fun w hw => ?_⟩
    rcases List.mem_cons.mp hw with rfl | hw
    · exact Nat.le_trans (Nat.le_max_right _ _) hleast
    · exact hrest w hw

theorem minWidth_le_widest (minWidth : Nat) (rows : List Line) (place : Nat) :
    minWidth ≤ widest minWidth rows place :=
  (le_foldl_max _ _).1

theorem width_le_widest (h : cells ∈ rows) (minWidth place : Nat) :
    width (cells.getD place []) ≤ widest minWidth rows place :=
  (le_foldl_max _ _).2 _ (List.mem_map_of_mem h)

/-- Only the empty line behind the last newline ends the columns. -/
theorem columnWidth_lines (hplace : place < n) (h : ∀ cells ∈ rows, cells.length = n + 1) :
    columnWidth minWidth place (rows ++ [[]]) = widest minWidth rows place := by
  have hrows : ∀ cells ∈ rows, decide (place + 1 < cells.length) = true := by
    intro cells hc
    rw [h cells hc, decide_eq_true_eq]
    omega
  rw [columnWidth, List.takeWhile_append_of_pos hrows, List.takeWhile_cons_of_neg (by simp),
    List.append_nil, widest]

/-- Below a line with as many cells the columns go on. -/
theorem columnWidths_below {above : List Nat} (habove : above.length = n)
    (h : ∀ cells ∈ rows, cells.length = n + 1) :
    columnWidths minWidth above (rows ++ [[]]) = rows.map (fun _ => above) ++ [[]] := by
  induction rows with
  | nil => rfl
  | cons cells below ih =>
    obtain ⟨hcells, hbelow⟩ := List.forall_mem_cons.mp h
    have hhere : (List.range (cells.length - 1)).map
        (widthAt minWidth above (cells :: (below ++ [[]]))) = above := by
      refine List.ext_getElem (by simp [hcells, habove]) fun place h₁ h₂ => ?_
      simp [widthAt, List.getElem?_eq_getElem h₂]
    rw [List.cons_append, columnWidths, hhere, ih hbelow, List.map_cons, List.cons_append]

theorem columnWidths_lines (hne : rows ≠ []) (h : ∀ cells ∈ rows, cells.length = n + 1) :
    columnWidths minWidth [] (rows ++ [[]]) =
      rows.map (fun _ => (List.range n).map (widest minWidth rows)) ++ [[]] := by
  cases rows with
  | nil => exact absurd rfl hne
  | cons cells below =>
    obtain ⟨hcells, hbelow⟩ := List.forall_mem_cons.mp h
    have hhere : (List.range (cells.length - 1)).map
        (widthAt minWidth [] (cells :: (below ++ [[]]))) =
          (List.range n).map (widest minWidth (cells :: below)) := by
      rw [hcells, Nat.add_sub_cancel]
      refine List.map_congr_left fun place hplace => ?_
      exact columnWidth_lines (List.mem_range.mp hplace) h
    rw [List.cons_append, columnWidths, hhere, columnWidths_below (by simp) hbelow, List.map_cons,
      List.cons_append]

/-! ## One line -/

/-- A line in columns of some widths, from a place on: behind every cell but the last stand the
blanks up to the next column. -/
def filled (padding : Nat) (w : Nat → Nat) (place : Nat) : Line → List Char
  | [] => []
  | [cell] => cell
  | cell :: rest =>
    cell ++ List.replicate (w place + padding - width cell) ' ' ++ filled padding w (place + 1) rest

theorem filled_cons (h : cells ≠ []) (cell : List Char) :
    filled padding w place (cell :: cells) =
      cell ++ List.replicate (w place + padding - width cell) ' ' ++
        filled padding w (place + 1) cells := by
  cases cells with
  | nil => exact absurd rfl h
  | cons next rest => rfl

theorem fill_eq_filled (hlength : cells.length = n + 1)
    (h : ∀ k, width (cells.getD k []) ≤ w (place + k)) :
    fill padding ((List.range' place n).map w) cells = filled padding w place cells := by
  induction n generalizing place cells with
  | zero =>
    obtain ⟨cell, rfl⟩ := List.length_eq_one_iff.mp hlength
    exact List.append_nil cell
  | succ n ih =>
    cases cells with
    | nil => cases hlength
    | cons cell rest =>
      have hrest : rest.length = n + 1 := by simpa using hlength
      have hcell : width cell ≤ w place := h 0
      have hnext : ∀ k, width (rest.getD k []) ≤ w (place + 1 + k) := by
        intro k
        rw [Nat.add_right_comm]
        exact h (k + 1)
      have hblanks : w place - width cell + padding = w place + padding - width cell := by omega
      rw [List.range'_succ, List.map_cons, fill, hblanks, ih hrest hnext,
        filled_cons (List.ne_nil_of_length_eq_add_one hrest)]

/-- Where a column starts. -/
def offset (padding : Nat) (w : Nat → Nat) : Nat → Nat
  | 0 => 0
  | place + 1 => offset padding w place + (w place + padding)

/-- A cell starts where its column does, and behind it stand the blanks up to the next column,
unless it is the last one. -/
theorem filled_eq_append (padding : Nat) {start : Nat}
    (h : ∀ k, width (cells.getD k []) ≤ w (start + k)) {cell : List Char}
    (hcell : cells[place]? = some cell) :
    ∃ before behind, filled padding w start cells = before ++ cell ++ behind ∧
      offset padding w start + width before = offset padding w (start + place) ∧
      if place + 1 < cells.length then
        ∃ rest, behind =
          List.replicate (w (start + place) + padding - width cell) ' ' ++ rest
      else behind = [] := by
  induction cells generalizing start place with
  | nil => cases hcell
  | cons first rest ih =>
    have hfirst : width first ≤ w start := h 0
    have hnext : ∀ k, width (rest.getD k []) ≤ w (start + 1 + k) := by
      intro k
      rw [Nat.add_right_comm]
      exact h (k + 1)
    cases place with
    | zero =>
      obtain rfl : first = cell := by simpa using hcell
      cases rest with
      | nil => exact ⟨[], [], (List.append_nil _).symm, rfl, rfl⟩
      | cons next later =>
        refine ⟨[], _, by rw [filled_cons (List.cons_ne_nil _ _), List.nil_append,
          List.append_assoc], rfl, ?_⟩
        rw [if_pos (by simp)]
        exact ⟨_, rfl⟩
    | succ place =>
      have hrest : rest[place]? = some cell := by simpa using hcell
      have hne : rest ≠ [] := by
        rintro rfl
        cases hrest
      obtain ⟨before, behind, hfilled, hbefore, hbehind⟩ := ih hnext hrest
      rw [Nat.add_assoc, Nat.add_comm 1 place] at hbefore hbehind
      refine ⟨first ++ List.replicate (w start + padding - width first) ' ' ++ before, behind,
        by rw [filled_cons hne, hfilled]; simp only [List.append_assoc], ?_, ?_⟩
      · rw [offset] at hbefore
        rw [width_append, width_append, width_blanks]
        omega
      · simpa using hbehind

/-! ## The text -/

theorem notMem_intercalate {a b : Char} (hab : a ≠ b) (h : ∀ cell ∈ cells, a ∉ cell) :
    a ∉ List.intercalate [b] cells := by
  induction cells with
  | nil => exact List.not_mem_nil
  | cons cell rest ih =>
    obtain ⟨hcell, hrest⟩ := List.forall_mem_cons.mp h
    cases rest with
    | nil => rwa [List.intercalate_singleton]
    | cons next later =>
      rw [List.intercalate_cons_cons]
      simp only [List.mem_append, List.mem_singleton, not_or]
      exact ⟨⟨hcell, hab⟩, ih hrest⟩

theorem notMem_filled {a : Char} (hblank : a ≠ ' ') (h : ∀ cell ∈ cells, a ∉ cell) :
    a ∉ filled padding w place cells := by
  induction cells generalizing place with
  | nil => exact List.not_mem_nil
  | cons cell rest ih =>
    obtain ⟨hcell, hrest⟩ := List.forall_mem_cons.mp h
    cases rest with
    | nil => exact hcell
    | cons next later =>
      rw [filled_cons (List.cons_ne_nil _ _)]
      simp only [List.mem_append, not_or]
      exact ⟨⟨hcell, fun ha => hblank (List.eq_of_mem_replicate ha)⟩, ih hrest⟩

theorem splitOn_newlines {texts : List (List Char)} (h : ∀ text ∈ texts, '\n' ∉ text) :
    (texts.flatMap fun text => text ++ ['\n']).splitOn '\n' = texts ++ [[]] := by
  induction texts with
  | nil => rfl
  | cons text rest ih =>
    obtain ⟨htext, hrest⟩ := List.forall_mem_cons.mp h
    rw [List.flatMap_cons, List.append_assoc, List.singleton_append,
      List.splitOn_append_cons_self, List.splitOn_eq_singleton htext, ih hrest]
    rfl

/-- Lines that are written with tabs and newlines are read as they were. -/
theorem lines_written (hne : ∀ cells ∈ rows, cells ≠ [])
    (h : ∀ cells ∈ rows, ∀ cell ∈ cells, '\t' ∉ cell ∧ '\n' ∉ cell) :
    lines (rows.flatMap fun cells => List.intercalate ['\t'] cells ++ ['\n']) = rows ++ [[]] := by
  have hcells : rows.map (fun cells => (List.intercalate ['\t'] cells).splitOn '\t') = rows := by
    refine (List.map_congr_left fun cells hc => ?_).trans (List.map_id rows)
    exact List.splitOn_intercalate '\t' (fun cell hcell => (h cells hc cell hcell).1) (hne cells hc)
  have hlines : ∀ text ∈ rows.map (List.intercalate ['\t']), '\n' ∉ text := by
    intro text ht
    obtain ⟨cells, hc, rfl⟩ := List.mem_map.mp ht
    exact notMem_intercalate (by decide) fun cell hcell => (h cells hc cell hcell).2
  have hsplit := splitOn_newlines hlines
  rw [List.flatMap_map] at hsplit
  rw [lines, hsplit, List.map_append, List.map_map]
  simp only [Function.comp_def, hcells, List.map_cons, List.map_nil]
  rw [List.dropLast_concat, List.getLast?_concat]
  rfl

/-- Lines with as many cells are set by the widths of whole columns. -/
theorem align_lines (style : Style) (hrows : rows ≠ [])
    (hlength : ∀ cells ∈ rows, cells.length = n + 1)
    (h : ∀ cells ∈ rows, ∀ cell ∈ cells, '\t' ∉ cell ∧ '\n' ∉ cell) :
    (align style (rows.flatMap fun cells =>
        List.intercalate ['\t'] cells ++ ['\n'])).splitOn '\n' =
      rows.map (filled style.padding (widest style.minWidth rows) 0) ++ [[]] := by
  have hne : ∀ cells ∈ rows, cells ≠ [] := by
    intro cells hc
    exact List.ne_nil_of_length_eq_add_one (hlength cells hc)
  have hfill : ∀ cells ∈ rows,
      fill style.padding ((List.range n).map (widest style.minWidth rows)) cells =
        filled style.padding (widest style.minWidth rows) 0 cells := by
    intro cells hc
    rw [List.range_eq_range']
    refine fill_eq_filled (hlength cells hc) fun k => ?_
    rw [Nat.zero_add]
    exact width_le_widest hc _ _
  have hset : List.zipWith (fill style.padding)
      (rows.map (fun _ => (List.range n).map (widest style.minWidth rows))) rows =
        rows.map (filled style.padding (widest style.minWidth rows) 0) := by
    rw [List.zipWith_map_left, List.zipWith_self]
    exact List.map_congr_left hfill
  have hlines : ∀ text ∈ rows.map (filled style.padding (widest style.minWidth rows) 0) ++ [[]],
      '\n' ∉ text := by
    intro text ht
    rcases List.mem_append.mp ht with ht | ht
    · obtain ⟨cells, hc, rfl⟩ := List.mem_map.mp ht
      exact notMem_filled (by decide) fun cell hcell => (h cells hc cell hcell).2
    · rw [List.mem_singleton.mp ht]
      exact List.not_mem_nil
  rw [align, lines_written hne h, columnWidths_lines hrows hlength,
    List.zipWith_append (List.length_map _), hset]
  exact List.splitOn_intercalate '\n' hlines (by simp)

end TabStops
end ContainerRoster.Text
