import ContainerRoster.Proofs.Yaml.Entries

/-!
# YAML documents read back

`ofText?_documentText`: the text of a mapping is read as that very mapping, as long as its numbers
are whole and its keys are plain and distinct.  The induction is along the tree, over what is
written behind a dash, behind a key, of a sequence and of a mapping at once.  What carries it is an
invariant of the text behind the part that is read: it begins with a line further to the left, if
anything is left of it, and where a sequence has to end, not with another item in its column.
-/

namespace ContainerRoster
namespace Yaml

/-! ## What follows -/

/-- Whether no item of a sequence in a column comes next. -/
def NoItem (column : Nat) (rest : List Char) : Prop :=
  ((indentation rest).1 == column && startsItem (indentation rest).2) = false

theorem LeftOf.noItem {column : Nat} {rest : List Char} (h : LeftOf column rest) :
    NoItem column rest := by
  rcases h with rfl | ⟨depth, c, cs, rfl, hdepth, hspace, -⟩
  · rw [NoItem, indentation]
    exact Bool.and_false _
  · rw [NoItem, indentation_spaces depth hspace, beq_false_of_ne (by omega), Bool.false_and]

/-- Nor does a key of a mapping in that column. -/
theorem LeftOf.noKey {column : Nat} {rest : List Char} (h : LeftOf column rest) :
    (if (indentation rest).1 == column then readKey (indentation rest).2 else none) = none := by
  rcases h with rfl | ⟨depth, c, cs, rfl, hdepth, hspace, -⟩
  · have hnone : readKey [] = none := rfl
    rw [indentation, List.dropWhile_nil, hnone, ite_self]
  · rw [indentation_spaces depth hspace, beq_false_of_ne (by omega), if_neg Bool.false_ne_true]

/-! ## Keys -/

/-- A plain key is read up to its colon. -/
theorem readKey_plain {key : String} (h : style key = .plain) (hlimit : key.length < keyLimit)
    {rest : List Char} (hr : startsGap rest = true) :
    readKey (key.toList ++ ':' :: rest) = some (key, rest) := by
  have hread : readFlow (key.toList ++ ':' :: rest) = some (.string key, ':' :: rest) :=
    readFlow_plain h (by rw [endsPlain, hr]; rfl)
  have htake : (key.toList ++ ':' :: rest).take ((key.toList ++ ':' :: rest).length - rest.length) =
      key.toList ++ [':'] := by
    rw [List.append_cons, List.length_append, Nat.add_sub_cancel, List.take_left]
  have hlength : (key.toList ++ [':']).length ≤ keyLimit := by
    rw [List.length_append, String.length_toList, List.length_singleton]
    omega
  have hbreak : (key.toList ++ [':']).any isBreak = false := by
    rw [List.any_append, (isPlain_of_style h).2.1]
    rfl
  rw [readKey, hread]
  show (if startsGap rest && decide ((List.take _ _).length ≤ keyLimit) &&
    !(List.take _ _).any isBreak then some (key, rest) else none) = _
  rw [htake, hr, hbreak, decide_eq_true hlength]
  rfl

theorem startsGap_valueText {j : Json} (h : Portable j) (column : Nat) (rest : List Char) :
    startsGap (valueText column j ++ rest) = true := by
  cases hb : isBlock j with
  | false =>
    obtain ⟨text, htext, -⟩ := exists_inline h hb column
    rw [htext]
    rfl
  | true =>
    cases j with
    | array items =>
      cases items with
      | nil => cases hb
      | cons item items =>
        rw [valueText_array]
        rfl
    | object members =>
      cases members with
      | nil => cases hb
      | cons member members =>
        rw [Portable, PortableMembers] at h
        rw [valueText_object h.2.1.1]
        rfl
    | _ => cases hb

/-- What stands behind a dash begins after one space. -/
theorem exists_itemText {j : Json} (h : Portable j) (column : Nat) :
    ∃ c text, itemText column j = ' ' :: c :: text ∧ c ≠ ' ' := by
  cases hb : isBlock j with
  | false =>
    obtain ⟨text, htext, hinline⟩ := exists_inline h hb column
    obtain ⟨c, cs, rfl, hspace, -⟩ := hinline.begins
    exact ⟨c, cs, by rw [itemText_of_not_isBlock hb, htext], hspace⟩
  | true =>
    cases j with
    | array items =>
      cases items with
      | nil => cases hb
      | cons item items => exact ⟨_, _, itemText_array column item items, by decide⟩
    | object members =>
      cases members with
      | nil => cases hb
      | cons member members =>
        rw [Portable, PortableMembers] at h
        obtain ⟨c, cs, hkey, hspace, -⟩ := exists_cons_of_isPlain (isPlain_of_style h.2.1.1).1
        have htext := itemText_object h.2.1.1 column member.2 members
        rw [hkey, List.cons_append] at htext
        exact ⟨c, _, htext, hspace⟩
    | _ => cases hb

theorem leftOf_key {key : String} (h : style key = .plain) (column : Nat) (rest : List Char) :
    LeftOf (column + 1) (spaces column ++ (key.toList ++ rest)) := by
  obtain ⟨hplain, hbreak, -⟩ := isPlain_of_style h
  obtain ⟨c, cs, hc, hspace, -⟩ := exists_cons_of_isPlain hplain
  rw [hc, List.any_cons, Bool.or_eq_false_iff] at hbreak
  exact .inr ⟨column, c, cs ++ rest, by rw [hc, List.cons_append], by omega, hspace, hbreak.1⟩

theorem noItem_key {key : String} (h : style key = .plain) (column : Nat) (rest : List Char) :
    NoItem column (spaces column ++ (key.toList ++ rest)) := by
  have hplain := (isPlain_of_style h).1
  have hitem : startsItem (key.toList ++ rest) = false := startsItem_of_isPlain hplain
  obtain ⟨c, cs, hc, hspace, -⟩ := exists_cons_of_isPlain hplain
  rw [hc, List.cons_append] at hitem ⊢
  rw [NoItem, indentation_spaces column hspace, hitem, Bool.and_false]

/-! ## One step of a reader -/

theorem readValue_space {c : Char} (hc : c ≠ ' ') (fuel column : Nat) (dash : Bool)
    (cs : List Char) :
    readValue (fuel + 1) column dash (' ' :: c :: cs) =
      if dash then readNode fuel column (column + step) (c :: cs)
      else readInline column (c :: cs) := by
  have hind : indentation (c :: cs) = (0, c :: cs) := indentation_spaces 0 hc cs
  rw [readValue, if_neg (by decide), if_pos rfl, hind]
  rfl

/-- A block further to the right belongs to the key. -/
theorem readValue_deeper {c : Char} (hc : c ≠ ' ') {column depth : Nat} (h : column < depth)
    (fuel : Nat) (cs : List Char) :
    readValue (fuel + 1) column false ('\n' :: (spaces depth ++ c :: cs)) =
      readNode fuel column depth (c :: cs) := by
  rw [readValue, if_pos (by decide), indentation_spaces depth hc]
  exact if_pos h

/-- So does a sequence in the same column. -/
theorem readValue_items {fuel column : Nat} {cs rest : List Char} {items : List Json}
    (hread : readItems fuel column ('-' :: ' ' :: cs) = some (items, rest)) :
    readValue (fuel + 1) column false ('\n' :: (spaces column ++ '-' :: ' ' :: cs)) =
      some (.array items, rest) := by
  have hdash : (!false && column == column && startsItem ('-' :: ' ' :: cs)) = true := by
    rw [beq_self_eq_true]
    rfl
  rw [readValue, if_pos (by decide), indentation_spaces column (by decide)]
  dsimp only
  rw [if_neg (Nat.lt_irrefl column), if_pos hdash, hread]
  rfl

theorem readNode_inline {parent : Nat} {text rest : List Char} {value : Json}
    (h : Inline parent text value) (hr : LeftOf (parent + step) rest) (fuel column : Nat) :
    readNode (fuel + 1) parent column (text ++ rest) = some (value, rest) := by
  rw [readNode, h.noItem, if_neg Bool.false_ne_true, h.noKey]
  exact h.read rest hr

theorem readNode_items {fuel column : Nat} {cs rest : List Char} {items : List Json}
    (hread : readItems fuel column ('-' :: ' ' :: cs) = some (items, rest)) (parent : Nat) :
    readNode (fuel + 1) parent column ('-' :: ' ' :: cs) = some (.array items, rest) := by
  have hstart : startsItem ('-' :: ' ' :: cs) = true := rfl
  rw [readNode, if_pos hstart, hread]
  rfl

theorem readNode_members {fuel column : Nat} {key : String} {cs rest : List Char}
    {members : List (String × Json)} (h : style key = .plain) (hlimit : key.length < keyLimit)
    (hgap : startsGap cs = true) (hnodup : (members.map (·.1)).Nodup)
    (hread : readMembers fuel column key cs = some (members, rest)) (parent : Nat) :
    readNode (fuel + 1) parent column (key.toList ++ ':' :: cs) = some (.object members, rest) := by
  rw [readNode, startsItem_of_isPlain (isPlain_of_style h).1, if_neg Bool.false_ne_true,
    readKey_plain h hlimit hgap]
  dsimp only
  rw [hread]
  exact if_pos hnodup

theorem readItems_last {fuel column : Nat} {cs rest : List Char} {item : Json}
    (hv : readValue fuel column true cs = some (item, rest)) (hi : NoItem column rest) :
    readItems (fuel + 1) column ('-' :: cs) = some ([item], rest) := by
  rw [readItems, hv]
  exact if_neg (Bool.eq_false_iff.mp hi)

theorem readItems_next {fuel column : Nat} {cs next rest : List Char} {item : Json}
    {items : List Json}
    (hv : readValue fuel column true cs = some (item, spaces column ++ '-' :: ' ' :: next))
    (hread : readItems fuel column ('-' :: ' ' :: next) = some (items, rest)) :
    readItems (fuel + 1) column ('-' :: cs) = some (item :: items, rest) := by
  have hind : indentation (spaces column ++ '-' :: ' ' :: next) = (column, '-' :: ' ' :: next) :=
    indentation_spaces column (by decide) _
  rw [readItems, hv, Option.bind_eq_bind, Option.bind_some]
  dsimp only
  rw [hind, if_pos (by rw [beq_self_eq_true]; rfl), hread]
  rfl

theorem readMembers_last {fuel column : Nat} {key : String} {cs rest : List Char} {value : Json}
    (hv : readValue fuel column false cs = some (value, rest)) (hr : LeftOf column rest) :
    readMembers (fuel + 1) column key cs = some ([(key, value)], rest) := by
  rw [readMembers, hv, Option.bind_eq_bind, Option.bind_some]
  dsimp only
  rw [hr.noKey]
  rfl

theorem readMembers_next {fuel column : Nat} {key key' : String} {cs next rest : List Char}
    {value : Json} {members : List (String × Json)} (h : style key' = .plain)
    (hlimit : key'.length < keyLimit) (hgap : startsGap next = true)
    (hv : readValue fuel column false cs =
      some (value, spaces column ++ (key'.toList ++ ':' :: next)))
    (hread : readMembers fuel column key' next = some (members, rest)) :
    readMembers (fuel + 1) column key cs = some ((key, value) :: members, rest) := by
  obtain ⟨c, cs', hkey, hspace, -⟩ := exists_cons_of_isPlain (isPlain_of_style h).1
  have hind : indentation (spaces column ++ (key'.toList ++ ':' :: next)) =
      (column, key'.toList ++ ':' :: next) := by
    rw [hkey, List.cons_append]
    exact indentation_spaces column hspace _
  rw [readMembers, hv, Option.bind_eq_bind, Option.bind_some]
  dsimp only
  rw [hind, beq_self_eq_true, if_pos rfl, readKey_plain h hlimit hgap]
  dsimp only
  rw [hread]
  rfl

/-! ## The induction along the tree -/

theorem length_spaces (n : Nat) : (spaces n).length = n := List.length_replicate

/-- Behind a dash and behind a key, what makes no block is read from its line. -/
theorem readValue_inline {j : Json} (h : Portable j) (hb : isBlock j = false) {column fuel : Nat}
    (dash : Bool) {rest : List Char} (hr : LeftOf (column + 1) rest)
    (hf : 2 * (valueText column j).length < fuel) :
    readValue fuel column dash (valueText column j ++ rest) = some (j, rest) := by
  have hleft : LeftOf (column + step) rest := hr.mono (by rw [step]; omega)
  obtain ⟨text, htext, hinline⟩ := exists_inline h hb column
  obtain ⟨c, cs, hc, hspace, -⟩ := hinline.begins
  obtain ⟨fuel, rfl⟩ : ∃ k, fuel = k + 2 := by
    rw [htext, List.length_cons] at hf
    exact ⟨fuel - 2, by omega⟩
  have hnode := readNode_inline hinline hleft fuel (column + step)
  have hread := hinline.read rest hleft
  rw [hc, List.cons_append] at hnode hread
  rw [htext, hc, List.cons_append, List.cons_append, readValue_space hspace]
  cases dash with
  | false => exact hread
  | true => exact hnode

theorem readItem_inline {j : Json} (h : Portable j) (hb : isBlock j = false) {column fuel : Nat}
    {rest : List Char} (hr : LeftOf (column + 1) rest)
    (hf : 2 * (itemText column j).length < fuel) :
    readValue fuel column true (itemText column j ++ rest) = some (j, rest) := by
  rw [itemText_of_not_isBlock hb] at hf ⊢
  exact readValue_inline h hb true hr hf

/-- The text of a mapping is a key, its colon and what the reader of members takes in. -/
theorem readNode_text {key : String} {value : Json} {members : List (String × Json)}
    (h : Portable (.object ((key, value) :: members))) {column fuel : Nat} {rest : List Char}
    (hread : readMembers fuel column key
      (valueText column value ++ block column (memberTexts column members) ++ rest) =
        some ((key, value) :: members, rest)) :
    ∃ c cs, key.toList = c :: cs ∧ c ≠ ' ' ∧ ∀ parent, readNode (fuel + 1) parent column
      (c :: (cs ++ ':' :: (valueText column value ++
        (block column (memberTexts column members) ++ rest)))) =
          some (.object ((key, value) :: members), rest) := by
  rw [Portable, PortableMembers] at h
  obtain ⟨hnodup, ⟨hkey, hlimit⟩, hvalue, -⟩ := h
  obtain ⟨c, cs, hc, hspace, -⟩ := exists_cons_of_isPlain (isPlain_of_style hkey).1
  rw [List.append_assoc] at hread
  refine ⟨c, cs, hc, hspace, fun parent => ?_⟩
  have hgap := startsGap_valueText hvalue column (block column (memberTexts column members) ++ rest)
  have hnode := readNode_members hkey hlimit hgap hnodup hread parent
  rw [hc] at hnode
  exact hnode

mutual

/-- What is written behind a dash.  Another item of the sequence may follow. -/
theorem readItem_text : ∀ (j : Json), Portable j → ∀ (column fuel : Nat) (rest : List Char),
    LeftOf (column + 1) rest → 2 * (itemText column j).length < fuel →
    readValue fuel column true (itemText column j ++ rest) = some (j, rest)
  | .null, h, _, _, _, hr, hf => readItem_inline h rfl hr hf
  | .bool _, h, _, _, _, hr, hf => readItem_inline h rfl hr hf
  | .number _, h, _, _, _, hr, hf => readItem_inline h rfl hr hf
  | .string _, h, _, _, _, hr, hf => readItem_inline h rfl hr hf
  | .array [], h, _, _, _, hr, hf => readItem_inline h rfl hr hf
  | .object [], h, _, _, _, hr, hf => readItem_inline h rfl hr hf
  | .array (item :: items), h, column, fuel, rest, hr, hf => by
    rw [Portable, PortableItems] at h
    have hleft : LeftOf (column + step) rest := hr.mono (by rw [step]; omega)
    rw [itemText_array] at hf ⊢
    simp only [List.length_cons] at hf
    -- One step goes past the space and one into the node that is a sequence.
    obtain ⟨fuel, rfl⟩ : ∃ k, fuel = k + 2 := ⟨fuel - 2, by omega⟩
    have hread := readItems_text item items h.1 h.2 (column + step) fuel rest
      (hleft.mono (by omega)) hleft.noItem (by rw [List.length_cons]; omega)
    obtain ⟨c, text, htext, -⟩ := exists_itemText h.1 (column + step)
    rw [htext] at hread ⊢
    exact (readValue_space (by decide) (fuel + 1) column true _).trans (readNode_items hread column)
  | .object ((key, value) :: members), h, column, fuel, rest, hr, hf => by
    have hs := h
    rw [Portable, PortableMembers] at hs
    have hleft : LeftOf (column + step) rest := hr.mono (by rw [step]; omega)
    rw [itemText_object hs.2.1.1] at hf ⊢
    simp only [List.length_cons, List.length_append] at hf
    obtain ⟨fuel, rfl⟩ : ∃ k, fuel = k + 2 := ⟨fuel - 2, by omega⟩
    have hread := readMembers_text key value members hs.2.2.1 hs.2.2.2 (column + step) fuel rest
      hleft (by rw [List.length_append]; omega)
    obtain ⟨c, cs, hc, hspace, hnode⟩ := readNode_text h hread
    simp only [hc, List.cons_append, List.append_assoc]
    exact (readValue_space hspace (fuel + 1) column true _).trans (hnode column)
termination_by j => sizeOf j

/-- What is written behind a key.  A sequence stands in the column of the key, so no item of
another one may follow. -/
theorem readValue_text : ∀ (j : Json), Portable j → ∀ (column fuel : Nat) (rest : List Char),
    LeftOf (column + 1) rest → NoItem column rest → 2 * (valueText column j).length < fuel →
    readValue fuel column false (valueText column j ++ rest) = some (j, rest)
  | .null, h, _, _, _, hr, _, hf => readValue_inline h rfl false hr hf
  | .bool _, h, _, _, _, hr, _, hf => readValue_inline h rfl false hr hf
  | .number _, h, _, _, _, hr, _, hf => readValue_inline h rfl false hr hf
  | .string _, h, _, _, _, hr, _, hf => readValue_inline h rfl false hr hf
  | .array [], h, _, _, _, hr, _, hf => readValue_inline h rfl false hr hf
  | .object [], h, _, _, _, hr, _, hf => readValue_inline h rfl false hr hf
  | .array (item :: items), h, column, fuel, rest, hr, hi, hf => by
    rw [Portable, PortableItems] at h
    rw [valueText_array] at hf ⊢
    simp only [List.length_cons, List.length_append, length_spaces] at hf
    obtain ⟨fuel, rfl⟩ : ∃ k, fuel = k + 1 := ⟨fuel - 1, by omega⟩
    have hread := readItems_text item items h.1 h.2 column fuel rest hr hi
      (by rw [List.length_cons, List.length_append]; omega)
    obtain ⟨c, text, htext, -⟩ := exists_itemText h.1 column
    rw [List.cons_append, List.append_assoc]
    rw [htext] at hread ⊢
    exact readValue_items hread
  | .object ((key, value) :: members), h, column, fuel, rest, hr, _, hf => by
    have hs := h
    rw [Portable, PortableMembers] at hs
    rw [valueText_object hs.2.1.1] at hf ⊢
    simp only [List.length_cons, List.length_append, length_spaces] at hf
    obtain ⟨fuel, rfl⟩ : ∃ k, fuel = k + 2 := ⟨fuel - 2, by omega⟩
    have hread := readMembers_text key value members hs.2.2.1 hs.2.2.2 (column + step) fuel rest
      (hr.mono (by rw [step]; omega)) (by rw [List.length_append]; omega)
    obtain ⟨c, cs, hc, hspace, hnode⟩ := readNode_text h hread
    simp only [hc, List.cons_append, List.append_assoc]
    exact (readValue_deeper hspace (by rw [step]; omega) (fuel + 1) _).trans (hnode column)
termination_by j => sizeOf j

/-- The items of a sequence from the first dash on. -/
theorem readItems_text : ∀ (item : Json) (items : List Json), Portable item →
    PortableItems items → ∀ (column fuel : Nat) (rest : List Char), LeftOf (column + 1) rest →
    NoItem column rest →
    2 * ('-' :: (itemText column item ++ block column (itemTexts column items))).length < fuel →
    readItems fuel column
      ('-' :: (itemText column item ++ block column (itemTexts column items)) ++ rest) =
        some (item :: items, rest)
  | item, [], h, _, column, fuel, rest, hr, hi, hf => by
    rw [itemTexts, block, List.flatMap_nil, List.append_nil] at hf ⊢
    rw [List.length_cons] at hf
    obtain ⟨fuel, rfl⟩ : ∃ k, fuel = k + 1 := ⟨fuel - 1, by omega⟩
    exact readItems_last (readItem_text item h column fuel rest hr (by omega)) hi
  | item, next :: items, h, hs, column, fuel, rest, hr, hi, hf => by
    rw [PortableItems] at hs
    rw [itemTexts, block_cons, List.cons_append] at hf ⊢
    simp only [List.length_cons, List.length_append, length_spaces] at hf
    obtain ⟨fuel, rfl⟩ : ∃ k, fuel = k + 1 := ⟨fuel - 1, by omega⟩
    have hread := readItems_text next items hs.1 hs.2 column fuel rest hr hi
      (by rw [List.length_cons, List.length_append]; omega)
    have hv := fun after => readItem_text item h column fuel (spaces column ++ '-' :: after)
      (.inr ⟨column, '-', after, rfl, by omega, by decide, by decide⟩) (by omega)
    obtain ⟨c, text, htext, -⟩ := exists_itemText hs.1 column
    rw [htext] at hread ⊢
    simp only [List.cons_append, List.append_assoc] at hread ⊢
    exact readItems_next (hv _) hread
termination_by item items => sizeOf item + sizeOf items + 1

/-- The members of a mapping from behind the first key on. -/
theorem readMembers_text : ∀ (key : String) (value : Json) (members : List (String × Json)),
    Portable value → PortableMembers members → ∀ (column fuel : Nat) (rest : List Char),
    LeftOf column rest →
    2 * (valueText column value ++ block column (memberTexts column members)).length + 1 < fuel →
    readMembers fuel column key
      (valueText column value ++ block column (memberTexts column members) ++ rest) =
        some ((key, value) :: members, rest)
  | key, value, [], h, _, column, fuel, rest, hr, hf => by
    rw [memberTexts, block, List.flatMap_nil, List.append_nil] at hf ⊢
    obtain ⟨fuel, rfl⟩ : ∃ k, fuel = k + 1 := ⟨fuel - 1, by omega⟩
    exact readMembers_last (readValue_text value h column fuel rest (hr.mono (by omega)) hr.noItem
      (by omega)) hr
  | key, value, (key', value') :: members, h, hs, column, fuel, rest, hr, hf => by
    rw [PortableMembers] at hs
    obtain ⟨⟨hkey, hlimit⟩, hvalue, hmembers⟩ := hs
    rw [memberTexts_cons hkey] at hf ⊢
    simp only [List.length_cons, List.length_append, length_spaces] at hf
    obtain ⟨fuel, rfl⟩ : ∃ k, fuel = k + 1 := ⟨fuel - 1, by omega⟩
    have hread := readMembers_text key' value' members hvalue hmembers column fuel rest hr
      (by rw [List.length_append]; omega)
    have hv := fun after => readValue_text value h column fuel (spaces column ++ (key'.toList ++
      after)) (leftOf_key hkey column after) (noItem_key hkey column after)
        (by omega)
    have hgap := startsGap_valueText hvalue column
      (block column (memberTexts column members) ++ rest)
    simp only [List.cons_append, List.append_assoc] at hread ⊢
    exact readMembers_next hkey hlimit hgap (hv _) hread
termination_by _ value members => sizeOf value + sizeOf members + 1

end

/-! ## Documents -/

/-- The text of a mapping is read as that mapping, with nothing left over. -/
theorem readNode_documentText {members : List (String × Json)} (h : Portable (.object members))
    {fuel : Nat} (hf : 2 * (documentText members).length + 1 < fuel) :
    readNode fuel 0 0 (documentText members).toList = some (.object members, []) := by
  rw [← String.length_toList, toList_documentText] at hf
  rw [toList_documentText]
  obtain ⟨fuel, rfl⟩ : ∃ k, fuel = k + 1 := ⟨fuel - 1, by omega⟩
  cases members with
  | nil => exact readNode_inline (Inline.of_emptyObject 0) (.inl rfl) fuel 0
  | cons member members =>
    obtain ⟨key, value⟩ := member
    have hs := h
    rw [Portable, PortableMembers] at hs
    rw [List.isEmpty_cons, if_neg Bool.false_ne_true, memberTexts_cons hs.2.1.1] at hf ⊢
    simp only [List.length_append, List.length_cons, length_spaces] at hf
    have hread := readMembers_text key value members hs.2.2.1 hs.2.2.2 0 fuel [] (.inl rfl)
      (by rw [List.length_append]; omega)
    obtain ⟨c, cs, hc, -, hnode⟩ := readNode_text h hread
    have h := hnode 0
    rw [List.append_nil] at h
    rw [hc]
    exact h

/-- A document that is a mapping reads back. -/
theorem ofText?_documentText {members : List (String × Json)} (h : Portable (.object members)) :
    ofText? (documentText members) = some (.object members) := by
  have hprinted := isPrinted_documentText h
  have hallowed : (documentText members).toList.all isAllowed = true :=
    List.all_eq_true.mpr fun c hc => isAllowed_of_isPrintable (hprinted c hc)
  rw [ofText?, if_pos hallowed, normalized_of_isPrinted hprinted,
    readNode_documentText h (by omega)]

-- What the quotes are for: the same text is a boolean without them.
example : ofText? "a: true\nb: 'true'\n" =
    some (.object [("a", .bool true), ("b", .string "true")]) := by cbv

end Yaml
end ContainerRoster
