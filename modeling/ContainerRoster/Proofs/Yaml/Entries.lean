import ContainerRoster.Proofs.Yaml.Inline

/-!
# Entries of a block

The text of a tree is made of entries, each behind its indentation, of which the first may stand on
the line that is already there.  Nothing in it is unprintable.
-/

namespace ContainerRoster
namespace Yaml

theorem block_cons (column : Nat) (entry : List Char) (entries : List (List Char)) :
    block column (entry :: entries) = spaces column ++ (entry ++ block column entries) := by
  rw [block, List.flatMap_cons, List.append_assoc]
  rfl

/-- A block that begins on the line is a block without its first indentation. -/
theorem inlineBlock_cons (column : Nat) (entry : List Char) (entries : List (List Char)) :
    inlineBlock column (entry :: entries) = entry ++ block column entries := by
  induction entries generalizing entry with
  | nil => rw [inlineBlock, List.intercalate_singleton, block, List.flatMap_nil, List.append_nil]
  | cons next entries ih =>
    have h := ih next
    rw [inlineBlock] at h
    rw [inlineBlock, List.intercalate_cons_cons, h, block_cons, List.append_assoc]

theorem itemText_array (column : Nat) (item : Json) (items : List Json) :
    itemText column (.array (item :: items)) = ' ' :: '-' :: (itemText (column + step) item ++
      block (column + step) (itemTexts (column + step) items)) := by
  rw [itemText, inlineBlock_cons, List.cons_append]

theorem valueText_array (column : Nat) (item : Json) (items : List Json) :
    valueText column (.array (item :: items)) = '\n' :: (spaces column ++ '-' ::
      (itemText column item ++ block column (itemTexts column items))) := by
  rw [valueText, itemTexts, block_cons, List.cons_append]
  exact List.cons_ne_nil item items

theorem itemText_object {key : String} (h : style key = .plain) (column : Nat) (value : Json)
    (members : List (String × Json)) :
    itemText column (.object ((key, value) :: members)) = ' ' :: (key.toList ++ ':' ::
      (valueText (column + step) value ++
        block (column + step) (memberTexts (column + step) members))) := by
  rw [itemText, inlineBlock_cons, stringText_plain h, List.append_assoc, List.cons_append]

theorem memberTexts_cons {key : String} (h : style key = .plain) (column : Nat) (value : Json)
    (members : List (String × Json)) :
    block column (memberTexts column ((key, value) :: members)) = spaces column ++ (key.toList ++
      ':' :: (valueText column value ++ block column (memberTexts column members))) := by
  rw [memberTexts, block_cons, stringText_plain h, List.append_assoc, List.cons_append]

theorem valueText_object {key : String} (h : style key = .plain) (column : Nat) (value : Json)
    (members : List (String × Json)) :
    valueText column (.object ((key, value) :: members)) = '\n' :: (spaces (column + step) ++
      (key.toList ++ ':' :: (valueText (column + step) value ++
        block (column + step) (memberTexts (column + step) members)))) := by
  rw [valueText, memberTexts_cons h]
  exact List.cons_ne_nil (key, value) members

/-! ## Printable text -/

theorem isPrinted_block (column : Nat) {entries : List (List Char)}
    (h : ∀ entry ∈ entries, IsPrinted entry) : IsPrinted (block column entries) := by
  intro c hc
  rw [block, List.mem_flatMap] at hc
  obtain ⟨entry, hentry, hc⟩ := hc
  exact isPrinted_append.mpr ⟨isPrinted_spaces column, h entry hentry⟩ c hc

theorem isPrinted_inline {j : Json} (h : Portable j) (hb : isBlock j = false) (column : Nat) :
    IsPrinted (valueText column j) := by
  obtain ⟨text, htext, hinline⟩ := exists_inline h hb column
  rw [htext]
  exact isPrinted_cons.mpr ⟨rfl, hinline.printed⟩

theorem isPrinted_inlineItem {j : Json} (h : Portable j) (hb : isBlock j = false) (column : Nat) :
    IsPrinted (itemText column j) := by
  rw [itemText_of_not_isBlock hb]
  exact isPrinted_inline h hb column

mutual

theorem isPrinted_valueText : ∀ j : Json, Portable j → ∀ column, IsPrinted (valueText column j)
  | .null, h, column => isPrinted_inline h rfl column
  | .bool _, h, column => isPrinted_inline h rfl column
  | .number _, h, column => isPrinted_inline h rfl column
  | .string _, h, column => isPrinted_inline h rfl column
  | .array [], h, column => isPrinted_inline h rfl column
  | .object [], h, column => isPrinted_inline h rfl column
  | .array (item :: items), h, column => by
    rw [Portable] at h
    rw [valueText]
    · exact isPrinted_cons.mpr ⟨rfl, isPrinted_block _
        (isPrinted_itemTexts (item :: items) h column)⟩
    · exact List.cons_ne_nil item items
  | .object (member :: members), h, column => by
    rw [Portable] at h
    rw [valueText]
    · exact isPrinted_cons.mpr ⟨rfl, isPrinted_block _
        (isPrinted_memberTexts (member :: members) h.2 (column + step))⟩
    · exact List.cons_ne_nil member members

theorem isPrinted_itemText : ∀ j : Json, Portable j → ∀ column, IsPrinted (itemText column j)
  | .null, h, column => isPrinted_inlineItem h rfl column
  | .bool _, h, column => isPrinted_inlineItem h rfl column
  | .number _, h, column => isPrinted_inlineItem h rfl column
  | .string _, h, column => isPrinted_inlineItem h rfl column
  | .array [], h, column => isPrinted_inlineItem h rfl column
  | .object [], h, column => isPrinted_inlineItem h rfl column
  | .array (item :: items), h, column => by
    rw [Portable, PortableItems] at h
    rw [itemText_array]
    exact isPrinted_cons.mpr ⟨rfl, isPrinted_cons.mpr ⟨rfl, isPrinted_append.mpr
      ⟨isPrinted_itemText item h.1 _, isPrinted_block _ (isPrinted_itemTexts items h.2 _)⟩⟩⟩
  | .object ((key, value) :: members), h, column => by
    rw [Portable, PortableMembers] at h
    rw [itemText, inlineBlock_cons]
    exact isPrinted_cons.mpr ⟨rfl, isPrinted_append.mpr ⟨isPrinted_append.mpr
      ⟨isPrinted_stringText _ key, isPrinted_cons.mpr ⟨rfl, isPrinted_valueText value h.2.2.1 _⟩⟩,
      isPrinted_block _ (isPrinted_memberTexts members h.2.2.2 _)⟩⟩

theorem isPrinted_itemTexts : ∀ items : List Json, PortableItems items → ∀ column,
    ∀ entry ∈ itemTexts column items, IsPrinted entry
  | [], _, _, _, hentry => absurd hentry (by rw [itemTexts]; exact List.not_mem_nil)
  | item :: items, h, column, entry, hentry => by
    rw [PortableItems] at h
    rw [itemTexts, List.mem_cons] at hentry
    rcases hentry with rfl | hentry
    · exact isPrinted_cons.mpr ⟨rfl, isPrinted_itemText item h.1 column⟩
    · exact isPrinted_itemTexts items h.2 column entry hentry

theorem isPrinted_memberTexts : ∀ members : List (String × Json), PortableMembers members →
    ∀ column, ∀ entry ∈ memberTexts column members, IsPrinted entry
  | [], _, _, _, hentry => absurd hentry (by rw [memberTexts]; exact List.not_mem_nil)
  | (key, value) :: members, h, column, entry, hentry => by
    rw [PortableMembers] at h
    rw [memberTexts, List.mem_cons] at hentry
    rcases hentry with rfl | hentry
    · exact isPrinted_append.mpr ⟨isPrinted_stringText column key, isPrinted_cons.mpr ⟨rfl,
        isPrinted_valueText value h.2.1 column⟩⟩
    · exact isPrinted_memberTexts members h.2.2 column entry hentry

end

/-! ## Documents -/

/-- A document is a block of its members at the left margin. -/
theorem toList_documentText (members : List (String × Json)) :
    (documentText members).toList =
      if members.isEmpty then ['\x7b', '\x7d', '\n'] else block 0 (memberTexts 0 members) := by
  rw [documentText]
  split <;> exact String.toList_ofList

theorem isPrinted_documentText {members : List (String × Json)} (h : Portable (.object members)) :
    IsPrinted (documentText members).toList := by
  rw [Portable] at h
  rw [toList_documentText]
  split
  · exact isPrinted_of_all rfl
  · exact isPrinted_block 0 (isPrinted_memberTexts members h.2 0)

end Yaml
end ContainerRoster
