import ContainerRoster.Proofs.Json.Scalars
import ContainerRoster.Proofs.Yaml.Printed
import ContainerRoster.Proofs.Yaml.Reader

/-!
# Values on a line read back

A scalar, a literal block and an empty pair of brackets stand on the line of their key or dash.
None of them is taken for a key or for an item, and each is read up to the end of its last line.
-/

namespace ContainerRoster
namespace Yaml

/-- A value that is written on the line of its key or dash, ended by a break. -/
structure Inline (column : Nat) (text : List Char) (value : Json) : Prop where
  printed : IsPrinted text
  begins : ∃ c cs, text = c :: cs ∧ c ≠ ' ' ∧ isBreak c = false
  noItem : ∀ rest, startsItem (text ++ rest) = false
  noKey : ∀ rest, readKey (text ++ rest) = none
  read : ∀ rest, LeftOf (column + step) rest →
    readInline column (text ++ rest) = some (value, rest)

theorem readInline_of_flow {c : Char} {cs rest : List Char} {value : Json}
    (hc : c ∉ ['|', '[', '\x7b']) (hread : readFlow (c :: cs) = some (value, '\n' :: rest))
    (column : Nat) : readInline column (c :: cs) = some (value, rest) := by
  simp only [List.mem_cons, List.not_mem_nil, or_false, not_or] at hc
  unfold readInline
  split
  · next h => exact absurd (List.cons.inj h).1 hc.1
  · next h => exact absurd (List.cons.inj h).1 hc.2.1
  · next h => exact absurd (List.cons.inj h).1 hc.2.2
  · rw [hread]
    rfl

theorem readKey_of_flow {cs rest : List Char} {value : Json}
    (hread : readFlow cs = some (value, '\n' :: rest)) : readKey cs = none := by
  unfold readKey
  rw [hread]
  split
  · next h =>
    cases h
  · rfl

/-- A scalar that takes up its line is a value on a line. -/
theorem Inline.of_flow {c : Char} {cs : List Char} {value : Json}
    (hprint : IsPrinted (c :: cs)) (hc : c ∉ ['|', '[', '\x7b']) (hspace : c ≠ ' ')
    (hbreak : isBreak c = false) (hitem : ∀ rest, startsItem (c :: cs ++ '\n' :: rest) = false)
    (hread : ∀ rest, readFlow (c :: cs ++ '\n' :: rest) = some (value, '\n' :: rest))
    (column : Nat) : Inline column (c :: cs ++ ['\n']) value where
  printed := isPrinted_append.mpr ⟨hprint, isPrinted_of_all rfl⟩
  begins := ⟨c, cs ++ ['\n'], rfl, hspace, hbreak⟩
  noItem rest := by
    rw [List.append_assoc]
    exact hitem rest
  noKey rest := by
    rw [List.append_assoc]
    exact readKey_of_flow (hread rest)
  read rest _ := by
    rw [List.append_assoc]
    exact readInline_of_flow hc (hread rest) column

/-- Plain text is not empty, and no indicator stands in front of it. -/
theorem exists_cons_of_isPlain {cs : List Char} (hp : isPlain cs = true) :
    ∃ c rest, cs = c :: rest ∧ c ≠ ' ' ∧ c ∉ indicators := by
  cases cs with
  | nil => cases hp
  | cons c rest =>
    simp only [isPlain, Bool.and_eq_true, Bool.not_eq_true'] at hp
    have hblank := hp.1.1.1.1.1.1
    have hind := hp.1.1.1.1.1.2
    rw [List.contains_eq_mem, decide_eq_false_iff_not] at hind
    refine ⟨c, rest, rfl, ?_, hind⟩
    rintro rfl
    exact absurd hblank (by decide)

/-- A dash in front of plain text is no dash of an item. -/
theorem startsItem_of_isPlain {cs rest : List Char} (hp : isPlain cs = true) :
    startsItem (cs ++ rest) = false := by
  cases cs with
  | nil => cases hp
  | cons c cs =>
    simp only [isPlain, Bool.and_eq_true, Bool.not_eq_true'] at hp
    have hmark := hp.1.1.1.1.2
    by_cases hdash : c = '-'
    · subst hdash
      cases cs with
      | nil => cases hmark
      | cons d cs => exact hmark
    · rw [List.cons_append]
      unfold startsItem
      split
      · next h => exact absurd (List.cons.inj h).1 hdash
      · rfl

/-- Text that is plain as it stands is a value on a line, of whatever type it has. -/
theorem Inline.of_plain {cs : List Char} {value : Json} (hprint : IsPrinted cs)
    (hp : isPlain cs = true) (hbreak : cs.any isBreak = false)
    (hcolon : hasBeforeGap ':' cs = false) (hvalue : resolved? cs = some value)
    (column : Nat) : Inline column (cs ++ ['\n']) value := by
  have hread : ∀ rest, readFlow (cs ++ '\n' :: rest) = some (value, '\n' :: rest) := by
    intro rest
    rw [readFlow_of_isPlain hp (plainText_append hbreak hcolon rfl), hvalue]
    rfl
  obtain ⟨c, cs, rfl, hspace, hind⟩ := exists_cons_of_isPlain hp
  have hopen : c ∉ ['|', '[', '\x7b'] := by
    intro hm
    simp only [List.mem_cons, List.not_mem_nil, or_false] at hm
    rcases hm with rfl | rfl | rfl <;> exact hind (by decide)
  rw [List.any_cons, Bool.or_eq_false_iff] at hbreak
  exact Inline.of_flow hprint hopen hspace hbreak.1 (fun _ => startsItem_of_isPlain hp) hread column

theorem endLine_append (front : List Char) {c : Char} (h : isBreak c = false) :
    endLine (front ++ [c]) = front ++ [c] ++ ['\n'] := by
  rw [endLine, List.getLast?_concat, Option.map_some, h]
  rfl

theorem exists_singleBody_eq (indent : Nat) : ∀ (cs : List Char) (afterBreak : Bool),
    ∃ front, singleBody indent afterBreak cs = front ++ ['\'']
  | [], _ => ⟨_, rfl⟩
  | c :: cs, afterBreak => by
    rw [singleBody]
    by_cases hb : isBreak c
    · obtain ⟨front, hf⟩ := exists_singleBody_eq indent cs true
      rw [if_pos hb, hf]
      exact ⟨c :: front, rfl⟩
    · obtain ⟨front, hf⟩ := exists_singleBody_eq indent cs false
      rw [if_neg hb, hf]
      exact ⟨_, (List.append_assoc _ front _).symm⟩

/-- A literal block is never taken for a key. -/
theorem readKey_bar (cs : List Char) : readKey ('|' :: cs) = none := by
  have hread : readFlow ('|' :: cs) = none := rfl
  rw [readKey, hread]

theorem stringText_plain {s : String} (h : style s = .plain) (column : Nat) :
    stringText column s = s.toList := by simp only [stringText, h]

/-- A string is a value on a line, whatever its style. -/
theorem Inline.of_string (column : Nat) (s : String) :
    Inline column (endLine (stringText column s)) (.string s) := by
  have hprint := isPrinted_stringText column s
  cases h : style s with
  | plain =>
    have htext := stringText_plain h column
    obtain ⟨hplain, hbreak, hcolon⟩ := isPlain_of_style h
    have hend : endLine s.toList = s.toList ++ ['\n'] := by
      cases hl : s.toList.getLast? with
      | none => rw [endLine, hl]; rfl
      | some c =>
        have hc := List.any_eq_false.mp hbreak c (List.mem_of_getLast? hl)
        rw [endLine, hl, Option.map_some, Bool.eq_false_iff.mpr hc]
        rfl
    rw [htext] at hprint ⊢
    rw [hend]
    exact .of_plain hprint hplain hbreak hcolon
      (resolved?_of_not_looksTyped (of_style_plain h).1) column
  | single =>
    have htext : stringText column s = singleQuoted (column + step) s.toList := by
      simp only [stringText, h]
    obtain ⟨front, hf⟩ := exists_singleBody_eq (column + step) s.toList false
    have hend : endLine (singleQuoted (column + step) s.toList) =
        singleQuoted (column + step) s.toList ++ ['\n'] := by
      rw [singleQuoted, hf]
      exact endLine_append ('\'' :: front) (by decide)
    rw [htext] at hprint ⊢
    rw [hend]
    refine Inline.of_flow hprint (by decide) (by decide) (by decide) (fun _ => rfl)
      (fun rest => ?_) column
    exact readFlow_single h (by rw [step]; omega) (by simp)
  | double =>
    have htext : stringText column s = doubleQuoted s.toList := by simp only [stringText, h]
    have hend : endLine (doubleQuoted s.toList) = doubleQuoted s.toList ++ ['\n'] :=
      endLine_append ('"' :: s.toList.flatMap escapeChar) (by decide)
    rw [htext] at hprint ⊢
    rw [hend]
    refine Inline.of_flow hprint (by decide) (by decide) (by decide) (fun _ => rfl)
      (fun rest => ?_) column
    exact readFlow_double s ('\n' :: rest)
  | literal =>
    obtain ⟨text, htext, -⟩ := readLiteral_text h column (.inl rfl)
    have hprint := isPrinted_endLine hprint
    rw [htext] at hprint ⊢
    exact {
      printed := hprint
      begins := ⟨'|', text, rfl, by decide, by decide⟩
      noItem := fun _ => rfl
      noKey := fun rest => readKey_bar (text ++ rest)
      read := fun rest hr => by
        obtain ⟨text', htext', hread⟩ := readLiteral_text h column hr
        rw [htext, List.cons.injEq] at htext'
        rw [htext'.2]
        exact hread }

theorem Inline.of_emptyArray (column : Nat) : Inline column ['[', ']', '\n'] (.array []) where
  printed := isPrinted_of_all rfl
  begins := ⟨_, _, rfl, by decide, by decide⟩
  noItem _ := rfl
  noKey rest := by
    have hread : readFlow ('[' :: ']' :: '\n' :: rest) = none := rfl
    show readKey ('[' :: ']' :: '\n' :: rest) = none
    rw [readKey, hread]
  read _ _ := rfl

theorem Inline.of_emptyObject (column : Nat) :
    Inline column ['\x7b', '\x7d', '\n'] (.object []) where
  printed := isPrinted_of_all rfl
  begins := ⟨_, _, rfl, by decide, by decide⟩
  noItem _ := rfl
  noKey rest := by
    have hread : readFlow ('\x7b' :: '\x7d' :: '\n' :: rest) = none := rfl
    show readKey ('\x7b' :: '\x7d' :: '\n' :: rest) = none
    rw [readKey, hread]
  read _ _ := rfl

/-- Whether a value makes a block of its own lines. -/
def isBlock : Json → Bool
  | .array (_ :: _) => true
  | .object (_ :: _) => true
  | _ => false

mutual

/-- Whether a tree can be written so that it reads back: its numbers are whole, and the keys of
every mapping are plain, short and distinct. -/
def Portable : Json → Prop
  | .number n => n.IsWord
  | .array items => PortableItems items
  | .object members => (members.map (·.1)).Nodup ∧ PortableMembers members
  | _ => True

def PortableItems : List Json → Prop
  | [] => True
  | item :: rest => Portable item ∧ PortableItems rest

def PortableMembers : List (String × Json) → Prop
  | [] => True
  | (key, value) :: rest =>
    (style key = .plain ∧ key.length < keyLimit) ∧ Portable value ∧ PortableMembers rest

end

theorem portableItems_iff {items : List Json} :
    PortableItems items ↔ ∀ item ∈ items, Portable item := by
  induction items with
  | nil => simp [PortableItems]
  | cons item rest ih => rw [PortableItems, ih, List.forall_mem_cons]

theorem portableMembers_iff {members : List (String × Json)} :
    PortableMembers members ↔
      ∀ member ∈ members, (style member.1 = .plain ∧ member.1.length < keyLimit) ∧
        Portable member.2 := by
  induction members with
  | nil => simp [PortableMembers]
  | cons member rest ih => rw [PortableMembers, ih, List.forall_mem_cons, ← and_assoc]

/-- A value that makes no block is written in one way, behind a key or a dash. -/
theorem itemText_of_not_isBlock {j : Json} (h : isBlock j = false) (column : Nat) :
    itemText column j = valueText column j := by
  rw [itemText]
  · rintro item items rfl
    cases h
  · rintro key value members rfl
    cases h

/-- What makes no block is written behind a space on the line. -/
theorem exists_inline {j : Json} (h : Portable j) (hb : isBlock j = false) (column : Nat) :
    ∃ text, valueText column j = ' ' :: text ∧ Inline column text j := by
  cases j with
  | null =>
    have hplain : Inline column ("null".toList ++ ['\n']) .null :=
      .of_plain (isPrinted_of_all rfl) (by decide) (by decide) (by decide) rfl column
    exact ⟨_, by rw [valueText]; rfl, hplain⟩
  | bool b =>
    have hplain : Inline column ((if b then "true".toList else "false".toList) ++ ['\n'])
        (.bool b) := by
      cases b <;>
        exact .of_plain (isPrinted_of_all rfl) (by decide) (by decide) (by decide) rfl column
    refine ⟨_, ?_, hplain⟩
    cases b <;> rw [valueText] <;> rfl
  | number n =>
    rw [Portable] at h
    obtain ⟨m, rfl, hm⟩ := h
    have hlt : m < Nat.pow 2 128 := Nat.lt_of_le_of_lt hm (by decide)
    have hplain : Inline column (Decimal.digits m ++ ['\n']) (.number (.integer m)) :=
      .of_plain (isPrinted_digits m) (isPlain_digits m) (any_isBreak_digits m)
        (hasBeforeGap_digits m) (resolved?_digits hlt) column
    refine ⟨_, ?_, hplain⟩
    rw [valueText, Json.Number.text_natural]
    rfl
  | string s => exact ⟨_, by rw [valueText], .of_string column s⟩
  | array items =>
    cases items with
    | nil => exact ⟨_, by rw [valueText]; rfl, .of_emptyArray column⟩
    | cons item items => cases hb
  | object members =>
    cases members with
    | nil => exact ⟨_, by rw [valueText], .of_emptyObject column⟩
    | cons member members => cases hb

end Yaml
end ContainerRoster
