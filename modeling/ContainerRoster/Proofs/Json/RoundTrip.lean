import ContainerRoster.Proofs.Json.Scalars

/-!
# JSON texts read back

`ofText?_documentText`: the text of a tree is read as that very tree, as long as its numbers are
whole numbers of 64 bits and its brackets are not nested too deep for the reader.  First comes the
spelling of the tree, which is what the reader finds in the text.  The proofs follow the readers:
a value consumes its text, and the items or members behind a bracket consume theirs together with
the lines between them.
-/

namespace ContainerRoster
namespace Json

/-- How many brackets a reader allows inside one another. -/
def depthLimit : Nat := 127

/-- The tree that a text writes, if it is JSON. -/
def ofText? (text : String) : Option Json :=
  (Raw.ofInput? (text.toList.map some)).bind (Raw.decode depthLimit)

mutual

/-- Whether a tree has whole numbers only and no more than so many brackets inside one another. -/
def Fits (depth : Nat) : Json → Prop
  | .number n => n.IsWord
  | .array items => 0 < depth ∧ FitsItems (depth - 1) items
  | .object members => 0 < depth ∧ FitsMembers (depth - 1) members
  | _ => True

def FitsItems (depth : Nat) : List Json → Prop
  | [] => True
  | item :: rest => Fits depth item ∧ FitsItems depth rest

def FitsMembers (depth : Nat) : List (String × Json) → Prop
  | [] => True
  | (_, value) :: rest => Fits depth value ∧ FitsMembers depth rest

end

theorem fitsItems_iff {depth : Nat} {items : List Json} :
    FitsItems depth items ↔ ∀ item ∈ items, Fits depth item := by
  induction items with
  | nil => simp [FitsItems]
  | cons item rest ih => rw [FitsItems, ih, List.forall_mem_cons]

theorem fitsMembers_iff {depth : Nat} {members : List (String × Json)} :
    FitsMembers depth members ↔ ∀ member ∈ members, Fits depth member.2 := by
  induction members with
  | nil => simp [FitsMembers]
  | cons member rest ih => rw [FitsMembers, ih, List.forall_mem_cons]

mutual

/-- The tree as the printer spells it. -/
def spelled : Json → Raw
  | .null => .null
  | .bool b => .bool b
  | .number (.integer n) => .number ⟨false, Decimal.digits n.natAbs, none, none⟩
  | .number (.real _) => .null
  | .string s => .string (s.toList.map Raw.pieceOf)
  | .array items => .array (spelledItems items)
  | .object members => .object (spelledMembers members)

def spelledItems : List Json → List Raw
  | [] => []
  | item :: rest => spelled item :: spelledItems rest

def spelledMembers : List (String × Json) → List (List Raw.Piece × Raw)
  | [] => []
  | (key, value) :: rest => (key.toList.map Raw.pieceOf, spelled value) :: spelledMembers rest

end

theorem spelledMembers_eq_map (members : List (String × Json)) : spelledMembers members =
    members.map fun member => (member.1.toList.map Raw.pieceOf, spelled member.2) := by
  induction members with
  | nil => rfl
  | cons member rest ih => rw [spelledMembers, ih, List.map_cons]

/-! ## The spelling decodes to the tree -/

mutual

theorem decode_spelled (depth : Nat) : ∀ j : Json, Fits depth j →
    Raw.decode depth (spelled j) = some j
  | .null, _ => by rw [spelled, Raw.decode]
  | .bool b, _ => by rw [spelled, Raw.decode]
  | .number n, h => by
    rw [Fits] at h
    obtain ⟨m, rfl, hm⟩ := h
    rw [spelled, Int.natAbs_natCast, Raw.decode, Raw.Numeral.decode_digits hm]
    rfl
  | .string s, _ => by
    rw [spelled, Raw.decode, Raw.decodeString_text]
    rfl
  | .array items, h => by
    rw [Fits] at h
    rw [spelled, Raw.decode, if_neg (by omega), decodeItems_spelled (depth - 1) items h.2]
    rfl
  | .object members, h => by
    rw [Fits] at h
    rw [spelled, Raw.decode, if_neg (by omega), decodeMembers_spelled (depth - 1) members h.2]
    rfl

theorem decodeItems_spelled (depth : Nat) : ∀ items : List Json, FitsItems depth items →
    Raw.decodeItems depth (spelledItems items) = some items
  | [], _ => by rw [spelledItems, Raw.decodeItems]
  | item :: rest, h => by
    rw [FitsItems] at h
    rw [spelledItems, Raw.decodeItems, decode_spelled depth item h.1,
      decodeItems_spelled depth rest h.2]
    rfl

theorem decodeMembers_spelled (depth : Nat) : ∀ members : List (String × Json),
    FitsMembers depth members → Raw.decodeMembers depth (spelledMembers members) = some members
  | [], _ => by rw [spelledMembers, Raw.decodeMembers]
  | (key, value) :: rest, h => by
    rw [FitsMembers] at h
    rw [spelledMembers, Raw.decodeMembers, Raw.decodeString_text, decode_spelled depth value h.1,
      decodeMembers_spelled depth rest h.2]
    rfl

end

/-! ## Lines between brackets -/

/-- Parts as they stand between brackets: each but the first behind a comma, on its own line. -/
def joined (depth : Nat) : List (List Char) → List Char
  | [] => []
  | [part] => part
  | part :: next :: rest => part ++ ',' :: newLine depth ++ joined depth (next :: rest)

theorem intercalate_newLine (depth : Nat) (part : List Char) (rest : List (List Char)) :
    [','].intercalate ((part :: rest).map fun part => newLine depth ++ part) =
      newLine depth ++ joined depth (part :: rest) := by
  induction rest generalizing part with
  | nil => simp [joined]
  | cons next rest ih =>
    rw [List.map_cons, List.map_cons, List.intercalate_cons_cons, ← List.map_cons, ih next, joined]
    simp only [List.append_assoc, List.cons_append, List.nil_append]

theorem bracketed_cons (opening closing : Char) (depth : Nat) (part : List Char)
    (rest : List (List Char)) :
    bracketed opening closing depth (part :: rest) =
      opening :: (newLine (depth + 1) ++
        (joined (depth + 1) (part :: rest) ++ (newLine depth ++ [closing]))) := by
  rw [bracketed, List.isEmpty_cons, if_neg Bool.false_ne_true]
  show opening :: [','].intercalate ((part :: rest).map _) ++ _ ++ _ = _
  rw [intercalate_newLine]
  simp only [List.cons_append, List.append_assoc]

theorem skipSpace_newLine (depth : Nat) (rest : Input) :
    Raw.skipSpace ((newLine depth).map some ++ rest) = Raw.skipSpace rest := by
  have hall : ∀ c ∈ (newLine depth).map some, Raw.isSpace c = true := by
    intro c hc
    rw [newLine, List.map_cons, List.map_replicate, List.mem_cons] at hc
    rcases hc with rfl | hc
    · rfl
    · rw [List.eq_of_mem_replicate hc]
      rfl
  rw [Raw.skipSpace, List.dropWhile_append_of_pos hall, Raw.skipSpace]

theorem exists_joined_eq_append (depth : Nat) (part : List Char) (rest : List (List Char)) :
    ∃ text, joined depth (part :: rest) = part ++ text := by
  cases rest with
  | nil => exact ⟨[], (List.append_nil part).symm⟩
  | cons next rest => exact ⟨_, by rw [joined, List.append_assoc]⟩

theorem skipSpace_of_head {c : Char} (h : Raw.isSpace (some c) = false) (rest : Input) :
    Raw.skipSpace (some c :: rest) = some c :: rest := by
  rw [Raw.skipSpace, List.dropWhile_cons_of_neg (by simp [h])]

/-- What a value may begin with. -/
def Begins (c : Char) : Prop := Raw.isSpace (some c) = false ∧ c ≠ ']'

theorem textAt_begins {limit : Nat} {j : Json} (h : Fits limit j) (depth : Nat) :
    ∃ c cs, textAt depth j = c :: cs ∧ Begins c := by
  cases j with
  | null => exact ⟨_, _, rfl, rfl, by decide⟩
  | bool b => cases b <;> exact ⟨_, _, rfl, rfl, by decide⟩
  | number n =>
    rw [Fits] at h
    obtain ⟨m, rfl, -⟩ := h
    rw [textAt, Number.text_natural]
    cases hd : Decimal.digits m with
    | nil => exact absurd hd (Decimal.digits_ne_nil m)
    | cons c cs =>
      have hdigit : c.isDigit = true :=
        Decimal.isDigit_of_mem_digits (n := m) (by rw [hd]; exact List.mem_cons_self)
      refine ⟨c, cs, rfl, ?_, ?_⟩
      · simp only [Raw.isSpace, Bool.or_eq_false_iff, beq_eq_false_iff_ne, ne_eq, Option.some_inj]
        refine ⟨⟨⟨?_, ?_⟩, ?_⟩, ?_⟩ <;>
        · rintro rfl
          exact absurd hdigit (by decide)
      · rintro rfl
        exact absurd hdigit (by decide)
  | string s => exact ⟨_, _, by rw [textAt, stringText, List.cons_append], rfl, by decide⟩
  | array items =>
    cases items with
    | nil => exact ⟨_, _, rfl, rfl, by decide⟩
    | cons item rest =>
      exact ⟨_, _, by rw [textAt, itemTexts, bracketed_cons], rfl, by decide⟩
  | object members =>
    cases members with
    | nil => exact ⟨_, _, rfl, rfl, by decide⟩
    | cons member rest =>
      exact ⟨_, _, by rw [textAt, memberTexts, bracketed_cons], rfl, by decide⟩

/-- In front of a value a space is skipped, and nothing of the value. -/
theorem skipSpace_textAt {limit : Nat} {j : Json} (h : Fits limit j) (depth : Nat) (rest : Input) :
    Raw.skipSpace (some ' ' :: ((textAt depth j).map some ++ rest)) =
      (textAt depth j).map some ++ rest := by
  obtain ⟨c, text, hc, hspace, -⟩ := textAt_begins h depth
  have hskip : ∀ cs, Raw.skipSpace (some ' ' :: cs) = Raw.skipSpace cs := fun _ => rfl
  rw [hskip, hc, List.map_cons, List.cons_append, skipSpace_of_head hspace]

theorem textAt_array (depth : Nat) (item : Json) (items : List Json) :
    textAt depth (.array (item :: items)) =
      '[' :: (newLine (depth + 1) ++ (joined (depth + 1) (itemTexts (depth + 1) (item :: items)) ++
        (newLine depth ++ [']']))) := by
  rw [textAt, itemTexts, bracketed_cons]

theorem textAt_object (depth : Nat) (member : String × Json) (members : List (String × Json)) :
    textAt depth (.object (member :: members)) =
      '\x7b' :: (newLine (depth + 1) ++
        (joined (depth + 1) (memberTexts (depth + 1) (member :: members)) ++
          (newLine depth ++ ['\x7d']))) := by
  rw [textAt, memberTexts, bracketed_cons]

theorem itemTexts_begins {limit : Nat} {item : Json} (h : Fits limit item) (depth : Nat)
    (items : List Json) :
    ∃ c cs, joined depth (itemTexts depth (item :: items)) = c :: cs ∧ Begins c := by
  obtain ⟨c, cs, hc, hb⟩ := textAt_begins h depth
  rw [itemTexts]
  obtain ⟨text, ht⟩ := exists_joined_eq_append depth (textAt depth item) (itemTexts depth items)
  exact ⟨c, cs ++ text, by rw [ht, hc, List.cons_append], hb⟩

theorem memberTexts_begins (depth : Nat) (member : String × Json)
    (members : List (String × Json)) :
    ∃ cs, joined depth (memberTexts depth (member :: members)) = '"' :: cs := by
  rw [memberTexts]
  obtain ⟨text, ht⟩ := exists_joined_eq_append depth
    (stringText member.1 ++ ':' :: ' ' :: textAt depth member.2) (memberTexts depth members)
  exact ⟨_, by rw [ht, stringText, List.cons_append, List.cons_append, List.cons_append]⟩

/-! ## One step of a reader -/

section Step

variable {fuel : Nat} {cs rest after after' : Input} {c : Option Char} {r : Raw}
  {rs : List Raw}

/-- What is neither an array nor an object is read as an atom. -/
theorem readValue_atom (hs : Raw.skipSpace cs = c :: rest) (harray : c ≠ some '[')
    (hobject : c ≠ some '\x7b') : Raw.readValue (fuel + 1) cs = Raw.readAtom (c :: rest) := by
  rw [Raw.readValue, hs]
  split
  · next h => exact absurd (List.cons.inj h).1 harray
  · next h => exact absurd (List.cons.inj h).1 hobject
  · rfl

theorem readValue_array (hs : Raw.skipSpace cs = some '[' :: rest)
    (hb : Raw.skipSpace rest = c :: after) (hc : c ≠ some ']')
    (hr : Raw.readItems fuel (c :: after) = some (rs, after')) :
    Raw.readValue (fuel + 1) cs = some (.array rs, after') := by
  rw [Raw.readValue, hs]
  simp only [hb]
  split
  · next h => exact absurd (List.cons.inj h).1 hc
  · rw [hr]
    rfl

theorem readValue_object {ms : List (List Raw.Piece × Raw)}
    (hs : Raw.skipSpace cs = some '\x7b' :: rest) (hb : Raw.skipSpace rest = c :: after)
    (hc : c ≠ some '\x7d') (hr : Raw.readMembers fuel (c :: after) = some (ms, after')) :
    Raw.readValue (fuel + 1) cs = some (.object ms, after') := by
  rw [Raw.readValue, hs]
  simp only [hb]
  split
  · next h => exact absurd (List.cons.inj h).1 hc
  · rw [hr]
    rfl

theorem readItems_last (hv : Raw.readValue fuel cs = some (r, rest))
    (hs : Raw.skipSpace rest = some ']' :: after) :
    Raw.readItems (fuel + 1) cs = some ([r], after) := by
  rw [Raw.readItems, hv, Option.bind_eq_bind, Option.bind_some]
  dsimp only
  rw [hs]
  rfl

theorem readItems_next (hv : Raw.readValue fuel cs = some (r, rest))
    (hs : Raw.skipSpace rest = some ',' :: after)
    (hr : Raw.readItems fuel after = some (rs, after')) :
    Raw.readItems (fuel + 1) cs = some (r :: rs, after') := by
  rw [Raw.readItems, hv, Option.bind_eq_bind, Option.bind_some]
  dsimp only
  rw [hs]
  show (Raw.readItems fuel after).bind _ = _
  rw [hr]
  rfl

/-- Behind the key of a member stands its value. -/
theorem readMembers_key {key : String} (hs : Raw.skipSpace cs =
      (stringText key).map some ++ (some ':' :: some ' ' :: rest)) :
    Raw.readMembers (fuel + 1) cs =
      (Raw.readValue fuel (some ' ' :: rest)).bind fun x =>
        match Raw.skipSpace x.2 with
        | some '\x7d' :: rest => some ([(key.toList.map Raw.pieceOf, x.1)], rest)
        | some ',' :: rest => (Raw.readMembers fuel rest).bind fun y =>
          some ((key.toList.map Raw.pieceOf, x.1) :: y.1, y.2)
        | _ => none := by
  rw [stringText, List.cons_append, List.map_cons, List.map_append, List.cons_append,
    List.append_assoc] at hs
  rw [Raw.readMembers, hs]
  show (Raw.readString ((key.toList.flatMap escapeChar).map some ++
    some '"' :: some ':' :: some ' ' :: rest)).bind _ = _
  rw [Raw.readString_text]
  rfl

theorem readMembers_last {key : String} (hs : Raw.skipSpace cs =
      (stringText key).map some ++ (some ':' :: some ' ' :: rest))
    (hv : Raw.readValue fuel (some ' ' :: rest) = some (r, after))
    (he : Raw.skipSpace after = some '\x7d' :: after') :
    Raw.readMembers (fuel + 1) cs = some ([(key.toList.map Raw.pieceOf, r)], after') := by
  rw [readMembers_key hs, hv, Option.bind_some]
  dsimp only
  rw [he]
  rfl

theorem readMembers_next {key : String} {ms : List (List Raw.Piece × Raw)} {last : Input}
    (hs : Raw.skipSpace cs = (stringText key).map some ++ (some ':' :: some ' ' :: rest))
    (hv : Raw.readValue fuel (some ' ' :: rest) = some (r, after))
    (he : Raw.skipSpace after = some ',' :: after')
    (hr : Raw.readMembers fuel after' = some (ms, last)) :
    Raw.readMembers (fuel + 1) cs = some ((key.toList.map Raw.pieceOf, r) :: ms, last) := by
  rw [readMembers_key hs, hv, Option.bind_some]
  dsimp only
  rw [he]
  show (Raw.readMembers fuel after').bind _ = _
  rw [hr]
  rfl

end Step

/-! ## The text is read as the spelling -/

theorem readAtom_number {n : Nat} {rest : Input} (hr : Raw.Ends rest) :
    Raw.readAtom ((Decimal.digits n).map some ++ rest) =
      some (.number ⟨false, Decimal.digits n, none, none⟩, rest) := by
  have hread := Raw.readNumber_digits n hr
  cases hd : Decimal.digits n with
  | nil => exact absurd hd (Decimal.digits_ne_nil n)
  | cons c cs =>
    have hne := Decimal.digits_head_ne hd
    rw [hd] at hread
    rw [List.map_cons, List.cons_append] at hread ⊢
    unfold Raw.readAtom
    split
    · next h => exact absurd (Option.some.inj (List.cons.inj h).1) (hne 'n' rfl)
    · next h => exact absurd (Option.some.inj (List.cons.inj h).1) (hne 't' rfl)
    · next h => exact absurd (Option.some.inj (List.cons.inj h).1) (hne 'f' rfl)
    · next h => exact absurd (Option.some.inj (List.cons.inj h).1) (hne '"' rfl)
    · rw [hread]
      rfl

theorem readAtom_string (s : String) (rest : Input) :
    Raw.readAtom ((stringText s).map some ++ rest) =
      some (.string (s.toList.map Raw.pieceOf), rest) := by
  rw [stringText, List.cons_append, List.map_cons, List.map_append, List.cons_append,
    List.append_assoc]
  show (Raw.readString ((s.toList.flatMap escapeChar).map some ++ some '"' :: rest)).map _ = _
  rw [Raw.readString_text]
  rfl

mutual

theorem readValue_text (limit : Nat) : ∀ j : Json, Fits limit j →
    ∀ (depth fuel : Nat) (cs rest : Input),
      Raw.skipSpace cs = (textAt depth j).map some ++ rest →
      2 * (textAt depth j).length ≤ fuel → Raw.Ends rest →
      Raw.readValue fuel cs = some (spelled j, rest)
  | j, h, depth, 0, cs, rest, hs, hf, hr => by
    obtain ⟨c, text, ht, -⟩ := textAt_begins h depth
    rw [ht, List.length_cons] at hf
    omega
  | .null, _, depth, fuel + 1, cs, rest, hs, _, _ => by
    rw [readValue_atom hs (by decide) (by decide)]
    rfl
  | .bool true, _, depth, fuel + 1, cs, rest, hs, _, _ => by
    rw [readValue_atom hs (by decide) (by decide)]
    rfl
  | .bool false, _, depth, fuel + 1, cs, rest, hs, _, _ => by
    rw [readValue_atom hs (by decide) (by decide)]
    rfl
  | .number n, h, depth, fuel + 1, cs, rest, hs, _, hr => by
    rw [Fits] at h
    obtain ⟨m, rfl, -⟩ := h
    rw [textAt, Number.text_natural] at hs
    rw [spelled, Int.natAbs_natCast, ← readAtom_number hr]
    cases hd : Decimal.digits m with
    | nil => exact absurd hd (Decimal.digits_ne_nil m)
    | cons c text =>
      have hne := Decimal.digits_head_ne hd
      rw [hd] at hs
      exact readValue_atom hs (fun he => hne '[' rfl (Option.some.inj he))
        (fun he => hne '\x7b' rfl (Option.some.inj he))
  | .string s, _, depth, fuel + 1, cs, rest, hs, _, _ => by
    rw [textAt] at hs
    rw [readValue_atom hs (by decide) (by decide)]
    exact readAtom_string s rest
  | .array [], _, depth, fuel + 1, cs, rest, hs, _, _ => by
    rw [Raw.readValue, hs]
    rfl
  | .array (item :: items), h, depth, fuel + 1, cs, rest, hs, hf, hr => by
    rw [Fits] at h
    rw [textAt_array] at hs hf
    simp only [List.length_cons, List.length_append, List.length_nil] at hf
    simp only [List.map_cons, List.map_append, List.map_nil, List.cons_append, List.append_assoc,
      List.nil_append] at hs
    obtain ⟨c, text, hc, hspace, hclose⟩ := itemTexts_begins h.2.1 (depth + 1) items
    have hread : ∀ cs', Raw.skipSpace cs' = _ → Raw.readItems fuel cs' = _ := fun cs' hs' =>
      readItems_text (limit - 1) (item :: items) (List.cons_ne_nil _ _) h.2 (depth + 1) depth fuel
        cs' rest hs' (by omega)
    rw [hc, List.map_cons, List.cons_append] at hs hread
    exact readValue_array hs (by rw [skipSpace_newLine, skipSpace_of_head hspace])
      (fun he => hclose (Option.some.inj he)) (hread _ (skipSpace_of_head hspace _))
  | .object [], _, depth, fuel + 1, cs, rest, hs, _, _ => by
    rw [Raw.readValue, hs]
    rfl
  | .object (member :: members), h, depth, fuel + 1, cs, rest, hs, hf, hr => by
    rw [Fits] at h
    rw [textAt_object] at hs hf
    simp only [List.length_cons, List.length_append, List.length_nil] at hf
    simp only [List.map_cons, List.map_append, List.map_nil, List.cons_append, List.append_assoc,
      List.nil_append] at hs
    obtain ⟨text, hc⟩ := memberTexts_begins (depth + 1) member members
    have hread : ∀ cs', Raw.skipSpace cs' = _ → Raw.readMembers fuel cs' = _ := fun cs' hs' =>
      readMembers_text (limit - 1) (member :: members) (List.cons_ne_nil _ _) h.2 (depth + 1) depth
        fuel cs' rest hs' (by omega)
    rw [hc, List.map_cons, List.cons_append] at hs hread
    exact readValue_object hs (by rw [skipSpace_newLine, skipSpace_of_head rfl]) (by decide)
      (hread _ (skipSpace_of_head rfl _))

theorem readItems_text (limit : Nat) : ∀ items : List Json, items ≠ [] → FitsItems limit items →
    ∀ (depth outer fuel : Nat) (cs rest : Input),
      Raw.skipSpace cs = (joined depth (itemTexts depth items)).map some ++
        ((newLine outer).map some ++ some ']' :: rest) →
      2 * (joined depth (itemTexts depth items)).length < fuel →
      Raw.readItems fuel cs = some (spelledItems items, rest)
  | _, _, _, _, _, 0, _, _, _, hf => by omega
  | [], hne, _, _, _, _, _, _, _, _ => absurd rfl hne
  | [item], _, h, depth, outer, fuel + 1, cs, rest, hs, hf => by
    rw [FitsItems] at h
    rw [itemTexts, itemTexts, joined] at hs hf
    have hv := readValue_text limit item h.1 depth fuel cs _ hs (by omega) (.inr rfl)
    rw [spelledItems, spelledItems]
    exact readItems_last hv (by rw [skipSpace_newLine, skipSpace_of_head rfl])
  | item :: next :: items, _, h, depth, outer, fuel + 1, cs, rest, hs, hf => by
    rw [FitsItems] at h
    rw [itemTexts, itemTexts, joined, ← itemTexts] at hs hf
    simp only [List.length_cons, List.length_append] at hf
    simp only [List.map_cons, List.map_append, List.cons_append, List.append_assoc] at hs
    have hv := readValue_text limit item h.1 depth fuel cs _ hs (by omega) (.inl rfl)
    obtain ⟨c, text, hc, hspace, -⟩ := itemTexts_begins h.2.1 depth items
    have hread := readItems_text limit (next :: items) (List.cons_ne_nil _ _) h.2 depth outer fuel
      ((newLine depth).map some ++ ((joined depth (itemTexts depth (next :: items))).map some ++
        ((newLine outer).map some ++ some ']' :: rest))) rest
      (by rw [skipSpace_newLine, hc, List.map_cons, List.cons_append, skipSpace_of_head hspace])
      (by omega)
    rw [spelledItems]
    exact readItems_next hv (skipSpace_of_head rfl _) hread

theorem readMembers_text (limit : Nat) : ∀ members : List (String × Json), members ≠ [] →
    FitsMembers limit members →
    ∀ (depth outer fuel : Nat) (cs rest : Input),
      Raw.skipSpace cs = (joined depth (memberTexts depth members)).map some ++
        ((newLine outer).map some ++ some '\x7d' :: rest) →
      2 * (joined depth (memberTexts depth members)).length < fuel →
      Raw.readMembers fuel cs = some (spelledMembers members, rest)
  | _, _, _, _, _, 0, _, _, _, hf => by omega
  | [], hne, _, _, _, _, _, _, _, _ => absurd rfl hne
  | [(key, value)], _, h, depth, outer, fuel + 1, cs, rest, hs, hf => by
    rw [FitsMembers] at h
    rw [memberTexts, memberTexts, joined] at hs hf
    simp only [List.length_cons, List.length_append] at hf
    simp only [List.map_cons, List.map_append, List.cons_append, List.append_assoc] at hs
    have hv : ∀ after, Raw.Ends after → Raw.readValue fuel (some ' ' ::
        ((textAt depth value).map some ++ after)) = some (spelled value, after) := fun after he =>
      readValue_text limit value h.1 depth fuel _ after (skipSpace_textAt h.1 depth _) (by omega) he
    rw [spelledMembers, spelledMembers]
    exact readMembers_last hs (hv _ (.inr rfl)) (by rw [skipSpace_newLine, skipSpace_of_head rfl])
  | (key, value) :: (key', value') :: members, _, h, depth, outer, fuel + 1, cs, rest, hs, hf => by
    rw [FitsMembers] at h
    rw [memberTexts, memberTexts, joined, ← memberTexts] at hs hf
    simp only [List.length_cons, List.length_append] at hf
    simp only [List.map_cons, List.map_append, List.cons_append, List.append_assoc] at hs
    have hv : ∀ after, Raw.Ends after → Raw.readValue fuel (some ' ' ::
        ((textAt depth value).map some ++ after)) = some (spelled value, after) := fun after he =>
      readValue_text limit value h.1 depth fuel _ after (skipSpace_textAt h.1 depth _) (by omega) he
    obtain ⟨text', hc'⟩ := memberTexts_begins depth (key', value') members
    have hread := readMembers_text limit ((key', value') :: members) (List.cons_ne_nil _ _) h.2
      depth outer fuel ((newLine depth).map some ++
        ((joined depth (memberTexts depth ((key', value') :: members))).map some ++
          ((newLine outer).map some ++ some '\x7d' :: rest))) rest
      (by rw [skipSpace_newLine, hc', List.map_cons, List.cons_append, skipSpace_of_head rfl])
      (by omega)
    rw [spelledMembers]
    exact readMembers_next hs (hv _ (.inl rfl)) (skipSpace_of_head rfl _) hread

end

/-- What a document spells is what was written. -/
theorem ofInput?_documentText {j : Json} (h : Fits depthLimit j) :
    Raw.ofInput? ((documentText j).toList.map some) = some (spelled j) := by
  have hread := readValue_text depthLimit j h 0
    (2 * ((textAt 0 j ++ ['\n']).map some).length + 2) ((textAt 0 j ++ ['\n']).map some)
    [some '\n'] (by
      obtain ⟨c, text, hc, hspace, -⟩ := textAt_begins h 0
      rw [hc, List.cons_append, List.map_cons, skipSpace_of_head hspace, List.map_append]
      rfl)
    (by rw [List.length_map, List.length_append]; omega) (.inr rfl)
  rw [documentText, String.toList_ofList, Raw.ofInput?, hread]
  rfl

/-- A document is read as the tree that was written. -/
theorem ofText?_documentText {j : Json} (h : Fits depthLimit j) :
    ofText? (documentText j) = some j := by
  rw [ofText?, ofInput?_documentText h]
  exact decode_spelled depthLimit j h

end Json
end ContainerRoster
