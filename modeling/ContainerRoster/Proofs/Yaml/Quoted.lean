import ContainerRoster.Proofs.Yaml.Plain

/-!
# Quoted scalars read back

Between single quotes a string is read as pieces that fold to its characters.  Line breaks are the
delicate part: the printer indents the line behind one, and the reader drops blanks there, so no
space of the string may stand beside a break.  Between double quotes breaks are escaped, and every
character is read by itself.
-/

namespace ContainerRoster
namespace Yaml

/-! ## Single quotes -/

/-- The pieces of a string as the printer writes it between single quotes. -/
def singlePieces (indent : Nat) (afterBreak : Bool) : List Char → List Piece
  | [] => if afterBreak then List.replicate indent (.blank ' ') else []
  | c :: rest =>
    if isBreak c then .lineBreak c :: singlePieces indent true rest
    else
      (if afterBreak then List.replicate indent (.blank ' ') else []) ++
        .raw c :: singlePieces indent false rest

theorem readSingle_raw {c : Char} (h : c ≠ '\'') (rest : List Char) :
    readSingle (c :: rest) =
      (readSingle rest).map fun (pieces, rest) => (.raw c :: pieces, rest) := by
  rw [readSingle]
  · intro rest' hc
    exact absurd hc h
  · exact h

theorem readSingle_spaces (n : Nat) (rest : List Char) :
    readSingle (List.replicate n ' ' ++ rest) =
      (readSingle rest).map fun (pieces, rest) =>
        (List.replicate n (.blank ' ') ++ pieces, rest) := by
  induction n with
  | zero => cases h : readSingle rest <;> simp [h]
  | succ n ih =>
    rw [List.replicate_succ, List.cons_append, readSingle_raw (by decide), ih, Option.map_map]
    rfl

theorem readSingle_indent (indent : Nat) (afterBreak : Bool) (rest : List Char) :
    readSingle ((if afterBreak then List.replicate indent ' ' else []) ++ rest) =
      (readSingle rest).map fun (pieces, rest) =>
        ((if afterBreak then List.replicate indent (.blank ' ') else []) ++ pieces, rest) := by
  cases afterBreak with
  | false => cases h : readSingle rest <;> simp [h]
  | true => exact readSingle_spaces indent rest

/-- The body of a string between single quotes is read as its pieces. -/
theorem readSingle_body (indent : Nat) {rest : List Char} (hr : ∀ c ∈ rest.head?, c ≠ '\'') :
    ∀ (cs : List Char) (afterBreak : Bool),
      readSingle (singleBody indent afterBreak cs ++ rest) =
        some (singlePieces indent afterBreak cs, rest)
  | [], afterBreak => by
    have hquote : readSingle ('\'' :: rest) = some ([], rest) := by
      rw [readSingle]
      intro rest' h
      exact absurd rfl (hr '\'' (by rw [h]; rfl))
    rw [singleBody, singlePieces, List.append_assoc, readSingle_indent]
    show (readSingle ('\'' :: rest)).map _ = _
    simp only [hquote, Option.map_some, List.append_nil]
  | c :: cs, afterBreak => by
    rw [singleBody, singlePieces]
    by_cases hb : isBreak c
    · have hc : c ≠ '\'' := by
        rintro rfl
        exact absurd hb (by decide)
      rw [if_pos hb, if_pos hb, List.cons_append, readSingle_raw hc,
        readSingle_body indent hr cs true, Piece.raw, if_pos hb]
      rfl
    · rw [if_neg hb, if_neg hb, List.append_assoc, List.append_assoc, readSingle_indent]
      by_cases hc : c = '\''
      · subst hc
        have hdoubled : ∀ cs, readSingle ('\'' :: '\'' :: cs) =
            (readSingle cs).map fun (pieces, rest) => (.raw '\'' :: pieces, rest) := fun _ => rfl
        rw [if_pos rfl]
        show (readSingle ('\'' :: '\'' :: (singleBody indent false cs ++ rest))).map _ = _
        rw [hdoubled, readSingle_body indent hr cs false]
        rfl
      · rw [if_neg hc]
        show (readSingle (c :: (singleBody indent false cs ++ rest))).map _ = _
        rw [readSingle_raw hc, readSingle_body indent hr cs false]
        rfl

/-- What is between the characters read so far and the ones to come fits the latter: no space stands
in front of a break, and none behind one. -/
def Gap.Fits : Gap → Bool → List Char → Prop
  | blanks cs, afterBreak, rest =>
    afterBreak = false ∧ (cs ≠ [] → ∀ c ∈ rest.head?, isBreak c = false)
  | breaks first _, afterBreak, rest => afterBreak = true ∧ first ≠ '\n' ∧ ∀ c ∈ rest.head?, c ≠ ' '

theorem folded_indent (first : Char) (later : List Char) (n : Nat) (pieces : List Piece) :
    folded (.breaks first later) (List.replicate n (.blank ' ') ++ pieces) =
      folded (.breaks first later) pieces := by
  induction n with
  | zero => rfl
  | succ n ih => exact ih

theorem raw_of_isPrintable {c : Char} (hp : isPrintable c = true) (hb : isBreak c = false)
    (hs : c ≠ ' ') : Piece.raw c = .char c := by
  have hblank : isBlank c = false := by
    rw [isBlank, Bool.or_eq_false_iff, beq_eq_false_iff_ne, beq_eq_false_iff_ne]
    refine ⟨hs, ?_⟩
    rintro rfl
    exact absurd hp (by decide)
  rw [Piece.raw, hb, hblank]
  rfl

/-- A break that fits behind what is between joins it. -/
theorem Gap.Fits.addBreak {gap : Gap} {afterBreak : Bool} {c : Char} {cs : List Char}
    (h : gap.Fits afterBreak (c :: cs)) (hb : isBreak c = true) (hc : c ≠ '\n')
    (hnext : ∀ d ∈ cs.head?, d ≠ ' ') :
    (gap.addBreak c).Fits true cs ∧ (gap.addBreak c).text = gap.text ++ [c] := by
  cases gap with
  | blanks bs =>
    have hbs : bs = [] := by
      refine Classical.byContradiction fun hne => ?_
      have hnot := h.2 hne c rfl
      rw [hb] at hnot
      cases hnot
    refine ⟨⟨rfl, hc, hnext⟩, ?_⟩
    subst hbs
    exact if_neg hc
  | breaks first later =>
    refine ⟨⟨rfl, h.2.1, hnext⟩, ?_⟩
    rw [Gap.addBreak, Gap.text, Gap.text, if_neg h.2.1, if_neg h.2.1, List.cons_append]

/-- The pieces fold to the string, behind whatever is between. -/
theorem folded_singlePieces (indent : Nat) : ∀ (cs : List Char) (gap : Gap) (afterBreak : Bool),
    cs.all isPrintable = true → '\n' ∉ cs → hasPair isSpace isBreak cs = false →
    hasPair isBreak isSpace cs = false → gap.Fits afterBreak cs →
    folded gap (singlePieces indent afterBreak cs) = gap.text ++ cs
  | [], gap, afterBreak, _, _, _, _, hfits => by
    rw [List.append_nil]
    cases gap with
    | blanks bs =>
      rw [hfits.1]
      rfl
    | breaks first later =>
      rw [hfits.1, singlePieces, if_pos rfl, ← List.append_nil (List.replicate _ _), folded_indent]
      rfl
  | c :: cs, gap, afterBreak, hprint, hfeed, hspace, hbreak, hfits => by
    rw [List.all_cons, Bool.and_eq_true] at hprint
    rw [List.mem_cons, not_or] at hfeed
    rw [hasPair_cons, Bool.or_eq_false_iff] at hspace hbreak
    rw [singlePieces]
    by_cases hb : isBreak c
    · have hnext : ∀ d ∈ cs.head?, d ≠ ' ' := by
        rintro d hd rfl
        rw [Option.mem_def.mp hd, Option.map_some, Option.getD_some, hb] at hbreak
        exact absurd hbreak.1 (by decide)
      obtain ⟨hfits', htext⟩ := hfits.addBreak hb (Ne.symm hfeed.1) hnext
      rw [if_pos hb]
      show folded (gap.addBreak c) _ = _
      rw [folded_singlePieces indent cs _ true hprint.2 hfeed.2 hspace.2 hbreak.2 hfits', htext,
        List.append_assoc]
      rfl
    · rw [if_neg hb]
      by_cases hs : c = ' '
      · subst hs
        cases gap with
        | breaks first later => exact absurd rfl (hfits.2.2 ' ' rfl)
        | blanks bs =>
          have hfits' : (Gap.blanks (bs ++ [' '])).Fits false cs := by
            refine ⟨rfl, fun _ d hd => ?_⟩
            have h := hspace.1
            rw [Option.mem_def.mp hd] at h
            exact h
          rw [hfits.1]
          show folded (.blanks (bs ++ [' '])) _ = _
          rw [folded_singlePieces indent cs _ false hprint.2 hfeed.2 hspace.2 hbreak.2 hfits']
          show (bs ++ [' ']) ++ cs = bs ++ ' ' :: cs
          rw [List.append_assoc]
          rfl
      · have hchar : folded gap (.raw c :: singlePieces indent false cs) = gap.text ++ c :: cs := by
          have hfits' : (Gap.blanks []).Fits false cs := ⟨rfl, fun h => absurd rfl h⟩
          rw [raw_of_isPrintable hprint.1 (Bool.eq_false_iff.mpr hb) hs, folded,
            folded_singlePieces indent cs _ false hprint.2 hfeed.2 hspace.2 hbreak.2 hfits']
          rfl
        cases gap with
        | blanks bs =>
          rw [hfits.1]
          exact hchar
        | breaks first later =>
          rw [hfits.1, if_pos rfl, folded_indent]
          exact hchar

theorem isIndented_spaces {n : Nat} (hn : 0 < n) (x : Char) {pieces : List Piece}
    (h : isIndented pieces = true) :
    isIndented (List.replicate n (.blank ' ') ++ pieces) = true ∧
      isIndented (.lineBreak x :: (List.replicate n (.blank ' ') ++ pieces)) = true := by
  have hspaces : ∀ n, isIndented (List.replicate n (.blank ' ') ++ pieces) = true := by
    intro n
    induction n with
    | zero => exact h
    | succ n ih => exact ih
  obtain ⟨n, rfl⟩ := Nat.exists_eq_succ_of_ne_zero (by omega : n ≠ 0)
  exact ⟨hspaces _, hspaces n⟩

theorem isIndented_raw {c : Char} (h : isBreak c = false) (pieces : List Piece) :
    isIndented (.raw c :: pieces) = isIndented pieces := by
  rw [Piece.raw, h, if_neg Bool.false_ne_true]
  cases isBlank c <;> rfl

/-- The printer indents the line behind every break. -/
theorem isIndented_singlePieces {indent : Nat} (hn : 0 < indent) : ∀ (cs : List Char) (x : Char),
    isIndented (singlePieces indent false cs) = true ∧
      isIndented (.lineBreak x :: singlePieces indent true cs) = true
  | [], x => by
    have h := (isIndented_spaces hn x (show isIndented [] = true from rfl)).2
    rw [List.append_nil] at h
    exact ⟨rfl, h⟩
  | c :: cs, x => by
    rw [singlePieces, singlePieces]
    by_cases hb : isBreak c
    · rw [if_pos hb, if_pos hb]
      have ih := (isIndented_singlePieces hn cs c).2
      exact ⟨ih, ih⟩
    · have ih := (isIndented_singlePieces hn cs x).1
      rw [← isIndented_raw (Bool.eq_false_iff.mpr hb)] at ih
      rw [if_neg hb, if_neg hb]
      exact ⟨ih, (isIndented_spaces hn x ih).2⟩

/-- A string between single quotes is read as itself. -/
theorem readFlow_single {s : String} (h : style s = .single) {indent : Nat} (hn : 0 < indent)
    {rest : List Char} (hr : ∀ c ∈ rest.head?, c ≠ '\'') :
    readFlow (singleQuoted indent s.toList ++ rest) = some (.string s, rest) := by
  obtain ⟨hfeed, hallows⟩ := (of_style s).2.1 h
  simp only [allowsSingle, needsEscapes, Bool.and_eq_true, Bool.not_eq_true', Bool.or_eq_false_iff,
    Bool.not_eq_false'] at hallows
  obtain ⟨⟨hprint, hspace⟩, hbreak⟩ := hallows
  have hfold := folded_singlePieces indent s.toList (.blanks []) false hprint hfeed hspace hbreak
    ⟨rfl, fun hne => absurd rfl hne⟩
  show (readSingle (singleBody indent false s.toList ++ rest)).bind _ = _
  rw [readSingle_body indent hr, Option.bind_some]
  show (quotedText? (singlePieces indent false s.toList)).bind _ = _
  rw [quotedText?, (isIndented_singlePieces hn s.toList ' ').1, if_pos rfl, hfold]
  show some (Json.string (String.ofList s.toList), rest) = _
  rw [String.ofList_toList]

/-! ## Double quotes -/

/-- The piece as which a character is read between double quotes.  Only a space is not escaped and
yet no character of its own. -/
def doublePiece (c : Char) : Piece := if c = ' ' then .blank ' ' else .char c

theorem readDouble_digits_cons {c : Char} {d : Nat} (hd : Text.digit? 16 c = some d)
    (left value : Nat) (rest : List Char) :
    readDouble (.digits left value) (c :: rest) =
      if 1 < left then readDouble (.digits (left - 1) (value * 16 + d)) rest
      else if (value * 16 + d).isValidChar then
        (readDouble .none rest).map fun (pieces, rest) =>
          (.char (Char.ofNat (value * 16 + d)) :: pieces, rest)
      else none := by
  rw [readDouble, hd]
  show (if 1 < left then _ else if (value * 16 + d).isValidChar then _ else none) = _
  cases readDouble .none rest <;> rfl

/-- Digits after an escape are read as the character that they number. -/
theorem readDouble_digits (rest : List Char) : ∀ (cs : List Char) (values : List Nat) (value : Nat),
    cs ≠ [] → cs.mapM (Text.digit? 16) = some values →
    (values.foldl (fun n d => n * 16 + d) value).isValidChar →
    readDouble (.digits cs.length value) (cs ++ rest) =
      (readDouble .none rest).map fun (pieces, rest) =>
        (.char (Char.ofNat (values.foldl (fun n d => n * 16 + d) value)) :: pieces, rest)
  | [], _, _, hne, _, _ => absurd rfl hne
  | c :: cs, values, value, _, hv, hvalid => by
    rw [List.mapM_cons] at hv
    cases hd : Text.digit? 16 c with
    | none =>
      rw [hd] at hv
      cases hv
    | some d =>
      cases hds : cs.mapM (Text.digit? 16) with
      | none =>
        rw [hd, hds] at hv
        cases hv
      | some ds =>
        rw [hd, hds] at hv
        cases hv
        rw [List.foldl_cons] at hvalid ⊢
        rw [List.cons_append, readDouble_digits_cons hd]
        cases cs with
        | nil =>
          cases hds
          rw [if_neg (by simp)]
          exact if_pos hvalid
        | cons c' cs' =>
          rw [if_pos (by simp)]
          exact readDouble_digits rest (c' :: cs') ds (value * 16 + d) (List.cons_ne_nil _ _) hds
            hvalid

/-- A hexadecimal number of a fixed length is read as the character that it numbers. -/
theorem readDouble_hexadecimal {count : Nat} (hcount : 0 < count) {c : Char}
    (hc : c.toNat < Nat.pow 16 count) (rest : List Char) :
    readDouble (.digits count 0) (hexadecimal count c.toNat ++ rest) =
      (readDouble .none rest).map fun (pieces, rest) => (.char c :: pieces, rest) := by
  have hwritten : ((Nat.toDigits 16 c.toNat).map Char.toUpper).length ≤ count := by
    rw [List.length_map]
    exact (Nat.length_toDigits_le_iff (by decide) hcount).mpr hc
  have hlength : (hexadecimal count c.toNat).length = count := by
    rw [hexadecimal, List.length_append, List.length_replicate]
    omega
  have hread := Text.ofDigits_replicate_zero_append (by decide)
    (count - ((Nat.toDigits 16 c.toNat).map Char.toUpper).length)
    (Text.ofDigits_map_toDigits (by decide) (fun d hd => Text.digit?_toUpper_digitChar hd) c.toNat)
  rw [Option.map_eq_some_iff] at hread
  obtain ⟨values, hv, ho⟩ := hread
  have hne : hexadecimal count c.toNat ≠ [] := by
    intro h
    rw [h] at hlength
    exact absurd hlength (by simp; omega)
  have h := readDouble_digits rest (hexadecimal count c.toNat) values 0 hne hv
    (by rw [Text.ofDigits] at ho; rw [ho]; exact c.valid)
  rw [hlength] at h
  rw [Text.ofDigits] at ho
  rw [h, ho, Char.ofNat_toNat]

theorem readDouble_short {letter e : Char} (hn : digitCount? letter = none)
    (he : shortEscape? letter = some e) (rest : List Char) :
    readDouble .none ('\\' :: letter :: rest) =
      (readDouble .none rest).map fun (pieces, rest) => (.char e :: pieces, rest) := by
  show readDouble .begun (letter :: rest) = _
  rw [readDouble, hn, he]
  cases readDouble .none rest <;> rfl

theorem readDouble_numbered {letter : Char} {count : Nat} (hn : digitCount? letter = some count)
    (hcount : 0 < count) {c : Char} (hc : c.toNat < Nat.pow 16 count) (rest : List Char) :
    readDouble .none ('\\' :: letter :: hexadecimal count c.toNat ++ rest) =
      (readDouble .none rest).map fun (pieces, rest) => (.char c :: pieces, rest) := by
  rw [← readDouble_hexadecimal hcount hc]
  show readDouble .begun (letter :: (hexadecimal count c.toNat ++ rest)) = _
  rw [readDouble, hn]

theorem readDouble_raw {c : Char} (hquote : c ≠ '"') (hslash : c ≠ '\\') (rest : List Char) :
    readDouble .none (c :: rest) =
      (readDouble .none rest).map fun (pieces, rest) => (.raw c :: pieces, rest) := by
  rw [readDouble, if_neg hquote, if_neg hslash]

theorem doublePiece_of_ne {c : Char} (h : c ≠ ' ') : doublePiece c = .char c := if_neg h

theorem doublePiece_of_isPrintable {c : Char} (hp : isPrintable c = true)
    (hb : isBreak c = false) : doublePiece c = .raw c := by
  by_cases hs : c = ' '
  · subst hs
    rfl
  · rw [doublePiece_of_ne hs, raw_of_isPrintable hp hb hs]

/-- The characters that are escaped by a letter, besides the quote and the backslash. -/
def shortEscapes : List (Nat × Char) :=
  [(0, '0'), (7, 'a'), (8, 'b'), (9, 't'), (10, 'n'), (11, 'v'), (12, 'f'), (13, 'r'), (27, 'e'),
    (0x85, 'N'), (0x2028, 'L'), (0x2029, 'P')]

theorem escapeChar_short : ∀ e ∈ shortEscapes,
    Char.ofNat e.1 ≠ ' ' ∧ escapeChar (Char.ofNat e.1) = ['\\', e.2] ∧ isPrintable e.2 = true ∧
      digitCount? e.2 = none ∧ shortEscape? e.2 = some (Char.ofNat e.1) := by
  decide

/-- A character is escaped by a letter, stands as it is, or is escaped by its number. -/
theorem escapeChar_cases (c : Char) :
    (c ≠ ' ' ∧ ∃ letter, escapeChar c = ['\\', letter] ∧ isPrintable letter = true ∧
      digitCount? letter = none ∧ shortEscape? letter = some c) ∨
    (escapeChar c = [c] ∧ isPrintable c = true ∧ isBreak c = false ∧ c ≠ '"' ∧ c ≠ '\\') ∨
    (c ≠ ' ' ∧ ∃ letter count, escapeChar c = '\\' :: letter :: hexadecimal count c.toNat ∧
      isPrintable letter = true ∧ digitCount? letter = some count ∧ 0 < count ∧
      c.toNat < Nat.pow 16 count) := by
  by_cases hshort : c.toNat ∈ shortEscapes.map (·.1)
  · obtain ⟨e, he, hc⟩ := List.mem_map.mp hshort
    have h := escapeChar_short e he
    rw [hc, Char.ofNat_toNat] at h
    exact .inl ⟨h.1, e.2, h.2⟩
  · simp only [shortEscapes, List.map_cons, List.map_nil, List.mem_cons, List.not_mem_nil, or_false,
      not_or] at hshort
    simp only [escapeChar, hshort, if_false]
    by_cases hquote : c = '"'
    · subst hquote
      exact .inl ⟨by decide, '"', rfl, rfl, rfl, rfl⟩
    by_cases hslash : c = '\\'
    · subst hslash
      exact .inl ⟨by decide, '\\', rfl, rfl, rfl, rfl⟩
    rw [if_neg hquote, if_neg hslash]
    by_cases hraw : (isPrintable c && !isBreak c) = true
    · rw [if_pos hraw]
      rw [Bool.and_eq_true, Bool.not_eq_true'] at hraw
      exact .inr (.inl ⟨rfl, hraw.1, hraw.2, hquote, hslash⟩)
    rw [if_neg hraw]
    have hne : c ≠ ' ' := by
      rintro rfl
      exact hraw (by decide)
    refine .inr (.inr ⟨hne, ?_⟩)
    by_cases hbyte : c.toNat ≤ 0xFF
    · rw [if_pos hbyte]
      exact ⟨'x', 2, rfl, by decide, rfl, by decide, Nat.lt_of_le_of_lt hbyte (by decide)⟩
    rw [if_neg hbyte]
    by_cases hword : c.toNat ≤ 0xFFFF
    · rw [if_pos hword]
      exact ⟨'u', 4, rfl, by decide, rfl, by decide, Nat.lt_of_le_of_lt hword (by decide)⟩
    · rw [if_neg hword]
      have hmax : c.toNat < Nat.pow 16 8 := UInt32.toNat_lt c.val
      exact ⟨'U', 8, rfl, by decide, rfl, by decide, hmax⟩

/-- A character that the printer has written between double quotes is read as its piece. -/
theorem readDouble_escapeChar (c : Char) (rest : List Char) :
    readDouble .none (escapeChar c ++ rest) =
      (readDouble .none rest).map fun (pieces, rest) => (doublePiece c :: pieces, rest) := by
  rcases escapeChar_cases c with ⟨hne, letter, hwritten, -, hn, he⟩ |
    ⟨hwritten, hp, hb, hquote, hslash⟩ | ⟨hne, letter, count, hwritten, -, hn, hcount, hc⟩
  · rw [hwritten, doublePiece_of_ne hne]
    exact readDouble_short hn he rest
  · rw [hwritten, doublePiece_of_isPrintable hp hb]
    exact readDouble_raw hquote hslash rest
  · rw [hwritten, doublePiece_of_ne hne]
    exact readDouble_numbered hn hcount hc rest

/-- Between double quotes a string is read as one piece a character. -/
theorem readDouble_text (cs rest : List Char) :
    readDouble .none (cs.flatMap escapeChar ++ '"' :: rest) = some (cs.map doublePiece, rest) := by
  induction cs with
  | nil => rfl
  | cons c cs ih =>
    rw [List.flatMap_cons, List.append_assoc, readDouble_escapeChar, ih]
    rfl

theorem folded_doublePieces (cs blanks : List Char) :
    folded (.blanks blanks) (cs.map doublePiece) = blanks ++ cs := by
  induction cs generalizing blanks with
  | nil => exact (List.append_nil blanks).symm
  | cons c cs ih =>
    rw [List.map_cons]
    by_cases hs : c = ' '
    · subst hs
      show folded (.blanks (blanks ++ [' '])) _ = _
      rw [ih, List.append_assoc]
      rfl
    · rw [doublePiece_of_ne hs, folded, ih]
      rfl

theorem isIndented_doublePieces (cs : List Char) : isIndented (cs.map doublePiece) = true := by
  induction cs with
  | nil => rfl
  | cons c cs ih =>
    rw [List.map_cons, doublePiece]
    split <;> exact ih

/-- A string between double quotes is read as itself. -/
theorem readFlow_double (s : String) (rest : List Char) :
    readFlow (doubleQuoted s.toList ++ rest) = some (.string s, rest) := by
  rw [doubleQuoted, List.cons_append, List.cons_append, List.append_assoc]
  show (readDouble .none (s.toList.flatMap escapeChar ++ '"' :: rest)).bind _ = _
  rw [readDouble_text, Option.bind_some]
  show (quotedText? (s.toList.map doublePiece)).bind _ = _
  rw [quotedText?, isIndented_doublePieces, if_pos rfl, folded_doublePieces, List.nil_append]
  show some (Json.string (String.ofList s.toList), rest) = _
  rw [String.ofList_toList]

end Yaml
end ContainerRoster
