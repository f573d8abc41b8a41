import ContainerRoster.Proofs.Yaml.Plain
import ContainerRoster.Yaml.Printer

/-!
# Literal blocks read back

A literal block holds its lines behind an indentation, so its end shows only in what follows:
a line further to the left.  Its header says how far the lines are indented, where they do not show
it themselves, and how many breaks stand at the end of the text.
-/

namespace ContainerRoster
namespace Yaml

/-- What may follow a block in a column: nothing, or a line that begins to the left of it. -/
def LeftOf (column : Nat) (rest : List Char) : Prop :=
  rest = [] ∨ ∃ depth c cs, rest = spaces depth ++ c :: cs ∧ depth < column ∧
    c ≠ ' ' ∧ isBreak c = false

theorem LeftOf.mono {column column' : Nat} {rest : List Char} (h : LeftOf column rest)
    (hle : column ≤ column') : LeftOf column' rest := by
  rcases h with rfl | ⟨depth, c, cs, rfl, hdepth, hc⟩
  · exact .inl rfl
  · exact .inr ⟨depth, c, cs, rfl, by omega, hc⟩

/-! ## Lines -/

/-- Where the reader of a block stands behind a text. -/
def stateAfter (afterBreak : Bool) (cs : List Char) : Option Nat :=
  if (cs.getLast?.map isBreak).getD afterBreak then some 0 else none

theorem stateAfter_cons (afterBreak : Bool) (c : Char) (cs : List Char) :
    stateAfter afterBreak (c :: cs) = stateAfter (isBreak c) cs := by
  cases cs with
  | nil => rfl
  | cons d rest => rfl

/-- The spaces in front of a line are passed one by one. -/
theorem readLines_spaces {indent : Nat} (n passed : Nat) (h : passed + n ≤ indent)
    (rest : List Char) :
    readLines indent (some passed) (spaces n ++ rest) =
      readLines indent (some (passed + n)) rest := by
  induction n generalizing passed with
  | zero => rfl
  | succ n ih =>
    have hne : passed ≠ indent := by omega
    have hstep : ∀ cs, readLines indent (some passed) (' ' :: cs) =
        readLines indent (some (passed + 1)) cs := by
      intro cs
      rw [readLines, if_neg (by decide), if_neg hne, if_pos rfl]
    rw [spaces, List.replicate_succ, List.cons_append, hstep]
    have h := ih (passed + 1) (by omega)
    rw [spaces, Nat.add_assoc, Nat.add_comm 1 n] at h
    exact h

/-- What is written of a text is read as that text. -/
theorem readLines_literalBody (indent : Nat) (t : List Char) : ∀ (cs : List Char)
    (afterBreak : Bool),
    readLines indent (if afterBreak then some 0 else none) (literalBody indent afterBreak cs ++ t) =
      (cs ++ (readLines indent (stateAfter afterBreak cs) t).1,
        (readLines indent (stateAfter afterBreak cs) t).2)
  | [], afterBreak => by
    cases afterBreak <;> rfl
  | c :: cs, afterBreak => by
    rw [stateAfter_cons, literalBody]
    by_cases hb : isBreak c
    · have ih := readLines_literalBody indent t cs true
      rw [if_pos rfl] at ih
      rw [if_pos hb, hb]
      have hstep : ∀ state, state = none ∨ state = some 0 → ∀ rest,
          readLines indent state (c :: rest) =
            (c :: (readLines indent (some 0) rest).1, (readLines indent (some 0) rest).2) := by
        rintro state (rfl | rfl) rest
        · rw [readLines, if_pos hb]
        · rw [readLines, if_pos hb]
      rw [List.cons_append, hstep _ (by cases afterBreak <;> simp), ih]
      rfl
    · have ih := readLines_literalBody indent t cs false
      rw [if_neg Bool.false_ne_true] at ih
      rw [if_neg hb, Bool.eq_false_iff.mpr hb]
      cases afterBreak with
      | false =>
        rw [if_neg Bool.false_ne_true, if_neg Bool.false_ne_true, List.nil_append, List.cons_append,
          readLines, if_neg hb, ih]
        rfl
      | true =>
        rw [if_pos rfl, if_pos rfl, List.append_assoc]
        show readLines indent (some 0) (spaces indent ++ _) = _
        rw [readLines_spaces indent 0 (by omega), Nat.zero_add, List.cons_append, readLines,
          if_neg hb, if_pos rfl, ih]
        rfl

/-- A block ends where a line begins to the left of it. -/
theorem readLines_of_leftOf {indent : Nat} {rest : List Char} (h : LeftOf indent rest) :
    readLines indent (some 0) rest = ([], rest) := by
  rcases h with rfl | ⟨depth, c, cs, rfl, hdepth, hspace, hbreak⟩
  · rfl
  · rw [readLines_spaces depth 0 (by omega), Nat.zero_add, readLines, hbreak,
      if_neg Bool.false_ne_true, if_neg (by omega), if_neg hspace]
    rfl

/-! ## Breaks at the end -/

theorem withoutBreaks_append_break {cs : List Char} {c : Char} (hc : isBreak c = true) :
    withoutBreaks (cs ++ [c]) = withoutBreaks cs := by
  rw [withoutBreaks, List.reverse_append, List.reverse_singleton, List.singleton_append,
    List.dropWhile_cons_of_pos hc, withoutBreaks]

theorem withoutBreaks_of_last {cs : List Char} {c : Char} (hc : isBreak c = false) :
    withoutBreaks (cs ++ [c]) = cs ++ [c] := by
  rw [withoutBreaks, List.reverse_append, List.reverse_singleton, List.singleton_append,
    List.dropWhile_cons_of_neg (by simp [hc]), List.reverse_cons, List.reverse_reverse]

/-- The chomping that the header of a text asks for, as the reader takes it. -/
def chompingOf (cs : List Char) : Chomping :=
  if chomping cs = ['-'] then .strip else if chomping cs = ['+'] then .keep else .clip

/-- The text as it is read: a line that the text does not end itself is ended. -/
def ended (cs : List Char) : List Char := if stateAfter true cs = none then cs ++ ['\n'] else cs

theorem chomping_append (before : List Char) (d : Char) :
    chomping (before ++ [d]) =
      if !isBreak d then ['-']
      else if (before.getLast?.map isBreak).getD true then ['+'] else [] := by
  rw [chomping, List.reverse_append, List.reverse_singleton, List.singleton_append]
  dsimp only
  rw [List.head?_reverse]

/-- A text ends in no break, in a break behind another one or behind nothing, or in a single one. -/
theorem chomping_cases {cs : List Char} (hne : cs ≠ []) :
    (∃ front c, cs = front ++ [c] ∧ isBreak c = false ∧ chomping cs = ['-']) ∨
      (∃ front c, cs = front ++ [c] ∧ isBreak c = true ∧ chomping cs = ['+']) ∨
      ∃ front c d, cs = front ++ [c] ++ [d] ∧ isBreak c = false ∧ isBreak d = true ∧
        chomping cs = [] := by
  obtain ⟨before, d, rfl⟩ : ∃ before d, cs = before ++ [d] :=
    ⟨cs.dropLast, cs.getLast hne, (List.dropLast_concat_getLast hne).symm⟩
  cases hd : isBreak d with
  | false => exact .inl ⟨before, d, rfl, hd, by rw [chomping_append, hd]; rfl⟩
  | true =>
    by_cases hb : before = []
    · subst hb
      exact .inr (.inl ⟨[], d, rfl, hd, by rw [chomping_append, hd]; rfl⟩)
    · obtain ⟨front, c, rfl⟩ : ∃ front c, before = front ++ [c] :=
        ⟨before.dropLast, before.getLast hb, (List.dropLast_concat_getLast hb).symm⟩
      have hlast : ((front ++ [c]).getLast?.map isBreak).getD true = isBreak c := by
        rw [List.getLast?_concat]
        rfl
      cases hc : isBreak c with
      | false =>
        exact .inr (.inr ⟨front, c, d, rfl, hc, hd, by rw [chomping_append, hd, hlast, hc]; rfl⟩)
      | true =>
        exact .inr (.inl ⟨front ++ [c], d, rfl, hd, by rw [chomping_append, hd, hlast, hc]; rfl⟩)

theorem stateAfter_append (afterBreak : Bool) (cs : List Char) (c : Char) :
    stateAfter afterBreak (cs ++ [c]) = if isBreak c then some 0 else none := by
  rw [stateAfter, List.getLast?_concat]
  rfl

/-- What the chomping leaves of the lines is the text. -/
theorem chompingOf_text {cs : List Char} (hne : cs ≠ []) :
    (chompingOf cs).text (ended cs) = cs := by
  rcases chomping_cases hne with ⟨front, c, rfl, hc, h⟩ | ⟨front, c, rfl, hc, h⟩ |
    ⟨front, c, d, rfl, hc, hd, h⟩
  · rw [chompingOf, h, ended, stateAfter_append, hc]
    show withoutBreaks (front ++ [c] ++ ['\n']) = _
    rw [withoutBreaks_append_break (by decide), withoutBreaks_of_last hc]
  · rw [chompingOf, h, ended, stateAfter_append, hc]
    rfl
  · have hcontent : withoutBreaks (front ++ [c] ++ [d]) = front ++ [c] := by
      rw [withoutBreaks_append_break hd, withoutBreaks_of_last hc]
    have hended : ended (front ++ [c] ++ [d]) = front ++ [c] ++ [d] := by
      rw [ended, stateAfter_append, hd]
      rfl
    rw [chompingOf, h, hended]
    show (if (withoutBreaks _).isEmpty then _ else withoutBreaks _ ++ _) = _
    rw [hcontent, List.isEmpty_eq_false_iff.mpr (by simp), if_neg Bool.false_ne_true,
      List.drop_left]
    rfl

/-! ## The header -/

theorem readHeader_chomping {cs : List Char} (hne : cs ≠ []) (told : Option Nat)
    (lines : List Char) :
    readHeader told none (chomping cs ++ '\n' :: lines) = some (told, chompingOf cs, lines) := by
  rcases chomping_cases hne with ⟨_, _, _, _, h⟩ | ⟨_, _, _, _, h⟩ | ⟨_, _, _, _, _, _, h⟩ <;>
  · rw [chompingOf, h]
    rfl

/-- Whether the printer tells the indentation of a text. -/
def isHidden (cs : List Char) : Bool := (cs.head?.map fun c => isSpace c || isBreak c).getD false

/-- The header is read with what it tells. -/
theorem readHeader_literalHeader {cs : List Char} (hne : cs ≠ []) :
    ∃ header, literalHeader cs = '|' :: header ∧ ∀ lines,
      readHeader none none (header ++ '\n' :: lines) =
        some (if isHidden cs then some step else none, chompingOf cs, lines) := by
  refine ⟨_, rfl, fun lines => ?_⟩
  show readHeader none none
    ((if isHidden cs then ['2'] else []) ++ chomping cs ++ '\n' :: lines) = _
  cases isHidden cs with
  | false => exact readHeader_chomping hne none lines
  | true => exact readHeader_chomping hne (some 2) lines

theorem indentation_spaces (n : Nat) {c : Char} (hc : c ≠ ' ') (cs : List Char) :
    indentation (spaces n ++ c :: cs) = (n, c :: cs) := by
  have hall : ∀ d ∈ spaces n, isSpace d = true := by
    intro d hd
    rw [List.eq_of_mem_replicate hd]
    rfl
  have hnot : ¬isSpace c = true := by
    rw [isSpace, beq_iff_eq]
    exact hc
  rw [indentation, List.takeWhile_append_of_pos hall, List.dropWhile_append_of_pos hall,
    List.takeWhile_cons_of_neg hnot, List.dropWhile_cons_of_neg hnot, List.append_nil, spaces,
    List.length_replicate]

/-- Where the indentation is not told, the first line shows it. -/
theorem indentation_literalBody {c : Char} {cs : List Char} (hspace : c ≠ ' ')
    (hbreak : isBreak c = false) (indent : Nat) (t : List Char) :
    indentation (literalBody indent true (c :: cs) ++ t) =
      (indent, c :: (literalBody indent false cs ++ t)) := by
  rw [literalBody, if_neg (Bool.eq_false_iff.mp hbreak), if_pos rfl, List.append_assoc]
  exact indentation_spaces indent hspace _

/-! ## The whole block -/

theorem getLast?_literalBody (indent : Nat) : ∀ (cs : List Char) (afterBreak : Bool),
    (literalBody indent afterBreak cs).getLast? = cs.getLast?
  | [], _ => rfl
  | c :: cs, afterBreak => by
    rw [literalBody, List.getLast?_cons]
    by_cases hb : isBreak c
    · rw [if_pos hb, List.getLast?_cons, getLast?_literalBody indent cs true]
    · rw [if_neg hb, List.getLast?_append, List.getLast?_cons, getLast?_literalBody indent cs false]
      rfl

/-- The lines of a literal block up to the end of the last one. -/
theorem endLine_literal {header cs : List Char} (hne : cs ≠ []) (indent : Nat) :
    endLine (header ++ '\n' :: literalBody indent true cs) = header ++ '\n' ::
      (literalBody indent true cs ++ if stateAfter true cs = none then ['\n'] else []) := by
  obtain ⟨front, c, rfl⟩ : ∃ front c, cs = front ++ [c] :=
    ⟨cs.dropLast, cs.getLast hne, (List.dropLast_concat_getLast hne).symm⟩
  have hlast : (header ++ '\n' :: literalBody indent true (front ++ [c])).getLast? = some c := by
    rw [List.getLast?_append, List.getLast?_cons, getLast?_literalBody, List.getLast?_concat]
    rfl
  rw [endLine, hlast, stateAfter_append]
  show (if isBreak c then _ else _) = _
  cases isBreak c with
  | true => simp
  | false => simp

/-- A visible first character begins a line. -/
theorem startsGap_of_visible {c : Char} (hp : isPrintable c = true) (hspace : c ≠ ' ')
    (hbreak : isBreak c = false) (cs : List Char) : startsGap (c :: cs) = false := by
  have htab : c ≠ '\t' := by
    rintro rfl
    exact absurd hp (by decide)
  have hnull : c.toNat ≠ 0 := by
    intro h
    rw [← Char.ofNat_toNat c, h] at hp
    exact absurd hp (by decide)
  rw [startsGap, isGap, hbreak, beq_false_of_ne hspace, beq_false_of_ne htab,
    beq_false_of_ne hnull]
  rfl

theorem stateAfter_cases (afterBreak : Bool) (cs : List Char) :
    stateAfter afterBreak cs = none ∨ stateAfter afterBreak cs = some 0 := by
  rw [stateAfter]
  split
  · exact .inr rfl
  · exact .inl rfl

/-- The lines of a block are read up to where it ends, with a break behind the last of them. -/
theorem readLines_block {indent : Nat} {rest : List Char} (hr : LeftOf indent rest)
    (cs : List Char) :
    readLines indent (some 0) ((literalBody indent true cs ++
      if stateAfter true cs = none then ['\n'] else []) ++ rest) = (ended cs, rest) := by
  have hend := readLines_of_leftOf hr
  have hbody := fun t => readLines_literalBody indent t cs true
  simp only [if_true] at hbody
  rw [List.append_assoc, hbody, ended]
  rcases stateAfter_cases true cs with h | h
  · have hlast : readLines indent none ('\n' :: rest) = (['\n'], rest) := by
      rw [readLines, if_pos (by decide), hend]
    rw [h, if_pos rfl, if_pos rfl, List.singleton_append, hlast]
  · rw [h, if_neg (by simp), if_neg (by simp), List.nil_append, hend, List.append_nil]

/-- The lines of a text are indented by one step, told or not. -/
theorem blockIndent?_literal {cs : List Char} (hne : cs ≠ []) (hprint : cs.all isPrintable = true)
    (column : Nat) (t : List Char) :
    blockIndent? column (if isHidden cs then some step else none)
      (literalBody (column + step) true cs ++ t) = some (column + step) := by
  cases hhidden : isHidden cs with
  | true => rfl
  | false =>
    cases cs with
    | nil => exact absurd rfl hne
    | cons c cs =>
      rw [isHidden, List.head?_cons, Option.map_some, Option.getD_some, Bool.or_eq_false_iff]
        at hhidden
      rw [List.all_cons, Bool.and_eq_true] at hprint
      have hspace : c ≠ ' ' := by
        rintro rfl
        exact absurd hhidden.1 (by decide)
      show (if column < (indentation _).1 && !startsGap (indentation _).2 then
        some (indentation _).1 else none) = _
      rw [indentation_literalBody hspace hhidden.2,
        startsGap_of_visible hprint.1 hspace hhidden.2]
      exact if_pos (by simp [step])

/-- A string in a literal block is read as itself. -/
theorem readLiteral_text {s : String} (h : style s = .literal) (column : Nat) {rest : List Char}
    (hr : LeftOf (column + step) rest) :
    ∃ text, endLine (stringText column s) = '|' :: text ∧
      readLiteral column (text ++ rest) = some (.string s, rest) := by
  have hne : s.toList ≠ [] := List.ne_nil_of_mem ((of_style s).2.2 h).1
  have hprint := all_isPrintable_of_style (s := s) (by rw [h]; decide)
  obtain ⟨header, hheader, hread⟩ := readHeader_literalHeader hne
  have htext : stringText column s =
      literalHeader s.toList ++ '\n' :: literalBody (column + step) true s.toList := by
    simp only [stringText, h]
  have hlines := readLines_block hr s.toList
  refine ⟨_, by rw [htext, endLine_literal hne, hheader, List.cons_append], ?_⟩
  rw [List.append_assoc, List.cons_append, readLiteral, hread, Option.bind_eq_bind,
    Option.bind_some]
  dsimp only
  rw [List.append_assoc, blockIndent?_literal hne hprint, ← List.append_assoc,
    Option.bind_eq_bind, Option.bind_some, hlines, chompingOf_text hne, String.ofList_toList]
  rfl

end Yaml
end ContainerRoster
