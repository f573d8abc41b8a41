import ContainerRoster.Proofs.Text.Digits
import ContainerRoster.Proofs.Yaml.ScalarReader

/-!
# Plain scalars read back

What is written plain ends where it was written to end, and looks like nothing but a string.  The
words for nulls and booleans and the digits of a number are plain as well and read back as what
they stand for.
-/

namespace ContainerRoster
namespace Yaml

/-! ## Neighbours -/

theorem hasPair_cons {p q : Char → Bool} (c : Char) (cs : List Char) :
    hasPair p q (c :: cs) = ((cs.head?.map fun d => p c && q d).getD false || hasPair p q cs) := by
  cases cs with
  | nil => rfl
  | cons d rest => rfl

theorem hasBeforeGap_cons (c d : Char) (cs : List Char) :
    hasBeforeGap c (d :: cs) = ((d == c && startsGap cs) || hasBeforeGap c cs) := by
  cases cs with
  | nil => rw [hasBeforeGap, startsGap, hasBeforeGap, Bool.and_true, Bool.or_false]
  | cons e rest => rfl

/-- A wider pair of predicates has a pair wherever a narrower one has. -/
theorem hasPair_mono {p p' q : Char → Bool} {cs : List Char}
    (h : ∀ c ∈ cs, p c = true → p' c = true) (hp : hasPair p' q cs = false) :
    hasPair p q cs = false := by
  induction cs with
  | nil => rfl
  | cons c cs ih =>
    rw [hasPair_cons, Bool.or_eq_false_iff] at hp ⊢
    refine ⟨?_, ih (fun d hd => h d (List.mem_cons_of_mem c hd)) hp.2⟩
    cases cs with
    | nil => rfl
    | cons d rest =>
      have hpc : (p' c && q d) = false := hp.1
      show (p c && q d) = false
      cases hc : p c with
      | false => rfl
      | true => rwa [h c List.mem_cons_self hc] at hpc

/-! ## Where a plain scalar ends -/

/-- What a plain scalar does not go on into. -/
def endsPlain : List Char → Bool
  | [] => true
  | c :: rest => isBreak c || (c == ':' && startsGap rest)

theorem plainText_of_endsPlain {rest : List Char} (h : endsPlain rest = true) :
    plainText rest = ([], rest) := by
  cases rest with
  | nil => rfl
  | cons c rest =>
    rw [endsPlain] at h
    rw [plainText, if_pos h]

theorem startsGap_append {cs rest : List Char} (h : cs ≠ []) :
    startsGap (cs ++ rest) = startsGap cs := by
  cases cs with
  | nil => exact absurd rfl h
  | cons c cs => rfl

/-- Text on one line without a colon before a gap is one plain scalar. -/
theorem plainText_append {cs rest : List Char} (hbreak : cs.any isBreak = false)
    (hcolon : hasBeforeGap ':' cs = false) (hr : endsPlain rest = true) :
    plainText (cs ++ rest) = (cs, rest) := by
  induction cs with
  | nil => exact plainText_of_endsPlain hr
  | cons c cs ih =>
    rw [List.any_cons, Bool.or_eq_false_iff] at hbreak
    rw [hasBeforeGap_cons, Bool.or_eq_false_iff] at hcolon
    have hgo : (isBreak c || (c == ':' && startsGap (cs ++ rest))) = false := by
      rw [hbreak.1, Bool.false_or]
      by_cases hne : cs = []
      · have hlast := hcolon.1
        rw [hne, startsGap, Bool.and_true] at hlast
        rw [hlast, Bool.false_and]
      · rw [startsGap_append hne]
        exact hcolon.1
    rw [List.cons_append, plainText, hgo, ih hbreak.2 hcolon.2]
    rfl

/-! ## Strings -/

theorem isBlank_of_isPrintable {c : Char} (hp : isPrintable c = true) (hb : isBlank c = true) :
    c = ' ' := by
  rw [isBlank, Bool.or_eq_true, beq_iff_eq, beq_iff_eq] at hb
  rcases hb with rfl | rfl
  · rfl
  · exact absurd hp (by decide)

theorem isGap_of_isBlank {c : Char} (h : isBlank c = true) : isGap c = true := by
  rw [isBlank] at h
  rw [isGap, h, Bool.true_or, Bool.true_or]

theorem startsGap_eq (cs : List Char) : startsGap cs = (cs.head?.map isGap).getD true := by
  cases cs <;> rfl

theorem indicators_subset_openers : ∀ c ∈ indicators, c ∈ openers := by
  have hall : (indicators.all fun c => openers.contains c) = true := by decide
  intro c hc
  have h := List.all_eq_true.mp hall c hc
  rwa [List.contains_eq_mem, decide_eq_true_eq] at h

/-- What the printer takes for plain, the reader does too. -/
theorem isPlain_of_allowsPlain {c : Char} {cs : List Char} (h : allowsPlain (c :: cs) = true) :
    isPlain (c :: cs) = true := by
  simp only [allowsPlain, needsEscapes, hasLooseEnd, hasIndicator, Bool.and_eq_true,
    Bool.not_eq_true', Bool.or_eq_false_iff, Bool.not_eq_false'] at h
  obtain ⟨⟨⟨⟨hprint, -⟩, hhead, hlast⟩, -⟩, ⟨⟨⟨hdash, hdots⟩, hopen, hlead⟩, hcolon⟩, hcomment⟩ := h
  have blank : ∀ d ∈ c :: cs, isBlank d = true → d = ' ' := fun d hd hb =>
    isBlank_of_isPrintable (List.all_eq_true.mp hprint d hd) hb
  have hfirst : isBlank c = false := by
    cases hb : isBlank c with
    | false => rfl
    | true =>
      rw [blank c List.mem_cons_self hb] at hhead
      exact absurd (show true = false from hhead) (by decide)
  have hind : indicators.contains c = false := by
    rw [List.contains_eq_mem, decide_eq_false_iff_not] at hopen ⊢
    exact fun hm => hopen (indicators_subset_openers c hm)
  have hcol : (c == ':' && startsGap cs) = false := by
    rw [hasBeforeGap_cons, Bool.or_eq_false_iff] at hcolon
    exact hcolon.1
  have hmark : ((c == '-' || c == '?' || c == ':') && startsGap cs) = false := by
    rw [← startsGap_eq] at hlead
    cases hg : startsGap cs with
    | false => rw [Bool.and_false]
    | true =>
      rw [hg, Bool.and_true, Bool.or_eq_false_iff] at hlead
      rw [hg, Bool.and_true] at hcol
      rw [Bool.and_true, Bool.or_eq_false_iff, Bool.or_eq_false_iff]
      exact ⟨⟨hlead.2, hlead.1⟩, hcol⟩
  have hpair : hasPair isBlank (· == '#') (c :: cs) = false :=
    hasPair_mono (fun d _ hd => isGap_of_isBlank hd) hcomment
  have hend : ((c :: cs).getLast?.map isBlank).getD false = false := by
    cases hl : (c :: cs).getLast? with
    | none => rfl
    | some d =>
      rw [hl] at hlast
      cases hb : isBlank d with
      | false => exact hb
      | true =>
        rw [blank d (List.mem_of_getLast? hl) hb] at hlast
        exact absurd hlast (by decide)
  simp only [isPlain, hfirst, hind, hmark, hpair, hend, hdash, hdots, Bool.not_false, Bool.and_self]

/-- Without a dash in front there is no sign to look for but a plus. -/
theorem isInteger_of_ne {cs : List Char} (h : ∀ rest, cs ≠ '-' :: rest) :
    isInteger cs = (!isPaddedDigits cs &&
      ((magnitude? (unsigned cs)).map fun n => decide (n < Nat.pow 2 128)).getD false) := by
  unfold isInteger
  split
  · next rest => exact absurd rfl (h rest)
  · rfl

theorem integer?_of_ne {cs : List Char} (h : ∀ rest, cs ≠ '-' :: rest) :
    integer? cs = if isPaddedDigits cs then none
      else ((magnitude? (unsigned cs)).filter (· < Nat.pow 2 128)).map Int.ofNat := by
  unfold integer?
  cases isPaddedDigits cs with
  | true => rfl
  | false =>
    rw [if_neg Bool.false_ne_true, if_neg Bool.false_ne_true]
    split
    · next rest => exact absurd rfl (h rest)
    · rfl

/-- What the printer takes for an integer is what the reader reads as one. -/
theorem isInteger_eq (cs : List Char) : isInteger cs = (integer? cs).isSome := by
  have bounded : ∀ (padded : Bool) (m : Option Nat) (p : Nat → Bool) (f : Nat → Int),
      (!padded && (m.map p).getD false) =
        (if padded then none else (m.filter p).map f).isSome := by
    intro padded m p f
    cases padded with
    | true => rfl
    | false =>
      cases m with
      | none => rfl
      | some n => cases hn : p n <;> simp [hn]
  by_cases hd : ∃ rest, cs = '-' :: rest
  · obtain ⟨rest, rfl⟩ := hd
    exact bounded _ (magnitude? rest) _ _
  · have hne : ∀ rest, cs ≠ '-' :: rest := fun rest h => hd ⟨rest, h⟩
    rw [isInteger_of_ne hne, integer?_of_ne hne]
    exact bounded _ (magnitude? (unsigned cs)) _ _

/-- What looks like nothing else is a string. -/
theorem resolved?_of_not_looksTyped {s : String} (h : looksTyped s = false) :
    resolved? s.toList = some (.string s) := by
  simp only [looksTyped, Bool.or_eq_false_iff, isInteger_eq, Option.isSome_eq_false_iff,
    Option.isNone_iff_eq_none] at h
  obtain ⟨⟨⟨⟨hnull, hbool⟩, hpadded⟩, hint⟩, hfloat⟩ := h
  have hnot : ∀ words, words ⊆ booleans → words.contains s = false := by
    intro words hw
    rw [List.contains_eq_mem, decide_eq_false_iff_not] at hbool ⊢
    exact fun hm => hbool (hw hm)
  simp only [resolved?, String.ofList_toList]
  rw [hnull, hnot _ (by decide), hnot _ (by decide), hint, hfloat]
  rfl

theorem readFlow_of_isPlain {cs rest : List Char} (hp : isPlain cs = true)
    (ht : plainText (cs ++ rest) = (cs, rest)) :
    readFlow (cs ++ rest) = (resolved? cs).map (·, rest) := by
  cases cs with
  | nil => cases hp
  | cons c cs =>
    have hind : c ∉ indicators := by
      simp only [isPlain, Bool.and_eq_true, Bool.not_eq_true'] at hp
      have h := hp.1.1.1.1.1.2
      rwa [List.contains_eq_mem, decide_eq_false_iff_not] at h
    unfold readFlow
    split
    · next h =>
      rw [(List.cons.inj h).1] at hind
      exact absurd hind (by decide)
    · next h =>
      rw [(List.cons.inj h).1] at hind
      exact absurd hind (by decide)
    · rw [ht]
      exact if_pos hp

/-- What each style says of its string.  Double quotes are left for the rest and say nothing. -/
theorem of_style (s : String) :
    (style s = .plain → looksTyped s = false ∧ allowsPlain s.toList = true) ∧
      (style s = .single → '\n' ∉ s.toList ∧ allowsSingle s.toList = true) ∧
      (style s = .literal → '\n' ∈ s.toList ∧ allowsLiteral s.toList = true) := by
  unfold style
  dsimp only
  by_cases hfeed : s.toList.contains '\n' = true
  · rw [if_pos hfeed]
    rw [List.contains_eq_mem, decide_eq_true_eq] at hfeed
    by_cases hl : allowsLiteral s.toList = true
    · rw [if_pos hl]
      exact ⟨nofun, nofun, fun _ => ⟨hfeed, hl⟩⟩
    · rw [if_neg hl]
      exact ⟨nofun, nofun, nofun⟩
  · rw [if_neg hfeed]
    rw [List.contains_eq_mem, decide_eq_true_eq] at hfeed
    by_cases hp : (!looksTyped s && allowsPlain s.toList) = true
    · rw [if_pos hp]
      rw [Bool.and_eq_true, Bool.not_eq_true'] at hp
      exact ⟨fun _ => hp, nofun, nofun⟩
    · rw [if_neg hp]
      by_cases hs : allowsSingle s.toList = true
      · rw [if_pos hs]
        exact ⟨nofun, fun _ => ⟨hfeed, hs⟩, nofun⟩
      · rw [if_neg hs]
        exact ⟨nofun, nofun, nofun⟩

/-- Only double quotes hold what is not printable. -/
theorem all_isPrintable_of_style {s : String} (h : style s ≠ .double) :
    s.toList.all isPrintable = true := by
  obtain ⟨hplain, hsingle, hliteral⟩ := of_style s
  have hescapes : needsEscapes s.toList = false := by
    cases hs : style s with
    | plain =>
      have hallows := (hplain hs).2
      simp only [allowsPlain, Bool.and_eq_true, Bool.not_eq_true'] at hallows
      exact hallows.1.1.1
    | single =>
      have hallows := (hsingle hs).2
      simp only [allowsSingle, Bool.and_eq_true, Bool.not_eq_true'] at hallows
      exact hallows.1
    | double => exact absurd hs h
    | literal =>
      have hallows := (hliteral hs).2
      simp only [allowsLiteral, Bool.and_eq_true, Bool.not_eq_true'] at hallows
      exact hallows.1
  rw [needsEscapes, Bool.or_eq_false_iff, Bool.not_eq_false'] at hescapes
  exact hescapes.1

theorem of_style_plain {s : String} (h : style s = .plain) :
    looksTyped s = false ∧ allowsPlain s.toList = true := (of_style s).1 h

/-- A plain string is not empty, begins like a plain scalar and has its own end. -/
theorem isPlain_of_style {s : String} (h : style s = .plain) :
    isPlain s.toList = true ∧ s.toList.any isBreak = false ∧
      hasBeforeGap ':' s.toList = false := by
  obtain ⟨htyped, hallows⟩ := of_style_plain h
  refine ⟨?_, ?_, ?_⟩
  · cases hs : s.toList with
    | nil =>
      rw [String.toList_eq_nil_iff.mp hs] at htyped
      exact absurd htyped (by decide)
    | cons c cs =>
      rw [hs] at hallows
      exact isPlain_of_allowsPlain hallows
  · rw [allowsPlain, Bool.and_eq_true, Bool.and_eq_true, Bool.not_eq_true'] at hallows
    exact hallows.1.2
  · simp only [allowsPlain, hasIndicator, Bool.and_eq_true, Bool.not_eq_true',
      Bool.or_eq_false_iff] at hallows
    exact hallows.2.1.2

/-- A plain string is read as itself, up to the end of its line or to the colon of a key. -/
theorem readFlow_plain {s : String} (h : style s = .plain) {rest : List Char}
    (hr : endsPlain rest = true) : readFlow (s.toList ++ rest) = some (.string s, rest) := by
  obtain ⟨hplain, hbreak, hcolon⟩ := isPlain_of_style h
  rw [readFlow_of_isPlain hplain (plainText_append hbreak hcolon hr),
    resolved?_of_not_looksTyped (of_style_plain h).1]
  rfl

/-! ## Other values -/

theorem hasSign_digits (n : Nat) : hasSign (Decimal.digits n) = false := by
  cases hd : Decimal.digits n with
  | nil => exact absurd hd (Decimal.digits_ne_nil n)
  | cons c cs =>
    have hne := Decimal.digits_head_ne hd
    simp only [hasSign, List.head?_cons, Bool.or_eq_false_iff, beq_eq_false_iff_ne, ne_eq,
      Option.some_inj]
    exact ⟨hne '+' rfl, hne '-' rfl⟩

theorem isPaddedDigits_digits (n : Nat) : isPaddedDigits (Decimal.digits n) = false := by
  rw [isPaddedDigits, hasSign_digits, if_neg Bool.false_ne_true]
  by_cases hn : n = 0
  · rw [hn, Decimal.digits_zero]
    rfl
  · cases hd : Decimal.digits n with
    | nil => exact absurd hd (Decimal.digits_ne_nil n)
    | cons c cs =>
      have hc : c ≠ '0' := by
        rintro rfl
        exact Decimal.digits_ne_zero_cons (by omega) cs hd
      have hhead : ((c :: cs).head? == some '0') = false := by
        rw [List.head?_cons, beq_eq_false_iff_ne]
        exact fun h => hc (Option.some.inj h)
      rw [hhead, Bool.and_false, Bool.false_and]

theorem magnitude?_digits (n : Nat) : magnitude? (Decimal.digits n) = some n := by
  have hbased : based? (Decimal.digits n) = none := by
    by_cases hn : n = 0
    · rw [hn, Decimal.digits_zero]
      rfl
    · have hne := Decimal.digits_ne_zero_cons (n := n) (by omega)
      unfold based?
      split
      · next h => exact absurd h (hne _)
      · next h => exact absurd h (hne _)
      · next h => exact absurd h (hne _)
      · rfl
  rw [magnitude?, hbased]
  exact Decimal.number?_digits n

theorem integer?_digits {n : Nat} (h : n < Nat.pow 2 128) :
    integer? (Decimal.digits n) = some (Int.ofNat n) := by
  have hsign := hasSign_digits n
  rw [hasSign, Bool.or_eq_false_iff, beq_eq_false_iff_ne, beq_eq_false_iff_ne] at hsign
  have hunsigned : unsigned (Decimal.digits n) = Decimal.digits n := by
    unfold unsigned
    split
    · next hd =>
      rw [hd] at hsign
      exact absurd rfl hsign.1
    · rfl
  have hne : ∀ rest, Decimal.digits n ≠ '-' :: rest := by
    intro rest hd
    rw [hd] at hsign
    exact absurd rfl hsign.2
  rw [integer?_of_ne hne, isPaddedDigits_digits, if_neg Bool.false_ne_true, hunsigned,
    magnitude?_digits, Option.filter_some, decide_eq_true h]
  rfl

/-- Digits are none of the words that stand for something else. -/
theorem not_contains_digits {words : List String}
    (h : ∀ w ∈ words, w.toList.head?.all (!·.isDigit) = true) (n : Nat) :
    words.contains (String.ofList (Decimal.digits n)) = false := by
  rw [List.contains_eq_mem, decide_eq_false_iff_not]
  intro hm
  have hw := h _ hm
  rw [String.toList_ofList] at hw
  cases hd : Decimal.digits n with
  | nil => exact absurd hd (Decimal.digits_ne_nil n)
  | cons c cs =>
    have hc := Decimal.isDigit_of_mem_digits (n := n) (by rw [hd]; exact List.mem_cons_self)
    rw [hd, List.head?_cons, Option.all_some, hc] at hw
    cases hw

theorem hasPair_eq_false {p q : Char → Bool} {cs : List Char} (h : ∀ c ∈ cs, q c = false) :
    hasPair p q cs = false := by
  induction cs with
  | nil => rfl
  | cons c cs ih =>
    rw [hasPair_cons, ih fun d hd => h d (List.mem_cons_of_mem c hd), Bool.or_false]
    cases cs with
    | nil => rfl
    | cons d rest =>
      show (p c && q d) = false
      rw [h d (List.mem_cons_of_mem c List.mem_cons_self), Bool.and_false]

theorem hasBeforeGap_eq_false {c : Char} {cs : List Char} (h : c ∉ cs) :
    hasBeforeGap c cs = false := by
  induction cs with
  | nil => rfl
  | cons d cs ih =>
    rw [List.mem_cons, not_or] at h
    rw [hasBeforeGap_cons, ih h.2, beq_false_of_ne (Ne.symm h.1), Bool.false_and, Bool.or_false]

theorem isPlain_digits (n : Nat) : isPlain (Decimal.digits n) = true := by
  have hblank := Decimal.forall_digits (p := isBlank) (by decide) n
  have hind := Decimal.forall_digits (p := indicators.contains) (by decide) n
  have hmark := Decimal.forall_digits (p := fun c => c == '-' || c == '?' || c == ':') (by decide) n
  have hpair : hasPair isBlank (· == '#') (Decimal.digits n) = false :=
    hasPair_eq_false (Decimal.forall_digits (by decide) n)
  have hlast : ((Decimal.digits n).getLast?.map isBlank).getD false = false := by
    cases hl : (Decimal.digits n).getLast? with
    | none => rfl
    | some c => exact hblank c (List.mem_of_getLast? hl)
  cases hd : Decimal.digits n with
  | nil => exact absurd hd (Decimal.digits_ne_nil n)
  | cons c cs =>
    have hne := Decimal.digits_head_ne hd
    have hdash : ['-', '-', '-'].isPrefixOf (c :: cs) = false := by
      rw [List.isPrefixOf, beq_false_of_ne (Ne.symm (hne '-' rfl)), Bool.false_and]
    have hdots : ['.', '.', '.'].isPrefixOf (c :: cs) = false := by
      rw [List.isPrefixOf, beq_false_of_ne (Ne.symm (hne '.' rfl)), Bool.false_and]
    rw [hd] at hblank hind hmark hpair hlast
    simp only [isPlain, hblank c List.mem_cons_self, hind c List.mem_cons_self,
      hmark c List.mem_cons_self, hpair, hlast, hdash, hdots, Bool.false_and, Bool.not_false,
      Bool.and_self]

theorem any_isBreak_digits (n : Nat) : (Decimal.digits n).any isBreak = false :=
  List.any_eq_false.mpr fun c hc => Bool.eq_false_iff.mp (Decimal.forall_digits (by decide) n c hc)

theorem hasBeforeGap_digits (n : Nat) : hasBeforeGap ':' (Decimal.digits n) = false :=
  hasBeforeGap_eq_false fun hm => absurd (Decimal.isDigit_of_mem_digits hm) (by decide)

/-- Digits stand for their number. -/
theorem resolved?_digits {n : Nat} (h : n < Nat.pow 2 128) :
    resolved? (Decimal.digits n) = some (.number (.integer n)) := by
  simp only [resolved?]
  rw [not_contains_digits (by decide), not_contains_digits (by decide),
    not_contains_digits (by decide), integer?_digits h]
  rfl

end Yaml
end ContainerRoster
