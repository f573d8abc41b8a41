import ContainerRoster.Json.Decode
import ContainerRoster.Json.Printer
import ContainerRoster.Proofs.Text.Digits

/-!
# JSON strings and numbers read back

What the printer writes for one character is read as one piece of a string, and the pieces of a
string decode to its characters.  A natural number of 64 bits is read as its digits and decodes to
itself.
-/

namespace ContainerRoster
namespace Json
namespace Raw

/-! ## Strings -/

/-- The piece as which the printer spells a character. -/
def pieceOf (c : Char) : Piece :=
  if c ∈ ['"', '\\', '\x08', '\x0c', '\n', '\r', '\t'] then .short c
  else if c.toNat < 0x20 then .unit c.toNat
  else .plain (some c)

theorem number?_control {n : Nat} (h : n < 0x20) :
    Text.number? 16 ['0', '0', hexDigit (n / 16), hexDigit (n % 16)] = some n := by
  revert n
  decide

theorem readString_plain {c : Char} (hq : c ≠ '"') (hb : c ≠ '\\') (hc : ¬c.toNat < 0x20)
    (rest : Input) :
    readString (some c :: rest) =
      (readString rest).map fun (pieces, rest) => (.plain (some c) :: pieces, rest) := by
  rw [readString]
  · rw [if_neg hc]
  · exact hq
  · intros
    contradiction
  · intros
    contradiction
  · exact hb

theorem readString_control {c : Char} (h : c.toNat < 0x20) (rest : Input) :
    readString (some '\\' :: some 'u' :: some '0' :: some '0' :: some (hexDigit (c.toNat / 16)) ::
        some (hexDigit (c.toNat % 16)) :: rest) =
      (readString rest).map fun (pieces, rest) => (.unit c.toNat :: pieces, rest) := by
  rw [readString, number?_control h]
  cases readString rest <;> rfl

theorem readString_short {letter c : Char} (hu : letter ≠ 'u') (h : shortEscape? letter = some c)
    (rest : Input) :
    readString (some '\\' :: some letter :: rest) =
      (readString rest).map fun (pieces, rest) => (.short c :: pieces, rest) := by
  rw [readString, h]
  · cases readString rest <;> rfl
  · intro _ _ _ _ _ _
    exact hu

/-- A spelled character is read as its piece. -/
theorem readString_escapeChar (c : Char) (rest : Input) :
    readString ((escapeChar c).map some ++ rest) =
      (readString rest).map fun (pieces, rest) => (pieceOf c :: pieces, rest) := by
  by_cases hs : c ∈ ['"', '\\', '\x08', '\x0c', '\n', '\r', '\t']
  · rw [pieceOf, if_pos hs]
    simp only [List.mem_cons, List.not_mem_nil, or_false] at hs
    rcases hs with rfl | rfl | rfl | rfl | rfl | rfl | rfl <;>
      exact readString_short (by decide) rfl rest
  · have hp := hs
    simp only [List.mem_cons, List.not_mem_nil, or_false, not_or] at hs
    obtain ⟨h1, h2, h3, h4, h5, h6, h7⟩ := hs
    rw [escapeChar, if_neg h1, if_neg h2, if_neg h3, if_neg h4, if_neg h5, if_neg h6, if_neg h7,
      pieceOf, if_neg hp]
    by_cases hc : c.toNat < 0x20
    · rw [if_pos hc, if_pos hc]
      exact readString_control hc rest
    · rw [if_neg hc, if_neg hc]
      exact readString_plain h1 h2 hc rest

theorem readString_text (cs : List Char) (rest : Input) :
    readString ((cs.flatMap escapeChar).map some ++ some '"' :: rest) =
      some (cs.map pieceOf, rest) := by
  induction cs with
  | nil => rfl
  | cons c cs ih =>
    rw [List.flatMap_cons, List.map_append, List.append_assoc, readString_escapeChar, ih]
    rfl

/-- A piece that stands for a number below the surrogates decodes by itself, whatever follows. -/
theorem decodePieces_unit {n : Nat} (h : n < 0xD800) (rest : List Piece) :
    decodePieces (.unit n :: rest) = (decodePieces rest).map (Char.ofNat n :: ·) := by
  have hhigh : isHighSurrogate n = false := by
    simp only [isHighSurrogate, Bool.and_eq_false_iff, decide_eq_false_iff_not]
    omega
  have hlow : isLowSurrogate n = false := by
    simp only [isLowSurrogate, Bool.and_eq_false_iff, decide_eq_false_iff_not]
    omega
  cases rest with
  | nil => simp only [decodePieces, hhigh, hlow, Bool.or_self, Bool.false_eq_true, if_false]
  | cons piece rest =>
    cases piece with
    | unit b => simp only [decodePieces, hhigh, hlow, Bool.false_eq_true, if_false]
    | plain c => simp only [decodePieces, hhigh, hlow, Bool.or_self, Bool.false_eq_true, if_false]
    | short c => simp only [decodePieces, hhigh, hlow, Bool.or_self, Bool.false_eq_true, if_false]

theorem decodePieces_pieceOf (c : Char) (rest : List Piece) :
    decodePieces (pieceOf c :: rest) = (decodePieces rest).map (c :: ·) := by
  rw [pieceOf]
  split
  · rw [decodePieces]
  · split
    · next hc => rw [decodePieces_unit (by omega), Char.ofNat_toNat]
    · rw [decodePieces]

/-- The pieces of a string decode to its characters. -/
theorem decodePieces_map_pieceOf (cs : List Char) : decodePieces (cs.map pieceOf) = some cs := by
  induction cs with
  | nil => rfl
  | cons c cs ih =>
    rw [List.map_cons, decodePieces_pieceOf, ih]
    rfl

theorem decodeString_text (s : String) : decodeString (s.toList.map pieceOf) = some s := by
  rw [decodeString, decodePieces_map_pieceOf, Option.map_some, String.ofList_toList]

/-! ## Numbers -/

/-- What may follow a value in a text: the end of its line, or a comma. -/
def Ends (rest : Input) : Prop := rest.head? = some (some ',') ∨ rest.head? = some (some '\n')

theorem Ends.notDigit {rest : Input} (h : Ends rest) : ∀ c ∈ rest.head?, isDigit c = false := by
  intro c hc
  rcases h with h | h <;>
  · rw [h, Option.mem_some_iff] at hc
    rw [← hc]
    rfl

theorem takeWhile_isDigit {cs : List Char} (hd : ∀ c ∈ cs, c.isDigit = true) {rest : Input}
    (hr : ∀ c ∈ rest.head?, isDigit c = false) :
    (cs.map some ++ rest).takeWhile isDigit = cs.map some ∧
      (cs.map some ++ rest).dropWhile isDigit = rest := by
  have hall : ∀ c ∈ cs.map some, isDigit c = true := by
    intro c hc
    obtain ⟨d, hd', rfl⟩ := List.mem_map.mp hc
    exact hd d hd'
  rw [List.takeWhile_append_of_pos hall, List.dropWhile_append_of_pos hall]
  cases rest with
  | nil => exact ⟨by simp, rfl⟩
  | cons c rest =>
    have hc := hr c rfl
    rw [List.takeWhile_cons_of_neg (by simp [hc]), List.dropWhile_cons_of_neg (by simp [hc])]
    exact ⟨List.append_nil _, rfl⟩

theorem readDigits_append {cs : List Char} (hd : ∀ c ∈ cs, c.isDigit = true) (hne : cs ≠ [])
    {rest : Input} (hr : ∀ c ∈ rest.head?, isDigit c = false) :
    readDigits (cs.map some ++ rest) = some (cs, rest) := by
  obtain ⟨ht, hdrop⟩ := takeWhile_isDigit hd hr
  rw [readDigits, ht, hdrop]
  have hfilter : (cs.map some).filterMap id = cs := by simp
  simp only [hfilter, List.isEmpty_eq_false_iff.mpr hne, Bool.false_eq_true, if_false]

theorem readWhole_digits (n : Nat) {rest : Input} (hr : ∀ c ∈ rest.head?, isDigit c = false) :
    readWhole ((Decimal.digits n).map some ++ rest) = some (Decimal.digits n, rest) := by
  by_cases hn : n = 0
  · subst hn
    rw [Decimal.digits_zero]
    show (if (rest.head?.map isDigit).getD false then none else some (['0'], rest)) = _
    have hnot : (rest.head?.map isDigit).getD false = false := by
      cases h : rest.head? with
      | none => rfl
      | some c => exact hr c h
    rw [hnot]
    rfl
  · have hread := readDigits_append (fun c hc => Decimal.isDigit_of_mem_digits hc)
      (Decimal.digits_ne_nil n) hr
    cases hd : Decimal.digits n with
    | nil => exact absurd hd (Decimal.digits_ne_nil n)
    | cons c cs =>
      have hc : c ≠ '0' := by
        rintro rfl
        exact Decimal.digits_ne_zero_cons (by omega) cs hd
      rw [hd] at hread
      rw [← hread, List.map_cons, List.cons_append, readWhole]
      intro rest' h
      exact hc (Option.some.inj (List.cons.inj h).1)

/-- The digits of a number are read as a numeral of digits alone. -/
theorem readNumber_digits (n : Nat) {rest : Input} (hr : Ends rest) :
    readNumber ((Decimal.digits n).map some ++ rest) =
      some (⟨false, Decimal.digits n, none, none⟩, rest) := by
  have hwhole := readWhole_digits n hr.notDigit
  have hfraction : readFraction rest = some (none, rest) := by
    cases rest with
    | nil => rfl
    | cons c rest =>
      rcases hr with h | h <;>
      · rw [List.head?_cons, Option.some_inj] at h
        subst h
        rfl
  have hexponent : readExponent rest = some (none, rest) := by
    cases rest with
    | nil => rfl
    | cons c rest =>
      rcases hr with h | h <;>
      · rw [List.head?_cons, Option.some_inj] at h
        subst h
        rfl
  cases hd : Decimal.digits n with
  | nil => exact absurd hd (Decimal.digits_ne_nil n)
  | cons c cs =>
    have hdigit : c.isDigit = true :=
      Decimal.isDigit_of_mem_digits (n := n) (by rw [hd]; exact List.mem_cons_self)
    have hminus : c ≠ '-' := by
      rintro rfl
      exact absurd hdigit (by decide)
    rw [hd] at hwhole
    rw [readNumber, hwhole]
    · simp only [Option.bind_eq_bind, Option.bind_some, hfraction, hexponent]
      rfl
    · intro rest' h
      exact hminus (Option.some.inj (List.cons.inj h).1)

theorem le_foldl_value (cs : List Char) (s : Nat) :
    s ≤ cs.foldl (fun n c => n * 10 + Decimal.digitValue c) s := by
  induction cs generalizing s with
  | nil => exact Nat.le_refl s
  | cons c cs ih =>
    have h := ih (s * 10 + Decimal.digitValue c)
    rw [List.foldl_cons]
    omega

/-- Digits are collected as long as what they write fits. -/
theorem Numeral.collectWhole_of_le {cs : List Char} {s : Nat}
    (h : cs.foldl (fun n c => n * 10 + Decimal.digitValue c) s ≤ greatestSignificand) :
    collectWhole s cs = (cs.foldl (fun n c => n * 10 + Decimal.digitValue c) s, 0) := by
  induction cs generalizing s with
  | nil => rfl
  | cons c cs ih =>
    rw [List.foldl_cons] at h ⊢
    have hle := le_foldl_value cs (s * 10 + Decimal.digitValue c)
    rw [collectWhole, if_pos (by omega), ih h]

theorem Numeral.decode_digits {n : Nat} (h : n ≤ greatestSignificand) :
    Numeral.decode ⟨false, Decimal.digits n, none, none⟩ = some (.integer n) := by
  have hv : (Decimal.digits n).foldl (fun n c => n * 10 + Decimal.digitValue c) 0 = n := by
    have hvalue := Decimal.value_digits n
    rwa [Decimal.value, Text.ofDigits, List.foldl_map] at hvalue
  have hc : collectWhole 0 (Decimal.digits n) = (n, 0) := by
    have hle : (Decimal.digits n).foldl (fun n c => n * 10 + Decimal.digitValue c) 0 ≤
        greatestSignificand := by
      rw [hv]
      exact h
    rw [collectWhole_of_le hle, hv]
  rw [decode, hc]
  rfl

end Raw

namespace Number

/-- Whether a number is a natural one of 64 bits. -/
def IsWord (n : Number) : Prop := ∃ m : Nat, n = .integer m ∧ m ≤ Raw.Numeral.greatestSignificand

theorem text_natural (m : Nat) : text (.integer m) = Decimal.digits m := by
  rw [text, if_neg (by omega)]
  rfl

end Number
end Json
end ContainerRoster
