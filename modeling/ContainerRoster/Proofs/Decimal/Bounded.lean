import ContainerRoster.Proofs.Text.Digits
import Mathlib.Data.List.Induction

/-!
# Which texts are numbers below a bound

`readBelow_eq_ok_iff`: a number is one or more digits that write a value below the bound, with a
plus sign in front of them perhaps.  `readBelow_eq_error_iff`: any other text is refused at the
first character with which it can no longer become one.  Reading compares with the bound at every
digit and not only at the end, which comes to the same because the value of the digits grows.
-/

namespace ContainerRoster
namespace Decimal

variable {bound n : Nat} {cs : List Char} {e : NumberError}

/-- Whether a text is digits that write a number; there may be zeros in front. -/
def Writes (digits : List Char) (n : Nat) : Prop :=
  digits ≠ [] ∧ (∀ c ∈ digits, c.isDigit = true) ∧ value digits = n

instance : Decidable (Writes cs n) :=
  decidable_of_iff (cs ≠ [] ∧ cs.all Char.isDigit = true ∧ value cs = n)
    (by rw [List.all_eq_true, Writes])

/-- A text without the plus sign in front of it.  Alone the sign is kept, as it is no number. -/
def unsigned : List Char → List Char
  | '+' :: c :: rest => c :: rest
  | cs => cs

/-- Where reading stops: in front of a text that goes on somehow stand digits of a value below the
bound, and what follows them is no digit, or one digit too many. -/
inductive Stops (bound : Nat) : List Char → NumberError → Prop
  | empty : Stops bound [] .empty
  | invalidDigit {good rest : List Char} {c : Char} (digits : ∀ d ∈ good, d.isDigit = true)
      (below : value good < bound) (noDigit : c.isDigit = false) :
      Stops bound (good ++ c :: rest) .invalidDigit
  | tooLarge {good rest : List Char} {c : Char} (digits : ∀ d ∈ good, d.isDigit = true)
      (below : value good < bound) (digit : c.isDigit = true)
      (reached : bound ≤ value (good ++ [c])) : Stops bound (good ++ c :: rest) .tooLarge

/-! ## The value of digits -/

theorem value_concat (cs : List Char) (c : Char) :
    value (cs ++ [c]) = value cs * 10 + digitValue c := by
  rw [value, List.map_append, List.map_singleton, Text.ofDigits_append_singleton]
  rfl

theorem value_le_append (cs more : List Char) : value cs ≤ value (cs ++ more) := by
  induction more using List.reverseRecOn with
  | nil => exact Nat.le_of_eq (congrArg value (List.append_nil cs).symm)
  | append_singleton more c ih =>
    rw [← List.append_assoc, value_concat]
    omega

theorem digit?_of_not_isDigit {c : Char} (h : c.isDigit = false) : Text.digit? 10 c = none := by
  rw [Text.digit?, h]
  simp only [Bool.false_eq_true, if_false]
  split
  · rw [Option.filter_some, if_neg (by simp)]
  · split
    · rw [Option.filter_some, if_neg (by simp)]
    · rfl

theorem writes_digits (n : Nat) : Writes (digits n) n :=
  ⟨digits_ne_nil n, fun _ hc => isDigit_of_mem_digits hc, value_digits n⟩

/-! ## Reading digit by digit -/

/-- Digits of a value below the bound are read over. -/
theorem digitsBelow_append (good : List Char) {more : List Char}
    (hdigits : ∀ c ∈ more, c.isDigit = true)
    (hbelow : value (good ++ more) < bound) (rest : List Char) :
    digitsBelow bound (value good) (more ++ rest) =
      digitsBelow bound (value (good ++ more)) rest := by
  induction more generalizing good with
  | nil => rw [List.append_nil, List.nil_append]
  | cons c more ih =>
    obtain ⟨hc, hmore⟩ := List.forall_mem_cons.mp hdigits
    have hassoc : good ++ c :: more = (good ++ [c]) ++ more := by rw [List.append_assoc]; rfl
    rw [hassoc] at hbelow ⊢
    have hstep : value good * 10 + digitValue c < bound := by
      rw [← value_concat]
      exact Nat.lt_of_le_of_lt (value_le_append _ more) hbelow
    rw [List.cons_append, digitsBelow, Text.digit?_of_isDigit hc]
    dsimp only
    rw [if_pos hstep, ← value_concat, ih _ hmore hbelow]

theorem digitsBelow_of_writes (h : Writes cs n) (hn : n < bound) :
    digitsBelow bound 0 cs = .ok n := by
  obtain ⟨-, hdigits, rfl⟩ := h
  have hread := digitsBelow_append [] hdigits hn []
  rw [List.append_nil] at hread
  exact hread

theorem digitsBelow_of_stops (hne : cs ≠ []) (h : Stops bound cs e) :
    digitsBelow bound 0 cs = .error e := by
  cases h with
  | empty => exact absurd rfl hne
  | invalidDigit hdigits hbelow hc =>
    refine (digitsBelow_append [] hdigits hbelow _).trans ?_
    rw [digitsBelow, digit?_of_not_isDigit hc]
  | tooLarge hdigits hbelow hc hreached =>
    refine (digitsBelow_append [] hdigits hbelow _).trans ?_
    rw [value_concat] at hreached
    rw [digitsBelow, Text.digit?_of_isDigit hc]
    exact if_neg (Nat.not_lt.mpr hreached)

theorem Stops.append (h : Stops bound cs e) (hne : cs ≠ []) (more : List Char) :
    Stops bound (cs ++ more) e := by
  cases h with
  | empty => exact absurd rfl hne
  | invalidDigit hdigits hbelow hc =>
    rw [List.append_assoc]
    exact .invalidDigit hdigits hbelow hc
  | tooLarge hdigits hbelow hc hreached =>
    rw [List.append_assoc]
    exact .tooLarge hdigits hbelow hc hreached

/-- Nothing at all is not refused for a character of it. -/
theorem Stops.eq_empty (h : Stops bound cs e) (hcs : cs = []) : e = .empty := by
  cases h with
  | empty => rfl
  | invalidDigit => simp at hcs
  | tooLarge => simp at hcs

/-- Every text is a number below the bound, or reading stops in it. -/
theorem writes_or_stops (hbound : 0 < bound) (cs : List Char) :
    (∃ n < bound, Writes cs n) ∨ ∃ e, Stops bound cs e := by
  induction cs using List.reverseRecOn with
  | nil => exact .inr ⟨_, .empty⟩
  | append_singleton cs c ih =>
    -- What has been read so far is empty, a number, or refused already.
    have hread : ((∀ d ∈ cs, d.isDigit = true) ∧ value cs < bound) ∨
        ∃ e, Stops bound (cs ++ [c]) e := by
      by_cases hne : cs = []
      · subst hne
        exact .inl ⟨fun d hd => absurd hd List.not_mem_nil, hbound⟩
      · rcases ih with ⟨_, hn, -, hdigits, rfl⟩ | ⟨e, hstops⟩
        · exact .inl ⟨hdigits, hn⟩
        · exact .inr ⟨e, hstops.append hne [c]⟩
    rcases hread with ⟨hdigits, hbelow⟩ | hstops
    · cases hc : c.isDigit with
      | false => exact .inr ⟨_, .invalidDigit hdigits hbelow hc⟩
      | true =>
        rcases Nat.lt_or_ge (value (cs ++ [c])) bound with hlt | hge
        · refine .inl ⟨_, hlt, by simp, ?_, rfl⟩
          simp only [List.mem_append, List.mem_singleton]
          rintro d (hd | rfl)
          · exact hdigits d hd
          · exact hc
        · exact .inr ⟨_, .tooLarge hdigits hbelow hc hge⟩
    · exact .inr hstops

/-! ## Numbers with a sign -/

theorem readBelow_of_ne_nil (bound : Nat) (h : cs ≠ []) :
    readBelow bound cs = digitsBelow bound 0 (unsigned cs) := by
  match cs with
  | [] => exact absurd rfl h
  | ['+'] => rfl
  | '+' :: c :: rest => rfl
  | c :: rest =>
    by_cases hc : c = '+'
    · subst hc
      cases rest <;> rfl
    · rw [readBelow, unsigned] <;> simp [hc]

theorem unsigned_ne_nil (h : cs ≠ []) : unsigned cs ≠ [] := by
  unfold unsigned
  split
  · exact List.cons_ne_nil _ _
  · exact h

/-- Digits have no sign. -/
theorem unsigned_of_writes (h : Writes cs n) : unsigned cs = cs := by
  unfold unsigned
  split
  · exact absurd (h.2.1 '+' List.mem_cons_self) (by decide)
  · rfl

theorem readBelow_of_writes (h : Writes (unsigned cs) n) (hn : n < bound) :
    readBelow bound cs = .ok n := by
  have hne : cs ≠ [] := by
    rintro rfl
    exact h.1 rfl
  rw [readBelow_of_ne_nil bound hne, digitsBelow_of_writes h hn]

/-- A number below the bound is read from its digits. -/
theorem readBelow_digits (hn : n < bound) : readBelow bound (digits n) = .ok n := by
  have hwrites := writes_digits n
  rw [← unsigned_of_writes hwrites] at hwrites
  exact readBelow_of_writes hwrites hn

theorem readBelow_of_stops (h : Stops bound (unsigned cs) e) : readBelow bound cs = .error e := by
  by_cases hne : cs = []
  · subst hne
    rw [h.eq_empty rfl]
    rfl
  · rw [readBelow_of_ne_nil bound hne, digitsBelow_of_stops (unsigned_ne_nil hne) h]

theorem readBelow_eq_ok_iff (hbound : 0 < bound) :
    readBelow bound cs = .ok n ↔ n < bound ∧ Writes (unsigned cs) n := by
  refine ⟨fun h => ?_, fun ⟨hn, h⟩ => readBelow_of_writes h hn⟩
  rcases writes_or_stops hbound (unsigned cs) with ⟨m, hm, hwrites⟩ | ⟨e, hstops⟩
  · rw [readBelow_of_writes hwrites hm] at h
    cases h
    exact ⟨hm, hwrites⟩
  · rw [readBelow_of_stops hstops] at h
    cases h

theorem readBelow_eq_error_iff (hbound : 0 < bound) :
    readBelow bound cs = .error e ↔ Stops bound (unsigned cs) e := by
  refine ⟨fun h => ?_, readBelow_of_stops⟩
  rcases writes_or_stops hbound (unsigned cs) with ⟨m, hm, hwrites⟩ | ⟨e', hstops⟩
  · rw [readBelow_of_writes hwrites hm] at h
    cases h
  · rw [readBelow_of_stops hstops] at h
    cases h
    exact hstops

/-- A number of 32 bits is read as the word it fits in. -/
theorem exists_readBelow_eq_ok_iff {word : UInt32} :
    (∃ n, readBelow (Nat.pow 2 32) cs = .ok n ∧ UInt32.ofNat n = word) ↔
      Writes (unsigned cs) word.toNat := by
  constructor
  · rintro ⟨n, hn, rfl⟩
    obtain ⟨hlt, hwrites⟩ := (readBelow_eq_ok_iff (by decide)).mp hn
    rwa [UInt32.toNat_ofNat_of_lt' hlt]
  · intro h
    exact ⟨_, readBelow_of_writes h word.toNat_lt, UInt32.ofNat_toNat⟩

end Decimal
end ContainerRoster
