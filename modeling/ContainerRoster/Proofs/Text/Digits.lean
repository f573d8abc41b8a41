import ContainerRoster.Decimal.Bounded
import ContainerRoster.Text.Digit

/-!
# Numbers written in digits read back

The digits of a number in a base up to sixteen are digits of that base, there is no zero in front
of them, and reading them gives the number again.
-/

namespace ContainerRoster
namespace Text

theorem digit?_digitChar {base d : Nat} (hb : base ≤ 16) (hd : d < base) :
    digit? base (Nat.digitChar d) = some d := by
  have h : ∀ d < 16, digit? 16 (Nat.digitChar d) = some d := by decide
  have h16 := h d (by omega)
  rw [digit?, Option.filter_eq_some_iff] at h16 ⊢
  exact ⟨h16.1, by simpa using hd⟩

theorem digit?_toUpper_digitChar {d : Nat} (hd : d < 16) :
    digit? 16 (Nat.digitChar d).toUpper = some d := by
  revert d
  decide

theorem ofDigits_append_singleton (base : Nat) (values : List Nat) (d : Nat) :
    ofDigits base (values ++ [d]) = ofDigits base values * base + d := by
  rw [ofDigits, List.foldl_append]
  rfl

/-- The digits of a number, each put into another case perhaps, write the number. -/
theorem ofDigits_map_toDigits {base : Nat} {f : Char → Char} (hb : 1 < base)
    (hf : ∀ d < base, digit? base (f (Nat.digitChar d)) = some d) (n : Nat) :
    (((Nat.toDigits base n).map f).mapM (digit? base)).map (ofDigits base) = some n := by
  induction n using Nat.strongRecOn with
  | ind n ih =>
    by_cases hn : n < base
    · rw [Nat.toDigits_of_lt_base hn, List.map_singleton, List.mapM_cons, hf n hn]
      show some (ofDigits base [n]) = some n
      rw [ofDigits, List.foldl_cons, List.foldl_nil, Nat.zero_mul, Nat.zero_add]
    · have hle : base ≤ n := Nat.le_of_not_lt hn
      have hlt : n / base < n := Nat.div_lt_self (by omega) hb
      have hmod : n % base < base := Nat.mod_lt n (by omega)
      have hq := ih (n / base) hlt
      rw [Option.map_eq_some_iff] at hq
      obtain ⟨values, hv, hq⟩ := hq
      rw [Nat.toDigits_of_base_le hb hle, List.map_append, List.map_singleton, List.mapM_append, hv,
        List.mapM_cons, hf _ hmod]
      show some (ofDigits base (values ++ [n % base])) = some n
      rw [ofDigits_append_singleton, hq, Nat.mul_comm, Nat.div_add_mod]

theorem number?_of_map {base n : Nat} {cs : List Char}
    (h : (cs.mapM (digit? base)).map (ofDigits base) = some n) (hne : cs ≠ []) :
    number? base cs = some n := by
  rw [number?, List.isEmpty_eq_false_iff.mpr hne]
  exact h

theorem number?_toDigits {base : Nat} (hb : 1 < base) (hle : base ≤ 16) (n : Nat) :
    number? base (Nat.toDigits base n) = some n := by
  have h := ofDigits_map_toDigits (f := id) hb (fun d hd => digit?_digitChar hle hd) n
  rw [List.map_id] at h
  exact number?_of_map h Nat.toDigits_ne_nil

/-- Zeros in front of digits change nothing. -/
theorem ofDigits_replicate_zero_append {base n : Nat} {cs : List Char} (hb : 0 < base) (k : Nat)
    (h : (cs.mapM (digit? base)).map (ofDigits base) = some n) :
    ((List.replicate k '0' ++ cs).mapM (digit? base)).map (ofDigits base) = some n := by
  have hzero : digit? base '0' = some 0 := by
    rw [digit?, Option.filter_eq_some_iff]
    exact ⟨rfl, by simpa using hb⟩
  induction k with
  | zero => exact h
  | succ k ih =>
    rw [Option.map_eq_some_iff] at ih ⊢
    obtain ⟨values, hv, ho⟩ := ih
    refine ⟨0 :: values, ?_, ?_⟩
    · rw [List.replicate_succ, List.cons_append, List.mapM_cons, hzero, hv]
      rfl
    · rw [← ho, ofDigits, List.foldl_cons, Nat.zero_mul]
      rfl

/-- What holds of every digit of a base holds of the digits of every number. -/
theorem forall_toDigits {base : Nat} {p : Char → Prop} (hb : 1 < base)
    (h : ∀ d < base, p (Nat.digitChar d)) (n : Nat) : ∀ c ∈ Nat.toDigits base n, p c := by
  induction n using Nat.strongRecOn with
  | ind n ih =>
    intro c hc
    by_cases hn : n < base
    · rw [Nat.toDigits_of_lt_base hn, List.mem_singleton] at hc
      rw [hc]
      exact h n hn
    · have hle : base ≤ n := Nat.le_of_not_lt hn
      rw [Nat.toDigits_of_base_le hb hle, List.mem_append, List.mem_singleton] at hc
      rcases hc with hc | rfl
      · exact ih (n / base) (Nat.div_lt_self (by omega) hb) c hc
      · exact h (n % base) (Nat.mod_lt n (by omega))

theorem toNat_of_isDigit {c : Char} (h : c.isDigit = true) : 48 ≤ c.toNat ∧ c.toNat ≤ 57 := by
  simp only [Char.isDigit, Bool.and_eq_true, decide_eq_true_eq] at h
  exact h

theorem digit?_of_isDigit {c : Char} (h : c.isDigit = true) :
    digit? 10 c = some (Decimal.digitValue c) := by
  have hc := toNat_of_isDigit h
  rw [digit?, if_pos h, Option.filter_eq_some_iff]
  refine ⟨rfl, ?_⟩
  rw [decide_eq_true_eq]
  show c.toNat - 48 < 10
  omega

end Text

namespace Decimal

theorem isDigit_of_mem_digits {n : Nat} {c : Char} (h : c ∈ digits n) : c.isDigit = true :=
  Nat.isDigit_of_mem_toDigits (by decide) (by decide) h

/-- What a number begins with is told from everything that is no digit. -/
theorem digits_head_ne {n : Nat} {c : Char} {cs : List Char} (h : digits n = c :: cs) (d : Char)
    (hd : d.isDigit = false) : c ≠ d := by
  rintro rfl
  rw [isDigit_of_mem_digits (n := n) (by rw [h]; exact List.mem_cons_self)] at hd
  cases hd

/-- A test that no digit passes fails on every character of a number. -/
theorem forall_digits {p : Char → Bool} (h : ∀ d < 10, p (Nat.digitChar d) = false) (n : Nat) :
    ∀ c ∈ digits n, p c = false := Text.forall_toDigits (by decide) h n

theorem digits_ne_nil (n : Nat) : digits n ≠ [] := Nat.toDigits_ne_nil

theorem number?_digits (n : Nat) : Text.number? 10 (digits n) = some n :=
  Text.number?_toDigits (by decide) (by decide) n

theorem mapM_digit? {cs : List Char} (h : ∀ c ∈ cs, c.isDigit = true) :
    cs.mapM (Text.digit? 10) = some (cs.map digitValue) := by
  induction cs with
  | nil => rfl
  | cons c rest ih =>
    rw [List.mapM_cons, Text.digit?_of_isDigit (h c List.mem_cons_self),
      ih fun d hd => h d (List.mem_cons_of_mem c hd)]
    rfl

theorem value_digits (n : Nat) : value (digits n) = n := by
  have h := number?_digits n
  rw [Text.number?, List.isEmpty_eq_false_iff.mpr (digits_ne_nil n),
    mapM_digit? fun c hc => isDigit_of_mem_digits hc] at h
  exact Option.some.inj h

theorem digits_zero : digits 0 = ['0'] := Nat.toDigits_zero 10

/-- A positive number has no zero in front. -/
theorem digits_ne_zero_cons {n : Nat} (hn : 0 < n) (rest : List Char) : digits n ≠ '0' :: rest := by
  have hchar : ∀ d < 10, 0 < d → Nat.digitChar d ≠ '0' := by decide
  induction n using Nat.strongRecOn generalizing rest with
  | ind n ih =>
    rw [digits]
    by_cases h10 : n < 10
    · rw [Nat.toDigits_of_lt_base h10]
      intro h
      exact hchar n h10 hn (List.cons.inj h).1
    · have hle : 10 ≤ n := Nat.le_of_not_lt h10
      rw [Nat.toDigits_of_base_le (by decide) hle]
      intro h
      cases hd : Nat.toDigits 10 (n / 10) with
      | nil => exact Nat.toDigits_ne_nil hd
      | cons c cs =>
        rw [hd, List.cons_append] at h
        rw [(List.cons.inj h).1] at hd
        exact ih (n / 10) (by omega) (by omega) cs hd

end Decimal
end ContainerRoster
