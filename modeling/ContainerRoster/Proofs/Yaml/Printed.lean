import ContainerRoster.Proofs.Yaml.Literal
import ContainerRoster.Proofs.Yaml.Quoted

/-!
# Scalars are printable

A scalar is written with printable characters only: those of a string that are not stand as escapes
between double quotes.  So a text made of scalars holds none of the characters that a reader
refuses, and no breaks but those that it keeps apart.
-/

namespace ContainerRoster
namespace Yaml

/-- Whether a text holds printable characters only. -/
def IsPrinted (cs : List Char) : Prop := ∀ c ∈ cs, isPrintable c = true

theorem isPrinted_of_all {cs : List Char} (h : cs.all isPrintable = true) : IsPrinted cs :=
  List.all_eq_true.mp h

theorem isPrinted_cons {c : Char} {cs : List Char} :
    IsPrinted (c :: cs) ↔ isPrintable c = true ∧ IsPrinted cs := List.forall_mem_cons

theorem isPrinted_append {cs ds : List Char} :
    IsPrinted (cs ++ ds) ↔ IsPrinted cs ∧ IsPrinted ds := List.forall_mem_append

theorem isPrinted_spaces (n : Nat) : IsPrinted (spaces n) := by
  intro c hc
  rw [List.eq_of_mem_replicate hc]
  rfl

theorem isPrinted_endLine {cs : List Char} (h : IsPrinted cs) : IsPrinted (endLine cs) := by
  rw [endLine]
  split
  · exact h
  · exact isPrinted_append.mpr ⟨h, isPrinted_of_all rfl⟩

/-! ## Scalars -/

theorem isPrinted_hexadecimal (count n : Nat) : IsPrinted (hexadecimal count n) := by
  refine isPrinted_append.mpr ⟨?_, ?_⟩
  · intro c hc
    rw [List.eq_of_mem_replicate hc]
    rfl
  · intro c hc
    rw [List.mem_map] at hc
    obtain ⟨d, hd, rfl⟩ := hc
    exact Text.forall_toDigits (p := fun d => isPrintable d.toUpper = true) (by decide) (by decide)
      n d hd

theorem isPrinted_escapeChar (c : Char) : IsPrinted (escapeChar c) := by
  rcases escapeChar_cases c with ⟨-, letter, hwritten, hp, -⟩ | ⟨hwritten, hp, -⟩ |
    ⟨-, letter, count, hwritten, hp, -⟩
  · rw [hwritten]
    exact isPrinted_of_all (by rw [List.all_cons, List.all_cons, hp]; rfl)
  · rw [hwritten]
    exact isPrinted_of_all (by rw [List.all_cons, hp]; rfl)
  · rw [hwritten]
    exact isPrinted_cons.mpr ⟨rfl, isPrinted_cons.mpr ⟨hp, isPrinted_hexadecimal count c.toNat⟩⟩

theorem isPrinted_doubleQuoted (cs : List Char) : IsPrinted (doubleQuoted cs) := by
  refine isPrinted_append.mpr ⟨isPrinted_cons.mpr ⟨rfl, ?_⟩, isPrinted_of_all rfl⟩
  intro c hc
  rw [List.mem_flatMap] at hc
  obtain ⟨d, -, hc⟩ := hc
  exact isPrinted_escapeChar d c hc

theorem isPrinted_indent (afterBreak : Bool) (indent : Nat) :
    IsPrinted (if afterBreak then List.replicate indent ' ' else []) := by
  cases afterBreak with
  | true => exact isPrinted_spaces indent
  | false => exact isPrinted_of_all rfl

theorem isPrinted_singleBody (indent : Nat) : ∀ (cs : List Char) (afterBreak : Bool),
    IsPrinted cs → IsPrinted (singleBody indent afterBreak cs)
  | [], afterBreak, _ =>
    isPrinted_append.mpr ⟨isPrinted_indent afterBreak indent, isPrinted_of_all rfl⟩
  | c :: cs, afterBreak, h => by
    obtain ⟨hc, hcs⟩ := isPrinted_cons.mp h
    rw [singleBody]
    split
    · exact isPrinted_cons.mpr ⟨hc, isPrinted_singleBody indent cs true hcs⟩
    · have hchar : IsPrinted (if c = '\'' then ['\'', '\''] else [c]) := by
        split
        · exact isPrinted_of_all rfl
        · exact isPrinted_cons.mpr ⟨hc, isPrinted_of_all rfl⟩
      exact isPrinted_append.mpr ⟨isPrinted_append.mpr ⟨isPrinted_indent afterBreak indent, hchar⟩,
        isPrinted_singleBody indent cs false hcs⟩

theorem isPrinted_literalBody (indent : Nat) : ∀ (cs : List Char) (afterBreak : Bool),
    IsPrinted cs → IsPrinted (literalBody indent afterBreak cs)
  | [], _, _ => isPrinted_of_all rfl
  | c :: cs, afterBreak, h => by
    obtain ⟨hc, hcs⟩ := isPrinted_cons.mp h
    rw [literalBody]
    split
    · exact isPrinted_cons.mpr ⟨hc, isPrinted_literalBody indent cs true hcs⟩
    · exact isPrinted_append.mpr ⟨isPrinted_indent afterBreak indent,
        isPrinted_cons.mpr ⟨hc, isPrinted_literalBody indent cs false hcs⟩⟩

theorem isPrinted_literalHeader {cs : List Char} (hne : cs ≠ []) :
    IsPrinted (literalHeader cs) := by
  have hchomping : IsPrinted (chomping cs) := by
    rcases chomping_cases hne with ⟨_, _, _, _, h⟩ | ⟨_, _, _, _, h⟩ | ⟨_, _, _, _, _, _, h⟩ <;>
    · rw [h]
      exact isPrinted_of_all rfl
  refine isPrinted_append.mpr ⟨isPrinted_cons.mpr ⟨rfl, ?_⟩, hchomping⟩
  split
  · exact isPrinted_of_all rfl
  · exact isPrinted_of_all rfl

theorem isPrinted_stringText (indent : Nat) (s : String) : IsPrinted (stringText indent s) := by
  have hprint : style s ≠ .double → IsPrinted s.toList := fun h =>
    isPrinted_of_all (all_isPrintable_of_style h)
  cases h : style s with
  | plain =>
    simp only [stringText, h]
    exact hprint (by rw [h]; decide)
  | single =>
    have hbody := hprint (by rw [h]; decide)
    simp only [stringText, h]
    exact isPrinted_cons.mpr ⟨rfl, isPrinted_singleBody _ _ _ hbody⟩
  | double =>
    simp only [stringText, h]
    exact isPrinted_doubleQuoted s.toList
  | literal =>
    have hbody := hprint (by rw [h]; decide)
    have hne : s.toList ≠ [] := List.ne_nil_of_mem ((of_style s).2.2 h).1
    simp only [stringText, h]
    exact isPrinted_append.mpr ⟨isPrinted_literalHeader hne,
      isPrinted_cons.mpr ⟨rfl, isPrinted_literalBody _ _ _ hbody⟩⟩

theorem isPrinted_digits (n : Nat) : IsPrinted (Decimal.digits n) :=
  Text.forall_toDigits (by decide) (by decide) n

/-! ## What a reader makes of printable text -/

theorem isAllowed_of_isPrintable {c : Char} (h : isPrintable c = true) : isAllowed c = true := by
  rw [isAllowed, h]
  rfl

/-- All breaks of printable text are line feeds or separators. -/
theorem normalized_of_isPrinted {cs : List Char} (h : IsPrinted cs) : normalized cs = cs := by
  induction cs with
  | nil => rfl
  | cons c cs ih =>
    obtain ⟨hc, hcs⟩ := isPrinted_cons.mp h
    have hreturn : c ≠ '\r' := by
      rintro rfl
      exact absurd hc (by decide)
    have hnext : c ≠ '\u0085' := by
      rintro rfl
      exact absurd hc (by decide)
    rw [normalized, ih hcs]
    · exact fun _ he _ => hreturn he
    · exact hreturn
    · exact hnext

end Yaml
end ContainerRoster
