import ContainerRoster.Proofs.Text.Digits
import ContainerRoster.Text.Quoted

/-!
# Quoted text read back

What stands between the quotes of a message is the value and nothing else: `unquoted?_quoted` reads
every value back from its quotation.  Each character of a value is written as itself or behind a
backslash, and neither form can be taken for a closing quote, so the proof goes character by
character and leaves open what follows.
-/

namespace ContainerRoster
namespace Text

/-- The character for which a letter stands behind a backslash. -/
def escaped? : Char → Option Char
  | '"' => some '"'
  | '\\' => some '\\'
  | 'n' => some '\n'
  | 'r' => some '\r'
  | 't' => some '\t'
  | '0' => some '\x00'
  | _ => none

/-- The value up to a closing quote, and what follows that. -/
def readQuoted : List Char → Option (List Char × List Char)
  | '"' :: rest => some ([], rest)
  | '\\' :: 'u' :: '\x7b' :: rest => do
    let n ← number? 16 (rest.takeWhile (· != '\x7d'))
    let (cs, rest) ← readQuoted ((rest.dropWhile (· != '\x7d')).drop 1)
    return (Char.ofNat n :: cs, rest)
  | '\\' :: letter :: rest => do
    let c ← escaped? letter
    let (cs, rest) ← readQuoted rest
    return (c :: cs, rest)
  | c :: rest => (readQuoted rest).map fun (cs, rest) => (c :: cs, rest)
  | [] => none
termination_by cs => cs.length
decreasing_by
  all_goals simp only [List.length_cons, List.length_drop]
  · have h := (List.dropWhile_suffix (· != '\x7d') (l := rest)).length_le
    omega
  · omega
  · omega

/-- The value that a quotation is of. -/
def unquoted? (text : String) : Option String :=
  match text.toList with
  | '"' :: rest =>
    match readQuoted rest with
    | some (cs, []) => some (String.ofList cs)
    | _ => none
  | _ => none

variable {c letter : Char} {rest : List Char}

theorem readQuoted_plain (hq : c ≠ '"') (hb : c ≠ '\\') (rest : List Char) :
    readQuoted (c :: rest) = (readQuoted rest).map fun (cs, rest) => (c :: cs, rest) := by
  rw [readQuoted]
  · exact hq
  · intros
    contradiction
  · intros
    contradiction

theorem readQuoted_escaped (hu : letter ≠ 'u') (h : escaped? letter = some c)
    (rest : List Char) : readQuoted ('\\' :: letter :: rest) =
      (readQuoted rest).map fun (cs, rest) => (c :: cs, rest) := by
  rw [readQuoted, h]
  · cases readQuoted rest <;> rfl
  · intros
    contradiction

theorem readQuoted_code (c : Char) (rest : List Char) :
    readQuoted ('\\' :: 'u' :: '\x7b' :: (hexadecimal c.toNat ++ '\x7d' :: rest)) =
      (readQuoted rest).map fun (cs, rest) => (c :: cs, rest) := by
  have hdigits : ∀ d ∈ hexadecimal c.toNat, (d != '\x7d') = true :=
    forall_toDigits (by decide) (by decide) c.toNat
  rw [readQuoted, List.takeWhile_append_of_pos hdigits, List.dropWhile_append_of_pos hdigits,
    List.takeWhile_cons_of_neg (by decide), List.dropWhile_cons_of_neg (by decide),
    List.append_nil, hexadecimal, number?_toDigits (by decide) (by decide)]
  show (do let (cs, rest) ← readQuoted rest; return (Char.ofNat c.toNat :: cs, rest)) = _
  rw [Char.ofNat_toNat]
  cases readQuoted rest <;> rfl

/-- A written character is read as itself. -/
theorem readQuoted_quoteChar (c : Char) (rest : List Char) :
    readQuoted (quoteChar c ++ rest) =
      (readQuoted rest).map fun (cs, rest) => (c :: cs, rest) := by
  unfold quoteChar
  split
  · next h =>
    subst h
    exact readQuoted_escaped (by decide) rfl rest
  split
  · next h =>
    subst h
    exact readQuoted_escaped (by decide) rfl rest
  split
  · next h =>
    subst h
    exact readQuoted_escaped (by decide) rfl rest
  split
  · next h =>
    subst h
    exact readQuoted_escaped (by decide) rfl rest
  split
  · next h =>
    subst h
    exact readQuoted_escaped (by decide) rfl rest
  split
  · next h =>
    rw [show c = '\x00' from Char.ext (UInt32.toNat_inj.mp h)]
    exact readQuoted_escaped (by decide) rfl rest
  split
  · next hq hb _ _ _ _ _ => exact readQuoted_plain hq hb rest
  · rw [List.append_assoc, List.append_assoc]
    exact readQuoted_code c rest

theorem readQuoted_text (cs rest : List Char) :
    readQuoted (cs.flatMap quoteChar ++ '"' :: rest) = some (cs, rest) := by
  induction cs with
  | nil =>
    rw [List.flatMap_nil, List.nil_append, readQuoted]
  | cons c cs ih =>
    rw [List.flatMap_cons, List.append_assoc, readQuoted_quoteChar, ih]
    rfl

theorem unquoted?_quoted (s : String) : unquoted? (quoted s) = some s := by
  rw [unquoted?, quoted, String.toList_ofList, List.cons_append]
  simp only [readQuoted_text, String.ofList_toList]

end Text
end ContainerRoster
