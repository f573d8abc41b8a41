import ContainerRoster.Age
import ContainerRoster.Proofs.Text.Digits

/-!
# Ages read back

The text of an age names it: four ages have a text of their own, and all others are written as their
count and the plural of their unit.  `ofText?_text` reads either form back, so what is said of the
length of time that a text names may be said of the age.
-/

namespace ContainerRoster

namespace AgeUnit

def all : List AgeUnit := [second, minute, hour, day, week, month, year]

/-- The unit whose plural is a text. -/
def ofPlural? (name : List Char) : Option AgeUnit :=
  all.find? fun unit => unit.plural.toList == name

theorem ofPlural?_plural (unit : AgeUnit) : ofPlural? unit.plural.toList = some unit := by
  cases unit <;> decide

theorem notMem_plural (unit : AgeUnit) : ' ' ∉ unit.plural.toList := by
  cases unit <;> decide

end AgeUnit

namespace Age

/-- The ages that have a text of their own. -/
def named : List (String × Age) :=
  [("Less than a second", ⟨0, .second⟩),
   ("1 second", ⟨1, .second⟩),
   ("About a minute", ⟨1, .minute⟩),
   ("About an hour", ⟨1, .hour⟩)]

/-- The age that a text names. -/
def ofText? (text : String) : Option Age :=
  match named.lookup text with
  | some age => some age
  | none =>
    match text.toList.splitOn ' ' with
    | [count, unit] => do return ⟨← Text.number? 10 count, ← AgeUnit.ofPlural? unit⟩
    | _ => none

/-- The length of time that an age names, in seconds. -/
def length (age : Age) : Nat := age.count * age.unit.seconds

/-- The text of an age that has none of its own. -/
def countedText (age : Age) : String := toString age.count ++ " " ++ age.unit.plural

theorem splitOn_countedText (age : Age) :
    age.countedText.toList.splitOn ' ' = [Decimal.digits age.count, age.unit.plural.toList] := by
  have hlist : age.countedText.toList =
      Decimal.digits age.count ++ ' ' :: age.unit.plural.toList := by
    simp only [countedText, String.toList_append, List.append_assoc]
    show (Nat.repr age.count).toList ++ _ = _
    rw [Nat.toList_repr]
    rfl
  have hdigits : ' ' ∉ Decimal.digits age.count := fun h =>
    absurd (Decimal.isDigit_of_mem_digits h) (by decide)
  rw [hlist, List.splitOn_append_cons_self, List.splitOn_eq_singleton hdigits,
    List.splitOn_eq_singleton age.unit.notMem_plural]
  rfl

/-- The texts of their own end in a singular. -/
theorem getLast?_named : ∀ entry ∈ named, ∀ unit : AgeUnit,
    (entry.1.toList.splitOn ' ').getLast? ≠ some unit.plural.toList := by
  intro entry hentry unit
  revert entry
  cases unit <;> decide

theorem lookup_countedText (age : Age) : named.lookup age.countedText = none := by
  rw [List.lookup_eq_none_iff]
  intro entry hentry
  rw [bne_iff_ne]
  intro h
  refine getLast?_named entry hentry age.unit ?_
  rw [← h, age.splitOn_countedText]
  rfl

theorem ofText?_countedText (age : Age) : ofText? age.countedText = some age := by
  rw [ofText?, age.lookup_countedText, age.splitOn_countedText]
  show (do return ⟨← Text.number? 10 (Decimal.digits age.count), ← _⟩ : Option Age) = some age
  rw [Decimal.number?_digits, AgeUnit.ofPlural?_plural]
  rfl

theorem ofText?_text (age : Age) : ofText? age.text = some age := by
  unfold text
  split
  · decide
  · decide
  · decide
  · decide
  · exact ofText?_countedText ⟨_, _⟩

end Age
end ContainerRoster
