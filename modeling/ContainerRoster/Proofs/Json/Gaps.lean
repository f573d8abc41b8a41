import ContainerRoster.Json.Decode

/-!
# Bytes that belong to no character

Where such bytes stand in a document that is read although it has some.  The reader takes them
between the quotes of a string and nowhere else, and a tree that has been given its meaning has none
in its strings: `exists_text_of_ofInput?` says that a document is text once all strings of its tree
are, and `isText_of_decode` that a tree with a value has only such strings.
-/

namespace ContainerRoster
namespace Json
namespace Raw

mutual

/-- Whether all strings of a tree are text, the keys of its members included. -/
def IsText : Raw → Prop
  | .string pieces => .plain none ∉ pieces
  | .array items => ItemsAreText items
  | .object members => MembersAreText members
  | _ => True

def ItemsAreText : List Raw → Prop
  | [] => True
  | item :: rest => IsText item ∧ ItemsAreText rest

def MembersAreText : List (List Piece × Raw) → Prop
  | [] => True
  | (key, value) :: rest => .plain none ∉ key ∧ IsText value ∧ MembersAreText rest

end

theorem itemsAreText_iff {items : List Raw} :
    ItemsAreText items ↔ ∀ item ∈ items, item.IsText := by
  induction items with
  | nil => simp [ItemsAreText]
  | cons item rest ih => rw [ItemsAreText, ih, List.forall_mem_cons]

theorem membersAreText_iff {members : List (List Piece × Raw)} :
    MembersAreText members ↔ ∀ m ∈ members, .plain none ∉ m.1 ∧ m.2.IsText := by
  induction members with
  | nil => simp [MembersAreText]
  | cons m rest ih => rw [MembersAreText, ih, List.forall_mem_cons, and_assoc]

/-! ## What has a value is text -/

theorem decodePieces_eq_none {pieces : List Piece} (h : .plain none ∈ pieces) :
    decodePieces pieces = none := by
  fun_induction decodePieces pieces <;> simp_all

theorem notMem_of_decodeString {pieces : List Piece} {s : String}
    (h : decodeString pieces = some s) : .plain none ∉ pieces := by
  intro hmem
  rw [decodeString, decodePieces_eq_none hmem] at h
  cases h

mutual

theorem isText_of_decode : ∀ (raw : Raw) {depth : Nat} {j : Json},
    decode depth raw = some j → raw.IsText
  | .null, _, _, _ => by simp [IsText]
  | .bool _, _, _, _ => by simp [IsText]
  | .number _, _, _, _ => by simp [IsText]
  | .string pieces, _, _, h => by
    rw [decode, Option.map_eq_some_iff] at h
    obtain ⟨s, hs, -⟩ := h
    rw [IsText]
    exact notMem_of_decodeString hs
  | .array items, depth, _, h => by
    rw [decode, Option.ite_none_left_eq_some, Option.map_eq_some_iff] at h
    obtain ⟨-, values, hvalues, -⟩ := h
    rw [IsText]
    exact itemsAreText_of_decodeItems items hvalues
  | .object members, depth, _, h => by
    rw [decode, Option.ite_none_left_eq_some, Option.map_eq_some_iff] at h
    obtain ⟨-, values, hvalues, -⟩ := h
    rw [IsText]
    exact membersAreText_of_decodeMembers members hvalues

theorem itemsAreText_of_decodeItems : ∀ (items : List Raw) {depth : Nat} {values : List Json},
    decodeItems depth items = some values → ItemsAreText items
  | [], _, _, _ => by simp [ItemsAreText]
  | item :: rest, _, _, h => by
    rw [decodeItems, Option.bind_eq_bind, Option.bind_eq_some_iff] at h
    obtain ⟨value, hvalue, h⟩ := h
    obtain ⟨values, hvalues, -⟩ := Option.bind_eq_some_iff.mp h
    rw [ItemsAreText]
    exact ⟨isText_of_decode item hvalue, itemsAreText_of_decodeItems rest hvalues⟩

theorem membersAreText_of_decodeMembers : ∀ (members : List (List Piece × Raw)) {depth : Nat}
    {values : List (String × Json)}, decodeMembers depth members = some values →
      MembersAreText members
  | [], _, _, _ => by simp [MembersAreText]
  | (key, item) :: rest, _, _, h => by
    rw [decodeMembers, Option.bind_eq_bind, Option.bind_eq_some_iff] at h
    obtain ⟨name, hname, h⟩ := h
    obtain ⟨value, hvalue, h⟩ := Option.bind_eq_some_iff.mp h
    obtain ⟨values, hvalues, -⟩ := Option.bind_eq_some_iff.mp h
    rw [MembersAreText]
    exact ⟨notMem_of_decodeString hname, isText_of_decode item hvalue,
      membersAreText_of_decodeMembers rest hvalues⟩

end

/-! ## What is read outside strings is text -/

/-- Whether only text stands in front of the rest of an input. -/
def TextUpTo (cs rest : Input) : Prop := ∃ front : List Char, cs = front.map some ++ rest

variable {cs after rest : Input}

theorem TextUpTo.refl (cs : Input) : TextUpTo cs cs := ⟨[], rfl⟩

theorem TextUpTo.cons (c : Char) (h : TextUpTo cs rest) : TextUpTo (some c :: cs) rest := by
  obtain ⟨front, rfl⟩ := h
  exact ⟨c :: front, rfl⟩

theorem TextUpTo.trans (h : TextUpTo cs after) (h' : TextUpTo after rest) : TextUpTo cs rest := by
  obtain ⟨front, rfl⟩ := h
  obtain ⟨front', rfl⟩ := h'
  exact ⟨front ++ front', by rw [List.map_append, List.append_assoc]⟩

/-- A test that no missing character passes drops text alone. -/
theorem textUpTo_dropWhile {p : Option Char → Bool} (hp : p none = false) (cs : Input) :
    TextUpTo cs (cs.dropWhile p) := by
  induction cs with
  | nil => exact .refl _
  | cons c cs ih =>
    rw [List.dropWhile_cons]
    split
    · next hc =>
      cases c with
      | none => rw [hp] at hc; cases hc
      | some c => exact ih.cons c
    · exact .refl _

theorem textUpTo_skipSpace (cs : Input) : TextUpTo cs (skipSpace cs) := textUpTo_dropWhile rfl cs

theorem textUpTo_readString {pieces : List Piece} (h : readString cs = some (pieces, rest))
    (ht : .plain none ∉ pieces) : TextUpTo cs rest := by
  fun_induction readString cs generalizing pieces rest with
  | case1 after =>
    cases h
    exact (TextUpTo.refl _).cons _
  | case2 a b c d after ih =>
    obtain ⟨n, -, h⟩ := Option.bind_eq_some_iff.mp h
    obtain ⟨⟨pieces, rest⟩, hread, h⟩ := Option.bind_eq_some_iff.mp h
    cases h
    have hafter := ih hread (List.not_mem_of_not_mem_cons ht)
    exact (((((hafter.cons d).cons c).cons b).cons a).cons 'u').cons '\\'
  | case3 e after _ ih =>
    obtain ⟨c, -, h⟩ := Option.bind_eq_some_iff.mp h
    obtain ⟨⟨pieces, rest⟩, hread, h⟩ := Option.bind_eq_some_iff.mp h
    cases h
    exact ((ih hread (List.not_mem_of_not_mem_cons ht)).cons e).cons '\\'
  | case4 => cases h
  | case5 => cases h
  | case6 c after _ _ _ _ _ ih =>
    obtain ⟨⟨pieces, rest⟩, hread, h⟩ := Option.map_eq_some_iff.mp h
    cases h
    exact (ih hread (List.not_mem_of_not_mem_cons ht)).cons c
  | case7 after ih =>
    -- The one place where such a byte is taken leaves it among the pieces.
    obtain ⟨⟨pieces, rest⟩, -, h⟩ := Option.map_eq_some_iff.mp h
    cases h
    exact absurd List.mem_cons_self ht
  | case8 => cases h

/-! ### Numbers -/

theorem textUpTo_readDigits {digits : List Char} (h : readDigits cs = some (digits, rest)) :
    TextUpTo cs rest := by
  unfold readDigits at h
  dsimp only at h
  split at h
  · cases h
  · cases h
    exact textUpTo_dropWhile rfl cs

theorem textUpTo_readWhole {digits : List Char} (h : readWhole cs = some (digits, rest)) :
    TextUpTo cs rest := by
  unfold readWhole at h
  split at h
  · split at h
    · cases h
    · cases h
      exact (TextUpTo.refl _).cons _
  · exact textUpTo_readDigits h

theorem textUpTo_readFraction {fraction : Option (List Char)}
    (h : readFraction cs = some (fraction, rest)) : TextUpTo cs rest := by
  unfold readFraction at h
  split at h
  · obtain ⟨⟨digits, rest⟩, hread, h⟩ := Option.map_eq_some_iff.mp h
    cases h
    exact (textUpTo_readDigits hread).cons _
  · cases h
    exact .refl _

theorem textUpTo_readExponent {exponent : Option (Bool × List Char)}
    (h : readExponent cs = some (exponent, rest)) : TextUpTo cs rest := by
  unfold readExponent at h
  split at h
  · next e after =>
    split at h
    · refine TextUpTo.cons e ?_
      split at h
      all_goals
        obtain ⟨⟨digits, rest⟩, hread, h⟩ := Option.map_eq_some_iff.mp h
        cases h
      · exact (textUpTo_readDigits hread).cons _
      · exact (textUpTo_readDigits hread).cons _
      · exact textUpTo_readDigits hread
    · cases h
      exact .refl _
  · cases h
    exact .refl _

theorem textUpTo_readNumber {n : Numeral} (h : readNumber cs = some (n, rest)) :
    TextUpTo cs rest := by
  unfold readNumber at h
  split at h
  next negative unsigned hsign =>
    have hfront : TextUpTo cs unsigned := by
      split at hsign
      · cases hsign
        exact (TextUpTo.refl _).cons _
      · cases hsign
        exact .refl _
    obtain ⟨⟨whole, cs₁⟩, hwhole, h⟩ := Option.bind_eq_some_iff.mp h
    obtain ⟨⟨fraction, cs₂⟩, hfraction, h⟩ := Option.bind_eq_some_iff.mp h
    obtain ⟨⟨exponent, cs₃⟩, hexponent, h⟩ := Option.bind_eq_some_iff.mp h
    cases h
    exact hfront.trans ((textUpTo_readWhole hwhole).trans
      ((textUpTo_readFraction hfraction).trans (textUpTo_readExponent hexponent)))

/-! ### Values -/

theorem textUpTo_readAtom {raw : Raw} (h : readAtom cs = some (raw, rest)) (ht : raw.IsText) :
    TextUpTo cs rest := by
  unfold readAtom at h
  split at h
  · cases h
    exact ((((TextUpTo.refl _).cons _).cons _).cons _).cons _
  · cases h
    exact ((((TextUpTo.refl _).cons _).cons _).cons _).cons _
  · cases h
    exact (((((TextUpTo.refl _).cons _).cons _).cons _).cons _).cons _
  · obtain ⟨⟨pieces, rest⟩, hread, h⟩ := Option.map_eq_some_iff.mp h
    cases h
    rw [IsText] at ht
    exact (textUpTo_readString hread ht).cons _
  · obtain ⟨⟨n, rest⟩, hread, h⟩ := Option.map_eq_some_iff.mp h
    cases h
    exact textUpTo_readNumber hread

/-- What a bracket in front of spaces leads to. -/
theorem TextUpTo.skip (c : Char) (hs : skipSpace cs = some c :: after) (h : TextUpTo after rest) :
    TextUpTo cs rest :=
  (textUpTo_skipSpace cs).trans (hs ▸ h.cons c)

mutual

theorem textUpTo_readValue : ∀ (fuel : Nat) {cs rest : Input} {raw : Raw},
    readValue fuel cs = some (raw, rest) → raw.IsText → TextUpTo cs rest
  | 0, _, _, _, h, _ => by cases h
  | fuel + 1, cs, rest, raw, h, ht => by
    rw [readValue] at h
    split at h
    · next after hs =>
      refine .skip '[' hs ?_
      split at h
      · next hclose =>
        cases h
        exact .skip ']' hclose (.refl _)
      · obtain ⟨⟨items, rest⟩, hread, h⟩ := Option.map_eq_some_iff.mp h
        cases h
        rw [IsText] at ht
        exact (textUpTo_skipSpace after).trans (textUpTo_readItems fuel hread ht)
    · next after hs =>
      refine .skip '\x7b' hs ?_
      split at h
      · next hclose =>
        cases h
        exact .skip '\x7d' hclose (.refl _)
      · obtain ⟨⟨members, rest⟩, hread, h⟩ := Option.map_eq_some_iff.mp h
        cases h
        rw [IsText] at ht
        exact (textUpTo_skipSpace after).trans (textUpTo_readMembers fuel hread ht)
    · exact (textUpTo_skipSpace cs).trans (textUpTo_readAtom h ht)

theorem textUpTo_readItems : ∀ (fuel : Nat) {cs rest : Input} {items : List Raw},
    readItems fuel cs = some (items, rest) → ItemsAreText items → TextUpTo cs rest
  | 0, _, _, _, h, _ => by cases h
  | fuel + 1, cs, rest, items, h, ht => by
    rw [readItems, Option.bind_eq_bind, Option.bind_eq_some_iff] at h
    obtain ⟨⟨item, after⟩, hitem, h⟩ := h
    dsimp only at h
    split at h
    · next hclose =>
      cases h
      rw [ItemsAreText] at ht
      exact (textUpTo_readValue fuel hitem ht.1).trans (.skip ']' hclose (.refl _))
    · next hcomma =>
      obtain ⟨⟨items, rest⟩, hitems, h⟩ := Option.bind_eq_some_iff.mp h
      cases h
      rw [ItemsAreText] at ht
      exact (textUpTo_readValue fuel hitem ht.1).trans
        (.skip ',' hcomma (textUpTo_readItems fuel hitems ht.2))
    · cases h

theorem textUpTo_readMembers : ∀ (fuel : Nat) {cs rest : Input} {members : List (List Piece × Raw)},
    readMembers fuel cs = some (members, rest) → MembersAreText members → TextUpTo cs rest
  | 0, _, _, _, h, _ => by cases h
  | fuel + 1, cs, rest, members, h, ht => by
    rw [readMembers] at h
    split at h
    · next after hs =>
      refine .skip '"' hs ?_
      obtain ⟨⟨key, behind⟩, hkey, h⟩ := Option.bind_eq_some_iff.mp h
      dsimp only at h
      split at h
      · next hcolon =>
        obtain ⟨⟨value, last⟩, hvalue, h⟩ := Option.bind_eq_some_iff.mp h
        dsimp only at h
        split at h
        · next hclose =>
          cases h
          rw [MembersAreText] at ht
          exact (textUpTo_readString hkey ht.1).trans (.skip ':' hcolon
            ((textUpTo_readValue fuel hvalue ht.2.1).trans (.skip '\x7d' hclose (.refl _))))
        · next hcomma =>
          obtain ⟨⟨members, rest⟩, hmembers, h⟩ := Option.bind_eq_some_iff.mp h
          cases h
          rw [MembersAreText] at ht
          exact (textUpTo_readString hkey ht.1).trans (.skip ':' hcolon
            ((textUpTo_readValue fuel hvalue ht.2.1).trans
              (.skip ',' hcomma (textUpTo_readMembers fuel hmembers ht.2.2))))
        · cases h
      · cases h
    · cases h

end

/-- A document whose strings are all text is text as a whole. -/
theorem exists_text_of_ofInput? {raw : Raw} (h : ofInput? cs = some raw) (ht : raw.IsText) :
    ∃ text : List Char, cs = text.map some := by
  unfold ofInput? at h
  split at h
  · next rest hread =>
    split at h
    · next hend =>
      cases h
      have hspace := textUpTo_skipSpace rest
      rw [List.isEmpty_iff.mp hend] at hspace
      obtain ⟨text, htext⟩ := (textUpTo_readValue _ hread ht).trans hspace
      exact ⟨text, htext.trans (List.append_nil _)⟩
    · cases h
  · cases h

end Raw
end Json
end ContainerRoster
