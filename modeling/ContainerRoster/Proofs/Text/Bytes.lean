import ContainerRoster.FileSystem

/-!
# Text read back from its bytes

`decode_encode`: the bytes of a text decode to its characters, with no byte left that belongs to
none.  A character is spelled in one to four bytes, the first of which tells how many follow, so
the proof looks at one character at a time and leaves open what stands behind it.
-/

namespace ContainerRoster
namespace Utf8

/-! ## Bytes as a list -/

theorem toList_loop_eq (bytes : ByteArray) (i : Nat) (seen : List UInt8) :
    ByteArray.toList.loop bytes i seen = seen.reverse ++ bytes.data.toList.drop i := by
  fun_induction ByteArray.toList.loop bytes i seen with
  | case1 i seen hlt ih =>
    have hi : i < bytes.data.size := hlt
    have hdrop : bytes.data.toList.drop i = bytes.get! i :: bytes.data.toList.drop (i + 1) := by
      rw [List.drop_eq_getElem_cons hi, ByteArray.get!, getElem!_pos bytes.data i hi,
        Array.getElem_toList]
    rw [ih, hdrop, List.reverse_cons, List.append_assoc, List.singleton_append]
  | case2 i seen hge =>
    rw [List.drop_eq_nil_of_le (Nat.le_of_not_lt hge), List.append_nil]

theorem encode_eq_flatMap (text : String) :
    encode text = text.toList.flatMap String.utf8EncodeChar := by
  rw [encode, String.toUTF8_eq_toByteArray, ← String.utf8Encode_toList, ByteArray.toList,
    toList_loop_eq, List.utf8Encode, List.toList_data_toByteArray]
  rfl

/-! ## One character -/

theorem toNat_ofNat {n : Nat} (h : n < 256) : (UInt8.ofNat n).toNat = n :=
  UInt8.toNat_ofNat_of_lt' h

theorem continuation?_ofNat {x : Nat} (h : x < 64) :
    continuation? (UInt8.ofNat (x + 0x80)) = some x := by
  rw [continuation?, toNat_ofNat (by omega), if_pos (by omega), Nat.add_sub_cancel]

theorem scalar?_toNat {least : Nat} {c : Char} (h : least ≤ c.toNat) :
    scalar? least c.toNat = some c := by
  rw [scalar?, dif_pos ⟨h, c.valid⟩]
  rfl

section Spelled

variable {c : Char} {x y z w : Nat} {rest : List UInt8}

theorem spelled?_one (h : c.toNat < 0x80) :
    spelled? (UInt8.ofNat c.toNat) rest = some (c, 0) := by
  rw [spelled?, toNat_ofNat (by omega), if_pos h, scalar?_toNat (Nat.zero_le _)]
  rfl

theorem spelled?_two (hx : x < 0x20) (hy : y < 0x40) (hc : x * 64 + y = c.toNat)
    (hleast : 0x80 ≤ c.toNat) :
    spelled? (UInt8.ofNat (x + 0xc0)) (UInt8.ofNat (y + 0x80) :: rest) = some (c, 1) := by
  rw [spelled?, toNat_ofNat (by omega), if_neg (by omega), if_pos (by omega), Nat.add_sub_cancel]
  simp only [List.getElem?_cons_zero, Option.bind_eq_bind, Option.bind_some, continuation?_ofNat hy,
    hc, scalar?_toNat hleast]
  rfl

theorem spelled?_three (hx : x < 0x10) (hy : y < 0x40) (hz : z < 0x40)
    (hc : (x * 64 + y) * 64 + z = c.toNat) (hleast : 0x800 ≤ c.toNat) :
    spelled? (UInt8.ofNat (x + 0xe0))
        (UInt8.ofNat (y + 0x80) :: UInt8.ofNat (z + 0x80) :: rest) = some (c, 2) := by
  rw [spelled?, toNat_ofNat (by omega), if_neg (by omega), if_neg (by omega), if_pos (by omega),
    Nat.add_sub_cancel]
  simp only [List.getElem?_cons_zero, List.getElem?_cons_succ, Option.bind_eq_bind,
    Option.bind_some, continuation?_ofNat hy, continuation?_ofNat hz, hc, scalar?_toNat hleast]
  rfl

theorem spelled?_four (hx : x < 8) (hy : y < 0x40) (hz : z < 0x40) (hw : w < 0x40)
    (hc : ((x * 64 + y) * 64 + z) * 64 + w = c.toNat) (hleast : 0x10000 ≤ c.toNat) :
    spelled? (UInt8.ofNat (x + 0xf0)) (UInt8.ofNat (y + 0x80) :: UInt8.ofNat (z + 0x80) ::
        UInt8.ofNat (w + 0x80) :: rest) = some (c, 3) := by
  rw [spelled?, toNat_ofNat (by omega), if_neg (by omega), if_neg (by omega), if_neg (by omega),
    if_pos (by omega), Nat.add_sub_cancel]
  simp only [List.getElem?_cons_zero, List.getElem?_cons_succ, Option.bind_eq_bind,
    Option.bind_some, continuation?_ofNat hy, continuation?_ofNat hz, continuation?_ofNat hw, hc,
    scalar?_toNat hleast]
  rfl

end Spelled

theorem toNat_lt (c : Char) : c.toNat < 0x110000 := by
  have h := c.valid
  rw [UInt32.isValidChar, Nat.isValidChar] at h
  show c.val.toNat < _
  omega

/-- The bytes of a character spell it, whatever stands behind them. -/
theorem spelled?_utf8EncodeChar (c : Char) : ∃ lead tail,
    String.utf8EncodeChar c = lead :: tail ∧
      ∀ rest, spelled? lead (tail ++ rest) = some (c, tail.length) := by
  have hlt := toNat_lt c
  rw [String.utf8EncodeChar]
  simp only [Char.toNat_val]
  by_cases h1 : c.toNat ≤ 0x7f
  · rw [if_pos h1]
    exact ⟨_, _, rfl, fun rest => spelled?_one (by omega)⟩
  by_cases h2 : c.toNat ≤ 0x7ff
  · rw [if_neg h1, if_pos h2]
    exact ⟨_, _, rfl, fun rest => spelled?_two (by omega) (by omega) (by omega) (by omega)⟩
  by_cases h3 : c.toNat ≤ 0xffff
  · rw [if_neg h1, if_neg h2, if_pos h3]
    exact ⟨_, _, rfl, fun rest =>
      spelled?_three (by omega) (by omega) (by omega) (by omega) (by omega)⟩
  · rw [if_neg h1, if_neg h2, if_neg h3]
    exact ⟨_, _, rfl, fun rest =>
      spelled?_four (by omega) (by omega) (by omega) (by omega) (by omega) (by omega)⟩

theorem decode_utf8EncodeChar_append (c : Char) (rest : List UInt8) :
    decode (String.utf8EncodeChar c ++ rest) = some c :: decode rest := by
  obtain ⟨lead, tail, he, hs⟩ := spelled?_utf8EncodeChar c
  rw [he, List.cons_append, decode, hs]
  dsimp only
  rw [List.drop_left]

theorem decode_encode (text : String) : decode (encode text) = text.toList.map some := by
  rw [encode_eq_flatMap]
  induction text.toList with
  | nil => rw [List.flatMap_nil, decode, List.map_nil]
  | cons c rest ih => rw [List.flatMap_cons, decode_utf8EncodeChar_append, ih, List.map_cons]

theorem whole?_map_some (cs : List Char) : whole? (cs.map some) = some cs := by
  induction cs with
  | nil => rfl
  | cons c rest ih => rw [List.map_cons, whole?, ih, Option.map_some]

theorem text?_encode (text : String) : text? (encode text) = some text.toList := by
  rw [text?, decode_encode, whole?_map_some]

/-! ## Back to the bytes -/

theorem toNat_of_scalar? {least n : Nat} {c : Char} (h : scalar? least n = some c) :
    least ≤ n ∧ c.toNat = n := by
  by_cases hn : least ≤ n ∧ n.isValidChar
  · rw [scalar?, dif_pos hn] at h
    cases h
    exact ⟨hn.1, rfl⟩
  · rw [scalar?, dif_neg hn] at h
    cases h

theorem continuation?_eq_some {b : UInt8} {x : Nat} (h : continuation? b = some x) :
    x < 64 ∧ b.toNat = x + 0x80 := by
  unfold continuation? at h
  split at h
  · have hx := Option.some.inj h
    omega
  · cases h

/-- A byte that goes on with a character is the next one of those left. -/
theorem exists_of_getElem?_bind {rest : List UInt8} {k x : Nat}
    (h : (rest[k]? >>= continuation?) = some x) :
    ∃ b, rest[k]? = some b ∧ x < 64 ∧ b.toNat = x + 0x80 := by
  obtain ⟨b, hb, hx⟩ := Option.bind_eq_some_iff.mp h
  exact ⟨b, hb, continuation?_eq_some hx⟩

theorem eq_ofNat {b : UInt8} {n : Nat} (h : b.toNat = n) : UInt8.ofNat n = b := by
  rw [← h, UInt8.ofNat_toNat]

theorem take_succ_of_getElem? {rest : List UInt8} {k : Nat} {b : UInt8} (h : rest[k]? = some b) :
    rest.take (k + 1) = rest.take k ++ [b] := by
  rw [List.take_add_one, h]
  rfl

section Encoded

variable {c : Char} {lead b b' b'' : UInt8} {x y z : Nat}

theorem utf8EncodeChar_two (hlead : 0xC0 ≤ lead.toNat ∧ lead.toNat < 0xE0)
    (hb : x < 64 ∧ b.toNat = x + 0x80) (hc : c.toNat = (lead.toNat - 0xC0) * 64 + x)
    (hleast : 0x80 ≤ c.toNat) : String.utf8EncodeChar c = [lead, b] := by
  rw [String.utf8EncodeChar]
  simp only [Char.toNat_val]
  rw [if_neg (by omega), if_pos (by omega), eq_ofNat (b := lead) (by omega),
    eq_ofNat (b := b) (by omega)]

theorem utf8EncodeChar_three (hlead : 0xE0 ≤ lead.toNat ∧ lead.toNat < 0xF0)
    (hb : x < 64 ∧ b.toNat = x + 0x80) (hb' : y < 64 ∧ b'.toNat = y + 0x80)
    (hc : c.toNat = ((lead.toNat - 0xE0) * 64 + x) * 64 + y) (hleast : 0x800 ≤ c.toNat) :
    String.utf8EncodeChar c = [lead, b, b'] := by
  rw [String.utf8EncodeChar]
  simp only [Char.toNat_val]
  rw [if_neg (by omega), if_neg (by omega), if_pos (by omega), eq_ofNat (b := lead) (by omega),
    eq_ofNat (b := b) (by omega), eq_ofNat (b := b') (by omega)]

theorem utf8EncodeChar_four (hlead : 0xF0 ≤ lead.toNat ∧ lead.toNat < 0xF8)
    (hb : x < 64 ∧ b.toNat = x + 0x80) (hb' : y < 64 ∧ b'.toNat = y + 0x80)
    (hb'' : z < 64 ∧ b''.toNat = z + 0x80)
    (hc : c.toNat = (((lead.toNat - 0xF0) * 64 + x) * 64 + y) * 64 + z)
    (hleast : 0x10000 ≤ c.toNat) : String.utf8EncodeChar c = [lead, b, b', b''] := by
  rw [String.utf8EncodeChar]
  simp only [Char.toNat_val]
  rw [if_neg (by omega), if_neg (by omega), if_neg (by omega), eq_ofNat (b := lead) (by omega),
    eq_ofNat (b := b) (by omega), eq_ofNat (b := b') (by omega), eq_ofNat (b := b'') (by omega)]

end Encoded

/-- What is read as a character are its bytes and no others. -/
theorem utf8EncodeChar_of_spelled? {lead : UInt8} {rest : List UInt8} {c : Char} {used : Nat}
    (h : spelled? lead rest = some (c, used)) :
    String.utf8EncodeChar c = lead :: rest.take used := by
  rw [spelled?] at h
  simp only [Option.bind_eq_bind, Option.pure_def] at h
  split at h
  · obtain ⟨d, hd, he⟩ := Option.map_eq_some_iff.mp h
    cases he
    obtain ⟨-, hc⟩ := toNat_of_scalar? hd
    rw [List.take_zero, String.utf8EncodeChar, if_pos (by rw [Char.toNat_val]; omega)]
    rw [Char.toNat_val, eq_ofNat hc.symm]
  split at h
  · next hlead =>
    obtain ⟨x, hx, h⟩ := Option.bind_eq_some_iff.mp h
    obtain ⟨d, hd, he⟩ := Option.bind_eq_some_iff.mp h
    cases he
    obtain ⟨b, hb, hbx⟩ := exists_of_getElem?_bind hx
    obtain ⟨hleast, hc⟩ := toNat_of_scalar? hd
    rw [take_succ_of_getElem? hb]
    exact utf8EncodeChar_two hlead hbx hc (hc ▸ hleast)
  split at h
  · next hlead =>
    obtain ⟨x, hx, h⟩ := Option.bind_eq_some_iff.mp h
    obtain ⟨y, hy, h⟩ := Option.bind_eq_some_iff.mp h
    obtain ⟨d, hd, he⟩ := Option.bind_eq_some_iff.mp h
    cases he
    obtain ⟨b, hb, hbx⟩ := exists_of_getElem?_bind hx
    obtain ⟨b', hb', hby⟩ := exists_of_getElem?_bind hy
    obtain ⟨hleast, hc⟩ := toNat_of_scalar? hd
    rw [take_succ_of_getElem? hb', take_succ_of_getElem? hb]
    exact utf8EncodeChar_three hlead hbx hby hc (hc ▸ hleast)
  split at h
  · next hlead =>
    obtain ⟨x, hx, h⟩ := Option.bind_eq_some_iff.mp h
    obtain ⟨y, hy, h⟩ := Option.bind_eq_some_iff.mp h
    obtain ⟨z, hz, h⟩ := Option.bind_eq_some_iff.mp h
    obtain ⟨d, hd, he⟩ := Option.bind_eq_some_iff.mp h
    cases he
    obtain ⟨b, hb, hbx⟩ := exists_of_getElem?_bind hx
    obtain ⟨b', hb', hby⟩ := exists_of_getElem?_bind hy
    obtain ⟨b'', hb'', hbz⟩ := exists_of_getElem?_bind hz
    obtain ⟨hleast, hc⟩ := toNat_of_scalar? hd
    rw [take_succ_of_getElem? hb'', take_succ_of_getElem? hb', take_succ_of_getElem? hb]
    exact utf8EncodeChar_four hlead hbx hby hbz hc (hc ▸ hleast)
  · cases h

/-- Bytes are text exactly if they are the bytes of it. -/
theorem text?_eq_some_iff {bytes : List UInt8} {cs : List Char} :
    text? bytes = some cs ↔ bytes = encode (String.ofList cs) := by
  refine ⟨fun h => ?_, fun h => by rw [h, text?_encode, String.toList_ofList]⟩
  rw [text?] at h
  rw [encode_eq_flatMap, String.toList_ofList]
  fun_induction decode bytes generalizing cs with
  | case1 =>
    cases h
    rfl
  | case2 lead rest c used hspelled ih =>
    obtain ⟨later, hlater, rfl⟩ := Option.map_eq_some_iff.mp h
    rw [List.flatMap_cons, utf8EncodeChar_of_spelled? hspelled, List.cons_append, ← ih hlater,
      List.take_append_drop]
  | case3 => cases h

theorem text?_eq_none_iff {bytes : List UInt8} :
    text? bytes = none ↔ ∀ text, bytes ≠ encode text := by
  rw [Option.eq_none_iff_forall_ne_some]
  simp only [ne_eq, text?_eq_some_iff]
  exact ⟨fun h text => by simpa using h text.toList, fun h cs => h (String.ofList cs)⟩

theorem readText_eq_ok_iff {files : FileSystem} {path : String} {cs : List Char} :
    files.readText path = .ok cs ↔ files.read path = .ok (encode (String.ofList cs)) := by
  rw [FileSystem.readText]
  cases files.read path with
  | error cause => simp
  | ok bytes =>
    dsimp only
    rw [Except.ok.injEq, ← text?_eq_some_iff]
    cases text? bytes <;> simp

theorem readText_of_read {files : FileSystem} {path text : String}
    (h : files.read path = .ok (encode text)) : files.readText path = .ok text.toList := by
  rw [FileSystem.readText, h]
  simp only [text?_encode]

end Utf8
end ContainerRoster
