import SyntaxQuery.Text.Utf8

/-! Bytes that are text. Decoding succeeds on the encoding of a text and on nothing else: not on a character
in more bytes than it needs, not on surrogates, and not on what is cut off. -/
namespace SyntaxQuery

namespace Utf8

def Continues (b : UInt8) : Prop := 0x80 ≤ b.toNat ∧ b.toNat ≤ 0xBF

theorem isContinuation_iff (b : UInt8) : isContinuation b ↔ Continues b := by
  rw [isContinuation, beq_iff_eq, Continues]
  omega

/-- The bytes of one character, by how many they are. Of three, the second cannot be so small that two would
do, nor make a surrogate; of four, it cannot be so small that three would do, nor lead past the last
character. -/
inductive Spells : Bytes → Nat → Prop where
  | one {a : UInt8} : a.toNat < 0x80 → value = a.toNat → Spells [a] value
  | two {a b : UInt8} : 0xC2 ≤ a.toNat ∧ a.toNat ≤ 0xDF → Continues b →
      value = (a.toNat - 0xC0) * 64 + b.toNat % 64 → Spells [a, b] value
  | three {a b c : UInt8} : 0xE0 ≤ a.toNat ∧ a.toNat ≤ 0xEF → (a.toNat = 0xE0 → 0xA0 ≤ b.toNat) →
      (a.toNat = 0xED → b.toNat ≤ 0x9F) → Continues b → Continues c →
      value = ((a.toNat - 0xE0) * 64 + b.toNat % 64) * 64 + c.toNat % 64 → Spells [a, b, c] value
  | four {a b c d : UInt8} : 0xF0 ≤ a.toNat ∧ a.toNat ≤ 0xF4 → (a.toNat = 0xF0 → 0x90 ≤ b.toNat) →
      (a.toNat = 0xF4 → b.toNat ≤ 0x8F) → Continues b → Continues c → Continues d →
      value = (((a.toNat - 0xF0) * 64 + b.toNat % 64) * 64 + c.toNat % 64) * 64 + d.toNat % 64 →
      Spells [a, b, c, d] value

theorem Spells.isValidChar (spells : Spells bytes value) : value.isValidChar := by
  cases spells with
  | one | two | three | four =>
    simp only [Continues, Nat.isValidChar] at *
    omega

theorem toNat_ofNat (valid : value.isValidChar) : (Char.ofNat value).val.toNat = value := by
  rw [Char.ofNat, dif_pos valid]
  rfl

theorem ofNat_eq {b : UInt8} (same : value = b.toNat) : UInt8.ofNat value = b := by
  rw [same, UInt8.ofNat_toNat]

theorem Spells.encode_eq (spells : Spells bytes value) :
    String.utf8EncodeChar (Char.ofNat value) = bytes := by
  rw [String.utf8EncodeChar, toNat_ofNat spells.isValidChar]
  cases spells with
  | one ascii same => rw [if_pos (by omega), ofNat_eq same]
  | @two _ a b first second same =>
    rw [Continues] at second
    rw [if_neg (by omega), if_pos (by omega), ofNat_eq (b := a) (by omega), ofNat_eq (b := b) (by omega)]
  | @three _ a b c first least most second third same =>
    rw [Continues] at second third
    rw [if_neg (by omega), if_neg (by omega), if_pos (by omega), ofNat_eq (b := a) (by omega),
      ofNat_eq (b := b) (by omega), ofNat_eq (b := c) (by omega)]
  | @four _ a b c d first least most second third fourth same =>
    rw [Continues] at second third fourth
    rw [if_neg (by omega), if_neg (by omega), if_neg (by omega), ofNat_eq (b := a) (by omega),
      ofNat_eq (b := b) (by omega), ofNat_eq (b := c) (by omega), ofNat_eq (b := d) (by omega)]

theorem spells_encode (c : Char) : Spells (String.utf8EncodeChar c) c.toNat := by
  have valid : c.toNat.isValidChar := c.valid
  rw [Nat.isValidChar] at valid
  rw [String.utf8EncodeChar, show c.val.toNat = c.toNat from rfl]
  split
  · apply Spells.one <;> rw [UInt8.toNat_ofNat'] <;> omega
  split
  · apply Spells.two <;> simp only [Continues, UInt8.toNat_ofNat'] <;> omega
  split
  · apply Spells.three <;> simp only [Continues, UInt8.toNat_ofNat'] <;> omega
  · apply Spells.four <;> simp only [Continues, UInt8.toNat_ofNat'] <;> omega

/-- What a first byte announces: how many bytes follow, its own part of the value, and where the second byte
has to lie. -/
inductive Announces (a : UInt8) : Nat → Nat → Nat → Nat → Prop where
  | two : 0xC2 ≤ a.toNat ∧ a.toNat ≤ 0xDF → Announces a 1 (a.toNat - 0xC0) 0x80 0xBF
  | three : 0xE0 ≤ a.toNat ∧ a.toNat ≤ 0xEF → Announces a 2 (a.toNat - 0xE0)
      (if a.toNat = 0xE0 then 0xA0 else 0x80) (if a.toNat = 0xED then 0x9F else 0xBF)
  | four : 0xF0 ≤ a.toNat ∧ a.toNat ≤ 0xF4 → Announces a 3 (a.toNat - 0xF0)
      (if a.toNat = 0xF0 then 0x90 else 0x80) (if a.toNat = 0xF4 then 0x8F else 0xBF)

theorem Announces.announce_eq {a : UInt8} (announces : Announces a owed value low high) :
    announce a = some (owed, value, low, high) := by
  cases announces <;> grind [announce]

theorem announces_of_announce {a : UInt8} (announced : announce a = some (owed, value, low, high)) :
    Announces a owed value low high := by
  have range : (0xC2 ≤ a.toNat ∧ a.toNat ≤ 0xDF) ∨ (0xE0 ≤ a.toNat ∧ a.toNat ≤ 0xEF) ∨
      (0xF0 ≤ a.toNat ∧ a.toNat ≤ 0xF4) := by grind [announce]
  have only {owed' value' low' high' : Nat} (announces : Announces a owed' value' low' high') :
      Announces a owed value low high := by
    have same := announced.symm.trans announces.announce_eq
    simp only [Option.some.injEq, Prod.mk.injEq] at same
    obtain ⟨rfl, rfl, rfl, rfl⟩ := same
    exact announces
  rcases range with two | three | four
  · exact only (.two two)
  · exact only (.three three)
  · exact only (.four four)

theorem continuations_cons (continues : Continues b) :
    continuations (owed + 1) value (b :: rest) = continuations owed (value * 64 + b.toNat % 64) rest := by
  rw [continuations, if_pos ((isContinuation_iff b).mpr continues)]

theorem continues_of_scalar (scalar : continuations (owed + 1) value text = .scalar c rest) :
    ∃ b more, text = b :: more ∧ Continues b ∧
      continuations owed (value * 64 + b.toNat % 64) more = .scalar c rest := by
  cases text with
  | nil => cases scalar
  | cons b more =>
    rw [continuations] at scalar
    split at scalar
    next continues => exact ⟨b, more, rfl, (isContinuation_iff b).mp continues, scalar⟩
    · cases scalar

theorem continuations_ne_done (owed value : Nat) (text : Bytes) : continuations owed value text ≠ .done := by
  fun_induction continuations owed value text <;> simp_all

theorem next_first {a : UInt8} (announces : Announces a owed value low high)
    (within : low ≤ b.toNat ∧ b.toNat ≤ high) (rest : Bytes) :
    next (a :: b :: rest) = continuations (owed - 1) (value * 64 + b.toNat % 64) rest := by
  have wide : ¬a.toNat < 0x80 := by cases announces <;> omega
  simp only [next, announces.announce_eq]
  rw [if_neg wide, if_pos within]

theorem Spells.next_append (spells : Spells bytes value) (rest : Bytes) :
    next (bytes ++ rest) = .scalar (Char.ofNat value) rest := by
  cases spells with
  | one ascii same => simp [next, ascii, same]
  | @two _ a b first second same =>
    refine (next_first (.two first) second rest).trans ?_
    rw [same]
    rfl
  | @three _ a b c first least most second third same =>
    rw [Continues] at second
    refine (next_first (.three first) (by grind) (c :: rest)).trans ?_
    rw [continuations_cons third, same]
    rfl
  | @four _ a b c d first least most second third fourth same =>
    rw [Continues] at second
    refine (next_first (.four first) (by grind) (c :: d :: rest)).trans ?_
    rw [continuations_cons third, continuations_cons fourth, same]
    rfl

theorem spells_of_next (scalar : next text = .scalar c rest) :
    ∃ bytes value, text = bytes ++ rest ∧ Spells bytes value ∧ c = Char.ofNat value := by
  cases text with
  | nil => cases scalar
  | cons a text =>
  rw [next.eq_def] at scalar
  dsimp only at scalar
  split at scalar
  next ascii =>
    cases scalar
    exact ⟨[a], _, rfl, .one ascii rfl, rfl⟩
  split at scalar
  next owed value low high b more announced =>
    split at scalar
    next within =>
      cases announces_of_announce announced with
      | two first =>
        cases scalar
        exact ⟨[a, b], _, rfl, .two first within rfl, rfl⟩
      | three first =>
        obtain ⟨c, last, rfl, third, scalar⟩ := continues_of_scalar scalar
        cases scalar
        have second : Continues b := by grind [Continues]
        exact ⟨[a, b, c], _, rfl, .three first (by grind) (by grind) second third rfl, rfl⟩
      | four first =>
        obtain ⟨c, more, rfl, third, scalar⟩ := continues_of_scalar scalar
        obtain ⟨d, last, rfl, fourth, scalar⟩ := continues_of_scalar scalar
        cases scalar
        have second : Continues b := by grind [Continues]
        exact ⟨[a, b, c, d], _, rfl, .four first (by grind) (by grind) second third fourth rfl, rfl⟩
    · cases scalar
  · cases scalar

/-- Reading a character takes away exactly the bytes that encode it. -/
theorem next_eq_scalar_iff : next text = .scalar c rest ↔ text = String.utf8EncodeChar c ++ rest := by
  constructor
  · intro scalar
    obtain ⟨bytes, value, rfl, spells, rfl⟩ := spells_of_next scalar
    rw [spells.encode_eq]
  · rintro rfl
    rw [(spells_encode c).next_append, Char.ofNat_toNat]

theorem next_eq_done_iff : next text = .done ↔ text = [] := by
  fun_cases next text <;> simp [continuations_ne_done]

theorem decodeWithin_eq_some_iff (enough : text.length < fuel) :
    decodeWithin fuel text = some chars ↔ text = chars.flatMap String.utf8EncodeChar := by
  induction fuel generalizing text chars with
  | zero => exact absurd enough (Nat.not_lt_zero _)
  | succ fuel ih =>
    have fewer (c : Char) (rest : Bytes) (read : next text = .scalar c rest) : rest.length < fuel := by
      have taken : 0 < (String.utf8EncodeChar c).length :=
        List.length_pos_iff.mpr String.utf8EncodeChar_ne_nil
      rw [next_eq_scalar_iff.mp read, List.length_append] at enough
      omega
    cases chars with
    | nil =>
      rw [decodeWithin, List.flatMap_nil, ← next_eq_done_iff]
      cases next text <;> simp
    | cons c chars =>
      rw [decodeWithin, List.flatMap_cons, ← next_eq_scalar_iff]
      cases read : next text with
      | done | fault => simp
      | scalar first rest => simpa [ih (fewer first rest read)] using and_comm

end Utf8

theorem Bytes.toList_loop (bytes : ByteArray) (index : Nat) (read : List UInt8) :
    ByteArray.toList.loop bytes index read = read.reverse ++ bytes.data.toList.drop index := by
  fun_induction ByteArray.toList.loop bytes index read with
  | case1 index read inside ih =>
    have here : index < bytes.data.toList.length := by simpa using inside
    rw [ih, List.drop_eq_getElem_cons here]
    simp [ByteArray.get!, inside]
  | case2 index read outside =>
    rw [List.drop_eq_nil_of_le (by simpa using outside), List.append_nil]

theorem Bytes.ofString_ofList (chars : List Char) :
    ofString (String.ofList chars) = chars.flatMap String.utf8EncodeChar := by
  have bytes : (String.ofList chars).toByteArray = (chars.flatMap String.utf8EncodeChar).toByteArray := rfl
  rw [ofString, String.toUTF8_eq_toByteArray, bytes, ByteArray.toList, toList_loop,
    List.toList_data_toByteArray]
  rfl

/-- Bytes are read as a text if and only if they are the bytes of the text. -/
theorem Utf8.decode?_eq_some_iff {bytes : Bytes} {chars : List Char} :
    decode? bytes = some chars ↔ bytes = Bytes.ofString (String.ofList chars) := by
  rw [decode?, decodeWithin_eq_some_iff (Nat.lt_succ_self _), Bytes.ofString_ofList]

end SyntaxQuery
