import Mathlib.Tactic.Common
import TypedClient.Text.Utf8

/-!
# Text as bytes

The reader of characters takes the bytes of a character for it, and nothing else. So a run
of bytes is read as a text exactly if it is what that text is written as, and it is no text
at all if no text is written so.
-/

namespace TypedClient.Text.Utf8

/-! ### Bytes as numbers -/

theorem isTail_iff {b : UInt8} : isTail b = true ↔ 0x80 ≤ b.toNat ∧ b.toNat ≤ 0xBF := by
  simp [isTail, UInt8.le_iff_toNat_le]

theorem isSecondOfThree_iff {a b : UInt8} :
    isSecondOfThree a b = true ↔
      0xE0 ≤ a.toNat ∧ a.toNat ≤ 0xEF ∧ 0x80 ≤ b.toNat ∧ b.toNat ≤ 0xBF ∧
        (a.toNat = 0xE0 → 0xA0 ≤ b.toNat) ∧ (a.toNat = 0xED → b.toNat ≤ 0x9F) := by
  simp only [isSecondOfThree, beq_iff_eq, ← UInt8.toNat_inj]
  split
  · next h => simp [UInt8.le_iff_toNat_le] at h ⊢; omega
  · split
    · next h => simp [UInt8.le_iff_toNat_le] at h ⊢; omega
    · next h h' => simp [UInt8.le_iff_toNat_le, isTail_iff] at h h' ⊢; omega

theorem isSecondOfFour_iff {a b : UInt8} :
    isSecondOfFour a b = true ↔
      0xF0 ≤ a.toNat ∧ a.toNat ≤ 0xF4 ∧ 0x80 ≤ b.toNat ∧ b.toNat ≤ 0xBF ∧
        (a.toNat = 0xF0 → 0x90 ≤ b.toNat) ∧ (a.toNat = 0xF4 → b.toNat ≤ 0x8F) := by
  simp only [isSecondOfFour, beq_iff_eq, ← UInt8.toNat_inj]
  split
  · next h => simp [UInt8.le_iff_toNat_le] at h ⊢; omega
  · split
    · next h => simp [UInt8.le_iff_toNat_le] at h ⊢; omega
    · next h h' => simp [UInt8.le_iff_toNat_le, isTail_iff] at h h' ⊢; omega

/-! ### The first character -/

/-- A run of bytes that starts with the bytes of a character, one to four. -/
inductive Starts : List UInt8 → Char → Nat → Prop where
  /-- One byte. -/
  | one {a : UInt8} {rest : List UInt8} (ha : a.toNat < 0x80) :
    Starts (a :: rest) (Char.ofNat a.toNat) 1
  /-- Two bytes. -/
  | two {a b : UInt8} {rest : List UInt8} (ha : 0xC2 ≤ a.toNat ∧ a.toNat ≤ 0xDF)
    (hb : isTail b = true) :
    Starts (a :: b :: rest) (Char.ofNat (a.toNat % 32 * 64 + b.toNat % 64)) 2
  /-- Three bytes. -/
  | three {a b c : UInt8} {rest : List UInt8} (hb : isSecondOfThree a b = true)
    (hc : isTail c = true) :
    Starts (a :: b :: c :: rest)
      (Char.ofNat ((a.toNat % 16 * 64 + b.toNat % 64) * 64 + c.toNat % 64)) 3
  /-- Four bytes. -/
  | four {a b c d : UInt8} {rest : List UInt8} (hb : isSecondOfFour a b = true)
    (hc : isTail c = true) (hd : isTail d = true) :
    Starts (a :: b :: c :: d :: rest)
      (Char.ofNat (((a.toNat % 8 * 64 + b.toNat % 64) * 64 + c.toNat % 64) * 64 + d.toNat % 64)) 4

/-- A byte that is missing continues no character. -/
theorem not_isTail_zero : isTail 0 = false := by decide

theorem not_isSecondOfThree_zero {a : UInt8} : ¬ isSecondOfThree a 0 = true := by
  simp [isSecondOfThree_iff]

theorem not_isSecondOfFour_zero {a : UInt8} : ¬ isSecondOfFour a 0 = true := by
  simp [isSecondOfFour_iff]

/-- What is read of the first character is the character that the bytes start with. -/
theorem first?_eq_some_iff {bytes : List UInt8} {c : Char} {n : Nat} :
    first? bytes = some (c, n) ↔ Starts bytes c n := by
  constructor
  · intro h
    cases bytes with
    | nil => simp [first?] at h
    | cons a rest =>
      simp only [first?, Bool.and_eq_true, decide_eq_true_eq, UInt8.lt_iff_toNat_lt,
        UInt8.le_iff_toNat_le] at h
      split at h
      · next ha =>
        cases h
        exact .one ha
      · split at h
        · next htwo =>
          cases h
          cases rest with
          | nil => simp [not_isTail_zero] at htwo
          | cons b rest => exact .two htwo.1 htwo.2
        · split at h
          · next hthree =>
            cases h
            match rest, hthree with
            | [], hthree => exact absurd hthree.1 not_isSecondOfThree_zero
            | [b], hthree => simp [not_isTail_zero] at hthree
            | b :: c :: rest, hthree => exact .three hthree.1 hthree.2
          · split at h
            · next hfour =>
              cases h
              match rest, hfour with
              | [], hfour => exact absurd hfour.1.1 not_isSecondOfFour_zero
              | [b], hfour => simp [not_isTail_zero] at hfour
              | [b, c], hfour => simp [not_isTail_zero] at hfour
              | b :: c :: d :: rest, hfour => exact .four hfour.1.1 hfour.1.2 hfour.2
            · cases h
  · intro h
    cases h with
    | one ha => simp [first?, UInt8.lt_iff_toNat_lt, ha]
    | @two a b rest ha hb =>
      have hone : 128 ≤ a.toNat := by omega
      simp [first?, UInt8.lt_iff_toNat_lt, UInt8.le_iff_toNat_le, hone, ha, hb, extend]
    | @three a b c rest hb hc =>
      have ha := isSecondOfThree_iff.mp hb
      have hone : 128 ≤ a.toNat := by omega
      have htwo : ¬ a.toNat ≤ 223 := by omega
      simp [first?, UInt8.lt_iff_toNat_lt, UInt8.le_iff_toNat_le, hone, htwo, hb, hc, extend]
    | @four a b c d rest hb hc hd =>
      have ha := isSecondOfFour_iff.mp hb
      have hone : 128 ≤ a.toNat := by omega
      have htwo : ¬ a.toNat ≤ 223 := by omega
      have hthree : ¬ isSecondOfThree a b = true := by
        rw [isSecondOfThree_iff]
        omega
      simp [first?, UInt8.lt_iff_toNat_lt, UInt8.le_iff_toNat_le, hone, htwo, hthree, hb, hc, hd,
        extend]

/-- The bytes of a character, and what comes after them, start with that character. -/
theorem starts_utf8EncodeChar_append (c : Char) (rest : List UInt8) :
    Starts (String.utf8EncodeChar c ++ rest) c (String.utf8EncodeChar c).length := by
  have hvalid : c.val.toNat < 0xD800 ∨ 0xDFFF < c.val.toNat ∧ c.val.toNat < 0x110000 := c.valid
  have hbyte (n : Nat) (hn : n < 256) : (UInt8.ofNat n).toNat = n := UInt8.toNat_ofNat_of_lt' hn
  have hc (n : Nat) (hn : n = c.val.toNat) : Char.ofNat n = c := hn ▸ Char.ofNat_toNat c
  rw [String.utf8EncodeChar]
  split_ifs with hone htwo hthree
  · have h := @Starts.one (UInt8.ofNat c.val.toNat) rest
    rw [hbyte _ (by omega), hc _ rfl] at h
    exact h (by omega)
  · have h := @Starts.two (UInt8.ofNat (c.val.toNat / 64 % 32 + 192))
      (UInt8.ofNat (c.val.toNat % 64 + 128)) rest
    rw [isTail_iff, hbyte _ (by omega), hbyte _ (by omega), hc _ (by omega)] at h
    exact h (by omega) (by omega)
  · have h := @Starts.three (UInt8.ofNat (c.val.toNat / 4096 % 16 + 224))
      (UInt8.ofNat (c.val.toNat / 64 % 64 + 128)) (UInt8.ofNat (c.val.toNat % 64 + 128)) rest
    rw [isSecondOfThree_iff, isTail_iff, hbyte _ (by omega), hbyte _ (by omega), hbyte _ (by omega),
      hc _ (by omega)] at h
    exact h (by omega) (by omega)
  · have h := @Starts.four (UInt8.ofNat (c.val.toNat / 262144 % 8 + 240))
      (UInt8.ofNat (c.val.toNat / 4096 % 64 + 128)) (UInt8.ofNat (c.val.toNat / 64 % 64 + 128))
      (UInt8.ofNat (c.val.toNat % 64 + 128)) rest
    rw [isSecondOfFour_iff, isTail_iff, isTail_iff, hbyte _ (by omega), hbyte _ (by omega),
      hbyte _ (by omega), hbyte _ (by omega), hc _ (by omega)] at h
    exact h (by omega) (by omega) (by omega)

/-- A code point that is no surrogate is that of its character. -/
theorem toNat_ofNat {n : Nat} (h : n < 0xD800 ∨ 0xDFFF < n ∧ n < 0x110000) :
    (Char.ofNat n).val.toNat = n := by
  have hvalid : n.isValidChar := h
  rw [Char.ofNat, dif_pos hvalid]
  rfl

/-- A byte is known by its number. -/
theorem ofNat_eq_of_toNat {a : UInt8} {n : Nat} (h : n = a.toNat) : UInt8.ofNat n = a := by
  rw [h, UInt8.ofNat_toNat]

/-- A character that bytes start with is there with all its bytes. -/
theorem Starts.exists_append {bytes : List UInt8} {c : Char} {n : Nat} (h : Starts bytes c n) :
    ∃ rest, bytes = String.utf8EncodeChar c ++ rest ∧ n = (String.utf8EncodeChar c).length := by
  cases h with
  | @one a rest ha =>
    refine ⟨rest, ?_⟩
    rw [String.utf8EncodeChar, toNat_ofNat (by omega), if_pos (by omega), UInt8.ofNat_toNat]
    exact ⟨rfl, rfl⟩
  | @two a b rest ha hb =>
    rw [isTail_iff] at hb
    refine ⟨rest, ?_⟩
    rw [String.utf8EncodeChar, toNat_ofNat (by omega), if_neg (by omega), if_pos (by omega),
      ofNat_eq_of_toNat (a := a) (by omega), ofNat_eq_of_toNat (a := b) (by omega)]
    exact ⟨rfl, rfl⟩
  | @three a b c rest hb hc =>
    rw [isTail_iff] at hc
    rw [isSecondOfThree_iff] at hb
    refine ⟨rest, ?_⟩
    rw [String.utf8EncodeChar, toNat_ofNat (by omega), if_neg (by omega), if_neg (by omega),
      if_pos (by omega), ofNat_eq_of_toNat (a := a) (by omega),
      ofNat_eq_of_toNat (a := b) (by omega), ofNat_eq_of_toNat (a := c) (by omega)]
    exact ⟨rfl, rfl⟩
  | @four a b c d rest hb hc hd =>
    rw [isTail_iff] at hc hd
    rw [isSecondOfFour_iff] at hb
    refine ⟨rest, ?_⟩
    rw [String.utf8EncodeChar, toNat_ofNat (by omega), if_neg (by omega), if_neg (by omega),
      if_neg (by omega), ofNat_eq_of_toNat (a := a) (by omega),
      ofNat_eq_of_toNat (a := b) (by omega), ofNat_eq_of_toNat (a := c) (by omega),
      ofNat_eq_of_toNat (a := d) (by omega)]
    exact ⟨rfl, rfl⟩

/-! ### All characters -/

/-- The bytes that belong to the character just read are passed over. -/
theorem go_length_append (front rest : List UInt8) :
    decode?.go front.length (front ++ rest) = decode? rest := by
  induction front with
  | nil => rfl
  | cons b front ih => rw [List.length_cons, List.cons_append, decode?.go, ih]

/-- A character is read, and then the characters after its bytes. -/
theorem decode?_utf8EncodeChar_append (c : Char) (rest : List UInt8) :
    decode? (String.utf8EncodeChar c ++ rest) = (decode? rest).map (c :: ·) := by
  have hfirst := first?_eq_some_iff.mpr (starts_utf8EncodeChar_append c rest)
  obtain ⟨b, front, hb⟩ := List.exists_cons_of_ne_nil (String.utf8EncodeChar_ne_nil (c := c))
  rw [hb, List.cons_append] at hfirst ⊢
  rw [decode?, decode?.go, hfirst]
  dsimp only
  rw [List.length_cons, Nat.add_sub_cancel, go_length_append]

/-- Where bytes are read as a text, they are those of its first character and then the rest. -/
theorem exists_of_decode?_eq_some {bytes : List UInt8} {text : List Char}
    (h : decode? bytes = some text) (hne : bytes ≠ []) :
    ∃ c rest tail, bytes = String.utf8EncodeChar c ++ rest ∧ text = c :: tail ∧
      decode? rest = some tail := by
  obtain ⟨b, after, rfl⟩ := List.exists_cons_of_ne_nil hne
  cases hfirst : first? (b :: after) with
  | none => simp [decode?, decode?.go, hfirst] at h
  | some read =>
    obtain ⟨rest, hrest, -⟩ := (first?_eq_some_iff.mp hfirst).exists_append
    rw [hrest, decode?_utf8EncodeChar_append, Option.map_eq_some_iff] at h
    obtain ⟨tail, htail, rfl⟩ := h
    exact ⟨read.1, rest, tail, hrest, rfl, htail⟩

/-- A run of bytes is read as a text exactly if it is that text, each character in its bytes. -/
theorem decode?_eq_some_iff {bytes : List UInt8} {text : List Char} :
    decode? bytes = some text ↔ bytes = text.flatMap String.utf8EncodeChar := by
  constructor
  · intro h
    induction text generalizing bytes with
    | nil =>
      by_contra hne
      obtain ⟨c, rest, tail, -, htext, -⟩ := exists_of_decode?_eq_some h hne
      cases htext
    | cons c text ih =>
      have hne : bytes ≠ [] := by
        rintro rfl
        cases h
      obtain ⟨d, rest, tail, rfl, htext, hrest⟩ := exists_of_decode?_eq_some h hne
      cases htext
      rw [List.flatMap_cons, ih hrest]
  · rintro rfl
    induction text with
    | nil => rfl
    | cons c text ih => rw [List.flatMap_cons, decode?_utf8EncodeChar_append, ih, Option.map_some]

/-! ### Texts -/

private theorem toList_loop (bytes : ByteArray) (i : Nat) (before : List UInt8) :
    ByteArray.toList.loop bytes i before = before.reverse ++ bytes.data.toList.drop i := by
  fun_induction ByteArray.toList.loop bytes i before with
  | case1 i before hi ih =>
    have hlt : i < bytes.data.toList.length := by simpa using hi
    have hget : bytes.get! i = bytes.data.toList[i] := by simp [ByteArray.get!, getElem!_pos, hi]
    rw [ih, List.reverse_cons, List.append_assoc, List.singleton_append, hget,
      ← List.drop_eq_getElem_cons hlt]
  | case2 i before hi =>
    have hsize : bytes.data.toList.length ≤ i := by simpa using hi
    rw [List.drop_of_length_le hsize, List.append_nil]

/-- A text is written as the bytes of its characters. -/
theorem toList_toUTF8 (text : String) :
    text.toUTF8.toList = text.toList.flatMap String.utf8EncodeChar := by
  rw [String.toUTF8_eq_toByteArray, ByteArray.toList, toList_loop, ← String.utf8Encode_toList,
    List.utf8Encode, List.toList_data_toByteArray, List.reverse_nil, List.nil_append,
    List.drop_zero]

/-- A text is read of exactly what it is written as. -/
theorem decode?_eq_some_toList_iff {bytes : List UInt8} {text : String} :
    decode? bytes = some text.toList ↔ bytes = text.toUTF8.toList := by
  rw [toList_toUTF8, decode?_eq_some_iff]

@[simp] theorem decode?_toList_toUTF8 (text : String) :
    decode? text.toUTF8.toList = some text.toList :=
  decode?_eq_some_toList_iff.mpr rfl

/-- What no text is written as is no text. -/
theorem decode?_eq_none_iff {bytes : List UInt8} :
    decode? bytes = none ↔ ∀ text : String, bytes ≠ text.toUTF8.toList := by
  simp only [Option.eq_none_iff_forall_ne_some, ne_eq, ← decode?_eq_some_toList_iff]
  refine ⟨fun h text => h text.toList, fun h text => ?_⟩
  have hofList := h (String.ofList text)
  rwa [String.toList_ofList] at hofList

end TypedClient.Text.Utf8
