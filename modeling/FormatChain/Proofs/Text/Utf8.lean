import FormatChain.Text.Utf8

/-!
# Texts come back from their bytes

Reading the bytes of a text as UTF-8 gives the text back, so that a file holds what was written to
it.

* `utf8Step_encodeChar` : the bytes of one character are read as that character.
* `decodeUtf8_encodeUtf8` : the bytes of a text are read as that text.
-/

namespace FormatChain.Text

/-! ## Bytes as numbers -/

theorem toNat_byte {n : Nat} (h : n < 256) : (UInt8.ofNat n).toNat = n :=
  (UInt8.toNat_ofNat' ..).trans (Nat.mod_eq_of_lt h)

theorem sequenceLength_eq (b : UInt8) :
    sequenceLength b =
      if b.toNat < 128 then 1
      else if 194 ≤ b.toNat ∧ b.toNat ≤ 223 then 2
      else if 224 ≤ b.toNat ∧ b.toNat ≤ 239 then 3
      else if 240 ≤ b.toNat ∧ b.toNat ≤ 244 then 4
      else 0 := by
  simp only [sequenceLength, UInt8.lt_iff_toNat_lt, UInt8.le_iff_toNat_le, Bool.and_eq_true,
    decide_eq_true_eq, UInt8.reduceToNat]

theorem secondByteRange_eq (b : UInt8) :
    secondByteRange b =
      (if b.toNat = 224 then 160 else if b.toNat = 240 then 144 else 128,
       if b.toNat = 237 then 159 else if b.toNat = 244 then 143 else 191) := by
  simp only [secondByteRange, ← UInt8.toNat_inj, UInt8.reduceToNat]
  grind

theorem isContinuation_byte {n : Nat} (h : n < 64) :
    isContinuation (UInt8.ofNat (n + 128)) = true := by
  simp only [isContinuation, UInt8.le_iff_toNat_le, toNat_byte (show n + 128 < 256 by omega),
    Bool.and_eq_true, decide_eq_true_eq, UInt8.reduceToNat]
  omega

/-- A lead byte and a second byte in its range start a character, or most of one. -/
theorem utf8Step_two {lead second wanted : Nat} (rest : List UInt8) (hl : lead < 256)
    (hs : second < 64) (hlen : sequenceLength (UInt8.ofNat lead) = wanted) (hw : 2 ≤ wanted)
    (hlow : lead = 224 → 32 ≤ second) (hlow' : lead = 240 → 16 ≤ second)
    (hhigh : lead = 237 → second < 32) (hhigh' : lead = 244 → second < 16) :
    utf8Step (UInt8.ofNat lead) (UInt8.ofNat (second + 128) :: rest) =
      continueSequence
        (lead % (if wanted = 2 then 32 else if wanted = 3 then 16 else 8) * 64 + second) 2 wanted
        rest := by
  have hin : (secondByteRange (UInt8.ofNat lead)).1 ≤ UInt8.ofNat (second + 128) ∧
      UInt8.ofNat (second + 128) ≤ (secondByteRange (UInt8.ofNat lead)).2 := by
    simp only [secondByteRange_eq, UInt8.le_iff_toNat_le, toNat_byte hl,
      toNat_byte (show second + 128 < 256 by omega)]
    constructor
    · split
      · simp; omega
      · split
        · simp; omega
        · simp
    · split
      · simp; omega
      · split <;> simp <;> omega
  obtain ⟨w, rfl⟩ : ∃ w, wanted = w + 2 := ⟨wanted - 2, by omega⟩
  simp only [utf8Step, hlen, hin, toNat_byte hl, toNat_byte (show second + 128 < 256 by omega),
    decide_true, Bool.and_self, if_true, Nat.add_sub_cancel]

/-- Every further byte of a character adds its six bits. -/
theorem continueSequence_byte {code done wanted n : Nat} (rest : List UInt8) (h : n < 64)
    (hd : done < wanted) :
    continueSequence code done wanted (UInt8.ofNat (n + 128) :: rest) =
      continueSequence (code * 64 + n) (done + 1) wanted rest := by
  simp only [continueSequence, Nat.ne_of_lt hd, isContinuation_byte h,
    toNat_byte (show n + 128 < 256 by omega), if_true, if_false, Nat.add_sub_cancel]

theorem continueSequence_done (code wanted : Nat) (rest : List UInt8) :
    continueSequence code wanted wanted rest = .char code wanted := by
  cases rest <;> simp [continueSequence]

/-! ## One character -/

/-- The bytes of a character, by its number. -/
theorem utf8EncodeChar_eq (c : Char) :
    String.utf8EncodeChar c =
      if c.toNat ≤ 0x7f then [UInt8.ofNat c.toNat]
      else if c.toNat ≤ 0x7ff then
        [UInt8.ofNat (c.toNat / 64 % 32 + 192), UInt8.ofNat (c.toNat % 64 + 128)]
      else if c.toNat ≤ 0xffff then
        [UInt8.ofNat (c.toNat / 4096 % 16 + 224), UInt8.ofNat (c.toNat / 64 % 64 + 128),
          UInt8.ofNat (c.toNat % 64 + 128)]
      else
        [UInt8.ofNat (c.toNat / 262144 % 8 + 240), UInt8.ofNat (c.toNat / 4096 % 64 + 128),
          UInt8.ofNat (c.toNat / 64 % 64 + 128), UInt8.ofNat (c.toNat % 64 + 128)] := by
  rw [String.utf8EncodeChar]
  rfl

variable {n : Nat} (rest : List UInt8)

/-- A small number is a character of its own byte. -/
theorem utf8Step_small (h : n ≤ 0x7f) : utf8Step (UInt8.ofNat n) rest = .char n 1 := by
  have hlen : sequenceLength (UInt8.ofNat n) = 1 := by
    rw [sequenceLength_eq, toNat_byte (by omega), if_pos (by omega)]
  simp only [utf8Step, hlen, toNat_byte (show n < 256 by omega)]

/-- Two bytes with the bits of a number are read as it. -/
theorem utf8Step_ofTwo (h : 0x7f < n) (h' : n ≤ 0x7ff) :
    utf8Step (UInt8.ofNat (n / 64 % 32 + 192)) (UInt8.ofNat (n % 64 + 128) :: rest) =
      .char n 2 := by
  have hlen : sequenceLength (UInt8.ofNat (n / 64 % 32 + 192)) = 2 := by
    rw [sequenceLength_eq, toNat_byte (by omega), if_neg (by omega), if_pos (by omega)]
  rw [utf8Step_two rest (by omega) (by omega) hlen (by omega) (by omega) (by omega) (by omega)
    (by omega), continueSequence_done, if_pos rfl]
  congr 1
  omega

/-- Three bytes with the bits of a number are read as it, unless it stands for half a
character. -/
theorem utf8Step_ofThree (h : 0x7ff < n) (h' : n ≤ 0xffff) (hc : n < 0xD800 ∨ 0xDFFF < n) :
    utf8Step (UInt8.ofNat (n / 4096 % 16 + 224))
        (UInt8.ofNat (n / 64 % 64 + 128) :: UInt8.ofNat (n % 64 + 128) :: rest) =
      .char n 3 := by
  have hlen : sequenceLength (UInt8.ofNat (n / 4096 % 16 + 224)) = 3 := by
    rw [sequenceLength_eq, toNat_byte (by omega), if_neg (by omega), if_neg (by omega),
      if_pos (by omega)]
  rw [utf8Step_two _ (by omega) (by omega) hlen (by omega) (by omega) (by omega) (by omega)
    (by omega), continueSequence_byte _ (by omega) (by omega), continueSequence_done,
    if_neg (by omega), if_pos rfl]
  congr 1
  omega

/-- Four bytes with the bits of a number are read as it, if it is one of a character. -/
theorem utf8Step_ofFour (h : 0xffff < n) (h' : n < 0x110000) :
    utf8Step (UInt8.ofNat (n / 262144 % 8 + 240))
        (UInt8.ofNat (n / 4096 % 64 + 128) :: UInt8.ofNat (n / 64 % 64 + 128) ::
          UInt8.ofNat (n % 64 + 128) :: rest) =
      .char n 4 := by
  have hlen : sequenceLength (UInt8.ofNat (n / 262144 % 8 + 240)) = 4 := by
    rw [sequenceLength_eq, toNat_byte (by omega), if_neg (by omega), if_neg (by omega),
      if_neg (by omega), if_pos (by omega)]
  rw [utf8Step_two _ (by omega) (by omega) hlen (by omega) (by omega) (by omega) (by omega)
    (by omega), continueSequence_byte _ (by omega) (by omega),
    continueSequence_byte _ (by omega) (by omega), continueSequence_done, if_neg (by omega),
    if_neg (by omega)]
  congr 1
  omega

/-- The bytes of a character are read as that character, whatever follows them. -/
theorem utf8Step_encodeChar {c : Char} {b : UInt8} {more : List UInt8}
    (h : String.utf8EncodeChar c = b :: more) (rest : List UInt8) :
    utf8Step b (more ++ rest) = .char c.toNat (more.length + 1) := by
  have hc : c.toNat < 0xD800 ∨ 0xDFFF < c.toNat ∧ c.toNat < 0x110000 := c.valid
  rw [utf8EncodeChar_eq] at h
  generalize c.toNat = n at hc h
  split at h
  · next hone =>
    cases h
    exact utf8Step_small rest hone
  · split at h
    · next hone htwo =>
      cases h
      exact utf8Step_ofTwo rest (by omega) htwo
    · split at h
      · next htwo hthree =>
        cases h
        exact utf8Step_ofThree rest (by omega) hthree (by omega)
      · next hthree =>
        cases h
        exact utf8Step_ofFour rest (by omega) (by omega)

/-! ## Texts -/

theorem decodeFrom_skip (index : Nat) (chars : List Char) (fault : Option Utf8Error)
    (skipped rest : List UInt8) :
    decodeFrom index skipped.length chars fault (skipped ++ rest) =
      decodeFrom (index + skipped.length) 0 chars fault rest := by
  induction skipped generalizing index with
  | nil => rfl
  | cons b more ih =>
    rw [List.cons_append, decodeFrom, if_pos (by simp), List.length_cons, Nat.add_sub_cancel, ih,
      Nat.add_assoc, Nat.add_comm 1]

theorem decodeFrom_encodeChar (index : Nat) (chars : List Char) (fault : Option Utf8Error)
    (c : Char) (rest : List UInt8) :
    ∃ next, decodeFrom index 0 chars fault (String.utf8EncodeChar c ++ rest) =
      decodeFrom next 0 (c :: chars) fault rest := by
  cases h : String.utf8EncodeChar c with
  | nil => exact absurd h String.utf8EncodeChar_ne_nil
  | cons b more =>
    refine ⟨index + 1 + more.length, ?_⟩
    rw [List.cons_append, decodeFrom, if_neg (Nat.lt_irrefl 0), utf8Step_encodeChar h]
    simp only [Nat.add_sub_cancel, Char.ofNat_toNat, decodeFrom_skip]

theorem decodeFrom_encode (index : Nat) (chars text : List Char) :
    decodeFrom index 0 chars none (text.flatMap String.utf8EncodeChar) =
      (text.reverse ++ chars, none) := by
  induction text generalizing index chars with
  | nil => rfl
  | cons c rest ih =>
    obtain ⟨next, hnext⟩ :=
      decodeFrom_encodeChar index chars none c (rest.flatMap String.utf8EncodeChar)
    rw [List.flatMap_cons, hnext, ih, List.reverse_cons, List.append_assoc, List.singleton_append]

theorem toList_loop (bytes : ByteArray) (i : Nat) (before : List UInt8) :
    ByteArray.toList.loop bytes i before = before.reverse ++ bytes.data.toList.drop i := by
  fun_induction ByteArray.toList.loop bytes i before with
  | case1 i before h ih =>
    have hi : i < bytes.data.toList.length := h
    rw [ih, List.reverse_cons, List.append_assoc, List.singleton_append,
      List.drop_eq_getElem_cons hi]
    congr 2
    exact getElem!_pos bytes.data i h
  | case2 i before h =>
    have hi : bytes.data.toList.length ≤ i := Nat.le_of_not_lt h
    rw [List.drop_eq_nil_of_le hi, List.append_nil]

theorem toList_eq_data (bytes : ByteArray) : bytes.toList = bytes.data.toList := by
  rw [ByteArray.toList, toList_loop]
  simp

theorem encodeUtf8_eq (text : String) :
    encodeUtf8 text = text.toList.flatMap String.utf8EncodeChar := by
  rw [encodeUtf8, toList_eq_data, String.toUTF8_eq_toByteArray, ← String.utf8Encode_toList,
    List.utf8Encode, List.toList_data_toByteArray]

/-- Reading the bytes of a text gives the text back. -/
theorem decodeUtf8_encodeUtf8 (text : String) : decodeUtf8 (encodeUtf8 text) = .ok text := by
  rw [decodeUtf8, encodeUtf8_eq, decodeFrom_encode]
  simp

end FormatChain.Text
