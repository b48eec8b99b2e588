import NodeImage.Text.Base64
import NodeImage.Text.Utf8

/-! # Reading back base64 and UTF-8

Both encodings are undone by their decoders: `Base64.decode?_encode` reads every byte list
back from its base64 text, and `Utf8.decode_encode` reads every text back from its UTF-8
bytes. Each is proved one unit at a time, as the decoder reads it: a group of three bytes
(four characters, the last group padded with `=`) for base64, one character (one to four
bytes, by the size of its code point) for UTF-8, with the rest of the input left open.
A text's characters hold every code point but those of the surrogates' stand-in block
(`Unicode.codeOfChar_charOfCode`), which are read as the surrogates they stand for.
-/

namespace NodeImage.Text

namespace Base64

theorem valueOf?_digit_of_mem : ∀ n ∈ List.range 64, valueOf? (digit n) = some n := by
  decide

theorem valueOf?_digit {n : Nat} (h : n < 64) : valueOf? (digit n) = some n :=
  valueOf?_digit_of_mem n (List.mem_range.mpr h)

theorem digit_ne_pad_of_mem : ∀ n ∈ List.range 64, (digit n == '=') = false := by
  decide

theorem digit_ne_pad {n : Nat} (h : n < 64) : (digit n == '=') = false :=
  digit_ne_pad_of_mem n (List.mem_range.mpr h)

/-! ## One character of a group -/

section Steps

variable {position carry pads v : Nat} {out : List UInt8} {cs : List Char}

theorem decodeChars_digit_zero (h : v < 64) :
    decodeChars ⟨0, carry, pads, out⟩ (digit v :: cs) = decodeChars ⟨1, v, 0, out⟩ cs := by
  simp [decodeChars, digit_ne_pad h, valueOf?_digit h]

theorem decodeChars_digit_one (h : v < 64) :
    decodeChars ⟨1, carry, pads, out⟩ (digit v :: cs) =
      decodeChars ⟨2, v % 16, 0, (carry * 4 + v / 16).toUInt8 :: out⟩ cs := by
  simp [decodeChars, digit_ne_pad h, valueOf?_digit h]

theorem decodeChars_digit_two (h : v < 64) :
    decodeChars ⟨2, carry, pads, out⟩ (digit v :: cs) =
      decodeChars ⟨3, v % 4, 0, ((carry * 16 + v / 4) % 256).toUInt8 :: out⟩ cs := by
  simp [decodeChars, digit_ne_pad h, valueOf?_digit h]

theorem decodeChars_digit_three (h : v < 64) :
    decodeChars ⟨3, carry, pads, out⟩ (digit v :: cs) =
      decodeChars ⟨0, 0, 0, ((carry * 64 + v) % 256).toUInt8 :: out⟩ cs := by
  simp [decodeChars, digit_ne_pad h, valueOf?_digit h]

/-- Padding that completes a group of at least two characters ends the decoding. -/
theorem decodeChars_pad_ends (h : 2 ≤ position ∧ 4 ≤ position + (pads + 1)) :
    decodeChars ⟨position, carry, pads, out⟩ ('=' :: cs) = some out.reverse := by
  simp [decodeChars, h.1, h.2]

theorem decodeChars_pad_counts (h : position + (pads + 1) < 4) :
    decodeChars ⟨position, carry, pads, out⟩ ('=' :: cs) =
      decodeChars ⟨position, carry, pads + 1, out⟩ cs := by
  simp [decodeChars]
  omega

end Steps

theorem toUInt8_eq_of_toNat {n : Nat} {b : UInt8} (h : n = b.toNat) : n.toUInt8 = b := by
  subst h
  exact UInt8.ofNat_toNat

/-! ## Whole encodings -/

/-- Decoding from the start of a group reads back every group of an encoding. Each byte comes
back from the six-bit digits it was spread over, which `omega` checks on the numbers. -/
theorem decodeChars_encodeChars (out : List UInt8) (bytes : List UInt8) :
    decodeChars ⟨0, 0, 0, out⟩ (encodeChars bytes) = some (out.reverse ++ bytes) := by
  induction bytes using encodeChars.induct generalizing out with
  | case1 => simp [encodeChars, decodeChars]
  | case2 a =>
    have ha := a.toNat_lt
    -- one byte: two digits and two pads, the second pad completing the group
    rw [encodeChars, decodeChars_digit_zero (by omega), decodeChars_digit_one (by omega),
      decodeChars_pad_counts (by omega), decodeChars_pad_ends (by omega)]
    simp only [List.reverse_cons, Option.some.injEq, List.append_cancel_left_eq, List.cons.injEq]
    exact ⟨toUInt8_eq_of_toNat (by omega), trivial⟩
  | case3 a b =>
    have ha := a.toNat_lt
    have hb := b.toNat_lt
    rw [encodeChars, decodeChars_digit_zero (by omega), decodeChars_digit_one (by omega),
      decodeChars_digit_two (by omega), decodeChars_pad_ends (by omega)]
    simp only [List.reverse_cons, List.append_assoc, List.cons_append, List.nil_append,
      Option.some.injEq, List.append_cancel_left_eq, List.cons.injEq]
    exact ⟨toUInt8_eq_of_toNat (by omega), toUInt8_eq_of_toNat (by omega), trivial⟩
  | case4 a b c rest ih =>
    have ha := a.toNat_lt
    have hb := b.toNat_lt
    have hc := c.toNat_lt
    rw [encodeChars, decodeChars_digit_zero (by omega), decodeChars_digit_one (by omega),
      decodeChars_digit_two (by omega), decodeChars_digit_three (by omega), ih]
    simp only [List.reverse_cons, List.append_assoc, List.cons_append, List.nil_append,
      Option.some.injEq, List.append_cancel_left_eq, List.cons.injEq]
    exact ⟨toUInt8_eq_of_toNat (by omega), toUInt8_eq_of_toNat (by omega),
      toUInt8_eq_of_toNat (by omega), trivial⟩

/-- Base64 decoding reads back every encoding. -/
theorem decode?_encode (bytes : List UInt8) : decode? (encode bytes) = some bytes := by
  simpa [decode?, encode] using decodeChars_encodeChars [] bytes

/-- An encoding is padded: four characters for every group of three bytes or less. -/
theorem length_encode (bytes : List UInt8) :
    (encode bytes).length = 4 * ((bytes.length + 2) / 3) := by
  rw [encode, String.length_ofList]
  induction bytes using encodeChars.induct with
  | case1 | case2 | case3 => simp [encodeChars]
  | case4 a b c rest ih =>
    simp only [encodeChars, List.length_cons, ih]
    omega

end Base64

namespace Utf8

/-! ## The bytes of a text -/

theorem byteArray_toList_loop (arr : Array UInt8) (i : Nat) (r : List UInt8) :
    ByteArray.toList.loop ⟨arr⟩ i r = r.reverse ++ arr.toList.drop i := by
  fun_induction ByteArray.toList.loop ⟨arr⟩ i r with
  | case1 i r lt ih =>
    have lt' : i < arr.toList.length := lt
    rw [ih, List.reverse_cons, List.append_assoc, List.drop_eq_getElem_cons lt']
    have got : ByteArray.get! ⟨arr⟩ i = arr.toList[i] := getElem!_pos arr i lt
    rw [got]
    rfl
  | case2 i r ge =>
    have ge' : arr.toList.length ≤ i := Nat.le_of_not_lt ge
    rw [List.drop_eq_nil_of_le ge', List.append_nil]

theorem byteArray_toList (bs : ByteArray) : bs.toList = bs.data.toList := by
  obtain ⟨arr⟩ := bs
  simp [ByteArray.toList, byteArray_toList_loop]

/-- A text's bytes are the encodings of its characters, one after the other. -/
theorem encode_eq (s : String) : encode s = s.toList.flatMap String.utf8EncodeChar := by
  rw [encode, byteArray_toList, String.toUTF8_eq_toByteArray, ← String.utf8Encode_toList,
    List.utf8Encode, List.toList_data_toByteArray]

/-! ## One character -/

theorem decodeFrom_single {b : Nat} (h : b < 0x80) (acc : List Char) (pos : Nat)
    (rest : List Nat) :
    decodeFrom acc pos (b :: rest) = decodeFrom (Char.ofNat b :: acc) (pos + 1) rest := by
  rw [decodeFrom]
  simp [sequenceLength, h]

/-- A sequence of two or more bytes whose followers are all valid is read as one character. -/
theorem decodeFrom_sequence {b : Nat} {k : Nat} (len : sequenceLength b = some (k + 2))
    {rest : List Nat} (valid : validFollowers b rest (k + 1) = k + 1) (acc : List Char)
    (pos : Nat) :
    decodeFrom acc pos (b :: rest) =
      decodeFrom (Char.ofNat (codePoint b (rest.take (k + 1))) :: acc) (pos + (k + 2))
        (rest.drop (k + 1)) := by
  rw [decodeFrom]
  simp [len, valid]

theorem sequenceLength_eq_two {b : Nat} (lo : 0xC2 ≤ b) (hi : b ≤ 0xDF) :
    sequenceLength b = some 2 := by
  rw [sequenceLength, if_neg (by omega), if_pos (by simp; omega)]

theorem sequenceLength_eq_three {b : Nat} (lo : 0xE0 ≤ b) (hi : b ≤ 0xEF) :
    sequenceLength b = some 3 := by
  rw [sequenceLength, if_neg (by omega), if_neg (by simp; omega), if_pos (by simp; omega)]

theorem sequenceLength_eq_four {b : Nat} (lo : 0xF0 ≤ b) (hi : b ≤ 0xF4) :
    sequenceLength b = some 4 := by
  rw [sequenceLength, if_neg (by omega), if_neg (by simp; omega), if_neg (by simp; omega),
    if_pos (by simp; omega)]

/-- A second byte is allowed when it continues a character and keeps clear of the overlong,
surrogate and out-of-range forms its first byte could start. -/
theorem secondAllowed_eq_true {first second : Nat} (lo : 0x80 ≤ second) (hi : second ≤ 0xBF)
    (e0 : first = 0xE0 → 0xA0 ≤ second) (ed : first = 0xED → second ≤ 0x9F)
    (f0 : first = 0xF0 → 0x90 ≤ second) (f4 : first = 0xF4 → second ≤ 0x8F) :
    secondAllowed first second = true := by
  unfold secondAllowed isContinuation
  split
  next h => simp at h; simp; omega
  split
  next h => simp at h; simp; omega
  split
  next h => simp at h; simp; omega
  split
  next h => simp at h; simp; omega
  simp; omega

theorem isContinuation_of (b : Nat) (lo : 0x80 ≤ b) (hi : b ≤ 0xBF) : isContinuation b = true := by
  simp [isContinuation, lo, hi]

section Sizes

/-! The bytes below are those `String.utf8EncodeChar` gives a code point `v` of each size. -/

variable {v : Nat} (acc : List Char) (pos : Nat) (rest : List Nat)

theorem decodeFrom_two (lo : 0x80 ≤ v) (hi : v ≤ 0x7ff) :
    decodeFrom acc pos ((v / 64 % 32 + 192) % 256 :: (v % 64 + 128) % 256 :: rest) =
      decodeFrom (Char.ofNat v :: acc) (pos + 2) rest := by
  rw [decodeFrom_sequence (sequenceLength_eq_two (by omega) (by omega))]
  · have point : codePoint ((v / 64 % 32 + 192) % 256) [(v % 64 + 128) % 256] = v := by
      simp [codePoint]
      omega
    simp only [List.take, List.drop, point]
  · simp only [validFollowers]
    rw [secondAllowed_eq_true (by omega) (by omega) (by omega) (by omega) (by omega) (by omega)]
    simp

/-- Three bytes: the first byte `ED` is the only one whose code points reach the surrogates,
and a scalar value stops short of them. -/
theorem decodeFrom_three (lo : 0x800 ≤ v) (hi : v ≤ 0xffff) (scalar : v < 0xd800 ∨ 0xdfff < v) :
    decodeFrom acc pos ((v / 4096 % 16 + 224) % 256 :: (v / 64 % 64 + 128) % 256 ::
        (v % 64 + 128) % 256 :: rest) =
      decodeFrom (Char.ofNat v :: acc) (pos + 3) rest := by
  rw [decodeFrom_sequence (sequenceLength_eq_three (by omega) (by omega))]
  · have point : codePoint ((v / 4096 % 16 + 224) % 256)
        [(v / 64 % 64 + 128) % 256, (v % 64 + 128) % 256] = v := by
      simp [codePoint]
      omega
    simp only [List.take, List.drop, point]
  · simp only [validFollowers]
    rw [secondAllowed_eq_true (by omega) (by omega) (by omega) (by omega) (by omega) (by omega)]
    simp [isContinuation_of ((v % 64 + 128) % 256) (by omega) (by omega)]

theorem decodeFrom_four (lo : 0x10000 ≤ v) (hi : v ≤ 0x10ffff) :
    decodeFrom acc pos ((v / 262144 % 8 + 240) % 256 :: (v / 4096 % 64 + 128) % 256 ::
        (v / 64 % 64 + 128) % 256 :: (v % 64 + 128) % 256 :: rest) =
      decodeFrom (Char.ofNat v :: acc) (pos + 4) rest := by
  rw [decodeFrom_sequence (sequenceLength_eq_four (by omega) (by omega))]
  · have point : codePoint ((v / 262144 % 8 + 240) % 256)
        [(v / 4096 % 64 + 128) % 256, (v / 64 % 64 + 128) % 256, (v % 64 + 128) % 256] = v := by
      simp [codePoint]
      omega
    simp only [List.take, List.drop, point]
  · simp only [validFollowers]
    rw [secondAllowed_eq_true (by omega) (by omega) (by omega) (by omega) (by omega) (by omega)]
    simp [
      isContinuation_of ((v / 64 % 64 + 128) % 256) (by omega) (by omega),
      isContinuation_of ((v % 64 + 128) % 256) (by omega) (by omega)]

end Sizes

/-- The encoding of a character decodes to the character, whatever follows it. -/
theorem decodeFrom_encodeChar (c : Char) (acc : List Char) (pos : Nat) (rest : List Nat) :
    decodeFrom acc pos ((String.utf8EncodeChar c).map UInt8.toNat ++ rest) =
      decodeFrom (c :: acc) (pos + c.utf8Size) rest := by
  have valid := c.valid
  simp only [UInt32.isValidChar, Nat.isValidChar] at valid
  have size : c.utf8Size =
      if c.val.toNat ≤ 127 then 1 else if c.val.toNat ≤ 2047 then 2
      else if c.val.toNat ≤ 65535 then 3 else 4 := by
    simp only [Char.utf8Size, UInt32.le_iff_toNat_le]
    rfl
  have same : Char.ofNat c.val.toNat = c := Char.ofNat_toNat c
  simp only [String.utf8EncodeChar, size]
  -- the encoding and the size split alike, on the code point's range
  by_cases h1 : c.val.toNat ≤ 127
  · simp only [h1, if_true, List.map_cons, List.map_nil, List.cons_append, List.nil_append,
      UInt8.toNat_ofNat', Nat.reducePow]
    rw [decodeFrom_single (by omega), Nat.mod_eq_of_lt (by omega), same]
  by_cases h2 : c.val.toNat ≤ 2047
  · simp only [h1, h2, if_true, if_false, List.map_cons, List.map_nil, List.cons_append,
      List.nil_append, UInt8.toNat_ofNat', Nat.reducePow]
    rw [decodeFrom_two _ _ _ (by omega) h2, same]
  by_cases h3 : c.val.toNat ≤ 65535
  · simp only [h1, h2, h3, if_true, if_false, List.map_cons, List.map_nil, List.cons_append,
      List.nil_append, UInt8.toNat_ofNat', Nat.reducePow]
    rw [decodeFrom_three _ _ _ (by omega) h3 (by omega), same]
  · simp only [h1, h2, h3, if_false, List.map_cons, List.map_nil, List.cons_append,
      List.nil_append, UInt8.toNat_ofNat', Nat.reducePow]
    rw [decodeFrom_four _ _ _ (by omega) (by omega), same]

theorem decodeFrom_encode (cs : List Char) (acc : List Char) (pos : Nat) :
    decodeFrom acc pos ((cs.flatMap String.utf8EncodeChar).map UInt8.toNat) =
      .ok (acc.reverse ++ cs) := by
  induction cs generalizing acc pos with
  | nil => simp [decodeFrom]
  | cons c cs ih =>
    rw [List.flatMap_cons, List.map_append, decodeFrom_encodeChar, ih]
    simp

/-- UTF-8 decoding reads back every text's encoding. -/
theorem decode_encode (s : String) : decode (encode s) = .ok s := by
  simp [decode, encode_eq, decodeFrom_encode, Except.map]

/-! ## Strict encoding -/

theorem firstSurrogateRun_eq_none_iff (cs : List Char) (pos : Nat) :
    firstSurrogateRun cs pos = none ↔ ∀ c ∈ cs, isStandIn c = false := by
  induction cs generalizing pos with
  | nil => simp [firstSurrogateRun]
  | cons c cs ih =>
    cases h : Unicode.surrogateOf? c with
    | some s => simp [firstSurrogateRun, h, isStandIn]
    | none => simp [firstSurrogateRun, h, isStandIn, ih]

/-- The run reported starts at the first stand-in, and names the surrogate it stands for. -/
theorem firstSurrogateRun_eq_some {cs : List Char} {pos : Nat} {e : EncodeError}
    (found : firstSurrogateRun cs pos = some e) :
    ∃ pre c post, cs = pre ++ c :: post ∧ (∀ d ∈ pre, isStandIn d = false) ∧
      Unicode.surrogateOf? c = some e.first ∧ e.start = pos + pre.length := by
  induction cs generalizing pos with
  | nil => simp [firstSurrogateRun] at found
  | cons c cs ih =>
    cases h : Unicode.surrogateOf? c with
    | some s =>
      simp only [firstSurrogateRun, h, Option.some.injEq] at found
      subst found
      exact ⟨[], c, cs, rfl, by simp, h, rfl⟩
    | none =>
      simp only [firstSurrogateRun, h] at found
      obtain ⟨pre, d, post, rfl, clean, named, start⟩ := ih found
      have scalar : isStandIn c = false := by simp [isStandIn, h]
      refine ⟨c :: pre, d, post, rfl, ?_, named, by simp [start]; omega⟩
      intro x mem
      rcases List.mem_cons.mp mem with rfl | later
      · exact scalar
      · exact clean x later

theorem encodeStrict_eq_ok_iff {s : String} {bytes : List UInt8} :
    encodeStrict s = .ok bytes ↔ Encodable s ∧ bytes = encode s := by
  cases run : firstSurrogateRun s.toList 0 with
  | none =>
    have clean := (firstSurrogateRun_eq_none_iff s.toList 0).mp run
    simp only [encodeStrict, run, Except.ok.injEq]
    exact ⟨fun same => ⟨clean, same.symm⟩, fun ⟨_, same⟩ => same.symm⟩
  | some e =>
    have dirty : ¬ Encodable s :=
      fun clean => by simp [(firstSurrogateRun_eq_none_iff s.toList 0).mpr clean] at run
    simp only [encodeStrict, run, reduceCtorEq, false_iff]
    exact fun ⟨clean, _⟩ => dirty clean

/-- A text with a lone surrogate fails to encode, at the first one. -/
theorem encodeStrict_of_not_encodable {s : String} (dirty : ¬ Encodable s) :
    ∃ e, encodeStrict s = .error e ∧ ∃ pre c post, s.toList = pre ++ c :: post ∧
      (∀ d ∈ pre, isStandIn d = false) ∧ Unicode.surrogateOf? c = some e.first ∧
      e.start = pre.length := by
  cases run : firstSurrogateRun s.toList 0 with
  | none => exact absurd ((firstSurrogateRun_eq_none_iff s.toList 0).mp run) dirty
  | some e =>
    obtain ⟨pre, c, post, split, clean, named, start⟩ := firstSurrogateRun_eq_some run
    exact ⟨e, by simp [encodeStrict, run], pre, c, post, split, clean, named, by simpa using start⟩

end Utf8

end NodeImage.Text

/-! ## The code points a text holds

A character holds a code point by `charOfCode` and gives one back by `codeOfChar`. The two are
inverse on every code point but the 2048 of the stand-in block, whose characters a text reads as
the surrogates they stand for. -/

namespace NodeImage.Unicode

theorem toNat_ofNat_of_valid {n : Nat} (valid : n.isValidChar) : (Char.ofNat n).toNat = n := by
  rw [Char.ofNat, dif_pos valid]
  rfl

theorem surrogateOf?_of_inside {c : Char} (inside : 0x4D800 ≤ c.toNat ∧ c.toNat ≤ 0x4DFFF) :
    surrogateOf? c = some (c.toNat - standInOffset) := by
  simp [surrogateOf?, inside]

theorem surrogateOf?_of_outside {c : Char} (outside : c.toNat < 0x4D800 ∨ 0x4DFFF < c.toNat) :
    surrogateOf? c = none := by
  simp only [surrogateOf?, Bool.and_eq_true, decide_eq_true_eq, ite_eq_right_iff, reduceCtorEq]
  omega

theorem charOfCode_of_surrogate {n : Nat} (surrogate : 0xD800 ≤ n ∧ n ≤ 0xDFFF) :
    charOfCode n = standIn n := by
  simp [charOfCode, isSurrogate, surrogate]

theorem charOfCode_of_not_surrogate {n : Nat} (scalar : n < 0xD800 ∨ 0xDFFF < n) :
    charOfCode n = Char.ofNat n := by
  simp only [charOfCode, isSurrogate, Bool.and_eq_true, decide_eq_true_eq, ite_eq_right_iff]
  omega

/-- Every code point outside the stand-in block, surrogates included, is held by a character
that gives it back. -/
theorem codeOfChar_charOfCode {n : Nat} (range : n < 0x110000)
    (outside : n < 0x4D800 ∨ 0x4DFFF < n) : codeOfChar (charOfCode n) = n := by
  by_cases surrogate : 0xD800 ≤ n ∧ n ≤ 0xDFFF
  · have held : (standIn n).toNat = n + standInOffset :=
      toNat_ofNat_of_valid (by unfold Nat.isValidChar standInOffset; omega)
    rw [charOfCode_of_surrogate surrogate, codeOfChar,
      surrogateOf?_of_inside (by rw [held]; unfold standInOffset; omega), held, Option.getD_some,
      Nat.add_sub_cancel]
  · have held : (Char.ofNat n).toNat = n := toNat_ofNat_of_valid (by unfold Nat.isValidChar; omega)
    rw [charOfCode_of_not_surrogate (by omega), codeOfChar, surrogateOf?_of_outside (by omega),
      Option.getD_none, held]

/-- A code point of the stand-in block is read as the surrogate its character stands for. -/
theorem codeOfChar_charOfCode_of_inside {n : Nat} (inside : 0x4D800 ≤ n ∧ n ≤ 0x4DFFF) :
    codeOfChar (charOfCode n) = n - standInOffset := by
  have held : (Char.ofNat n).toNat = n := toNat_ofNat_of_valid (by unfold Nat.isValidChar; omega)
  rw [charOfCode_of_not_surrogate (by omega), codeOfChar,
    surrogateOf?_of_inside (by rw [held]; exact inside), held, Option.getD_some]

/-- Every character is the one that holds the code point it gives. -/
theorem charOfCode_codeOfChar (c : Char) : charOfCode (codeOfChar c) = c := by
  have valid : c.toNat < 0xD800 ∨ 0xDFFF < c.toNat ∧ c.toNat < 0x110000 := c.valid
  by_cases inside : 0x4D800 ≤ c.toNat ∧ c.toNat ≤ 0x4DFFF
  · have back : c.toNat - standInOffset + standInOffset = c.toNat := Nat.sub_add_cancel (by
      unfold standInOffset
      omega)
    rw [codeOfChar, surrogateOf?_of_inside inside, Option.getD_some,
      charOfCode_of_surrogate (by unfold standInOffset; omega), standIn, back, Char.ofNat_toNat]
  · rw [codeOfChar, surrogateOf?_of_outside (by omega), Option.getD_none,
      charOfCode_of_not_surrogate (by omega), Char.ofNat_toNat]

end NodeImage.Unicode
