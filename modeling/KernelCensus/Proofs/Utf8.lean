/-
# Reading UTF-8

Bytes are read as a text exactly where they are the bytes of that text (`decode_eq_ok_iff`): every
text is read back, and no other bytes are taken for it.
-/
import KernelCensus.Text.Utf8

namespace KernelCensus

namespace Utf8

/-! ## Characters -/

/-- A character that is made of a number has that number. -/
theorem toNat_ofNat {n : Nat} (h : n.isValidChar) : (Char.ofNat n).toNat = n := by
  rw [Char.ofNat, dif_pos h]
  rfl

/-- A byte is made of its number. -/
theorem ofNat_eq {n : Nat} {b : UInt8} (h : n = b.toNat) : UInt8.ofNat n = b := by
  rw [h, UInt8.ofNat_toNat]

/-- A byte below 0x80 is a character by itself. -/
theorem encodeChar_one {a : UInt8} (ha : a < 0x80) : encodeChar (Char.ofNat a.toNat) = [a] := by
  have small : a.toNat < 0x80 := UInt8.lt_iff_toNat_lt.mp ha
  have valid : a.toNat.isValidChar := Or.inl (by omega)
  rw [encodeChar, toNat_ofNat valid]
  simp only [if_pos small, UInt8.ofNat_toNat]

/-- Two bytes that are read as a character are its bytes. -/
theorem encodeChar_two {a b : UInt8} (ha : 0xC2 ≤ a && a ≤ 0xDF) (hb : isContinuation b) :
    encodeChar (Char.ofNat (a.toNat % 32 * 64 + payload b)) = [a, b] := by
  simp only [isContinuation, Bool.and_eq_true, decide_eq_true_eq, UInt8.le_iff_toNat_le,
    UInt8.reduceToNat] at ha hb
  -- The number is named, so that what is known of it stands beside it and not in it.
  obtain ⟨n, number⟩ : ∃ n, n = a.toNat % 32 * 64 + payload b := ⟨_, rfl⟩
  rw [payload] at number
  have valid : n.isValidChar := Or.inl (by omega)
  have first : UInt8.ofNat (0xC0 + n / 64) = a := ofNat_eq (by omega)
  have second : UInt8.ofNat (0x80 + n % 64) = b := ofNat_eq (by omega)
  rw [payload, ← number, encodeChar, toNat_ofNat valid]
  simp only [if_neg (show ¬ n < 0x80 by omega), if_pos (show n < 0x800 by omega), first, second]

/-- What may come second of several bytes: after two of the first bytes, less than after others. -/
theorem second_iff {a b low high least most : UInt8} (differ : low ≠ high)
    (least_ge : 0x80 ≤ least) (most_le : most ≤ 0xBF) :
    (if a = low then least ≤ b && b ≤ 0xBF else if a = high then 0x80 ≤ b && b ≤ most
      else isContinuation b) = true
    ↔ 0x80 ≤ b.toNat ∧ b.toNat ≤ 0xBF ∧ (a.toNat = low.toNat → least.toNat ≤ b.toNat)
      ∧ (a.toNat = high.toNat → b.toNat ≤ most.toNat) := by
  have apart : low.toNat ≠ high.toNat := fun same => differ (UInt8.toNat_inj.mp same)
  simp only [UInt8.le_iff_toNat_le, UInt8.reduceToNat] at least_ge most_le
  simp only [isContinuation, ← UInt8.toNat_inj, UInt8.le_iff_toNat_le, UInt8.reduceToNat]
  split
  · simp only [Bool.and_eq_true, decide_eq_true_eq]
    omega
  · split
    · simp only [Bool.and_eq_true, decide_eq_true_eq]
      omega
    · simp only [Bool.and_eq_true, decide_eq_true_eq]
      omega

/-- Three bytes that are read as a character are its bytes. -/
theorem encodeChar_three {a b c : UInt8} (ha : 0xE0 ≤ a && a ≤ 0xEF) (hb : isSecondOfThree a b)
    (hc : isContinuation c) :
    encodeChar (Char.ofNat ((a.toNat % 16 * 64 + payload b) * 64 + payload c)) = [a, b, c] := by
  have second_bounds := (second_iff (by decide) (by decide) (by decide)).mp hb
  simp only [UInt8.reduceToNat] at second_bounds
  simp only [isContinuation, Bool.and_eq_true, decide_eq_true_eq, UInt8.le_iff_toNat_le,
    UInt8.reduceToNat] at ha hc
  obtain ⟨n, number⟩ : ∃ n, n = (a.toNat % 16 * 64 + payload b) * 64 + payload c := ⟨_, rfl⟩
  have valid : n.isValidChar := by
    rw [Nat.isValidChar]
    rw [payload, payload] at number
    omega
  rw [← number, encodeChar, toNat_ofNat valid]
  rw [payload, payload] at number
  have first : UInt8.ofNat (0xE0 + n / 4096) = a := ofNat_eq (by omega)
  have second : UInt8.ofNat (0x80 + n / 64 % 64) = b := ofNat_eq (by omega)
  have third : UInt8.ofNat (0x80 + n % 64) = c := ofNat_eq (by omega)
  simp only [if_neg (show ¬ n < 0x80 by omega), if_neg (show ¬ n < 0x800 by omega),
    if_pos (show n < 0x10000 by omega), first, second, third]

/-- Four bytes that are read as a character are its bytes. -/
theorem encodeChar_four {a b c d : UInt8} (ha : 0xF0 ≤ a && a ≤ 0xF4) (hb : isSecondOfFour a b)
    (hc : isContinuation c) (hd : isContinuation d) :
    encodeChar (Char.ofNat
      (((a.toNat % 8 * 64 + payload b) * 64 + payload c) * 64 + payload d)) = [a, b, c, d] := by
  have second_bounds := (second_iff (by decide) (by decide) (by decide)).mp hb
  simp only [UInt8.reduceToNat] at second_bounds
  simp only [isContinuation, Bool.and_eq_true, decide_eq_true_eq, UInt8.le_iff_toNat_le,
    UInt8.reduceToNat] at ha hc hd
  obtain ⟨n, number⟩ :
      ∃ n, n = ((a.toNat % 8 * 64 + payload b) * 64 + payload c) * 64 + payload d := ⟨_, rfl⟩
  have valid : n.isValidChar := by
    rw [Nat.isValidChar]
    rw [payload, payload, payload] at number
    omega
  rw [← number, encodeChar, toNat_ofNat valid]
  rw [payload, payload, payload] at number
  have first : UInt8.ofNat (0xF0 + n / 262144) = a := ofNat_eq (by omega)
  have second : UInt8.ofNat (0x80 + n / 4096 % 64) = b := ofNat_eq (by omega)
  have third : UInt8.ofNat (0x80 + n / 64 % 64) = c := ofNat_eq (by omega)
  have fourth : UInt8.ofNat (0x80 + n % 64) = d := ofNat_eq (by omega)
  simp only [if_neg (show ¬ n < 0x80 by omega), if_neg (show ¬ n < 0x800 by omega),
    if_neg (show ¬ n < 0x10000 by omega), first, second, third, fourth]

/-! ## Texts -/

/-- Pieces that are read as a text are all characters. -/
theorem eq_map_of_charsFrom {ps : List Piece} {index : Nat} {cs : List Char}
    (h : charsFrom index ps = .ok cs) : ps = cs.map .char := by
  induction ps generalizing index cs with
  | nil =>
    cases h
    rfl
  | cons piece ps ih =>
    cases piece with
    | broken length cut => cases h
    | char c =>
      rw [charsFrom] at h
      split at h
      · cases h
      · next others rest =>
        cases h
        rw [ih rest, List.map_cons]

/-- An ill-formed stretch is no part of a text. -/
theorem broken_ne_map {length : Nat} {cut : Bool} {ps : List Piece} {cs : List Char}
    (h : .broken length cut :: ps = cs.map Piece.char) : False := by
  cases cs with
  | nil => cases h
  | cons c cs => cases h

/-- The bytes of a text are those of its first character and of the rest. -/
theorem flatMap_of_char {c : Char} {ps : List Piece} {cs : List Char} {first rest : List UInt8}
    (h : .char c :: ps = cs.map Piece.char) (same : encodeChar c = first)
    (others : ∀ {ds : List Char}, ps = ds.map .char → ds.flatMap encodeChar = rest) :
    cs.flatMap encodeChar = first ++ rest := by
  cases cs with
  | nil => cases h
  | cons d ds =>
    rw [List.map_cons] at h
    injection h with head tail
    injection head with head
    rw [List.flatMap_cons, ← head, same, others tail]

/-- The bytes whose pieces are all characters are those of the characters. -/
theorem flatMap_of_pieces {bytes : List UInt8} {cs : List Char}
    (h : pieces bytes = cs.map .char) : cs.flatMap encodeChar = bytes := by
  -- The cases are those of `pieces`; all but four of them meet an ill-formed stretch.
  fun_induction pieces bytes generalizing cs with
  | case1 =>
    rw [List.map_eq_nil_iff.mp h.symm]
    rfl
  | case2 a rest small ih => exact flatMap_of_char h (encodeChar_one small) ih
  | case4 a large two b rest second ih => exact flatMap_of_char h (encodeChar_two two second) ih
  | case8 a large not_two three b second c rest third ih =>
    exact flatMap_of_char h (encodeChar_three three second third) ih
  | case14 a large not_two not_three four b second c third d rest fourth ih =>
    exact flatMap_of_char h (encodeChar_four four second third fourth) ih
  | _ => exact (broken_ne_map h).elim

/-- **Bytes that are read as a text are the bytes of the text.** -/
theorem encode_of_decode {bytes : List UInt8} {text : String} (h : decode bytes = .ok text) :
    encode text = bytes := by
  rw [decode] at h
  cases read : charsFrom 0 (pieces bytes) with
  | error fault =>
    rw [read] at h
    cases h
  | ok cs =>
    rw [read] at h
    cases h
    rw [encode, String.toList_ofList, flatMap_of_pieces (eq_map_of_charsFrom read)]

/-! ## Reading back -/

/-- The number of a byte that is made of a small number. -/
theorem toNat_ofNat_byte {n : Nat} (h : n < 256) : (UInt8.ofNat n).toNat = n := by
  rw [UInt8.toNat_ofNat', Nat.mod_eq_of_lt h]

/-- A byte between two others, by numbers. -/
theorem between_iff {a low high : UInt8} :
    (low ≤ a && a ≤ high) = true ↔ low.toNat ≤ a.toNat ∧ a.toNat ≤ high.toNat := by
  rw [Bool.and_eq_true, decide_eq_true_eq, decide_eq_true_eq, UInt8.le_iff_toNat_le,
    UInt8.le_iff_toNat_le]

/-- A byte above others is not between them. -/
theorem not_between_of_lt {a low high : UInt8} (h : high.toNat < a.toNat) :
    ¬ (low ≤ a && a ≤ high) = true :=
  fun between => absurd (between_iff.mp between).2 (Nat.not_le.mpr h)

/-- A byte of a large number is no character by itself. -/
theorem not_lt_of_le_toNat {a : UInt8} (h : 0x80 ≤ a.toNat) : ¬ a < 0x80 := by
  rw [UInt8.lt_iff_toNat_lt]
  exact Nat.not_lt.mpr h

/-- A byte that continues a character, made of the number that it carries. -/
theorem exists_continuation {n : Nat} (h : n < 64) :
    ∃ b, b = UInt8.ofNat (0x80 + n) ∧ b.toNat = 0x80 + n ∧ isContinuation b = true
      ∧ payload b = n := by
  have number := toNat_ofNat_byte (show 0x80 + n < 256 by omega)
  refine ⟨_, rfl, number, between_iff.mpr ?_, ?_⟩
  · rw [number]
    simp only [UInt8.reduceToNat]
    omega
  · rw [payload, number]
    omega

/-- The byte of a small number is read as its character. -/
theorem pieces_one {n : Nat} (small : n < 0x80) (rest : List UInt8) :
    pieces (UInt8.ofNat n :: rest) = .char (Char.ofNat n) :: pieces rest := by
  have number := toNat_ofNat_byte (show n < 256 by omega)
  have first : UInt8.ofNat n < 0x80 := by
    rw [UInt8.lt_iff_toNat_lt, number]
    exact small
  rw [pieces.eq_def]
  simp only [if_pos first, number]

/-- The two bytes of a number are read as its character. -/
theorem pieces_two {n : Nat} (low : 0x80 ≤ n) (high : n < 0x800) (rest : List UInt8) :
    pieces (UInt8.ofNat (0xC0 + n / 64) :: UInt8.ofNat (0x80 + n % 64) :: rest)
      = .char (Char.ofNat n) :: pieces rest := by
  -- The bytes are named, so that their numbers stand beside them and not in them.
  obtain ⟨a, first⟩ : ∃ a, a = UInt8.ofNat (0xC0 + n / 64) := ⟨_, rfl⟩
  obtain ⟨b, second, -, continues, carried⟩ := exists_continuation (show n % 64 < 64 by omega)
  have number : a.toNat = 0xC0 + n / 64 := by rw [first, toNat_ofNat_byte (by omega)]
  have large := not_lt_of_le_toNat (show 0x80 ≤ a.toNat by omega)
  have lead : (0xC2 ≤ a && a ≤ 0xDF) = true := by
    simp only [between_iff, number, UInt8.reduceToNat]
    omega
  have whole : (0xC0 + n / 64) % 32 * 64 + n % 64 = n := by omega
  rw [← first, ← second, pieces.eq_def]
  simp only [if_neg large, if_pos lead, if_pos continues]
  rw [carried, number, whole]

/-- The three bytes of a number that is no surrogate are read as its character. -/
theorem pieces_three {n : Nat} (low : 0x800 ≤ n) (high : n < 0x10000)
    (scalar : n < 0xD800 ∨ 0xDFFF < n) (rest : List UInt8) :
    pieces (UInt8.ofNat (0xE0 + n / 4096) :: UInt8.ofNat (0x80 + n / 64 % 64)
        :: UInt8.ofNat (0x80 + n % 64) :: rest)
      = .char (Char.ofNat n) :: pieces rest := by
  obtain ⟨a, first⟩ : ∃ a, a = UInt8.ofNat (0xE0 + n / 4096) := ⟨_, rfl⟩
  obtain ⟨b, second, number_second, -, carried⟩ :=
    exists_continuation (show n / 64 % 64 < 64 by omega)
  obtain ⟨c, third, -, ends, carried_last⟩ := exists_continuation (show n % 64 < 64 by omega)
  have number : a.toNat = 0xE0 + n / 4096 := by rw [first, toNat_ofNat_byte (by omega)]
  have large := not_lt_of_le_toNat (show 0x80 ≤ a.toNat by omega)
  have not_two : ¬ (0xC2 ≤ a && a ≤ 0xDF) = true :=
    not_between_of_lt (show 0xDF < a.toNat by omega)
  have lead : (0xE0 ≤ a && a ≤ 0xEF) = true := by
    simp only [between_iff, number, UInt8.reduceToNat]
    omega
  -- Behind the two leads that narrow what comes second, the number is large or no surrogate.
  have allowed : isSecondOfThree a b = true := by
    rw [isSecondOfThree, second_iff (by decide) (by decide) (by decide)]
    simp only [UInt8.reduceToNat]
    omega
  have whole : ((0xE0 + n / 4096) % 16 * 64 + n / 64 % 64) * 64 + n % 64 = n := by omega
  rw [← first, ← second, ← third, pieces.eq_def]
  simp only [if_neg large, if_neg not_two, if_pos lead, if_pos allowed, if_pos ends]
  rw [carried, carried_last, number, whole]

/-- The four bytes of a large number are read as its character. -/
theorem pieces_four {n : Nat} (low : 0x10000 ≤ n) (high : n < 0x110000) (rest : List UInt8) :
    pieces (UInt8.ofNat (0xF0 + n / 262144) :: UInt8.ofNat (0x80 + n / 4096 % 64)
        :: UInt8.ofNat (0x80 + n / 64 % 64) :: UInt8.ofNat (0x80 + n % 64) :: rest)
      = .char (Char.ofNat n) :: pieces rest := by
  obtain ⟨a, first⟩ : ∃ a, a = UInt8.ofNat (0xF0 + n / 262144) := ⟨_, rfl⟩
  obtain ⟨b, second, number_second, -, carried⟩ :=
    exists_continuation (show n / 4096 % 64 < 64 by omega)
  obtain ⟨c, third, -, goes_on, carried_third⟩ :=
    exists_continuation (show n / 64 % 64 < 64 by omega)
  obtain ⟨d, fourth, -, ends, carried_last⟩ := exists_continuation (show n % 64 < 64 by omega)
  have number : a.toNat = 0xF0 + n / 262144 := by rw [first, toNat_ofNat_byte (by omega)]
  have large := not_lt_of_le_toNat (show 0x80 ≤ a.toNat by omega)
  have not_two : ¬ (0xC2 ≤ a && a ≤ 0xDF) = true :=
    not_between_of_lt (show 0xDF < a.toNat by omega)
  have not_three : ¬ (0xE0 ≤ a && a ≤ 0xEF) = true :=
    not_between_of_lt (show 0xEF < a.toNat by omega)
  have lead : (0xF0 ≤ a && a ≤ 0xF4) = true := by
    simp only [between_iff, number, UInt8.reduceToNat]
    omega
  have allowed : isSecondOfFour a b = true := by
    rw [isSecondOfFour, second_iff (by decide) (by decide) (by decide)]
    simp only [UInt8.reduceToNat]
    omega
  have whole :
      (((0xF0 + n / 262144) % 8 * 64 + n / 4096 % 64) * 64 + n / 64 % 64) * 64 + n % 64 = n := by
    omega
  rw [← first, ← second, ← third, ← fourth, pieces.eq_def]
  simp only [if_neg large, if_neg not_two, if_neg not_three, if_pos lead, if_pos allowed,
    if_pos goes_on, if_pos ends]
  rw [carried, carried_third, carried_last, number, whole]

/-- The bytes of a character are read as it. -/
theorem pieces_encodeChar_append (c : Char) (rest : List UInt8) :
    pieces (encodeChar c ++ rest) = .char c :: pieces rest := by
  have made : Char.ofNat c.toNat = c := Char.ofNat_toNat c
  have valid : c.toNat < 0xD800 ∨ 0xDFFF < c.toNat ∧ c.toNat < 0x110000 := c.valid
  rw [encodeChar]
  by_cases one : c.toNat < 0x80
  · simp only [if_pos one, List.cons_append, List.nil_append]
    rw [pieces_one one, made]
  · by_cases two : c.toNat < 0x800
    · simp only [if_neg one, if_pos two, List.cons_append, List.nil_append]
      rw [pieces_two (by omega) two, made]
    · by_cases three : c.toNat < 0x10000
      · simp only [if_neg one, if_neg two, if_pos three, List.cons_append, List.nil_append]
        rw [pieces_three (by omega) three (by omega), made]
      · simp only [if_neg one, if_neg two, if_neg three, List.cons_append, List.nil_append]
        rw [pieces_four (by omega) (by omega), made]

/-- The bytes of characters are read as them. -/
theorem pieces_flatMap (cs : List Char) : pieces (cs.flatMap encodeChar) = cs.map .char := by
  induction cs with
  | nil => rw [List.flatMap_nil, pieces, List.map_nil]
  | cons c cs ih => rw [List.flatMap_cons, pieces_encodeChar_append, ih, List.map_cons]

/-- Pieces that are all characters are read as these. -/
theorem charsFrom_map (index : Nat) (cs : List Char) :
    charsFrom index (cs.map .char) = .ok cs := by
  induction cs generalizing index with
  | nil => rfl
  | cons c cs ih => rw [List.map_cons, charsFrom, ih]

/-- **Bytes are read as a text exactly where they are the bytes of the text.** -/
theorem decode_eq_ok_iff {bytes : List UInt8} {text : String} :
    decode bytes = .ok text ↔ encode text = bytes := by
  constructor
  · exact encode_of_decode
  · rintro rfl
    rw [decode, encode, pieces_flatMap, charsFrom_map]
    exact congrArg Except.ok String.ofList_toList

/-- Texts of the same bytes are the same. -/
theorem encode_injective : Function.Injective encode := by
  intro s t same
  have read := decode_eq_ok_iff.mpr same
  rw [decode_eq_ok_iff.mpr rfl] at read
  exact (Except.ok.inj read).symm

end Utf8

end KernelCensus
