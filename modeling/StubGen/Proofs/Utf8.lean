import StubGen.Text.Utf8

/-!
# Text and its bytes

Results:

1. `decodeFrom_pair`, `decodeFrom_triple`, `decodeFrom_quadruple`: what the decoder makes of a lead
   byte and the bytes that it announces.
2. `decodeFrom_encodeChar`: the bytes of a character are read as that character, whatever follows.
3. `exists_encodeChar_of_valid`: bytes without an invalid part start with the bytes of a character.
4. `decode?_eq_some_iff`: bytes are read as a text exactly if they are the bytes of that text, so
   texts and valid bytes correspond one to one; `length_encode`: their sizes are the same;
   `exists_of_encode_eq_append_cons`, `getElem?_encode_eq_some_iff`: a byte of the ASCII range is
   always a whole character.
-/

namespace StubGen.Utf8

/-! ## 1. Bytes of one character -/

/-- A byte that continues a character. -/
structure IsTail (b : UInt8) : Prop where
  low : 0x80 ≤ b.toNat
  high : b.toNat ≤ 0xBF

/-- The two bytes of a character. -/
structure IsPair (x y : UInt8) : Prop where
  lead : 0xC2 ≤ x.toNat ∧ x.toNat < 0xE0
  second : IsTail y

/-- The three bytes of a character that is no surrogate and does not fit into two. -/
structure IsTriple (x y z : UInt8) : Prop where
  lead : 0xE0 ≤ x.toNat ∧ x.toNat < 0xF0
  second : IsTail y
  long : x.toNat = 0xE0 → 0xA0 ≤ y.toNat
  scalar : x.toNat = 0xED → y.toNat ≤ 0x9F
  third : IsTail z

/-- The four bytes of a character that does not fit into three. -/
structure IsQuadruple (x y z w : UInt8) : Prop where
  lead : 0xF0 ≤ x.toNat ∧ x.toNat < 0xF5
  second : IsTail y
  long : x.toNat = 0xF0 → 0x90 ≤ y.toNat
  bounded : x.toNat = 0xF4 → y.toNat ≤ 0x8F
  third : IsTail z
  fourth : IsTail w

section

variable {x y z w : UInt8}

def pairValue (x y : UInt8) : Nat := (x.toNat - 0xC0) * 64 + (y.toNat - 0x80)

def tripleValue (x y z : UInt8) : Nat :=
  ((x.toNat - 0xE0) * 64 + (y.toNat - 0x80)) * 64 + (z.toNat - 0x80)

def quadrupleValue (x y z w : UInt8) : Nat :=
  (((x.toNat - 0xF0) * 64 + (y.toNat - 0x80)) * 64 + (z.toNat - 0x80)) * 64 + (w.toNat - 0x80)

theorem lead_single (h : x.toNat < 0x80) : lead x = ([some (Char.ofNat x.toNat)], none) := if_pos h

theorem lead_pair (h : 0xC2 ≤ x.toNat ∧ x.toNat < 0xE0) :
    lead x = ([], some ⟨0, 0x80, 0xBF, x.toNat - 0xC0⟩) := by
  unfold lead
  simp only []
  rw [if_neg (by omega), if_neg (by omega), if_pos (by omega)]

theorem lead_triple (h : 0xE0 ≤ x.toNat ∧ x.toNat < 0xF0) :
    lead x = ([], some ⟨1, if x.toNat = 0xE0 then 0xA0 else 0x80,
      if x.toNat = 0xED then 0x9F else 0xBF, x.toNat - 0xE0⟩) := by
  unfold lead
  simp only []
  rw [if_neg (by omega), if_neg (by omega), if_neg (by omega), if_pos (by omega)]

theorem lead_quadruple (h : 0xF0 ≤ x.toNat ∧ x.toNat < 0xF5) :
    lead x = ([], some ⟨2, if x.toNat = 0xF0 then 0x90 else 0x80,
      if x.toNat = 0xF4 then 0x8F else 0xBF, x.toNat - 0xF0⟩) := by
  unfold lead
  simp only []
  rw [if_neg (by omega), if_neg (by omega), if_neg (by omega), if_neg (by omega), if_pos (by omega)]

theorem lead_invalid (h : 0x80 ≤ x.toNat ∧ x.toNat < 0xC2 ∨ 0xF5 ≤ x.toNat) :
    lead x = ([none], none) := by
  unfold lead
  simp only []
  rcases h with h | h
  · rw [if_neg (by omega), if_pos (by omega)]
  · rw [if_neg (by omega), if_neg (by omega), if_neg (by omega), if_neg (by omega),
      if_neg (by omega)]

theorem decodeFrom_lead {p : Pending} (h : lead x = ([], some p)) (rest : Bytes) :
    decodeFrom none (x :: rest) = decodeFrom (some p) rest := by
  rw [decodeFrom, step, h]
  rfl

/-- A byte in the expected range takes the decoder one byte further. -/
theorem decodeFrom_next {k bits : Nat} {low high : UInt8} (h : low ≤ x ∧ x ≤ high) (rest : Bytes) :
    decodeFrom (some ⟨k + 1, low, high, bits⟩) (x :: rest) =
      decodeFrom (some ⟨k, 0x80, 0xBF, bits * 64 + (x.toNat - 0x80)⟩) rest := by
  rw [decodeFrom, step]
  simp only [if_pos h]
  rfl

/-- The last byte in the expected range completes the character. -/
theorem decodeFrom_last {bits : Nat} {low high : UInt8} (h : low ≤ x ∧ x ≤ high) (rest : Bytes) :
    decodeFrom (some ⟨0, low, high, bits⟩) (x :: rest) =
      some (Char.ofNat (bits * 64 + (x.toNat - 0x80))) :: decodeFrom none rest := by
  rw [decodeFrom, step]
  simp only [if_pos h]
  rfl

theorem isTail_iff : IsTail x ↔ (0x80 : UInt8) ≤ x ∧ x ≤ 0xBF := by
  rw [UInt8.le_iff_toNat_le, UInt8.le_iff_toNat_le]
  exact ⟨fun h => ⟨h.low, h.high⟩, fun h => ⟨h.1, h.2⟩⟩

/-- After some lead bytes the second byte has a narrower range. -/
theorem secondRange_iff {n narrowLow narrowHigh : Nat} {low high : UInt8} (hlow : 0x80 ≤ low.toNat)
    (hhigh : high.toNat ≤ 0xBF) :
    ((if n = narrowLow then low else 0x80) ≤ y ∧ y ≤ (if n = narrowHigh then high else 0xBF)) ↔
    IsTail y ∧ (n = narrowLow → low.toNat ≤ y.toNat) ∧ (n = narrowHigh → y.toNat ≤ high.toNat) := by
  rw [UInt8.le_iff_toNat_le, UInt8.le_iff_toNat_le]
  have h80 : (0x80 : UInt8).toNat = 0x80 := rfl
  have hBF : (0xBF : UInt8).toNat = 0xBF := rfl
  constructor
  · intro h
    refine ⟨⟨?_, ?_⟩, ?_, ?_⟩
    all_goals split at h <;> split at h <;> omega
  · rintro ⟨⟨hl, hh⟩, hlong, hshort⟩
    split <;> split <;> omega

theorem decodeFrom_single (h : x.toNat < 0x80) (rest : Bytes) :
    decodeFrom none (x :: rest) = some (Char.ofNat x.toNat) :: decodeFrom none rest := by
  rw [decodeFrom, step, lead_single h]
  rfl

theorem decodeFrom_pair (h : IsPair x y) (rest : Bytes) :
    decodeFrom none (x :: y :: rest) = some (Char.ofNat (pairValue x y)) :: decodeFrom none rest := by
  rw [decodeFrom_lead (lead_pair h.lead), decodeFrom_last (isTail_iff.mp h.second)]
  rfl

theorem decodeFrom_triple (h : IsTriple x y z) (rest : Bytes) :
    decodeFrom none (x :: y :: z :: rest) =
      some (Char.ofNat (tripleValue x y z)) :: decodeFrom none rest := by
  have hsecond : (if x.toNat = 0xE0 then (0xA0 : UInt8) else 0x80) ≤ y ∧
      y ≤ (if x.toNat = 0xED then 0x9F else 0xBF) :=
    (secondRange_iff (by decide) (by decide)).mpr ⟨h.second, h.long, h.scalar⟩
  rw [decodeFrom_lead (lead_triple h.lead), decodeFrom_next hsecond,
    decodeFrom_last (isTail_iff.mp h.third)]
  rfl

theorem decodeFrom_quadruple (h : IsQuadruple x y z w) (rest : Bytes) :
    decodeFrom none (x :: y :: z :: w :: rest) =
      some (Char.ofNat (quadrupleValue x y z w)) :: decodeFrom none rest := by
  have hsecond : (if x.toNat = 0xF0 then (0x90 : UInt8) else 0x80) ≤ y ∧
      y ≤ (if x.toNat = 0xF4 then 0x8F else 0xBF) :=
    (secondRange_iff (by decide) (by decide)).mpr ⟨h.second, h.long, h.bounded⟩
  rw [decodeFrom_lead (lead_quadruple h.lead), decodeFrom_next hsecond,
    decodeFrom_next (isTail_iff.mp h.third), decodeFrom_last (isTail_iff.mp h.fourth)]
  rfl

end

/-! ## 2. Characters and their bytes -/

theorem toNat_ofNat_of_lt {n : Nat} (h : n < 256) : (UInt8.ofNat n).toNat = n := by
  rw [UInt8.toNat_ofNat']
  omega

theorem toNat_char_ofNat {n : Nat} (h : n.isValidChar) : (Char.ofNat n).toNat = n := by
  rw [Char.ofNat, dif_pos h]
  rfl

theorem encodeChar_eq (c : Char) : String.utf8EncodeChar c =
    if c.toNat ≤ 0x7F then [UInt8.ofNat c.toNat]
    else if c.toNat ≤ 0x7FF then
      [UInt8.ofNat (c.toNat / 64 % 0x20 + 0xC0), UInt8.ofNat (c.toNat % 0x40 + 0x80)]
    else if c.toNat ≤ 0xFFFF then
      [UInt8.ofNat (c.toNat / 4096 % 0x10 + 0xE0), UInt8.ofNat (c.toNat / 64 % 0x40 + 0x80),
        UInt8.ofNat (c.toNat % 0x40 + 0x80)]
    else
      [UInt8.ofNat (c.toNat / 262144 % 0x08 + 0xF0), UInt8.ofNat (c.toNat / 4096 % 0x40 + 0x80),
        UInt8.ofNat (c.toNat / 64 % 0x40 + 0x80), UInt8.ofNat (c.toNat % 0x40 + 0x80)] := rfl

/-- The four forms of a character's bytes. -/
theorem encodeChar_cases (c : Char) :
    (∃ x, String.utf8EncodeChar c = [x] ∧ x.toNat < 0x80 ∧ x.toNat = c.toNat) ∨
    (∃ x y, String.utf8EncodeChar c = [x, y] ∧ IsPair x y ∧ pairValue x y = c.toNat) ∨
    (∃ x y z, String.utf8EncodeChar c = [x, y, z] ∧ IsTriple x y z ∧
      tripleValue x y z = c.toNat) ∨
    ∃ x y z w, String.utf8EncodeChar c = [x, y, z, w] ∧ IsQuadruple x y z w ∧
      quadrupleValue x y z w = c.toNat := by
  have hvalid : c.toNat < 0xD800 ∨ (0xDFFF < c.toNat ∧ c.toNat < 0x110000) := c.valid
  have htail : ∀ n, (UInt8.ofNat (n % 0x40 + 0x80)).toNat = n % 0x40 + 0x80 :=
    fun n => toNat_ofNat_of_lt (by omega)
  have hisTail : ∀ n, IsTail (UInt8.ofNat (n % 0x40 + 0x80)) :=
    fun n => ⟨by rw [htail]; omega, by rw [htail]; omega⟩
  rw [encodeChar_eq]
  split
  · left
    refine ⟨_, rfl, ?_⟩
    rw [toNat_ofNat_of_lt (by omega)]
    omega
  have hlast := htail c.toNat
  split
  · have hlead : (UInt8.ofNat (c.toNat / 64 % 0x20 + 0xC0)).toNat = c.toNat / 64 % 0x20 + 0xC0 :=
      toNat_ofNat_of_lt (by omega)
    refine .inr (.inl ⟨_, _, rfl, ⟨by omega, hisTail c.toNat⟩, ?_⟩)
    unfold pairValue
    omega
  have hmiddle := htail (c.toNat / 64)
  split
  · have hlead : (UInt8.ofNat (c.toNat / 4096 % 0x10 + 0xE0)).toNat =
        c.toNat / 4096 % 0x10 + 0xE0 := toNat_ofNat_of_lt (by omega)
    refine .inr (.inr (.inl ⟨_, _, _, rfl,
      ⟨by omega, hisTail (c.toNat / 64), by omega, by omega, hisTail c.toNat⟩, ?_⟩))
    unfold tripleValue
    omega
  · have hlead : (UInt8.ofNat (c.toNat / 262144 % 0x08 + 0xF0)).toNat =
        c.toNat / 262144 % 0x08 + 0xF0 := toNat_ofNat_of_lt (by omega)
    have hsecond := htail (c.toNat / 4096)
    refine .inr (.inr (.inr ⟨_, _, _, _, rfl, ⟨by omega, hisTail (c.toNat / 4096), by omega, by omega,
      hisTail (c.toNat / 64), hisTail c.toNat⟩, ?_⟩))
    unfold quadrupleValue
    omega

/-- The bytes of a character are read as that character. -/
theorem decodeFrom_encodeChar (c : Char) (rest : Bytes) :
    decodeFrom none (String.utf8EncodeChar c ++ rest) = some c :: decodeFrom none rest := by
  rcases encodeChar_cases c with ⟨x, hbytes, hx, hvalue⟩ | ⟨x, y, hbytes, hpair, hvalue⟩ |
    ⟨x, y, z, hbytes, htriple, hvalue⟩ | ⟨x, y, z, w, hbytes, hquadruple, hvalue⟩
  · rw [hbytes, List.singleton_append, decodeFrom_single hx, hvalue, Char.ofNat_toNat]
  · rw [hbytes, List.cons_append, List.singleton_append, decodeFrom_pair hpair, hvalue,
      Char.ofNat_toNat]
  · rw [hbytes, List.cons_append, List.cons_append, List.singleton_append,
      decodeFrom_triple htriple, hvalue, Char.ofNat_toNat]
  · rw [hbytes, List.cons_append, List.cons_append, List.cons_append, List.singleton_append,
      decodeFrom_quadruple hquadruple, hvalue, Char.ofNat_toNat]

/-- A byte of the ASCII range stands for itself. -/
theorem toNat_eq_of_mem_encodeChar {c : Char} {b : UInt8} (h : b ∈ String.utf8EncodeChar c)
    (hb : b.toNat < 0x80) : b.toNat = c.toNat := by
  have htail : ∀ {x : UInt8}, IsTail x → b ≠ x := by
    rintro x hx rfl
    exact Nat.not_lt.mpr hx.low hb
  have hlead : ∀ {x : UInt8}, 0xC2 ≤ x.toNat → b ≠ x := by
    rintro x hx rfl
    omega
  rcases encodeChar_cases c with ⟨x, hbytes, -, hvalue⟩ | ⟨x, y, hbytes, hpair, -⟩ |
    ⟨x, y, z, hbytes, htriple, -⟩ | ⟨x, y, z, w, hbytes, hquadruple, -⟩
  · rw [hbytes, List.mem_singleton] at h
    rw [h, hvalue]
  · simp [hbytes, hlead hpair.lead.1, htail hpair.second] at h
  · simp [hbytes, hlead (Nat.le_trans (by decide) htriple.lead.1), htail htriple.second,
      htail htriple.third] at h
  · simp [hbytes, hlead (Nat.le_trans (by decide) hquadruple.lead.1), htail hquadruple.second,
      htail hquadruple.third, htail hquadruple.fourth] at h

/-! ## 3. Valid bytes -/

/-- Without a gap, the next byte is in the expected range. -/
theorem exists_next_of_valid {p : Pending} {bytes : Bytes}
    (h : (decodeFrom (some p) bytes).all Option.isSome = true) :
    ∃ x rest, bytes = x :: rest ∧ p.low ≤ x ∧ x ≤ p.high := by
  cases bytes with
  | nil => simp [decodeFrom] at h
  | cons x rest =>
    by_cases hx : p.low ≤ x ∧ x ≤ p.high
    · exact ⟨x, rest, rfl, hx⟩
    · rw [decodeFrom, step] at h
      simp [if_neg hx] at h

theorem ofNat_eq_of_toNat {n : Nat} {x : UInt8} (h : n = x.toNat) : UInt8.ofNat n = x := by
  rw [h, UInt8.ofNat_toNat]

section

variable {x y z w : UInt8}

theorem encodeChar_single (h : x.toNat < 0x80) :
    String.utf8EncodeChar (Char.ofNat x.toNat) = [x] := by
  have hvalue : (Char.ofNat x.toNat).toNat = x.toNat := toNat_char_ofNat (.inl (by omega))
  rw [encodeChar_eq, hvalue, if_pos (by omega), UInt8.ofNat_toNat]

theorem IsPair.encodeChar {v : Nat} (h : IsPair x y) (hv : v = pairValue x y) :
    String.utf8EncodeChar (Char.ofNat v) = [x, y] := by
  unfold pairValue at hv
  have hlead := h.lead
  have hlow := h.second.low
  have hhigh := h.second.high
  have hvalue : (Char.ofNat v).toNat = v := toNat_char_ofNat (.inl (by omega))
  have hx : UInt8.ofNat (v / 64 % 0x20 + 0xC0) = x := ofNat_eq_of_toNat (by omega)
  have hy : UInt8.ofNat (v % 0x40 + 0x80) = y := ofNat_eq_of_toNat (by omega)
  rw [encodeChar_eq, hvalue, if_neg (by omega), if_pos (by omega)]
  simp only [hx, hy]

theorem IsTriple.encodeChar {v : Nat} (h : IsTriple x y z) (hv : v = tripleValue x y z) :
    String.utf8EncodeChar (Char.ofNat v) = [x, y, z] := by
  unfold tripleValue at hv
  have hlead := h.lead
  have hlow := h.second.low
  have hhigh := h.second.high
  have hlong := h.long
  have hscalar := h.scalar
  have hlow' := h.third.low
  have hhigh' := h.third.high
  have hvalue : (Char.ofNat v).toNat = v := by
    refine toNat_char_ofNat ?_
    unfold Nat.isValidChar
    omega
  have hx : UInt8.ofNat (v / 4096 % 0x10 + 0xE0) = x := ofNat_eq_of_toNat (by omega)
  have hy : UInt8.ofNat (v / 64 % 0x40 + 0x80) = y := ofNat_eq_of_toNat (by omega)
  have hz : UInt8.ofNat (v % 0x40 + 0x80) = z := ofNat_eq_of_toNat (by omega)
  rw [encodeChar_eq, hvalue, if_neg (by omega), if_neg (by omega),
    if_pos (by omega)]
  simp only [hx, hy, hz]

theorem IsQuadruple.encodeChar {v : Nat} (h : IsQuadruple x y z w)
    (hv : v = quadrupleValue x y z w) : String.utf8EncodeChar (Char.ofNat v) = [x, y, z, w] := by
  unfold quadrupleValue at hv
  have hlead := h.lead
  have hlow := h.second.low
  have hhigh := h.second.high
  have hlong := h.long
  have hbounded := h.bounded
  have hlow' := h.third.low
  have hhigh' := h.third.high
  have hlow'' := h.fourth.low
  have hhigh'' := h.fourth.high
  have hvalue : (Char.ofNat v).toNat = v := toNat_char_ofNat (.inr (by omega))
  have hx : UInt8.ofNat (v / 262144 % 0x08 + 0xF0) = x := ofNat_eq_of_toNat (by omega)
  have hy : UInt8.ofNat (v / 4096 % 0x40 + 0x80) = y := ofNat_eq_of_toNat (by omega)
  have hz : UInt8.ofNat (v / 64 % 0x40 + 0x80) = z := ofNat_eq_of_toNat (by omega)
  have hw : UInt8.ofNat (v % 0x40 + 0x80) = w := ofNat_eq_of_toNat (by omega)
  rw [encodeChar_eq, hvalue, if_neg (by omega), if_neg (by omega),
    if_neg (by omega)]
  simp only [hx, hy, hz, hw]

end

/-- Bytes without a gap start with the bytes of a character. -/
theorem exists_encodeChar_of_valid {x : UInt8} {bytes : Bytes}
    (h : (decodeFrom none (x :: bytes)).all Option.isSome = true) :
    ∃ c rest, x :: bytes = String.utf8EncodeChar c ++ rest := by
  by_cases h1 : x.toNat < 0x80
  · exact ⟨_, bytes, by rw [encodeChar_single h1, List.singleton_append]⟩
  by_cases h2 : x.toNat < 0xC2
  · rw [decodeFrom, step, lead_invalid (by omega)] at h
    simp at h
  by_cases h3 : x.toNat < 0xE0
  · have hlead : 0xC2 ≤ x.toNat ∧ x.toNat < 0xE0 := by omega
    rw [decodeFrom_lead (lead_pair hlead)] at h
    obtain ⟨y, rest, rfl, hy⟩ := exists_next_of_valid h
    exact ⟨_, rest, by rw [IsPair.encodeChar ⟨hlead, isTail_iff.mpr hy⟩ rfl]; rfl⟩
  by_cases h4 : x.toNat < 0xF0
  · have hlead : 0xE0 ≤ x.toNat ∧ x.toNat < 0xF0 := by omega
    rw [decodeFrom_lead (lead_triple hlead)] at h
    obtain ⟨y, rest, rfl, hy⟩ := exists_next_of_valid h
    rw [decodeFrom_next hy] at h
    obtain ⟨z, rest, rfl, hz⟩ := exists_next_of_valid h
    obtain ⟨hsecond, hlong, hscalar⟩ := (secondRange_iff (by decide) (by decide)).mp hy
    have htriple : IsTriple x y z := ⟨hlead, hsecond, hlong, hscalar, isTail_iff.mpr hz⟩
    exact ⟨_, rest, by rw [htriple.encodeChar rfl]; rfl⟩
  by_cases h5 : x.toNat < 0xF5
  · have hlead : 0xF0 ≤ x.toNat ∧ x.toNat < 0xF5 := by omega
    rw [decodeFrom_lead (lead_quadruple hlead)] at h
    obtain ⟨y, rest, rfl, hy⟩ := exists_next_of_valid h
    rw [decodeFrom_next hy] at h
    obtain ⟨z, rest, rfl, hz⟩ := exists_next_of_valid h
    rw [decodeFrom_next hz] at h
    obtain ⟨w, rest, rfl, hw⟩ := exists_next_of_valid h
    obtain ⟨hsecond, hlong, hbounded⟩ := (secondRange_iff (by decide) (by decide)).mp hy
    have hquadruple : IsQuadruple x y z w :=
      ⟨hlead, hsecond, hlong, hbounded, isTail_iff.mpr hz, isTail_iff.mpr hw⟩
    exact ⟨_, rest, by rw [hquadruple.encodeChar rfl]; rfl⟩
  · rw [decodeFrom, step, lead_invalid (by omega)] at h
    simp at h

/-! ## 4. Texts -/

theorem encode_cons (c : Char) (t : Text) : encode (c :: t) = String.utf8EncodeChar c ++ encode t :=
  List.flatMap_cons

theorem encode_append (s t : Text) : encode (s ++ t) = encode s ++ encode t := List.flatMap_append

/-- The size of a text is the number of its bytes. -/
theorem length_encode (t : Text) : (encode t).length = Text.byteSize t := by
  induction t with
  | nil => rfl
  | cons c t ih =>
    rw [encode_cons, List.length_append, String.length_utf8EncodeChar, ih, Text.byteSize_cons]

/-- A byte of the ASCII range stands in the bytes of a text only where the character does. -/
theorem exists_of_encode_eq_append_cons {t : Text} {front back : Bytes} {b : UInt8}
    (hb : b.toNat < 0x80) (h : encode t = front ++ b :: back) :
    ∃ s u, t = s ++ Char.ofNat b.toNat :: u ∧ encode s = front ∧ encode u = back := by
  induction t generalizing front with
  | nil => exact absurd h.symm (List.append_ne_nil_of_right_ne_nil _ (List.cons_ne_nil _ _))
  | cons c t ih =>
    rw [encode_cons] at h
    rcases List.append_eq_append_iff.mp h with ⟨rest, rfl, ht⟩ | ⟨rest, hc, hback⟩
    · obtain ⟨s, u, rfl, rfl, hu⟩ := ih ht
      exact ⟨c :: s, u, rfl, encode_cons c s, hu⟩
    · cases rest with
      | nil =>
        obtain ⟨s, u, rfl, hs, hu⟩ := @ih [] hback.symm
        refine ⟨c :: s, u, rfl, ?_, hu⟩
        rw [encode_cons, hs, hc, List.append_nil, List.append_nil]
      | cons first rest =>
        obtain ⟨rfl, rfl⟩ := List.cons.inj hback
        have hmem : b ∈ String.utf8EncodeChar c := by
          rw [hc]
          exact List.mem_append_right _ List.mem_cons_self
        have hchar : c = Char.ofNat b.toNat := by
          rw [toNat_eq_of_mem_encodeChar hmem hb, Char.ofNat_toNat]
        rw [hchar, encodeChar_single hb] at hc
        -- The byte is all that the character has.
        cases front with
        | nil =>
          cases hc
          exact ⟨[], t, congrArg (· :: t) hchar, rfl, rfl⟩
        | cons x front => simp at hc

/-- The offset of such a byte is the size of what precedes the character. -/
theorem getElem?_encode_eq_some_iff {t : Text} {b : UInt8} {offset : Nat} (hb : b.toNat < 0x80) :
    (encode t)[offset]? = some b ↔
      ∃ s u, t = s ++ Char.ofNat b.toNat :: u ∧ Text.byteSize s = offset := by
  constructor
  · intro h
    obtain ⟨hlt, hbyte⟩ := List.getElem?_eq_some_iff.mp h
    have hsplit : encode t = (encode t).take offset ++ b :: (encode t).drop (offset + 1) := by
      rw [← hbyte, ← List.drop_eq_getElem_cons hlt, List.take_append_drop]
    obtain ⟨s, u, ht, hs, -⟩ := exists_of_encode_eq_append_cons hb hsplit
    refine ⟨s, u, ht, ?_⟩
    rw [← length_encode, hs, List.length_take, Nat.min_eq_left (Nat.le_of_lt hlt)]
  · rintro ⟨s, u, rfl, rfl⟩
    rw [encode_append, encode_cons, encodeChar_single hb, ← length_encode,
      List.getElem?_append_right (Nat.le_refl _), Nat.sub_self]
    rfl

theorem decode_encode (t : Text) : decode (encode t) = t.map some := by
  induction t with
  | nil => rfl
  | cons c t ih =>
    rw [encode_cons, decode, decodeFrom_encodeChar, List.map_cons, ← ih]
    rfl

theorem exists_encode_of_valid (bytes : Bytes)
    (h : (decodeFrom none bytes).all Option.isSome = true) : ∃ t, bytes = encode t := by
  match bytes with
  | [] => exact ⟨[], rfl⟩
  | x :: bytes =>
    obtain ⟨c, rest, hsplit⟩ := exists_encodeChar_of_valid h
    have hshorter : rest.length < (x :: bytes).length := by
      have hpos := c.utf8Size_pos
      rw [hsplit, List.length_append, String.length_utf8EncodeChar]
      omega
    rw [hsplit, decodeFrom_encodeChar, List.all_cons, Bool.and_eq_true] at h
    obtain ⟨t, rfl⟩ := exists_encode_of_valid rest h.2
    exact ⟨c :: t, by rw [hsplit, encode_cons]⟩
termination_by bytes.length
decreasing_by exact hshorter

/-- Bytes are read as a text exactly if they are the bytes of that text. -/
theorem decode?_eq_some_iff {bytes : Bytes} {t : Text} :
    decode? bytes = some t ↔ bytes = encode t := by
  have hencode : ∀ t, decode? (encode t) = some t := by
    intro t
    have hall : (t.map some).all Option.isSome = true := by simp
    rw [decode?, decode_encode, if_pos hall, List.filterMap_map]
    simp
  constructor
  · intro h
    have hvalid : (decode bytes).all Option.isSome = true := by
      unfold decode? at h
      split at h
      · assumption
      · cases h
    obtain ⟨t', rfl⟩ := exists_encode_of_valid bytes hvalid
    rw [hencode] at h
    cases h
    rfl
  · rintro rfl
    exact hencode t

theorem encode_injective {s t : Text} (h : encode s = encode t) : s = t := by
  have hs := decode?_eq_some_iff.mpr (Eq.refl (encode s))
  rw [h, decode?_eq_some_iff.mpr rfl] at hs
  exact (Option.some.inj hs).symm

end StubGen.Utf8
