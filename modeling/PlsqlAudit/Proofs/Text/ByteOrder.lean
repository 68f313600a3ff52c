import Mathlib.Tactic.SplitIfs

/-!
# Texts in the order of their bytes

* `Text.bytes` — the UTF-8 bytes of a text.
* `Text.encode_lt` — of two characters, the one with the smaller code has the smaller bytes, whatever
  follows them.
* `Text.lt_iff_bytes_lt` — comparing texts character by character is comparing them byte by byte.
-/

namespace PlsqlAudit

namespace Text

/-- The UTF-8 bytes of a text. -/
def bytes (s : String) : List UInt8 := s.toByteArray.data.toList

theorem bytes_eq_flatMap (s : String) : bytes s = s.toList.flatMap String.utf8EncodeChar := by
  have h : s.toByteArray = (s.toList.flatMap String.utf8EncodeChar).toByteArray :=
    String.utf8Encode_toList.symm
  unfold bytes
  rw [h, List.toList_data_toByteArray]

theorem ofNat_lt_iff {m n : Nat} (hm : m < 256) (hn : n < 256) :
    UInt8.ofNat m < UInt8.ofNat n ↔ m < n := by
  rw [UInt8.lt_iff_toNat_lt, UInt8.toNat_ofNat_of_lt' hm, UInt8.toNat_ofNat_of_lt' hn]

theorem ofNat_eq_iff {m n : Nat} (hm : m < 256) (hn : n < 256) :
    UInt8.ofNat m = UInt8.ofNat n ↔ m = n := by
  rw [← UInt8.toNat_inj, UInt8.toNat_ofNat_of_lt' hm, UInt8.toNat_ofNat_of_lt' hn]

/-- Numbers compare as their digits of six bits do, the first that differs. -/
theorem digits_lt {m n : Nat} (h : m < n) :
    m / 262144 < n / 262144 ∨ m / 262144 = n / 262144 ∧
      (m / 4096 % 64 < n / 4096 % 64 ∨ m / 4096 % 64 = n / 4096 % 64 ∧
        (m / 64 % 64 < n / 64 % 64 ∨ m / 64 % 64 = n / 64 % 64 ∧ m % 64 < n % 64)) := by
  have hlast : m / 64 < n / 64 ∨ m / 64 = n / 64 ∧ m % 64 < n % 64 := by omega
  have hthird : m / 64 < n / 64 →
      m / 4096 < n / 4096 ∨ m / 4096 = n / 4096 ∧ m / 64 % 64 < n / 64 % 64 := by omega
  have hsecond : m / 4096 < n / 4096 →
      m / 262144 < n / 262144 ∨ m / 262144 = n / 262144 ∧ m / 4096 % 64 < n / 4096 % 64 := by omega
  rcases hlast with hlt | ⟨heq, hlt⟩
  · rcases hthird hlt with hlt | ⟨heq, hlt⟩
    · rcases hsecond hlt with hlt | ⟨heq, hlt⟩
      · exact .inl hlt
      · exact .inr ⟨heq, .inl hlt⟩
    · omega
  · omega

/-- The first byte grows with the number of bytes, and the bytes of one number are the digits of the
code in order, so the first byte in which two characters differ decides as their codes do. -/
theorem encode_lt {c d : Char} (h : c < d) (u v : List UInt8) :
    String.utf8EncodeChar c ++ u < String.utf8EncodeChar d ++ v := by
  have hcode : c.val.toNat < d.val.toNat := h
  have hmax : d.val.toNat < 0x110000 := by
    have hvalid := d.valid
    simp only [UInt32.isValidChar, Nat.isValidChar] at hvalid
    omega
  have hdigits := digits_lt hcode
  have hlead : c.val.toNat / 262144 % 8 = c.val.toNat / 262144 := by omega
  have hlead' : d.val.toNat / 262144 % 8 = d.val.toNat / 262144 := by omega
  unfold String.utf8EncodeChar
  simp only
  -- One case for each pair of lengths; the smaller code never has the longer encoding.
  split_ifs <;>
    simp (disch := omega) only [List.cons_append, List.nil_append, List.cons_lt_cons_iff, ofNat_lt_iff,
      ofNat_eq_iff] <;>
    omega

theorem encode_ne_nil (c : Char) : String.utf8EncodeChar c ≠ [] := by
  have h : (String.utf8EncodeChar c).length ≠ 0 := by
    rw [String.length_utf8EncodeChar]
    exact Nat.ne_of_gt c.utf8Size_pos
  exact fun hnil => h (List.length_eq_zero_iff.2 hnil)

/-- Encoding keeps the order: equal characters in front have equal bytes, and the first two that differ
decide. -/
theorem flatMap_lt {cs ds : List Char} (h : cs < ds) :
    cs.flatMap String.utf8EncodeChar < ds.flatMap String.utf8EncodeChar := by
  induction h with
  | @nil d ds =>
    rw [List.flatMap_nil, List.flatMap_cons]
    cases hd : String.utf8EncodeChar d with
    | nil => exact absurd hd (encode_ne_nil d)
    | cons b bs => exact List.nil_lt_cons b _
  | rel hcd =>
    rw [List.flatMap_cons, List.flatMap_cons]
    exact encode_lt hcd _ _
  | cons _ ih =>
    rw [List.flatMap_cons, List.flatMap_cons]
    exact List.append_left_lt ih

/-- **Texts compare as their bytes do.** -/
theorem lt_iff_bytes_lt {s t : String} : s < t ↔ bytes s < bytes t := by
  have hkeeps : ∀ {s t : String}, s < t → bytes s < bytes t := by
    intro s t hlt
    rw [bytes_eq_flatMap, bytes_eq_flatMap]
    exact flatMap_lt hlt
  refine ⟨hkeeps, fun hlt => ?_⟩
  -- One of the two texts comes first or they are equal, and the bytes leave only one of these.
  by_cases hst : s < t
  · exact hst
  · exfalso
    rcases Std.le_iff_lt_or_eq.1 (String.not_lt.1 hst) with hts | rfl
    · exact Std.lt_irrefl (Std.lt_trans hlt (hkeeps hts))
    · exact Std.lt_irrefl hlt

end Text

end PlsqlAudit
