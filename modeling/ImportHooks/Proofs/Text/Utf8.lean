import ImportHooks.Text.Utf8

namespace ImportHooks.Text

theorem scalar?_toNat {least : Nat} {c : Char} (large : least ≤ c.toNat) : scalar? least c.toNat = some c := by
  have valid : c.toNat.isValidChar := c.valid
  simp [scalar?, valid, large]

theorem ofNat_toNat {n : Nat} (small : n < 256) : (UInt8.ofNat n).toNat = n := by
  simp [Nat.mod_eq_of_lt small]

theorem ofNat_lt {n m : Nat} (less : n < m) (small : m < 256) : UInt8.ofNat n < UInt8.ofNat m := by
  rwa [UInt8.lt_iff_toNat_lt, ofNat_toNat (Nat.lt_trans less small), ofNat_toNat small]

theorem not_ofNat_lt {n m : Nat} (least : m ≤ n) (small : n < 256) : ¬ UInt8.ofNat n < UInt8.ofNat m := by
  rw [UInt8.lt_iff_toNat_lt, ofNat_toNat small, ofNat_toNat (Nat.lt_of_le_of_lt least small)]
  omega

theorem isContinuation_ofNat (n : Nat) : isContinuation (UInt8.ofNat (n % 64 + 128)) = true := by
  have small : n % 64 + 128 < 256 := by omega
  simp only [isContinuation, Bool.and_eq_true, decide_eq_true_eq, UInt8.le_iff_toNat_le, ofNat_toNat small]
  constructor
  · exact Nat.le_add_left 128 _
  · show n % 64 + 128 ≤ 191
    omega

theorem ofUtf8?_one {n : Nat} (rest : List UInt8) (small : n < 0x80) :
    ofUtf8? (UInt8.ofNat n :: rest) = (ofUtf8? rest).map (Char.ofNat n :: ·) := by
  have byte : n < 256 := by omega
  have one : UInt8.ofNat n < 0x80 := @ofNat_lt _ 0x80 small (by decide)
  rw [ofUtf8?.eq_def]
  simp only [if_pos one, ofNat_toNat byte]

theorem ofUtf8?_two {n b : Nat} (rest : List UInt8) (low : 2 ≤ n) (high : n < 32) (behind : b < 64) :
    ofUtf8? (UInt8.ofNat (n + 0xC0) :: UInt8.ofNat (b + 0x80) :: rest) =
      (scalar? 0x80 (n * 64 + b)).bind fun c => (ofUtf8? rest).map (c :: ·) := by
  have lead : n + 0xC0 < 256 := by omega
  have byte : b + 0x80 < 256 := by omega
  have continued := isContinuation_ofNat b
  rw [Nat.mod_eq_of_lt behind] at continued
  have one : ¬ UInt8.ofNat (n + 0xC0) < 0x80 := @not_ofNat_lt _ 0x80 (by omega) lead
  have short : ¬ UInt8.ofNat (n + 0xC0) < 0xC2 := @not_ofNat_lt _ 0xC2 (by omega) lead
  have two : UInt8.ofNat (n + 0xC0) < 0xE0 := @ofNat_lt _ 0xE0 (by omega) (by decide)
  rw [ofUtf8?.eq_def]
  simp only [if_neg one, continued, short, two, ofNat_toNat lead, ofNat_toNat byte, Nat.add_sub_cancel,
    Bool.not_true, decide_false, Bool.or_self, Bool.false_eq_true, if_false, if_true]
  rfl

theorem ofUtf8?_three {n b d : Nat} (rest : List UInt8) (high : n < 16) (behind : b < 64) (last : d < 64) :
    ofUtf8? (UInt8.ofNat (n + 0xE0) :: UInt8.ofNat (b + 0x80) :: UInt8.ofNat (d + 0x80) :: rest) =
      (scalar? 0x800 ((n * 64 + b) * 64 + d)).bind fun c => (ofUtf8? rest).map (c :: ·) := by
  have lead : n + 0xE0 < 256 := by omega
  have second : b + 0x80 < 256 := by omega
  have third : d + 0x80 < 256 := by omega
  have continued := isContinuation_ofNat b
  have ended := isContinuation_ofNat d
  rw [Nat.mod_eq_of_lt behind] at continued
  rw [Nat.mod_eq_of_lt last] at ended
  have one : ¬ UInt8.ofNat (n + 0xE0) < 0x80 := @not_ofNat_lt _ 0x80 (by omega) lead
  have short : ¬ UInt8.ofNat (n + 0xE0) < 0xC2 := @not_ofNat_lt _ 0xC2 (by omega) lead
  have two : ¬ UInt8.ofNat (n + 0xE0) < 0xE0 := @not_ofNat_lt _ 0xE0 (by omega) lead
  have three : UInt8.ofNat (n + 0xE0) < 0xF0 := @ofNat_lt _ 0xF0 (by omega) (by decide)
  rw [ofUtf8?.eq_def]
  simp only [if_neg one, continued, ended, short, if_neg two, three, ofNat_toNat lead, ofNat_toNat second,
    ofNat_toNat third, Nat.add_sub_cancel, Bool.not_true, decide_false, Bool.or_self, Bool.false_eq_true, if_false,
    if_true]
  rfl

theorem ofUtf8?_four {n b d e : Nat} (rest : List UInt8) (high : n < 5) (behind : b < 64) (third : d < 64)
    (last : e < 64) :
    ofUtf8? (UInt8.ofNat (n + 0xF0) :: UInt8.ofNat (b + 0x80) :: UInt8.ofNat (d + 0x80) :: UInt8.ofNat (e + 0x80) ::
      rest) = (scalar? 0x10000 (((n * 64 + b) * 64 + d) * 64 + e)).bind fun c => (ofUtf8? rest).map (c :: ·) := by
  have lead : n + 0xF0 < 256 := by omega
  have atSecond : b + 0x80 < 256 := by omega
  have atThird : d + 0x80 < 256 := by omega
  have atLast : e + 0x80 < 256 := by omega
  have continued := isContinuation_ofNat b
  have further := isContinuation_ofNat d
  have ended := isContinuation_ofNat e
  rw [Nat.mod_eq_of_lt behind] at continued
  rw [Nat.mod_eq_of_lt third] at further
  rw [Nat.mod_eq_of_lt last] at ended
  have one : ¬ UInt8.ofNat (n + 0xF0) < 0x80 := @not_ofNat_lt _ 0x80 (by omega) lead
  have short : ¬ UInt8.ofNat (n + 0xF0) < 0xC2 := @not_ofNat_lt _ 0xC2 (by omega) lead
  have two : ¬ UInt8.ofNat (n + 0xF0) < 0xE0 := @not_ofNat_lt _ 0xE0 (by omega) lead
  have three : ¬ UInt8.ofNat (n + 0xF0) < 0xF0 := @not_ofNat_lt _ 0xF0 (by omega) lead
  have four : ¬ 0xF4 < UInt8.ofNat (n + 0xF0) := @not_ofNat_lt 0xF4 _ (by omega) (by decide)
  rw [ofUtf8?.eq_def]
  simp only [if_neg one, continued, further, ended, short, if_neg two, if_neg three, four, ofNat_toNat lead,
    ofNat_toNat atSecond, ofNat_toNat atThird, ofNat_toNat atLast, Nat.add_sub_cancel, Bool.not_true, decide_false,
    Bool.or_self, Bool.false_eq_true, if_false]
  rfl

theorem ofUtf8?_encodeChar (c : Char) (rest : List UInt8) :
    ofUtf8? (String.utf8EncodeChar c ++ rest) = (ofUtf8? rest).map (c :: ·) := by
  have bound : c.toNat < 0x110000 := by
    have valid := c.valid
    simp only [UInt32.isValidChar, Nat.isValidChar] at valid
    simp only [Char.toNat]
    omega
  have value : c.val.toNat = c.toNat := rfl
  unfold String.utf8EncodeChar
  simp only [value]
  split
  · rename_i one
    rw [List.cons_append, List.nil_append, ofUtf8?_one rest (by omega), Char.ofNat_toNat]
  · split
    · simp only [List.cons_append, List.nil_append]
      rw [ofUtf8?_two rest (by omega) (by omega) (by omega)]
      have same : c.toNat / 64 % 0x20 * 64 + c.toNat % 0x40 = c.toNat := by omega
      rw [same, scalar?_toNat (by omega)]
      rfl
    · split
      · simp only [List.cons_append, List.nil_append]
        rw [ofUtf8?_three rest (by omega) (by omega) (by omega)]
        have same : (c.toNat / 4096 % 0x10 * 64 + c.toNat / 64 % 0x40) * 64 + c.toNat % 0x40 = c.toNat := by omega
        rw [same, scalar?_toNat (by omega)]
        rfl
      · simp only [List.cons_append, List.nil_append]
        rw [ofUtf8?_four rest (by omega) (by omega) (by omega) (by omega)]
        have same : ((c.toNat / 262144 % 0x08 * 64 + c.toNat / 4096 % 0x40) * 64 + c.toNat / 64 % 0x40) * 64 +
            c.toNat % 0x40 = c.toNat := by omega
        rw [same, scalar?_toNat (by omega)]
        rfl

theorem ofUtf8?_utf8 (text : Text) : ofUtf8? (utf8 text) = some text := by
  induction text with
  | nil => rfl
  | cons c rest ih =>
    have parted : utf8 (c :: rest) = String.utf8EncodeChar c ++ utf8 rest := rfl
    rw [parted, ofUtf8?_encodeChar, ih]
    rfl

theorem utf8_injective {left right : Text} (same : utf8 left = utf8 right) : left = right := by
  have decoded := ofUtf8?_utf8 left
  rw [same, ofUtf8?_utf8] at decoded
  exact (Option.some.inj decoded).symm

end ImportHooks.Text
