import Exposition.Text.Utf8
import Mathlib.Data.List.Basic

/-!
# Proofs/Text/Utf8 — reading back what was written

The bytes that write a text are read as that text, strictly (`decode_encode`) and with replacement
(`decodeLossy_encode`) alike.  Both readers look at one character at a time (`start`), so all there
is to show is that the bytes of a character begin with that character (`start_utf8EncodeChar`).  In
any bytes that are a text, those of ASCII are characters of it (`mem_of_mem_decodeFrom`).
-/

namespace Exposition.Text.Utf8

/-! ## The bytes of one character -/

section Start

variable {b x y z : UInt8} {v : Nat}

theorem isTail_of_bits {n : Nat} (hx : x.toNat = n % 64 + 0x80) : isTail x = true := by
  have low : 0x80 ≤ x.toNat := by omega
  have high : x.toNat ≤ 0xBF := by omega
  rw [isTail, Bool.and_eq_true, decide_eq_true_iff, decide_eq_true_iff]
  exact ⟨low, high⟩

theorem tailBits_of_bits {n : Nat} (hx : x.toNat = n % 64 + 0x80) : tailBits x = n % 64 := by
  have bits : x.toNat - 0x80 = n % 64 := by omega
  exact bits

theorem isSecond_iff : isSecond b x = true ↔ 0x80 ≤ x.toNat ∧ x.toNat ≤ 0xBF
    ∧ (b.toNat = 0xE0 → 0xA0 ≤ x.toNat) ∧ (b.toNat = 0xED → x.toNat ≤ 0x9F)
    ∧ (b.toNat = 0xF0 → 0x90 ≤ x.toNat) ∧ (b.toNat = 0xF4 → x.toNat ≤ 0x8F) := by
  simp only [isSecond, isTail, beq_iff_eq, ← UInt8.toNat_inj, UInt8.le_iff_toNat_le]
  simp only [UInt8.reduceToNat]
  split_ifs
  all_goals
    simp only [Bool.and_eq_true, decide_eq_true_eq]
    omega

/-- After a first byte of three, the second is neither overlong nor half of a surrogate pair. -/
theorem isSecond_of_three (hb : b.toNat = v / 4096 + 0xE0) (hx : x.toNat = v / 64 % 64 + 0x80)
    (low : 0x800 ≤ v) (high : v < 0x10000) (whole : v < 0xD800 ∨ 0xDFFF < v) :
    isSecond b x = true := isSecond_iff.2 (by omega)

/-- After a first byte of four, the second is neither overlong nor too large. -/
theorem isSecond_of_four (hb : b.toNat = v / 262144 + 0xF0) (hx : x.toNat = v / 4096 % 64 + 0x80)
    (low : 0x10000 ≤ v) (high : v < 0x110000) : isSecond b x = true := isSecond_iff.2 (by omega)

theorem start_one (hb : b.toNat = v) (high : v < 0x80) (rest : List UInt8) :
    start b rest = .char (Char.ofNat v) 0 := by
  simp only [start, UInt8.lt_iff_toNat_lt, hb, UInt8.reduceToNat]
  rw [if_pos high]

theorem start_two (hb : b.toNat = v / 64 + 0xC0) (hx : x.toNat = v % 64 + 0x80)
    (low : 0x80 ≤ v) (high : v < 0x800) (rest : List UInt8) :
    start b (x :: rest) = .char (Char.ofNat v) 1 := by
  simp only [start, UInt8.lt_iff_toNat_lt, hb, isTail_of_bits hx, tailBits_of_bits hx]
  simp only [UInt8.reduceToNat]
  rw [if_neg (by omega), if_neg (by omega), if_pos (by omega), if_pos trivial]
  congr 2
  omega

theorem start_three (hb : b.toNat = v / 4096 + 0xE0) (hx : x.toNat = v / 64 % 64 + 0x80)
    (hy : y.toNat = v % 64 + 0x80) (low : 0x800 ≤ v) (high : v < 0x10000)
    (whole : v < 0xD800 ∨ 0xDFFF < v) (rest : List UInt8) :
    start b (x :: y :: rest) = .char (Char.ofNat v) 2 := by
  simp only [start, UInt8.lt_iff_toNat_lt, hb, isSecond_of_three hb hx low high whole,
    isTail_of_bits hy, tailBits_of_bits hx, tailBits_of_bits hy]
  simp only [UInt8.reduceToNat]
  rw [if_neg (by omega), if_neg (by omega), if_neg (by omega), if_pos (by omega), if_pos trivial,
    if_pos trivial]
  congr 2
  omega

theorem start_four (hb : b.toNat = v / 262144 + 0xF0) (hx : x.toNat = v / 4096 % 64 + 0x80)
    (hy : y.toNat = v / 64 % 64 + 0x80) (hz : z.toNat = v % 64 + 0x80) (low : 0x10000 ≤ v)
    (high : v < 0x110000) (rest : List UInt8) :
    start b (x :: y :: z :: rest) = .char (Char.ofNat v) 3 := by
  simp only [start, UInt8.lt_iff_toNat_lt, hb, isSecond_of_four hb hx low high, isTail_of_bits hy,
    isTail_of_bits hz, tailBits_of_bits hx, tailBits_of_bits hy, tailBits_of_bits hz]
  simp only [UInt8.reduceToNat]
  rw [if_neg (by omega), if_neg (by omega), if_neg (by omega), if_neg (by omega),
    if_pos (by omega), if_pos trivial, if_pos trivial, if_pos trivial]
  congr 2
  omega

end Start

/-- **The bytes of a character begin with that character**, whatever follows them. -/
theorem start_utf8EncodeChar (c : Char) (rest : List UInt8) : ∃ b more,
    String.utf8EncodeChar c = b :: more ∧ start b (more ++ rest) = .char c more.length := by
  have bounds : c.val.toNat < 0xD800 ∨ 0xDFFF < c.val.toNat ∧ c.val.toNat < 0x110000 := c.valid
  have same : Char.ofNat c.val.toNat = c := Char.ofNat_toNat c
  have byte {m n : Nat} (small : m < 256) (eq : m = n) : (UInt8.ofNat m).toNat = n :=
    (UInt8.toNat_ofNat_of_lt' small).trans eq
  simp only [String.utf8EncodeChar]
  generalize c.val.toNat = v at bounds same
  rw [← same]
  split_ifs with one two three
  · exact ⟨_, [], rfl, start_one (byte (by omega) rfl) (by omega) _⟩
  · exact ⟨_, [_], rfl, start_two (byte (by omega) (by omega)) (byte (by omega) rfl) (by omega)
      (by omega) _⟩
  · exact ⟨_, [_, _], rfl, start_three (byte (by omega) (by omega)) (byte (by omega) rfl)
      (byte (by omega) rfl) (by omega) (by omega) (by omega) _⟩
  · exact ⟨_, [_, _, _], rfl, start_four (byte (by omega) (by omega)) (byte (by omega) rfl)
      (byte (by omega) rfl) (byte (by omega) rfl) (by omega) (by omega) _⟩

/-- A character of ASCII is one byte. -/
theorem utf8EncodeChar_of_ascii {c : Char} (small : c.toNat < 0x80) :
    String.utf8EncodeChar c = [UInt8.ofNat c.toNat] := by
  have bound : c.val.toNat ≤ 127 := Nat.le_of_lt_succ small
  simp only [String.utf8EncodeChar, if_pos bound]
  rfl

/-- Every byte of another character is past ASCII. -/
theorem le_of_mem_utf8EncodeChar {c : Char} {b : UInt8} (large : 0x80 ≤ c.toNat)
    (mem : b ∈ String.utf8EncodeChar c) : 0x80 ≤ b.toNat := by
  have bounds : c.val.toNat < 0xD800 ∨ 0xDFFF < c.val.toNat ∧ c.val.toNat < 0x110000 := c.valid
  change 0x80 ≤ c.val.toNat at large
  simp only [String.utf8EncodeChar] at mem
  generalize c.val.toNat = v at bounds mem large
  split_ifs at mem
  all_goals
    simp only [List.mem_cons, List.not_mem_nil, or_false, ← UInt8.toNat_inj,
      UInt8.toNat_ofNat'] at mem
    omega

/-! ## Whole texts -/

theorem encode_cons (c : Char) (cs : List Char) :
    encode (c :: cs) = String.utf8EncodeChar c ++ encode cs := List.flatMap_cons

theorem encode_append (cs ds : List Char) : encode (cs ++ ds) = encode cs ++ encode ds :=
  List.flatMap_append

theorem encode_of_ascii {cs : List Char} (small : ∀ c ∈ cs, c.toNat < 0x80) :
    encode cs = cs.map fun c => UInt8.ofNat c.toNat := by
  induction cs with
  | nil => rfl
  | cons c cs ih =>
    rw [encode_cons, utf8EncodeChar_of_ascii (small c List.mem_cons_self),
      ih fun d mem => small d (List.mem_cons_of_mem _ mem)]
    rfl

theorem decodeFrom_encode (read : Nat) (cs : List Char) : decodeFrom read (encode cs) = .ok cs := by
  induction cs generalizing read with
  | nil => rw [encode, List.flatMap_nil, decodeFrom]
  | cons c cs ih =>
    obtain ⟨b, more, bytes, begins⟩ := start_utf8EncodeChar c (encode cs)
    rw [encode_cons, bytes, List.cons_append, decodeFrom, begins]
    simp only [List.drop_left, ih]
    rfl

/-- **What was written is read as it was.** -/
theorem decode_encode (cs : List Char) : decode (encode cs) = .ok cs := decodeFrom_encode 0 cs

theorem decode?_encode (s : String) : decode? (encode s.toList) = some s := by
  rw [decode?, decode_encode]
  exact congrArg some (String.ofList_toList ..)

/-- Nothing has to be replaced in what was written. -/
theorem decodeLossy_encode (cs : List Char) : decodeLossy (encode cs) = cs := by
  induction cs with
  | nil => rw [encode, List.flatMap_nil, decodeLossy]
  | cons c cs ih =>
    obtain ⟨b, more, bytes, begins⟩ := start_utf8EncodeChar c (encode cs)
    rw [encode_cons, bytes, List.cons_append, decodeLossy, begins]
    simp only [List.drop_left, ih]

/-! ## Bytes of ASCII -/

theorem le_of_isTail {x : UInt8} (tail : isTail x) : 0x80 ≤ x := by
  rw [isTail, Bool.and_eq_true] at tail
  exact decide_eq_true_iff.1 tail.1

theorem le_of_isSecond {b x : UInt8} (second : isSecond b x) : 0x80 ≤ x :=
  UInt8.le_iff_toNat_le.2 (isSecond_iff.1 second).1

/-- The bytes of a character after its first are outside ASCII. -/
theorem le_of_start {b : UInt8} {rest : List UInt8} {c : Char} {more : Nat}
    (begins : start b rest = .char c more) : ∀ x ∈ rest.take more, 0x80 ≤ x := by
  rcases rest with _ | ⟨x, _ | ⟨y, _ | ⟨z, rest⟩⟩⟩
  · simp
  all_goals
    unfold start at begins
    grind [le_of_isTail, le_of_isSecond]

/-- **A byte of ASCII is a character of the text**: it is part of no other. -/
theorem mem_of_mem_decodeFrom {read : Nat} {bytes : List UInt8} {cs : List Char}
    (text : decodeFrom read bytes = .ok cs) {x : UInt8} (mem : x ∈ bytes) (small : x < 0x80) :
    Char.ofNat x.toNat ∈ cs := by
  fun_induction decodeFrom read bytes generalizing cs with
  | case1 => exact absurd mem List.not_mem_nil
  | case2 read b rest c more begins ih =>
    cases later : decodeFrom (read + 1 + more) (rest.drop more) with
    | error fault => simp [later] at text
    | ok ds =>
      obtain rfl : c :: ds = cs := by simpa [later] using text
      rcases List.mem_cons.1 mem with rfl | inside
      · have alone := start_one rfl (UInt8.lt_iff_toNat_lt.1 small) rest
        obtain ⟨rfl, -⟩ := Start.char.inj (begins.symm.trans alone)
        exact List.mem_cons_self
      · rw [← List.take_append_drop more rest, List.mem_append] at inside
        rcases inside with tail | after
        · exact absurd (le_of_start begins x tail) (UInt8.not_le.2 small)
        · exact List.mem_cons_of_mem c (ih later after)
  | case3 => cases text
  | case4 => cases text

end Exposition.Text.Utf8
