/-
  Decoding undoes encoding.

  * `StandsFor step bytes c`: a decoder that stands before the bytes reads the character, whatever
    follows them;
  * `decodeFrom_encodeEach`: a text is read back if the bytes of each character stand for it;
  * `standsFor_utf8Bytes`, `standsFor_utf16Bytes` and their like: the bytes that an encoding writes do;
  * `decode?_encode?`: so every encoding reads back what it writes, marks and signatures included;
  * `redact_encoded`: a body in bytes is redacted as the text that it encodes.
-/
import Redaction.Batch
import Redaction.Proofs.Refusal

namespace Redaction

namespace Encoding

variable {step : UInt8 → Bytes → Step} {write : CodePoint → Option Bytes} {c : CodePoint}
  {bytes : Bytes} {t : Text}

/-! ## Texts -/

/-- Bytes that are read as a character, whatever follows them. -/
def StandsFor (step : UInt8 → Bytes → Step) (bytes : Bytes) (c : CodePoint) : Prop :=
  ∃ b more, bytes = b :: more ∧ ∀ rest, step b (more ++ rest) = .char c more.length

theorem StandsFor.decodeOnto_append (h : StandsFor step bytes c) (treat : Treatment) (done : Text)
    (offset : Nat) (rest : Bytes) :
    decodeOnto step treat done offset (bytes ++ rest) =
      decodeOnto step treat (c :: done) (offset + bytes.length) rest := by
  obtain ⟨b, more, rfl, hstep⟩ := h
  have hoffset : offset + 1 + more.length = offset + (b :: more).length := by
    rw [List.length_cons]
    omega
  rw [List.cons_append, decodeOnto, hstep]
  simp only [List.drop_left, hoffset]

theorem encodeEach_nil : encodeEach write [] = some [] := rfl

theorem encodeEach_cons_eq_some_iff :
    encodeEach write (c :: t) = some bytes ↔
      ∃ first others, write c = some first ∧ encodeEach write t = some others ∧
        bytes = first ++ others := by
  rw [encodeEach, encodeEach, List.mapM_cons]
  cases write c with
  | none => simp
  | some first =>
    cases t.mapM write with
    | none => simp
    | some others => simp [eq_comm]

/-- Every text is written whose characters are. -/
theorem exists_encodeEach (h : ∀ c ∈ t, ∃ bytes, write c = some bytes) :
    ∃ bytes, encodeEach write t = some bytes := by
  induction t with
  | nil => exact ⟨[], encodeEach_nil⟩
  | cons c t ih =>
    rw [List.forall_mem_cons] at h
    obtain ⟨first, hfirst⟩ := h.1
    obtain ⟨others, hothers⟩ := ih h.2
    exact ⟨first ++ others, encodeEach_cons_eq_some_iff.2 ⟨first, others, hfirst, hothers, rfl⟩⟩

theorem decodeOnto_encodeEach (h : ∀ c bytes, write c = some bytes → StandsFor step bytes c)
    (ht : encodeEach write t = some bytes) (treat : Treatment) (done : Text) (offset : Nat) :
    decodeOnto step treat done offset bytes = .ok (done.reverse ++ t) := by
  induction t generalizing bytes done offset with
  | nil =>
    obtain rfl : [] = bytes := Option.some.inj (encodeEach_nil.symm.trans ht)
    rw [decodeOnto, List.append_nil]
  | cons c t ih =>
    obtain ⟨first, others, hfirst, hothers, rfl⟩ := encodeEach_cons_eq_some_iff.1 ht
    rw [(h c first hfirst).decodeOnto_append, ih hothers, List.reverse_cons, List.append_assoc,
      List.singleton_append]

/-- **A text is read back behind a mark** if the bytes of each character stand for it. -/
theorem decodeFrom_encodeEach (h : ∀ c bytes, write c = some bytes → StandsFor step bytes c)
    (ht : encodeEach write t = some bytes) (treat : Treatment) (mark : Bytes) :
    decodeFrom step treat mark.length (mark ++ bytes) = .ok t := by
  rw [decodeFrom, List.drop_left, decodeOnto_encodeEach h ht, List.reverse_nil, List.nil_append]

/-! ## One byte for each character -/

theorem toNat_ofNat {n : Nat} (h : n < 0x100) : (UInt8.ofNat n).toNat = n :=
  UInt8.toNat_ofNat_of_lt' h

theorem exists_of_byteBelow {bound : Nat} (hbound : bound ≤ 0x100)
    (h : byteBelow bound c = some bytes) :
    ∃ b : UInt8, bytes = [b] ∧ b.toNat = c.val ∧ c.val < bound := by
  obtain ⟨hc, hbytes⟩ := Option.ite_none_right_eq_some.1 h
  exact ⟨_, (Option.some.inj hbytes).symm, toNat_ofNat (by omega), hc⟩

theorem standsFor_singleton {b : UInt8} (h : ∀ rest, step b rest = .char c 0) :
    StandsFor step [b] c :=
  ⟨b, [], rfl, h⟩

theorem standsFor_ascii (h : byteBelow 0x80 c = some bytes) : StandsFor asciiStep bytes c := by
  obtain ⟨b, rfl, hb, hc⟩ := exists_of_byteBelow (by decide) h
  refine standsFor_singleton fun rest => ?_
  have hlt : b < 0x80 := by
    rw [UInt8.lt_iff_toNat_lt, hb]
    exact hc
  rw [asciiStep, if_pos hlt, hb, CodePoint.ofNat_val]

theorem standsFor_latin1 (h : byteBelow 0x100 c = some bytes) : StandsFor latin1Step bytes c := by
  obtain ⟨b, rfl, hb, -⟩ := exists_of_byteBelow le_rfl h
  refine standsFor_singleton fun rest => ?_
  rw [latin1Step, hb, CodePoint.ofNat_val]

/-- A character of Windows 1252 whose byte is assigned to it. -/
theorem standsFor_windows1252_of_assigned {i : Nat}
    (h : windows1252Characters.findIdx? (· = some c.val) = some i) :
    StandsFor windows1252Step [UInt8.ofNat (0x80 + i)] c := by
  obtain ⟨hi, hassigned, -⟩ := List.findIdx?_eq_some_iff_getElem.1 h
  have hcount : i < 0x20 := hi
  have hb : (UInt8.ofNat (0x80 + i)).toNat = 0x80 + i := toNat_ofNat (by omega)
  have hrange : 0x80 ≤ UInt8.ofNat (0x80 + i) ∧ UInt8.ofNat (0x80 + i) ≤ 0x9F := by
    rw [UInt8.le_iff_toNat_le, UInt8.le_iff_toNat_le, hb]
    exact ⟨Nat.le_add_right _ _, Nat.add_le_add_left (Nat.le_of_lt_succ hcount) _⟩
  have hlisted : windows1252Characters[i]? = some (some c.val) := by
    rw [List.getElem?_eq_getElem hi, of_decide_eq_true hassigned]
  refine standsFor_singleton fun rest => ?_
  rw [windows1252Step, if_pos hrange, hb, Nat.add_sub_cancel_left, hlisted]
  simp only [CodePoint.ofNat_val]

/-- A character of Windows 1252 that is also one of Latin 1. -/
theorem standsFor_windows1252_of_latin1 (hc : ¬ (0x80 ≤ c.val ∧ c.val ≤ 0x9F))
    (h : byteBelow 0x100 c = some bytes) : StandsFor windows1252Step bytes c := by
  obtain ⟨b, rfl, hb, -⟩ := exists_of_byteBelow le_rfl h
  have hrange : ¬ (0x80 ≤ b ∧ b ≤ 0x9F) := by
    rw [UInt8.le_iff_toNat_le, UInt8.le_iff_toNat_le, hb]
    exact hc
  refine standsFor_singleton fun rest => ?_
  rw [windows1252Step, if_neg hrange, hb, CodePoint.ofNat_val]

/-! ## UTF-8 -/

theorem toNat_continuation (n : Nat) : (continuation n).toNat = 0x80 + n % 0x40 :=
  toNat_ofNat (by omega)

theorem isContinuation_continuation (n : Nat) : isContinuation (continuation n) = true := by
  have hn := toNat_continuation n
  rw [isContinuation, Bool.and_eq_true, decide_eq_true_iff, decide_eq_true_iff,
    UInt8.le_iff_toNat_le, UInt8.le_iff_toNat_le, hn]
  exact ⟨Nat.le_add_right _ _, Nat.add_le_add_left (Nat.le_of_lt_succ (Nat.mod_lt _ (by decide))) _⟩

theorem payload_continuation (n : Nat) : payload (continuation n) = n % 0x40 := by
  rw [payload, toNat_continuation]
  omega

/-- The second byte of a character is in its range. Four of the first bytes leave less of it. -/
theorem within_secondRange {first : UInt8} {n : Nat}
    (hE0 : first.toNat = 0xE0 → 0x20 ≤ n % 0x40) (hED : first.toNat = 0xED → n % 0x40 < 0x20)
    (hF0 : first.toNat = 0xF0 → 0x10 ≤ n % 0x40) (hF4 : first.toNat = 0xF4 → n % 0x40 < 0x10) :
    ¬ (continuation n < (secondRange first).1 ∨ (secondRange first).2 < continuation n) := by
  rw [UInt8.lt_iff_toNat_lt, UInt8.lt_iff_toNat_lt, toNat_continuation, secondRange]
  split_ifs with h₁ h₂ h₃ h₄
  · have := hE0 (congrArg UInt8.toNat h₁)
    simp only [UInt8.reduceToNat]
    omega
  · have := hED (congrArg UInt8.toNat h₂)
    simp only [UInt8.reduceToNat]
    omega
  · have := hF0 (congrArg UInt8.toNat h₃)
    simp only [UInt8.reduceToNat]
    omega
  · have := hF4 (congrArg UInt8.toNat h₄)
    simp only [UInt8.reduceToNat]
    omega
  · simp only [UInt8.reduceToNat]
    omega

/-- The first byte of a longer character is no byte of ASCII, and one that can start a character. -/
theorem starts_of_toNat {b : UInt8} (hlow : 0xC2 ≤ b.toNat) (hhigh : b.toNat ≤ 0xF4) :
    ¬ b < 0x80 ∧ ¬ (b < 0xC2 ∨ 0xF4 < b) := by
  rw [UInt8.lt_iff_toNat_lt, UInt8.lt_iff_toNat_lt, UInt8.lt_iff_toNat_lt]
  simp only [UInt8.reduceToNat]
  omega

theorem utf8Step_one {b : UInt8} (h : b.toNat < 0x80) (rest : Bytes) :
    utf8Step b rest = .char (CodePoint.ofNat b.toNat) 0 := by
  have hb : b < 0x80 := UInt8.lt_iff_toNat_lt.2 h
  unfold utf8Step
  rw [if_pos hb]

theorem utf8Step_two {b : UInt8} {n : Nat} (hlow : 0xC2 ≤ b.toNat) (hhigh : b.toNat < 0xE0)
    (rest : Bytes) :
    utf8Step b (continuation n :: rest) =
      .char (CodePoint.ofNat ((b.toNat - 0xC0) * 0x40 + n % 0x40)) 1 := by
  obtain ⟨hascii, hstart⟩ := starts_of_toNat hlow (by omega)
  have hsecond := @within_secondRange b n (by omega) (by omega) (by omega) (by omega)
  have hb : b < 0xE0 := UInt8.lt_iff_toNat_lt.2 hhigh
  unfold utf8Step
  simp only [if_neg hascii, if_neg hstart, if_neg hsecond, if_pos hb, payload_continuation]

theorem utf8Step_three {b : UInt8} {m n : Nat} (hlow : 0xE0 ≤ b.toNat) (hhigh : b.toNat < 0xF0)
    (hE0 : b.toNat = 0xE0 → 0x20 ≤ m % 0x40) (hED : b.toNat = 0xED → m % 0x40 < 0x20)
    (rest : Bytes) :
    utf8Step b (continuation m :: continuation n :: rest) =
      .char (CodePoint.ofNat (((b.toNat - 0xE0) * 0x40 + m % 0x40) * 0x40 + n % 0x40)) 2 := by
  obtain ⟨hascii, hstart⟩ := starts_of_toNat (b := b) (by omega) (by omega)
  have hsecond := within_secondRange hE0 hED (by omega) (by omega)
  have hE : ¬ b < 0xE0 := mt UInt8.lt_iff_toNat_lt.1 (Nat.not_lt.2 hlow)
  have hF : b < 0xF0 := UInt8.lt_iff_toNat_lt.2 hhigh
  unfold utf8Step
  simp only [if_neg hascii, if_neg hstart, if_neg hsecond, if_neg hE, if_pos hF,
    isContinuation_continuation, payload_continuation, Bool.not_true, Bool.false_eq_true, if_false]

theorem utf8Step_four {b : UInt8} {l m n : Nat} (hlow : 0xF0 ≤ b.toNat) (hhigh : b.toNat ≤ 0xF4)
    (hF0 : b.toNat = 0xF0 → 0x10 ≤ l % 0x40) (hF4 : b.toNat = 0xF4 → l % 0x40 < 0x10)
    (rest : Bytes) :
    utf8Step b (continuation l :: continuation m :: continuation n :: rest) =
      .char (CodePoint.ofNat
        ((((b.toNat - 0xF0) * 0x40 + l % 0x40) * 0x40 + m % 0x40) * 0x40 + n % 0x40)) 3 := by
  obtain ⟨hascii, hstart⟩ := starts_of_toNat (b := b) (by omega) (by omega)
  have hsecond := within_secondRange (by omega) (by omega) hF0 hF4
  have hE : ¬ b < 0xE0 := mt UInt8.lt_iff_toNat_lt.1 (Nat.not_lt.2 (le_trans (by decide) hlow))
  have hF : ¬ b < 0xF0 := mt UInt8.lt_iff_toNat_lt.1 (Nat.not_lt.2 hlow)
  unfold utf8Step
  simp only [if_neg hascii, if_neg hstart, if_neg hsecond, if_neg hE, if_neg hF,
    isContinuation_continuation, payload_continuation, Bool.not_true, Bool.false_eq_true, if_false]

/-- **The bytes of a character in UTF-8 stand for it.** -/
theorem standsFor_utf8Bytes (h : utf8Bytes c = some bytes) : StandsFor utf8Step bytes c := by
  have hc := c.val_lt
  simp only [utf8Bytes, CodePoint.isSurrogate, Bool.and_eq_true, decide_eq_true_iff] at h
  split_ifs at h with hsurrogate hone htwo hthree
  · obtain rfl := Option.some.inj h
    have hb : (UInt8.ofNat c.val).toNat = c.val := toNat_ofNat (by omega)
    refine standsFor_singleton fun rest => ?_
    rw [utf8Step_one (by omega), hb, CodePoint.ofNat_val]
  · obtain rfl := Option.some.inj h
    have hb : (UInt8.ofNat (0xC0 + c.val / 0x40)).toNat = 0xC0 + c.val / 0x40 := toNat_ofNat (by omega)
    have hval : (0xC0 + c.val / 0x40 - 0xC0) * 0x40 + c.val % 0x40 = c.val := by omega
    refine ⟨_, _, rfl, fun rest => ?_⟩
    rw [List.singleton_append, utf8Step_two (by omega) (by omega), hb, hval, CodePoint.ofNat_val]
    rfl
  · obtain rfl := Option.some.inj h
    have hb : (UInt8.ofNat (0xE0 + c.val / 0x1000)).toNat = 0xE0 + c.val / 0x1000 :=
      toNat_ofNat (by omega)
    have hval : ((0xE0 + c.val / 0x1000 - 0xE0) * 0x40 + c.val / 0x40 % 0x40) * 0x40 +
        c.val % 0x40 = c.val := by omega
    refine ⟨_, _, rfl, fun rest => ?_⟩
    rw [List.cons_append, List.singleton_append,
      utf8Step_three (by omega) (by omega) (by omega) (by omega), hb, hval, CodePoint.ofNat_val]
    rfl
  · obtain rfl := Option.some.inj h
    have hb : (UInt8.ofNat (0xF0 + c.val / 0x40000)).toNat = 0xF0 + c.val / 0x40000 :=
      toNat_ofNat (by omega)
    have hval : (((0xF0 + c.val / 0x40000 - 0xF0) * 0x40 + c.val / 0x1000 % 0x40) * 0x40 +
        c.val / 0x40 % 0x40) * 0x40 + c.val % 0x40 = c.val := by omega
    refine ⟨_, _, rfl, fun rest => ?_⟩
    rw [List.cons_append, List.cons_append, List.singleton_append,
      utf8Step_four (by omega) (by omega) (by omega) (by omega), hb, hval, CodePoint.ofNat_val]
    rfl

/-! ## UTF-16 and UTF-32 -/

/-- The two bytes of a number below `0x10000` write it. -/
theorem exists_bytes16 (order : ByteOrder) (n : Nat) :
    ∃ a b, bytes16 order n = [a, b] ∧ unit16 order a b = n % 0x10000 := by
  have hlow : (UInt8.ofNat n).toNat = n % 0x100 := UInt8.toNat_ofNat' ..
  have hhigh : (UInt8.ofNat (n / 0x100)).toNat = n / 0x100 % 0x100 := UInt8.toNat_ofNat' ..
  cases order with
  | littleEndian =>
    refine ⟨_, _, rfl, ?_⟩
    rw [unit16, hlow, hhigh]
    omega
  | bigEndian =>
    refine ⟨_, _, rfl, ?_⟩
    rw [unit16, hlow, hhigh]
    omega

theorem exists_bytes32 (order : ByteOrder) {n : Nat} (h : n < 0x110000) :
    ∃ a b c d, bytes32 order n = [a, b, c, d] ∧ unit32 order a b c d = n := by
  obtain ⟨a, b, hlow, hlowUnit⟩ := exists_bytes16 order n
  obtain ⟨c, d, hhigh, hhighUnit⟩ := exists_bytes16 order (n / 0x10000)
  cases order with
  | littleEndian =>
    refine ⟨a, b, c, d, by rw [bytes32, hlow, hhigh]; rfl, ?_⟩
    rw [unit32, hlowUnit, hhighUnit]
    omega
  | bigEndian =>
    refine ⟨c, d, a, b, by rw [bytes32, hlow, hhigh]; rfl, ?_⟩
    rw [unit32, hlowUnit, hhighUnit]
    omega

/-- **The bytes of a character in UTF-32 stand for it.** -/
theorem standsFor_utf32Bytes {order : ByteOrder} (h : utf32Bytes order c = some bytes) :
    StandsFor (utf32Step order) bytes c := by
  obtain ⟨hsurrogate, hbytes⟩ := Option.ite_none_left_eq_some.1 h
  obtain ⟨a₁, a₂, a₃, a₄, hunits, hunit⟩ := exists_bytes32 order c.val_lt
  obtain rfl : [a₁, a₂, a₃, a₄] = bytes := hunits.symm.trans (Option.some.inj hbytes)
  have hrange : ¬ 0x110000 ≤ c.val := Nat.not_le.2 c.val_lt
  refine ⟨_, _, rfl, fun rest => ?_⟩
  simp only [utf32Step, List.cons_append, List.nil_append, hunit, if_neg hrange, CodePoint.ofNat_val,
    if_neg hsurrogate]
  rfl

theorem utf16Step_unit {order : ByteOrder} {a b : UInt8} (hunit : unit16 order a b = c.val)
    (hc : c.isSurrogate = false) (rest : Bytes) : utf16Step order a (b :: rest) = .char c 1 := by
  have hleading : c.isLeading = false := by
    simp only [CodePoint.isSurrogate, CodePoint.isLeading, Bool.and_eq_false_iff,
      decide_eq_false_iff_not] at hc ⊢
    omega
  have htrailing : c.isTrailing = false := by
    simp only [CodePoint.isSurrogate, CodePoint.isTrailing, Bool.and_eq_false_iff,
      decide_eq_false_iff_not] at hc ⊢
    omega
  simp only [utf16Step, hunit, CodePoint.ofNat_val, hleading, htrailing, Bool.false_eq_true, if_false]

theorem utf16Step_pair {order : ByteOrder} {a b a' b' : UInt8} (hc : 0x10000 ≤ c.val)
    (hleading : unit16 order a b = 0xD800 + (c.val - 0x10000) / 0x400)
    (htrailing : unit16 order a' b' = 0xDC00 + (c.val - 0x10000) % 0x400) (rest : Bytes) :
    utf16Step order a (b :: a' :: b' :: rest) = .char c 3 := by
  have hlt := c.val_lt
  have hfirst : (CodePoint.ofNat (unit16 order a b)).val = 0xD800 + (c.val - 0x10000) / 0x400 := by
    rw [hleading, CodePoint.ofNat_of_lt (by omega)]
  have hsecond : (CodePoint.ofNat (unit16 order a' b')).val = 0xDC00 + (c.val - 0x10000) % 0x400 := by
    rw [htrailing, CodePoint.ofNat_of_lt (by omega)]
  have hisLeading : (CodePoint.ofNat (unit16 order a b)).isLeading = true := by
    rw [CodePoint.isLeading, hfirst, Bool.and_eq_true, decide_eq_true_iff, decide_eq_true_iff]
    omega
  have hisTrailing : (CodePoint.ofNat (unit16 order a' b')).isTrailing = true := by
    rw [CodePoint.isTrailing, hsecond, Bool.and_eq_true, decide_eq_true_iff, decide_eq_true_iff]
    omega
  have hjoin : CodePoint.join (CodePoint.ofNat (unit16 order a b))
      (CodePoint.ofNat (unit16 order a' b')) = c := by
    have hval : 0x10000 + (0xD800 + (c.val - 0x10000) / 0x400 - 0xD800) * 0x400 +
        (0xDC00 + (c.val - 0x10000) % 0x400 - 0xDC00) = c.val := by omega
    rw [CodePoint.join, hfirst, hsecond, hval, CodePoint.ofNat_val]
  simp only [utf16Step, hisLeading, hisTrailing, hjoin, if_true]

/-- **The bytes of a character in UTF-16 stand for it**, be it one unit or a pair. -/
theorem standsFor_utf16Bytes {order : ByteOrder} (h : utf16Bytes order c = some bytes) :
    StandsFor (utf16Step order) bytes c := by
  have hlt := c.val_lt
  simp only [utf16Bytes] at h
  split_ifs at h with hsurrogate hc
  · obtain ⟨a, b, hbytes, hunit⟩ := exists_bytes16 order c.val
    obtain rfl : [a, b] = bytes := hbytes.symm.trans (Option.some.inj h)
    rw [Nat.mod_eq_of_lt hc] at hunit
    exact ⟨_, _, rfl, utf16Step_unit hunit (Bool.eq_false_iff.2 hsurrogate)⟩
  · obtain ⟨a, b, hfirst, hleading⟩ := exists_bytes16 order (0xD800 + (c.val - 0x10000) / 0x400)
    obtain ⟨a', b', hsecond, htrailing⟩ := exists_bytes16 order (0xDC00 + (c.val - 0x10000) % 0x400)
    rw [Nat.mod_eq_of_lt (by omega)] at hleading htrailing
    obtain rfl : [a, b] ++ [a', b'] = bytes := by rw [← hfirst, ← hsecond, Option.some.inj h]
    exact ⟨_, _, rfl, utf16Step_pair (Nat.not_lt.1 hc) hleading htrailing⟩

/-! ## Marks -/

theorem startsWith_append (mark bytes : Bytes) : startsWith mark (mark ++ bytes) = true := by
  rw [startsWith, List.take_left, decide_eq_true_iff]

/-- A mark tells the order of the bytes behind it. -/
theorem orderOf_mark16 (order : ByteOrder) (bytes : Bytes) :
    orderOf mark16 none (mark16 order ++ bytes) = (order, (mark16 order).length) := by
  cases order with
  | littleEndian => rfl
  | bigEndian => rfl

theorem orderOf_mark32 (order : ByteOrder) (bytes : Bytes) :
    orderOf mark32 none (mark32 order ++ bytes) = (order, (mark32 order).length) := by
  cases order with
  | littleEndian => rfl
  | bigEndian => rfl

/-! ## Encodings -/

/-- A text is read back in the order that a mark tells, whichever it is. -/
theorem decodeTreating_mark16 {order : ByteOrder} (h : encodeEach (utf16Bytes order) t = some bytes)
    (treat : Treatment) : decodeTreating treat (utf16 none) (mark16 order ++ bytes) = .ok t := by
  have hread := decodeFrom_encodeEach (fun _ _ => standsFor_utf16Bytes) h treat (mark16 order)
  simp only [decodeTreating, orderOf_mark16, hread]
  rfl

theorem decodeTreating_mark32 {order : ByteOrder} (h : encodeEach (utf32Bytes order) t = some bytes)
    (treat : Treatment) : decodeTreating treat (utf32 none) (mark32 order ++ bytes) = .ok t := by
  have hread := decodeFrom_encodeEach (fun _ _ => standsFor_utf32Bytes) h treat (mark32 order)
  simp only [decodeTreating, orderOf_mark32, hread]
  rfl

/-- Behind the signature of UTF-8 the text starts, be its first character a byte order mark or not. -/
theorem decodeTreating_signature (h : encodeEach utf8Bytes t = some bytes) (treat : Treatment) :
    decodeTreating treat (utf8 true) (utf8Signature ++ bytes) = .ok t := by
  have hread := decodeFrom_encodeEach (fun _ _ => standsFor_utf8Bytes) h treat utf8Signature
  simp only [decodeTreating, startsWith_append, Bool.and_true, if_true, hread]
  rfl

/-- **Every encoding reads back what it writes**, whatever is done with bytes that are no text. -/
theorem decodeTreating_encode? {encoding : Encoding} (h : encoding.encode? t = some bytes)
    (treat : Treatment) : decodeTreating treat encoding bytes = .ok t := by
  have hread {step : UInt8 → Bytes → Step} {write : CodePoint → Option Bytes} (name : Text)
      (hstep : ∀ c bytes, write c = some bytes → StandsFor step bytes c)
      (ht : encodeEach write t = some bytes) :
      (decodeFrom step treat 0 bytes).mapError (Failure.mk name) = .ok t :=
    congrArg (Except.mapError (Failure.mk name)) (decodeFrom_encodeEach hstep ht treat [])
  match encoding with
  | ascii => exact hread _ (fun _ _ => standsFor_ascii) h
  | latin1 => exact hread _ (fun _ _ => standsFor_latin1) h
  | windows1252 =>
    refine hread _ (fun c bytes hc => ?_) h
    split at hc
    case h_1 i hi =>
      obtain rfl := Option.some.inj hc
      exact standsFor_windows1252_of_assigned hi
    case h_2 =>
      obtain ⟨hrange, hbyte⟩ := Option.ite_none_left_eq_some.1 hc
      exact standsFor_windows1252_of_latin1 hrange hbyte
  | utf8 false => exact hread _ (fun _ _ => standsFor_utf8Bytes) h
  | utf8 true =>
    obtain ⟨others, hothers, rfl⟩ := Option.map_eq_some_iff.1 h
    exact decodeTreating_signature hothers treat
  | utf16 (some order) => exact hread _ (fun _ _ => standsFor_utf16Bytes) h
  | utf16 none =>
    obtain ⟨others, hothers, rfl⟩ := Option.map_eq_some_iff.1 h
    exact decodeTreating_mark16 hothers treat
  | utf32 (some order) => exact hread _ (fun _ _ => standsFor_utf32Bytes) h
  | utf32 none =>
    obtain ⟨others, hothers, rfl⟩ := Option.map_eq_some_iff.1 h
    exact decodeTreating_mark32 hothers treat
  | unreadable =>
    obtain ⟨hempty, hbytes⟩ := Option.ite_none_right_eq_some.1 h
    rw [← Option.some.inj hbytes, List.isEmpty_iff.1 hempty]
    rfl

theorem decodeTreating_nil (treat : Treatment) (encoding : Encoding) :
    decodeTreating treat encoding [] = .ok [] := by
  have hnil (step : UInt8 → Bytes → Step) (name : Text) :
      (decodeFrom step treat 0 []).mapError (Failure.mk name) = .ok [] := by
    rw [decodeFrom, List.drop_nil, decodeOnto, List.reverse_nil]
    rfl
  cases encoding with
  | ascii | latin1 | windows1252 => exact hnil ..
  | utf8 signed => cases signed <;> exact hnil ..
  | utf16 order => cases order <;> exact hnil ..
  | utf32 order => cases order <;> exact hnil ..
  | unreadable => rfl

/-- So does the encoding of a name. -/
theorem decodeNamed_encode? [Encoding.Codecs] {name : Text} {encoding : Encoding} (hname : IsLookedUp name)
    (hnamed : named? name = some encoding) (hreadable : encoding ≠ .unreadable)
    (h : encoding.encode? t = some bytes) : decodeNamed name bytes = .ok (some t) := by
  have hread := decodeTreating_encode? h strict
  have hsurrogates : surrogates? name = none :=
    surrogates?_eq_none_iff.2 fun c hc => (hname c hc).1
  have hzero : (name.any fun c => decide (c.val = 0)) = false :=
    List.any_eq_false.2 fun c hc => by simpa using (hname c hc).2
  rw [decodeNamed, hsurrogates, hzero, hnamed]
  cases bytes with
  | nil =>
    have ht : [] = t := Except.ok.inj ((decodeTreating_nil strict encoding).symm.trans hread)
    rw [← ht]
    rfl
  | cons b bytes =>
    cases encoding with
    | unreadable => exact absurd rfl hreadable
    | _ => simp [decode?, hread, Except.toOption]

/-- Encodings for all texts, and one for the texts below U+0100, each under a name. -/
def textEncodings : List (Text × Encoding) :=
  [(("utf-8" : Text), utf8 false), (("utf-8-sig" : Text), utf8 true),
   (("utf-16" : Text), utf16 none), (("utf-16-le" : Text), utf16 (some .littleEndian)),
   (("utf-16-be" : Text), utf16 (some .bigEndian)), (("utf-32" : Text), utf32 none),
   (("utf-32-le" : Text), utf32 (some .littleEndian)),
   (("utf-32-be" : Text), utf32 (some .bigEndian)), (("latin-1" : Text), latin1)]

theorem named?_of_mem_textEncodings {name : Text} {encoding : Encoding}
    (h : (name, encoding) ∈ textEncodings) :
    named? name = some encoding ∧ IsLookedUp name ∧
      encoding ∉ [ascii, windows1252, unreadable] := by
  have hall : ∀ entry ∈ textEncodings, named? entry.1 = some entry.2 ∧
      (∀ c ∈ entry.1, c.isSurrogate = false ∧ c.val ≠ 0) ∧
        entry.2 ∉ [ascii, windows1252, unreadable] := by decide +kernel
  exact hall (name, encoding) h

theorem exists_utf8Bytes (h : c.isSurrogate = false) : ∃ bytes, utf8Bytes c = some bytes := by
  simp only [utf8Bytes, h, Bool.false_eq_true, if_false]
  split_ifs <;> exact ⟨_, rfl⟩

theorem exists_utf16Bytes (order : ByteOrder) (h : c.isSurrogate = false) :
    ∃ bytes, utf16Bytes order c = some bytes := by
  simp only [utf16Bytes, h, Bool.false_eq_true, if_false]
  split_ifs <;> exact ⟨_, rfl⟩

theorem exists_utf32Bytes (order : ByteOrder) (h : c.isSurrogate = false) :
    ∃ bytes, utf32Bytes order c = some bytes := by
  rw [utf32Bytes, h]
  exact ⟨_, rfl⟩

/-- A text without surrogates is written, in Latin 1 if its characters are below U+0100. -/
theorem exists_encode? {encoding : Encoding} (hall : encoding ∉ [ascii, windows1252, unreadable])
    (ht : ∀ c ∈ t, c.isSurrogate = false) (hlatin1 : encoding = .latin1 → ∀ c ∈ t, c.val < 0x100) :
    ∃ bytes, encoding.encode? t = some bytes := by
  have hutf8 : ∃ bytes, encodeEach utf8Bytes t = some bytes :=
    exists_encodeEach fun c hc => exists_utf8Bytes (ht c hc)
  have hutf16 (order : ByteOrder) : ∃ bytes, encodeEach (utf16Bytes order) t = some bytes :=
    exists_encodeEach fun c hc => exists_utf16Bytes order (ht c hc)
  have hutf32 (order : ByteOrder) : ∃ bytes, encodeEach (utf32Bytes order) t = some bytes :=
    exists_encodeEach fun c hc => exists_utf32Bytes order (ht c hc)
  match encoding with
  | ascii | windows1252 | unreadable => exact absurd (by decide) hall
  | latin1 => exact exists_encodeEach fun c hc => ⟨_, if_pos (hlatin1 rfl c hc)⟩
  | utf8 false => exact hutf8
  | utf8 true =>
    obtain ⟨bytes, hbytes⟩ := hutf8
    exact ⟨_, congrArg (Option.map _) hbytes⟩
  | utf16 (some order) => exact hutf16 order
  | utf16 none =>
    obtain ⟨bytes, hbytes⟩ := hutf16 .littleEndian
    exact ⟨_, congrArg (Option.map _) hbytes⟩
  | utf32 (some order) => exact hutf32 order
  | utf32 none =>
    obtain ⟨bytes, hbytes⟩ := hutf32 .littleEndian
    exact ⟨_, congrArg (Option.map _) hbytes⟩

end Encoding

/-! ## Bodies -/

open Encoding (encode? textEncodings)

/-- **Bytes are redacted as the text that they encode**, as a document and as a batch, under any limits.
    The text has no surrogates, and in Latin 1 no characters beyond that. It may start with a byte order
    mark, which is no part of the document, whether the encoding puts one before it or not. -/
theorem redact_encoded [Encoding.Codecs] {name : Text} {encoding : Encoding}
    (h : (name, encoding) ∈ textEncodings)
    {t : Text} (ht : ∀ c ∈ t, c.isSurrogate = false)
    (hlatin1 : encoding = .latin1 → ∀ c ∈ t, c.val < 0x100) :
    ∃ bytes, encoding.encode? t = some bytes ∧ ∀ (limits : Json.Limits) (other : Text),
      (∃ redacted, Json.redact limits name (some (.bytes bytes)) = .ok redacted ∧
          Json.redact limits other (some (.text t)) = .ok redacted) ∧
        ∃ redacted, Batch.redact limits name (some (.bytes bytes)) = .ok redacted ∧
          Batch.redact limits other (some (.text t)) = .ok redacted := by
  obtain ⟨hnamed, hname, hall⟩ := Encoding.named?_of_mem_textEncodings h
  obtain ⟨bytes, hbytes⟩ := Encoding.exists_encode? hall ht hlatin1
  have hreadable : encoding ≠ .unreadable := fun heq => hall (by simp [heq])
  have hdecoded : Body.decode name (some (.bytes bytes)) = .ok (pure (some (Body.dropMark t))) := by
    rw [Body.decode, Encoding.decodeNamed_encode? hname hnamed hreadable hbytes]
  refine ⟨bytes, hbytes, fun limits other => ⟨⟨_, ?_, rfl⟩, ⟨_, ?_, rfl⟩⟩⟩
  · rw [Json.redact, hdecoded]
  · rw [Batch.redact, hdecoded]

/-- A text that starts with a byte order mark, which is written behind that of the encoding. Only one of
    them is dropped with the encoding, and the other as no part of the batch. -/
theorem redact_encoded_of_marked :
    encode? (.utf16 none) (CodePoint.byteOrderMark :: ("😀\n[1]" : Text)) =
        some [0xFF, 0xFE, 0xFF, 0xFE, 0x3D, 0xD8, 0x00, 0xDE, 0x0A, 0, 0x5B, 0, 0x31, 0, 0x5D, 0] ∧
      (Batch.redact { keepInvalid := true } ("utf-16" : Text) (some (.bytes
        [0xFF, 0xFE, 0xFF, 0xFE, 0x3D, 0xD8, 0x00, 0xDE, 0x0A, 0, 0x5B, 0, 0x31, 0, 0x5D, 0]))).map
          Logged.value = .ok ("😀;[\"?\"]" : Text) := by
  have hwritten : encode? (.utf16 none) (CodePoint.byteOrderMark :: ("😀\n[1]" : Text)) =
      some [0xFF, 0xFE, 0xFF, 0xFE, 0x3D, 0xD8, 0x00, 0xDE, 0x0A, 0, 0x5B, 0, 0x31, 0, 0x5D, 0] := by
    cbv
  have htext : (Batch.redact { keepInvalid := true } []
      (some (.text (CodePoint.byteOrderMark :: ("😀\n[1]" : Text))))).map Logged.value =
        .ok ("😀;[\"?\"]" : Text) := by cbv
  obtain ⟨bytes, hbytes, hredacted⟩ := @redact_encoded _ ("utf-16" : Text) (.utf16 none)
    (by simp [textEncodings]) (CodePoint.byteOrderMark :: ("😀\n[1]" : Text)) (by decide)
    (fun hlatin1 => by cases hlatin1)
  obtain ⟨redacted, hencoded, hplain⟩ := (hredacted { keepInvalid := true } []).2
  obtain rfl := Option.some.inj (hwritten.symm.trans hbytes)
  refine ⟨hwritten, ?_⟩
  rw [hencoded, ← htext, hplain]

end Redaction
