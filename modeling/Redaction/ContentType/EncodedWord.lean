/-
  Encoded words.

  A header can hold any text in letters of ASCII: between `=?` and `?=` stand the name of an
  encoding, a letter, and the bytes of the text, written as the letter says.

  * `quotedPrintable` and `base64` are the bytes that `q` and `b` write;
  * `encodedWord?` reads the encoded word that a text starts with;
  * `length_of_encodedWord?`: an encoded word is not empty.
-/
import Redaction.Encoding.Codec
import Redaction.Text.HexEscape

namespace Redaction.ContentType

/-! ## Bytes as text -/

/-- Whether a character stands for a byte: one of ASCII does, and a surrogate that keeps a byte. -/
def isByte (c : CodePoint) : Bool := c.val < 0x80 || (Encoding.keptByte? c).isSome

/-- The bytes with the numbers of the characters, of which the lowest eight bits count. -/
def bytesOf (t : Text) : Bytes := t.map fun c => UInt8.ofNat c.val

/-- The bytes that a text writes with `_` for the blank and `=` before the number of any byte. -/
def quotedPrintable (t : Text) : Bytes :=
  bytesOf (Text.unescapeHex '=' (t.map fun c : CodePoint => if c = '_' then (' ' : CodePoint) else c))

/-- The six bits that a letter of base 64 stands for. -/
def base64Value? (c : CodePoint) : Option Nat :=
  if 0x41 ≤ c.val ∧ c.val ≤ 0x5A then some (c.val - 0x41)
  else if 0x61 ≤ c.val ∧ c.val ≤ 0x7A then some (c.val - 0x61 + 26)
  else if c.isAsciiDigit then some (c.val - 0x30 + 52)
  else if c = '+' then some 62
  else if c = '/' then some 63
  else none

/-- The bytes that a text in base 64 writes, behind those already `done`, which are in reverse.
    `letters` of the current four were read, of which `bits` are left over, and `padding` tells how
    many signs of padding stand behind them. Characters that are no letters do not count. -/
def base64Onto (done : Bytes) (letters bits padding : Nat) : Text → Option Bytes
  | [] => if letters = 0 then some done.reverse else none
  | c :: rest =>
    if c = '=' then
      if letters < 2 then base64Onto done letters bits padding rest
      else if letters + padding = 3 then some done.reverse
      else base64Onto done letters bits (padding + 1) rest
    else
      match base64Value? c with
      | none => base64Onto done letters bits padding rest
      | some v =>
        match letters with
        | 0 => base64Onto done 1 v 0 rest
        | 1 => base64Onto (UInt8.ofNat (bits * 4 + v / 16) :: done) 2 (v % 16) 0 rest
        | 2 => base64Onto (UInt8.ofNat (bits * 16 + v / 4) :: done) 3 (v % 4) 0 rest
        | _ => base64Onto (UInt8.ofNat (bits * 64 + v) :: done) 0 0 0 rest

/-- The bytes that a text in base 64 writes. Missing padding is made up for; a text that still
    writes no bytes stands for itself. -/
def base64 (t : Text) : Bytes :=
  ((base64Onto [] 0 0 0 t).or (base64Onto [] 0 0 0 (t ++ ("==" : Text)))).getD (bytesOf t)

/-! ## Words -/

/-- The text that the bytes of an encoded word stand for. Bad bytes are kept as surrogates, and so are
    all bytes beyond ASCII where there is no such encoding. -/
def wordText? [Encoding.Codecs] (encoding : Text) (bytes : Bytes) : Option Text :=
  let decoded (encoding : Encoding) : Option Text :=
    (Encoding.decodeTreating Encoding.escaping encoding bytes).toOption
  if encoding.any CodePoint.isSurrogate then decoded .ascii
  else if encoding.any (·.val = 0) then none
  else if bytes.isEmpty then some []
  else
    match Encoding.named? encoding with
    | some encoding => decoded encoding
    | none =>
      match Encoding.Codecs.read? false encoding bytes with
      | none => decoded .ascii
      | some (.text t) => some t
      | some (.failed _) => none
      | some (.undecodable _) =>
        match Encoding.Codecs.read? true encoding bytes with
        | some (.text t) => some t
        | _ => none

/-- What an encoded word stands for, given what is between its marks. A language may follow the
    name of the encoding behind a star. -/
def decodeWord? [Encoding.Codecs] (inside : Text) : Option Text :=
  match inside.splitOn ('?' : CodePoint) with
  | [encoding, letter, code] =>
    let encoding := encoding.takeWhile fun c => c ≠ ('*' : CodePoint)
    if code.any fun c => ! isByte c then none
    else if letter = ("q" : Text) ∨ letter = ("Q" : Text) then
      wordText? encoding (quotedPrintable code)
    else if letter = ("b" : Text) ∨ letter = ("B" : Text) then wordText? encoding (base64 code)
    else none
  | _ => none

/-- What stands before and behind the first `?=`, with `done` before it in reverse. -/
def cutMarkOnto (done : Text) : Text → Option (Text × Text)
  | [] => none
  | c :: rest =>
    if c = '?' ∧ rest.head? = some '=' then some (done.reverse, rest.drop 1)
    else cutMarkOnto (c :: done) rest

/-- What stands before and behind the first `?=` of a text. -/
def cutMark (t : Text) : Option (Text × Text) := cutMarkOnto [] t

theorem length_of_cutMarkOnto {done t before behind : Text}
    (h : cutMarkOnto done t = some (before, behind)) : behind.length ≤ t.length := by
  fun_induction cutMarkOnto done t with
  | case1 => simp at h
  | case2 done c rest hmark =>
    obtain ⟨-, rfl⟩ := Prod.mk.inj (Option.some.inj h)
    simp only [List.length_drop, List.length_cons]
    omega
  | case3 done c rest _ ih => exact Nat.le_succ_of_le (ih h)

/-- Whether a text starts with two hexadecimal digits. -/
def startsHexPair : Text → Bool
  | a :: b :: _ => a.isHexDigit && b.isHexDigit
  | _ => false

/-- What is between the marks of an encoded word, and what follows it, given what follows its first
    mark. A mark before two hexadecimal digits belongs to the bytes. -/
def wordInside? (body : Text) : Option (Text × Text) :=
  match cutMark body with
  | none => none
  | some (inside, rest) =>
    if startsHexPair rest ∧ inside.count ('?' : CodePoint) < 2 then
      match cutMark rest with
      | some (more, rest) => some (inside ++ ("?=" : Text) ++ more, rest)
      | none => some (inside ++ ("?=" : Text) ++ rest, [])
    else some (inside, rest)

theorem length_of_wordInside? {body inside rest : Text} (h : wordInside? body = some (inside, rest)) :
    rest.length ≤ body.length := by
  unfold wordInside? at h
  split at h
  · simp at h
  · next inside' rest' hcut =>
    have hle := length_of_cutMarkOnto hcut
    split at h
    · split at h
      · next more rest'' hcut' =>
        obtain ⟨-, rfl⟩ := Prod.mk.inj (Option.some.inj h)
        exact Nat.le_trans (length_of_cutMarkOnto hcut') hle
      · obtain ⟨-, rfl⟩ := Prod.mk.inj (Option.some.inj h)
        simp
    · obtain ⟨-, rfl⟩ := Prod.mk.inj (Option.some.inj h)
      exact hle

/-- The encoded word that a text starts with, and what follows it. -/
def encodedWord? [Encoding.Codecs] (t : Text) : Option (Text × Text) :=
  if t.take 2 = ("=?" : Text) then
    match wordInside? (t.drop 2) with
    | none => none
    | some (inside, rest) => (decodeWord? inside).map fun word => (word, rest)
  else none

theorem length_of_encodedWord? [Encoding.Codecs] {t word rest : Text}
    (h : encodedWord? t = some (word, rest)) : rest.length < t.length := by
  unfold encodedWord? at h
  split at h
  · next hstart =>
    split at h
    · simp at h
    · next inside rest' hinside =>
      have hle := length_of_wordInside? hinside
      obtain ⟨_, -, heq⟩ := Option.map_eq_some_iff.1 h
      obtain ⟨-, rfl⟩ := Prod.mk.inj heq
      have hlength := congrArg List.length hstart
      simp only [List.length_take, List.length_drop] at hlength hle
      have htwo : ("=?" : Text).length = 2 := rfl
      omega
  · simp at h

end Redaction.ContentType
