/-
  Decoding and encoding.

  * `decodeTreating` reads bytes in an encoding with a treatment for bad bytes, and `decode?` reads
    only bytes that are a text;
  * `encode?` writes a text in an encoding, with the mark or signature that the encoding has;
  * `Codecs` are the codecs of all other encodings, of which nothing is assumed;
  * `decodeNamed` reads bytes in the encoding of a name. Bytes that are no text give nothing, as
    does a name of no encoding; `NameError` tells the names that are refused.
-/
import Redaction.Encoding.Name
import Redaction.Encoding.SingleByte
import Redaction.Encoding.Utf8
import Redaction.Encoding.Wide

namespace Redaction.Encoding

/-- The mark of UTF-16: U+FEFF. -/
def mark16 (order : ByteOrder) : Bytes := bytes16 order 0xFEFF

/-- The mark of UTF-32: U+FEFF. -/
def mark32 (order : ByteOrder) : Bytes := bytes32 order 0xFEFF

/-- The name of an encoding of numbers in some order, as messages give it. -/
def nameInOrder (name : Text) : ByteOrder → Text
  | .littleEndian => name ++ ("-le" : Text)
  | .bigEndian => name ++ ("-be" : Text)

/-- The text that bytes stand for in an encoding, with a treatment for bad bytes. -/
def decodeTreating (treat : Treatment) (encoding : Encoding) (bytes : Bytes) :
    Except Failure Text :=
  let reading (name : Text) (step : UInt8 → Bytes → Step) (offset : Nat) : Except Failure Text :=
    (decodeFrom step treat offset bytes).mapError (Failure.mk name)
  match encoding with
  | ascii => reading "ascii" asciiStep 0
  | latin1 => reading "latin-1" latin1Step 0
  | windows1252 => reading "charmap" windows1252Step 0
  | utf8 signature =>
    reading "utf-8" utf8Step
      (if signature && startsWith utf8Signature bytes then utf8Signature.length else 0)
  | utf16 order =>
    let (order, offset) := orderOf mark16 order bytes
    reading (nameInOrder "utf-16" order) (utf16Step order) offset
  | utf32 order =>
    let (order, offset) := orderOf mark32 order bytes
    reading (nameInOrder "utf-32" order) (utf32Step order) offset
  | unreadable =>
    match bytes with
    | [] => .ok []
    | first :: others => .error ⟨"undefined", 0, first, others, .unreadable⟩

/-- The text that bytes stand for in an encoding, if they are a text. -/
def decode? (encoding : Encoding) (bytes : Bytes) : Option Text :=
  (decodeTreating strict encoding bytes).toOption

/-- The bytes of each character in order. -/
def encodeEach (write : CodePoint → Option Bytes) (t : Text) : Option Bytes :=
  (t.mapM write).map List.flatten

/-- The bytes of a text in an encoding, if it can be written. Where the order of bytes is open, the
    lower byte comes first, behind a mark. -/
def encode? : Encoding → Text → Option Bytes
  | ascii, t => encodeEach (byteBelow 0x80) t
  | latin1, t => encodeEach (byteBelow 0x100) t
  | windows1252, t => encodeEach
      (fun c =>
        match windows1252Characters.findIdx? (· = some c.val) with
        | some i => some [UInt8.ofNat (0x80 + i)]
        | none => if 0x80 ≤ c.val ∧ c.val ≤ 0x9F then none else byteBelow 0x100 c) t
  | utf8 false, t => encodeEach utf8Bytes t
  | utf8 true, t => (encodeEach utf8Bytes t).map (utf8Signature ++ ·)
  | utf16 (some order), t => encodeEach (utf16Bytes order) t
  | utf16 none, t =>
    (encodeEach (utf16Bytes .littleEndian) t).map (mark16 .littleEndian ++ ·)
  | utf32 (some order), t => encodeEach (utf32Bytes order) t
  | utf32 none, t =>
    (encodeEach (utf32Bytes .littleEndian) t).map (mark32 .littleEndian ++ ·)
  | unreadable, t => if t.isEmpty then some [] else none

/-! ## Other encodings -/

/-- What a codec makes of bytes. -/
inductive Reading where
  | text (t : Text)
  /-- Some of the bytes stand for no character. -/
  | undecodable (message : Text)
  /-- The codec gives up with an error that is not about bytes at a place. -/
  | failed (message : Text)
  deriving DecidableEq

/-- Reads bytes. Bytes that stand for no character can be asked to be kept as surrogates. -/
abbrev Codec := (keeping : Bool) → Bytes → Reading

/-- The codecs of the encodings that are not among the above, by all of their names. -/
class Codecs where
  find? : Text → Option Codec

/-- No other encodings. -/
instance : Codecs where
  find? _ := none

/-- What the codec of a name makes of bytes, if there is one. -/
def Codecs.read? [Codecs] (keeping : Bool) (name : Text) (bytes : Bytes) : Option Reading :=
  (find? name).map fun codec => codec keeping bytes

/-! ## Encodings by name -/

/-- Why the name of an encoding is refused. -/
inductive NameError where
  /-- The name holds surrogates: so many others follow the first one, which stands at a place. -/
  | surrogates (offset : Nat) (first : CodePoint) (others : Nat)
  /-- The name holds the character zero. -/
  | zeroCharacter
  /-- The encoding can read no bytes. -/
  | unreadable
  /-- The codec of the encoding gives up. -/
  | failed (message : Text)
  deriving DecidableEq

/-- The first surrogates in a name, if there are any. Surrogates behind them count with them. -/
def surrogates? (name : Text) : Option NameError :=
  match name.dropWhile fun c => ! c.isSurrogate with
  | [] => none
  | first :: rest =>
    some (.surrogates (name.length - (rest.length + 1)) first
      (rest.takeWhile CodePoint.isSurrogate).length)

/-- The text that bytes stand for in the encoding of a name. Where there are no bytes, the name is
    not looked up. -/
def decodeNamed [Codecs] (name : Text) (bytes : Bytes) : Except NameError (Option Text) :=
  match surrogates? name with
  | some e => .error e
  | none =>
    if name.any (·.val = 0) then .error .zeroCharacter
    else if bytes.isEmpty then .ok (some [])
    else
      match named? name with
      | some .unreadable => .error .unreadable
      | some encoding => .ok (decode? encoding bytes)
      | none =>
        match Codecs.read? false name bytes with
        | none | some (.undecodable _) => .ok none
        | some (.text t) => .ok (some t)
        | some (.failed message) => .error (.failed message)

end Redaction.Encoding
