import NodeImage.Unicode.Surrogate

/-!
# UTF-8

Decoding bytes as UTF-8 text, with the exact place and reason of the first error, and
encoding text as bytes.

A decoding error names the bytes that could not be decoded: from the start of the bad
sequence to the last byte that still belonged to it. The reasons are the three a strict
decoder tells apart: a byte that cannot start a character (`invalidStart`), a start byte
followed by a byte that cannot continue it (`invalidContinuation`), and a character cut off
by the end of the bytes (`unexpectedEnd`). Overlong forms, surrogates and values above
U+10FFFF are refused at the first byte that shows them, as the sequence's second byte.

Encoding strictly refuses a text that holds lone surrogates (kept as their stand-ins), naming
the first run of them by character positions, as a strict encoder does.
-/

namespace NodeImage.Text.Utf8

/-- Why bytes are not UTF-8. -/
inductive Reason where
  | invalidStart
  | invalidContinuation
  | unexpectedEnd
deriving DecidableEq, Repr

/-- The words a decoder uses for a reason. -/
def Reason.text : Reason → String
  | .invalidStart => "invalid start byte"
  | .invalidContinuation => "invalid continuation byte"
  | .unexpectedEnd => "unexpected end of data"

/-- The first error in a byte sequence: the bad bytes run from `start` up to, not including,
`stop`, and `first` is the byte at `start`. -/
structure DecodeError where
  start : Nat
  stop : Nat
  first : UInt8
  reason : Reason
deriving Repr

/-- Whether a byte continues a character. -/
def isContinuation (b : Nat) : Bool := 0x80 ≤ b && b ≤ 0xBF

/-- Whether the second byte of a sequence is allowed after the first: the general
continuation range narrowed after `E0`, `ED`, `F0` and `F4`. -/
def secondAllowed (first second : Nat) : Bool :=
  if first == 0xE0 then 0xA0 ≤ second && second ≤ 0xBF
  else if first == 0xED then 0x80 ≤ second && second ≤ 0x9F
  else if first == 0xF0 then 0x90 ≤ second && second ≤ 0xBF
  else if first == 0xF4 then 0x80 ≤ second && second ≤ 0x8F
  else isContinuation second

/-- The length of the sequence a start byte begins, or `none` when it cannot start one. -/
def sequenceLength (b : Nat) : Option Nat :=
  if b < 0x80 then some 1
  else if 0xC2 ≤ b && b ≤ 0xDF then some 2
  else if 0xE0 ≤ b && b ≤ 0xEF then some 3
  else if 0xF0 ≤ b && b ≤ 0xF4 then some 4
  else none

/-- How many bytes after the start byte are valid continuations, looking at most at
`want` of them. -/
def validFollowers (first : Nat) (rest : List Nat) (want : Nat) : Nat :=
  match want, rest with
  | 0, _ => 0
  | _, [] => 0
  | w + 1, b :: bs =>
    if secondAllowed first b then
      1 + ((bs.take w).takeWhile isContinuation).length
    else 0

/-- The code point of a complete sequence. -/
def codePoint (first : Nat) (followers : List Nat) : Nat :=
  let lead := if followers.length == 1 then first % 32
    else if followers.length == 2 then first % 16 else first % 8
  followers.foldl (fun acc b => acc * 64 + b % 64) lead

/-- Decodes bytes from position `pos`, adding characters to `acc`. -/
def decodeFrom (acc : List Char) (pos : Nat) : List Nat → Except DecodeError (List Char)
  | [] => .ok acc.reverse
  | b :: rest =>
    match sequenceLength b with
    | none => .error ⟨pos, pos + 1, b.toUInt8, .invalidStart⟩
    | some 1 => decodeFrom (Char.ofNat b :: acc) (pos + 1) rest
    | some len =>
      let good := validFollowers b rest (len - 1)
      if good == len - 1 then
        let followers := rest.take good
        decodeFrom (Char.ofNat (codePoint b followers) :: acc) (pos + len) (rest.drop good)
      else if good == rest.length then
        .error ⟨pos, pos + 1 + good, b.toUInt8, .unexpectedEnd⟩
      else
        .error ⟨pos, pos + 1 + good, b.toUInt8, .invalidContinuation⟩
termination_by bytes => bytes.length
decreasing_by
  all_goals
    simp only [List.length_drop, List.length_cons]
    omega

/-- The text of UTF-8 bytes, or the first error. -/
def decode (bytes : List UInt8) : Except DecodeError String :=
  (decodeFrom [] 0 (bytes.map (·.toNat))).map String.ofList

/-- The UTF-8 bytes of a text. -/
def encode (s : String) : List UInt8 := s.toUTF8.toList

/-- Why a text has no UTF-8 form: it holds lone surrogates. The first run of them starts at
character `start` and ends before `stop`, and `first` is the surrogate at `start`. -/
structure EncodeError where
  start : Nat
  stop : Nat
  first : Nat
deriving Repr

/-- Whether a character stands for a lone surrogate. -/
def isStandIn (c : Char) : Bool := (Unicode.surrogateOf? c).isSome

/-- The first run of lone surrogates in characters that start at position `pos`. -/
def firstSurrogateRun : List Char → Nat → Option EncodeError
  | [], _ => none
  | c :: cs, pos =>
    match Unicode.surrogateOf? c with
    | some s => some ⟨pos, pos + 1 + (cs.takeWhile isStandIn).length, s⟩
    | none => firstSurrogateRun cs (pos + 1)

/-- The UTF-8 bytes of a text, or the first run of lone surrogates it holds. -/
def encodeStrict (s : String) : Except EncodeError (List UInt8) :=
  match firstSurrogateRun s.toList 0 with
  | some e => .error e
  | none => .ok (encode s)

/-- A text has UTF-8 bytes when none of its characters stands for a lone surrogate. -/
def Encodable (s : String) : Prop := ∀ c ∈ s.toList, isStandIn c = false

instance (s : String) : Decidable (Encodable s) :=
  inferInstanceAs (Decidable (∀ c ∈ s.toList, isStandIn c = false))

/-- The message of an encoding error: the one surrogate, written `\uhhhh`, or the positions of
the run. -/
def EncodeError.message (e : EncodeError) : String :=
  if e.stop == e.start + 1 then
    "'utf-8' codec can't encode character '\\u" ++ String.ofList (Nat.toDigits 16 e.first) ++
      "' in position " ++ toString e.start ++ ": surrogates not allowed"
  else "'utf-8' codec can't encode characters in position " ++ toString e.start ++ "-" ++
    toString (e.stop - 1) ++ ": surrogates not allowed"

/-- Two hexadecimal digits of a byte. -/
def hexByte (b : UInt8) : String :=
  let digit := fun (n : Nat) => if n < 10 then Char.ofNat (48 + n) else Char.ofNat (87 + n)
  String.ofList [digit (b.toNat / 16), digit (b.toNat % 16)]

/-- The message of a decoding error, naming the codec, the bytes and the reason. -/
def DecodeError.message (e : DecodeError) : String :=
  let place := if e.stop == e.start + 1 then
      "byte 0x" ++ hexByte e.first ++ " in position " ++ toString e.start
    else "bytes in position " ++ toString e.start ++ "-" ++ toString (e.stop - 1)
  "'utf-8' codec can't decode " ++ place ++ ": " ++ e.reason.text

end NodeImage.Text.Utf8
