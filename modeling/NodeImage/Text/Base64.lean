/-!
# Base64

The base64 encoding of RFC 4648 with its standard alphabet and `=` padding, and its
decoding. Decoding is lenient in the usual way: characters outside the alphabet are
skipped, decoding stops at padding that completes a group, and a final group of one
character is rejected, as is a final group of two or three characters without its padding.
-/

namespace NodeImage.Text.Base64

/-- The alphabet, indexed by six-bit values. -/
def alphabet : List Char :=
  "ABCDEFGHIJKLMNOPQRSTUVWXYZabcdefghijklmnopqrstuvwxyz0123456789+/".toList

/-- The character of a six-bit value. -/
def digit (n : Nat) : Char := alphabet.getD n '='

/-- The six-bit value of a character of the alphabet. -/
def valueOf? (c : Char) : Option Nat :=
  if 'A' ≤ c && c ≤ 'Z' then some (c.toNat - 'A'.toNat)
  else if 'a' ≤ c && c ≤ 'z' then some (c.toNat - 'a'.toNat + 26)
  else if '0' ≤ c && c ≤ '9' then some (c.toNat - '0'.toNat + 52)
  else if c == '+' then some 62
  else if c == '/' then some 63
  else none

/-- The characters encoding a list of bytes, three bytes to four characters. -/
def encodeChars : List UInt8 → List Char
  | [] => []
  | [a] =>
    let n := a.toNat * 65536
    [digit (n / 262144 % 64), digit (n / 4096 % 64), '=', '=']
  | [a, b] =>
    let n := a.toNat * 65536 + b.toNat * 256
    [digit (n / 262144 % 64), digit (n / 4096 % 64), digit (n / 64 % 64), '=']
  | a :: b :: c :: rest =>
    let n := a.toNat * 65536 + b.toNat * 256 + c.toNat
    digit (n / 262144 % 64) :: digit (n / 4096 % 64) :: digit (n / 64 % 64) :: digit (n % 64) ::
      encodeChars rest

/-- The base64 text of a list of bytes. -/
def encode (bytes : List UInt8) : String := String.ofList (encodeChars bytes)

/-- Where decoding stands inside a group of four characters: how many characters of the
group have been read, the bits left over, and how many padding characters followed. -/
structure DecodeState where
  position : Nat
  carry : Nat
  pads : Nat
  out : List UInt8

/-- Decodes characters, skipping those outside the alphabet. -/
def decodeChars : DecodeState → List Char → Option (List UInt8)
  | st, [] => if st.position == 0 then some st.out.reverse else none
  | st, c :: cs =>
    if c == '=' then
      let pads := st.pads + 1
      if st.position ≥ 2 && st.position + pads ≥ 4 then some st.out.reverse
      else decodeChars { st with pads := pads } cs
    else
      match valueOf? c with
      | none => decodeChars st cs
      | some v =>
        let st := { st with pads := 0 }
        match st.position with
        | 0 => decodeChars { st with position := 1, carry := v } cs
        | 1 =>
          let byte := (st.carry * 4 + v / 16).toUInt8
          decodeChars { st with position := 2, carry := v % 16, out := byte :: st.out } cs
        | 2 =>
          let byte := ((st.carry * 16 + v / 4) % 256).toUInt8
          decodeChars { st with position := 3, carry := v % 4, out := byte :: st.out } cs
        | _ =>
          let byte := ((st.carry * 64 + v) % 256).toUInt8
          decodeChars { st with position := 0, carry := 0, out := byte :: st.out } cs

/-- The bytes of a base64 text, or `none` when its last group is incomplete. -/
def decode? (s : String) : Option (List UInt8) :=
  decodeChars ⟨0, 0, 0, []⟩ s.toList

end NodeImage.Text.Base64
