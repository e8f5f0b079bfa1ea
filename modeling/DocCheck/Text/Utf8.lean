/-!
UTF-8 text with replacement: each longest prefix of a character that does not go on, and each byte
that starts none, becomes U+FFFD.
-/

set_option autoImplicit false

namespace DocCheck.Text

/-- What must follow the first byte of a character: the range of the second byte and the number of
further bytes after it. -/
structure Sequel where
  low : UInt8
  high : UInt8
  more : Nat
  deriving DecidableEq, Repr

/-- The sequel of a first byte from 0x80 on; a byte that starts no character has none. -/
def sequel? (byte : UInt8) : Option Sequel :=
  if 0xC2 ≤ byte ∧ byte ≤ 0xDF then some ⟨0x80, 0xBF, 0⟩
  else if byte = 0xE0 then some ⟨0xA0, 0xBF, 1⟩
  else if byte = 0xED then some ⟨0x80, 0x9F, 1⟩
  else if 0xE1 ≤ byte ∧ byte ≤ 0xEF then some ⟨0x80, 0xBF, 1⟩
  else if byte = 0xF0 then some ⟨0x90, 0xBF, 2⟩
  else if 0xF1 ≤ byte ∧ byte ≤ 0xF3 then some ⟨0x80, 0xBF, 2⟩
  else if byte = 0xF4 then some ⟨0x80, 0x8F, 2⟩
  else none

/-- The leading bits of the code point in the first byte of a character. -/
def leadBits (byte : UInt8) : Nat :=
  if byte < 0xE0 then byte.toNat % 32 else if byte < 0xF0 then byte.toNat % 16 else byte.toNat % 8

/-- Where the reading of a character stands. -/
inductive Pending where
  /-- Between characters. -/
  | none
  /-- The next byte must lie in a range, and `more` bytes follow it. -/
  | some (code : Nat) (sequel : Sequel)
  deriving DecidableEq, Repr

/-- Reads bytes that follow what is pending. -/
def decodeLossyFrom (pending : Pending) : List UInt8 → List Char
  | [] =>
    match pending with
    | .none => []
    | .some _ _ => ['\uFFFD']
  | byte :: rest =>
    let afresh : List Char × Pending :=
      if byte < 0x80 then ([Char.ofNat byte.toNat], .none)
      else
        match sequel? byte with
        | some sequel => ([], .some (leadBits byte) sequel)
        | none => (['\uFFFD'], .none)
    match pending with
    | .none => afresh.1 ++ decodeLossyFrom afresh.2 rest
    | .some code ⟨low, high, more⟩ =>
      if low ≤ byte ∧ byte ≤ high then
        let code := code * 64 + byte.toNat % 64
        match more with
        | 0 => Char.ofNat code :: decodeLossyFrom .none rest
        | more + 1 => decodeLossyFrom (.some code ⟨0x80, 0xBF, more⟩) rest
      else
        '\uFFFD' :: afresh.1 ++ decodeLossyFrom afresh.2 rest

def decodeLossy (bytes : List UInt8) : List Char :=
  decodeLossyFrom .none bytes

end DocCheck.Text
