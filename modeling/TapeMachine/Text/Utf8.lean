import TapeMachine.Bytes

/-! UTF-8 read leniently: a byte string is a run of characters and of stray bytes. -/

namespace TapeMachine

/-- One unit of a byte string that need not be valid UTF-8. -/
inductive Utf8Unit where
  /-- A character, in its shortest encoding. -/
  | char (c : Char)
  /-- A byte that belongs to no valid encoding. -/
  | stray (b : UInt8)
  deriving DecidableEq, Repr

namespace Utf8Unit

/-- The bytes that a unit was read from. -/
def bytes : Utf8Unit → Bytes
  | char c => String.utf8EncodeChar c
  | stray b => [b]

/-- The replacement character stands for a stray byte where only characters can be shown. -/
def shown : Utf8Unit → Char
  | char c => c
  | stray _ => '\ufffd'

end Utf8Unit

/-- Continuation bytes are those of the form `10xxxxxx`. -/
def isContinuation (b : UInt8) : Bool := 0x80 ≤ b && b ≤ 0xbf

/-- The six payload bits of a continuation byte. -/
def continuationBits (b : UInt8) : Nat := b.toNat % 64

/-- Reads one character and the bytes after it; `none` when no valid encoding starts here.

The ranges of the second byte exclude overlong forms, surrogates and values past U+10FFFF. -/
def nextChar? : Bytes → Option (Char × Bytes)
  | [] => none
  | a :: rest =>
    if a < 0x80 then some (Char.ofNat a.toNat, rest)
    else match rest with
    | [] => none
    | b :: rest =>
      if 0xc2 ≤ a && a ≤ 0xdf then
        if isContinuation b then
          some (Char.ofNat ((a.toNat % 32) * 64 + continuationBits b), rest)
        else none
      else match rest with
      | [] => none
      | c :: rest =>
        if 0xe0 ≤ a && a ≤ 0xef then
          let low := if a = 0xe0 then 0xa0 else 0x80
          let high := if a = 0xed then 0x9f else 0xbf
          if low ≤ b && b ≤ high && isContinuation c then
            some (Char.ofNat
              ((a.toNat % 16) * 4096 + continuationBits b * 64 + continuationBits c), rest)
          else none
        else match rest with
        | [] => none
        | d :: rest =>
          if 0xf0 ≤ a && a ≤ 0xf4 then
            let low := if a = 0xf0 then 0x90 else 0x80
            let high := if a = 0xf4 then 0x8f else 0xbf
            if low ≤ b && b ≤ high && isContinuation c && isContinuation d then
              some (Char.ofNat ((a.toNat % 8) * 262144 + continuationBits b * 4096 +
                continuationBits c * 64 + continuationBits d), rest)
            else none
          else none

/-- A character takes at least one byte. -/
theorem nextChar?_length {bytes rest : Bytes} {c : Char}
    (read : nextChar? bytes = some (c, rest)) : rest.length < bytes.length := by
  -- Every branch that succeeds drops between one and four bytes.
  unfold nextChar? at read
  repeat' split at read
  all_goals simp_all
  all_goals grind

/-- Cuts a byte string into characters and stray bytes, latest first. -/
def Utf8Unit.scan (done : List Utf8Unit) (bytes : Bytes) : List Utf8Unit :=
  match bytes with
  | [] => done
  | b :: tail =>
    match found : nextChar? (b :: tail) with
    | some (c, rest) =>
      have := nextChar?_length found
      scan (.char c :: done) rest
    | none => scan (.stray b :: done) tail
termination_by bytes.length
decreasing_by
  · exact this
  · exact Nat.lt_succ_self tail.length

/-- Cuts a byte string into characters and stray bytes. -/
def Utf8Unit.ofBytes (bytes : Bytes) : List Utf8Unit :=
  (Utf8Unit.scan [] bytes).reverse

/-- The characters of a byte string without stray bytes. -/
def chars? (bytes : Bytes) : Option (List Char) :=
  (Utf8Unit.ofBytes bytes).mapM fun unit =>
    match unit with
    | .char c => some c
    | .stray _ => none

end TapeMachine
