import WikiSite.Text.Basic

/-!
# UTF-8

Bytes to text and back. `scanUtf8` reads any bytes: a maximal piece that no character begins with is one fault.
Strict reading refuses faults; lenient reading puts the replacement character `U+FFFD` in their place.
-/

namespace WikiSite

/-- A sequence of bytes. -/
abbrev Bytes := List UInt8

/-- The UTF-8 bytes of a text. -/
def encodeUtf8 (t : Text) : Bytes := t.flatMap String.utf8EncodeChar

/-- Whether the byte continues a character. -/
def isContinuation (b : Nat) : Bool := 0x80 ≤ b && b < 0xC0

/-- Whether `b` may follow the leading byte `a`: overlong forms, surrogates and code points past the last are
refused here. -/
def mayFollow (a b : Nat) : Bool :=
  if a < 0xC2 || 0xF4 < a then false
  else if a == 0xE0 then 0xA0 ≤ b && b < 0xC0
  else if a == 0xED then 0x80 ≤ b && b < 0xA0
  else if a == 0xF0 then 0x90 ≤ b && b < 0xC0
  else if a == 0xF4 then 0x80 ≤ b && b < 0x90
  else isContinuation b

/-- The character that `a :: rest` begins with, or `none` for a fault, and how many bytes of `rest` belong to it. -/
def leadScalar (a : UInt8) (rest : Bytes) : Option Char × Nat :=
  let n := a.toNat
  if n < 0x80 then (some (Char.ofNat n), 0)
  else
    match rest with
    | [] => (none, 0)
    | b :: r2 =>
      if !mayFollow n b.toNat then (none, 0)
      else if n < 0xE0 then (some (Char.ofNat ((n - 0xC0) * 64 + (b.toNat - 0x80))), 1)
      else
        match r2 with
        | [] => (none, 1)
        | c :: r3 =>
          if !isContinuation c.toNat then (none, 1)
          else if n < 0xF0 then
            (some (Char.ofNat ((n - 0xE0) * 4096 + (b.toNat - 0x80) * 64 + (c.toNat - 0x80))), 2)
          else
            match r3 with
            | [] => (none, 2)
            | d :: _ =>
              if !isContinuation d.toNat then (none, 2)
              else
                (some (Char.ofNat ((n - 0xF0) * 262144 + (b.toNat - 0x80) * 4096 + (c.toNat - 0x80) * 64 +
                  (d.toNat - 0x80))), 3)

/-- Reads bytes into characters after skipping the first `skip` bytes, with `none` for each fault. -/
def scanUtf8After : Nat → Bytes → List (Option Char)
  | _, [] => []
  | skip + 1, _ :: rest => scanUtf8After skip rest
  | 0, a :: rest =>
    let (c, used) := leadScalar a rest
    c :: scanUtf8After used rest

/-- Reads bytes into characters, with `none` for each fault. -/
def scanUtf8 (bs : Bytes) : List (Option Char) := scanUtf8After 0 bs

/-- The text of the bytes, when they are UTF-8. -/
def decodeUtf8 (bs : Bytes) : Option Text := (scanUtf8 bs).mapM id

/-- The text of the bytes, with `U+FFFD` for each fault. -/
def decodeLenient (bs : Bytes) : Text := (scanUtf8 bs).map fun c => c.getD (Char.ofNat 0xFFFD)

end WikiSite
