/-! UTF-8. Decoding stops at the first byte sequence that stands for no character and says where and why. -/
namespace AccessorForge.Text.Utf8

inductive Reason
  | start
  | continuation
  /-- The bytes end inside a character. -/
  | cutOff
  deriving DecidableEq, Repr

structure Fault where
  first : UInt8
  position : Nat
  count : Nat
  reason : Reason
  deriving DecidableEq, Repr

def Reason.message : Reason → String
  | .start => "invalid start byte"
  | .continuation => "invalid continuation byte"
  | .cutOff => "unexpected end of data"

def hexByte (b : UInt8) : String :=
  let ds := Nat.toDigits 16 b.toNat
  String.ofList (List.replicate (2 - ds.length) '0' ++ ds)

def Fault.message (f : Fault) : String :=
  let place :=
    if f.count = 1 then "byte 0x" ++ hexByte f.first ++ " in position " ++ toString f.position
    else "bytes in position " ++ toString f.position ++ "-" ++ toString (f.position + f.count - 1)
  "'utf-8' codec can't decode " ++ place ++ ": " ++ f.reason.message

/-- What a first byte says: its own bits, how many bytes follow, and the bounds of the second byte. -/
structure Lead where
  bits : Nat
  more : Nat
  low : Nat
  high : Nat
  deriving DecidableEq, Repr

def lead? (b : UInt8) : Option Lead :=
  let n := b.toNat
  if n < 0xc2 then none
  else if n < 0xe0 then some ⟨n - 0xc0, 1, 0x80, 0xbf⟩
  else if n = 0xe0 then some ⟨0, 2, 0xa0, 0xbf⟩
  else if n = 0xed then some ⟨0xd, 2, 0x80, 0x9f⟩
  else if n < 0xf0 then some ⟨n - 0xe0, 2, 0x80, 0xbf⟩
  else if n = 0xf0 then some ⟨0, 3, 0x90, 0xbf⟩
  else if n < 0xf4 then some ⟨n - 0xf0, 3, 0x80, 0xbf⟩
  else if n = 0xf4 then some ⟨4, 3, 0x80, 0x8f⟩
  else none

def isTail (b : UInt8) : Bool := 0x80 ≤ b.toNat && b.toNat ≤ 0xbf

def tailBits (b : UInt8) : Nat := b.toNat - 0x80

/-- The characters up to the first fault. -/
structure Decoded where
  chars : List Char
  fault : Option Fault
  deriving DecidableEq, Repr

def Decoded.cons (n : Nat) (d : Decoded) : Decoded := { d with chars := Char.ofNat n :: d.chars }

def decodeFrom (position : Nat) : List UInt8 → Decoded
  | [] => ⟨[], none⟩
  | a :: rest =>
    let stop (count : Nat) (reason : Reason) : Decoded := ⟨[], some ⟨a, position, count, reason⟩⟩
    if a.toNat < 0x80 then (decodeFrom (position + 1) rest).cons a.toNat
    else match lead? a with
      | none => stop 1 .start
      | some l =>
        match rest with
        | [] => stop 1 .cutOff
        | b :: rest =>
          if b.toNat < l.low || l.high < b.toNat then stop 1 .continuation
          else if l.more = 1 then (decodeFrom (position + 2) rest).cons (l.bits * 64 + tailBits b)
          else match rest with
            | [] => stop 2 .cutOff
            | c :: rest =>
              if !isTail c then stop 2 .continuation
              else if l.more = 2 then
                (decodeFrom (position + 3) rest).cons ((l.bits * 64 + tailBits b) * 64 + tailBits c)
              else match rest with
                | [] => stop 3 .cutOff
                | d :: rest =>
                  if !isTail d then stop 3 .continuation
                  else (decodeFrom (position + 4) rest).cons
                    (((l.bits * 64 + tailBits b) * 64 + tailBits c) * 64 + tailBits d)

def decode (bytes : List UInt8) : Except Fault (List Char) :=
  let d := decodeFrom 0 bytes
  match d.fault with
  | some f => .error f
  | none => .ok d.chars

def encodeChar (c : Char) : List UInt8 :=
  let n := c.toNat
  let tail (bits : Nat) : UInt8 := (0x80 + bits % 64).toUInt8
  if n < 0x80 then [n.toUInt8]
  else if n < 0x800 then [(0xc0 + n / 64).toUInt8, tail n]
  else if n < 0x10000 then [(0xe0 + n / 4096).toUInt8, tail (n / 64), tail n]
  else [(0xf0 + n / 262144).toUInt8, tail (n / 4096), tail (n / 64), tail n]

def encode (cs : List Char) : List UInt8 := cs.flatMap encodeChar

/-! Reading the first line piece by piece. A fault is met only in a piece that the line reaches into, and its
position counts from the start of that piece. -/

def pieceSize : Nat := 8192

/-- The first line among characters that have been read, if it ends there for certain. -/
def firstLine? (cs : List Char) : Option (List Char) :=
  let settled := if cs.getLast? = some '\r' then cs.dropLast else cs
  if settled.any fun c => c = '\n' || c = '\r' then some (cs.takeWhile fun c => c ≠ '\n' && c ≠ '\r') else none

/-- `pending` holds the bytes of a character that the last piece left unfinished. -/
def firstLineFrom : Nat → List Char → List UInt8 → List UInt8 → Except Fault (List Char)
  | 0, done, _, _ => .ok done
  | fuel + 1, done, pending, bytes =>
    if bytes.isEmpty then
      match (decodeFrom 0 pending).fault with
      | some f => .error f
      | none => .ok (done.takeWhile fun c => c ≠ '\n' && c ≠ '\r')
    else
      let piece := pending ++ bytes.take pieceSize
      let d := decodeFrom 0 piece
      let cutAt := (d.fault.filter (·.reason = .cutOff)).map (·.position)
      match d.fault, cutAt with
      | some f, none => .error f
      | _, _ =>
        let done := done ++ d.chars
        match firstLine? done with
        | some line => .ok line
        | none => firstLineFrom fuel done (piece.drop (cutAt.getD piece.length)) (bytes.drop pieceSize)

def firstLine (bytes : List UInt8) : Except Fault (List Char) :=
  firstLineFrom (bytes.length / pieceSize + 2) [] [] bytes

end AccessorForge.Text.Utf8
