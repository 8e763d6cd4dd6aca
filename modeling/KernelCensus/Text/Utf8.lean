/-
# UTF-8

Text is written as bytes by `encode`.  Reading bytes back yields a list of pieces: characters,
and maximal ill-formed stretches where no character can be read.  Strict reading refuses at the
first such stretch and says where it is; lenient reading puts U+FFFD in its place.
-/

namespace KernelCensus

namespace Utf8

/-! ## Writing -/

/-- The one to four bytes of a character. -/
def encodeChar (c : Char) : List UInt8 :=
  let n := c.toNat
  if n < 0x80 then [UInt8.ofNat n]
  else if n < 0x800 then [UInt8.ofNat (0xC0 + n / 64), UInt8.ofNat (0x80 + n % 64)]
  else if n < 0x10000 then
    [UInt8.ofNat (0xE0 + n / 4096), UInt8.ofNat (0x80 + n / 64 % 64), UInt8.ofNat (0x80 + n % 64)]
  else
    [UInt8.ofNat (0xF0 + n / 262144), UInt8.ofNat (0x80 + n / 4096 % 64),
      UInt8.ofNat (0x80 + n / 64 % 64), UInt8.ofNat (0x80 + n % 64)]

/-- The bytes of a text. -/
def encode (text : String) : List UInt8 :=
  text.toList.flatMap encodeChar

/-! ## Reading -/

/-- A character, or a maximal ill-formed stretch of bytes; `cut` marks one that could have
become a character had the bytes not ended. -/
inductive Piece
  | char (c : Char)
  | broken (length : Nat) (cut : Bool)
  deriving DecidableEq, Repr

/-- A byte that may continue a character. -/
def isContinuation (b : UInt8) : Bool :=
  0x80 ≤ b && b ≤ 0xBF

/-- The payload of a continuation byte. -/
def payload (b : UInt8) : Nat :=
  b.toNat % 64

/-- Whether a byte may come second in a character of three bytes: no overlong form and no
surrogate. -/
def isSecondOfThree (lead b : UInt8) : Bool :=
  if lead = 0xE0 then 0xA0 ≤ b && b ≤ 0xBF
  else if lead = 0xED then 0x80 ≤ b && b ≤ 0x9F
  else isContinuation b

/-- Whether a byte may come second in a character of four bytes: no overlong form and nothing
above U+10FFFF. -/
def isSecondOfFour (lead b : UInt8) : Bool :=
  if lead = 0xF0 then 0x90 ≤ b && b ≤ 0xBF
  else if lead = 0xF4 then 0x80 ≤ b && b ≤ 0x8F
  else isContinuation b

/-- The pieces of a list of bytes. -/
def pieces : List UInt8 → List Piece
  | [] => []
  | a :: rest =>
    if a < 0x80 then .char (Char.ofNat a.toNat) :: pieces rest
    else if 0xC2 ≤ a && a ≤ 0xDF then
      match rest with
      | [] => [.broken 1 true]
      | b :: rest' =>
        if isContinuation b then
          .char (Char.ofNat (a.toNat % 32 * 64 + payload b)) :: pieces rest'
        else .broken 1 false :: pieces (b :: rest')
    else if 0xE0 ≤ a && a ≤ 0xEF then
      match rest with
      | [] => [.broken 1 true]
      | b :: rest' =>
        if isSecondOfThree a b then
          match rest' with
          | [] => [.broken 2 true]
          | c :: rest'' =>
            if isContinuation c then
              .char (Char.ofNat ((a.toNat % 16 * 64 + payload b) * 64 + payload c)) :: pieces rest''
            else .broken 2 false :: pieces (c :: rest'')
        else .broken 1 false :: pieces (b :: rest')
    else if 0xF0 ≤ a && a ≤ 0xF4 then
      match rest with
      | [] => [.broken 1 true]
      | b :: rest' =>
        if isSecondOfFour a b then
          match rest' with
          | [] => [.broken 2 true]
          | c :: rest'' =>
            if isContinuation c then
              match rest'' with
              | [] => [.broken 3 true]
              | d :: rest''' =>
                if isContinuation d then
                  .char (Char.ofNat
                    (((a.toNat % 8 * 64 + payload b) * 64 + payload c) * 64 + payload d))
                    :: pieces rest'''
                else .broken 3 false :: pieces (d :: rest''')
            else .broken 2 false :: pieces (c :: rest'')
        else .broken 1 false :: pieces (b :: rest')
    else .broken 1 false :: pieces rest

/-! ### Strict reading -/

/-- Where the first ill-formed stretch begins, and its length unless the bytes end in it. -/
structure Fault where
  index : Nat
  length : Option Nat
  deriving DecidableEq, Repr

/-- What is wrong, in words. -/
def Fault.message (fault : Fault) : String :=
  match fault.length with
  | some length => s!"invalid utf-8 sequence of {length} bytes from index {fault.index}"
  | none => s!"incomplete utf-8 byte sequence from index {fault.index}"

/-- The characters of a list of pieces that begins at the given index, or its first fault. -/
def charsFrom (index : Nat) : List Piece → Except Fault (List Char)
  | [] => .ok []
  | .broken length cut :: _ => .error ⟨index, if cut then none else some length⟩
  | .char c :: rest =>
    match charsFrom (index + (encodeChar c).length) rest with
    | .error fault => .error fault
    | .ok cs => .ok (c :: cs)

/-- The text that bytes stand for, or the first fault in them. -/
def decode (bytes : List UInt8) : Except Fault String :=
  (charsFrom 0 (pieces bytes)).map String.ofList

/-! ### Lenient reading -/

/-- The character shown for a piece. -/
def Piece.shown : Piece → Char
  | .char c => c
  | .broken _ _ => '\uFFFD'

/-- The text that bytes stand for, with U+FFFD for each ill-formed stretch. -/
def decodeLossy (bytes : List UInt8) : String :=
  String.ofList ((pieces bytes).map Piece.shown)

end Utf8

end KernelCensus
