import PasteQueue.Text.Digits

/-!
Base64 with the standard alphabet and canonical padding. `encode` writes bytes as symbols;
`decode` reads exactly what `encode` writes, and names the first fault of anything else.
-/

namespace PasteQueue.Base64

/-- What is wrong with a text; offsets and lengths count its bytes. -/
inductive Fault
  | symbol (byte : UInt8) (offset : Nat)
  | length (count : Nat)
  | lastSymbol (byte : UInt8) (offset : Nat)
  | padding
  deriving DecidableEq, Repr

def Fault.message : Fault → String
  | .symbol byte offset =>
    "Invalid symbol " ++ Text.decimal byte.toNat ++ ", offset " ++ Text.decimal offset ++ "."
  | .length count => "Invalid input length: " ++ Text.decimal count
  | .lastSymbol byte offset =>
    "Invalid last symbol " ++ Text.decimal byte.toNat ++ ", offset " ++ Text.decimal offset ++ "."
  | .padding => "Invalid padding"

def symbol (bits : Nat) : UInt8 :=
  if bits < 26 then UInt8.ofNat (65 + bits)
  else if bits < 52 then UInt8.ofNat (97 + (bits - 26))
  else if bits < 62 then UInt8.ofNat (48 + (bits - 52))
  else if bits = 62 then 43
  else 47

def bits? (byte : UInt8) : Option Nat :=
  let n := byte.toNat
  if 65 ≤ n ∧ n ≤ 90 then some (n - 65)
  else if 97 ≤ n ∧ n ≤ 122 then some (n - 97 + 26)
  else if 48 ≤ n ∧ n ≤ 57 then some (n - 48 + 52)
  else if n = 43 then some 62
  else if n = 47 then some 63
  else none

def pad : UInt8 := 61

def encode : List UInt8 → List UInt8
  | [] => []
  | [a] => [symbol (a.toNat / 4), symbol (a.toNat % 4 * 16), pad, pad]
  | [a, b] =>
    [symbol (a.toNat / 4), symbol (a.toNat % 4 * 16 + b.toNat / 16), symbol (b.toNat % 16 * 4), pad]
  | a :: b :: c :: rest =>
    symbol (a.toNat / 4) :: symbol (a.toNat % 4 * 16 + b.toNat / 16) ::
      symbol (b.toNat % 16 * 4 + c.toNat / 64) :: symbol (c.toNat % 64) :: encode rest

def byteOf (high low : Nat) : UInt8 := UInt8.ofNat (high + low)

def readSymbol (offset : Nat) (byte : UInt8) : Except Fault Nat :=
  match bits? byte with
  | some bits => .ok bits
  | none => .error (.symbol byte offset)

/-- The symbols of the last group, where padding may follow them. A pad that comes too early, or
that something else follows, is itself the faulty symbol. -/
structure Group where
  symbols : List (UInt8 × Nat) := []
  firstPad : Option Nat := none
  pads : Nat := 0

def Group.read (group : Group) (start : Nat) : Nat → List UInt8 → Except Fault Group
  | _, [] => .ok group
  | position, byte :: rest =>
    if byte = pad then
      if position < 2 then .error (.symbol pad (start + position))
      else
        Group.read { group with
          firstPad := group.firstPad.or (some position), pads := group.pads + 1 }
          start (position + 1) rest
    else
      match group.firstPad with
      | some first => .error (.symbol pad (start + first))
      | none =>
        match bits? byte with
        | none => .error (.symbol byte (start + position))
        | some bits =>
          Group.read { group with symbols := group.symbols ++ [(byte, bits)] }
            start (position + 1) rest

def Group.bytes (group : Group) (start : Nat) : Except Fault (List UInt8) :=
  match group.symbols with
  | [(_, a), (last, b)] =>
    if b % 16 = 0 then .ok [byteOf (a * 4) (b / 16)] else .error (.lastSymbol last (start + 1))
  | [(_, a), (_, b), (last, c)] =>
    if c % 4 = 0 then .ok [byteOf (a * 4) (b / 16), byteOf (b % 16 * 16) (c / 4)]
    else .error (.lastSymbol last (start + 2))
  | [(_, a), (_, b), (_, c), (_, d)] =>
    .ok [byteOf (a * 4) (b / 16), byteOf (b % 16 * 16) (c / 4), byteOf (c % 4 * 64) d]
  | symbols => .error (.length (start + symbols.length))

def decodeLast (start : Nat) (text : List UInt8) : Except Fault (List UInt8) :=
  if text.isEmpty then .ok []
  else do
    let group ← Group.read {} start 0 text
    if group.symbols.length < 2 then .error (.length (start + group.symbols.length))
    else if (group.symbols.length + group.pads) % 4 ≠ 0 then .error .padding
    else group.bytes start

/-- Reads four symbols at a time as long as something follows them. -/
def decodeFrom (start : Nat) : List UInt8 → Except Fault (List UInt8)
  | a :: b :: c :: d :: e :: rest => do
    let a ← readSymbol start a
    let b ← readSymbol (start + 1) b
    let c ← readSymbol (start + 2) c
    let d ← readSymbol (start + 3) d
    let bytes ← decodeFrom (start + 4) (e :: rest)
    return byteOf (a * 4) (b / 16) :: byteOf (b % 16 * 16) (c / 4) :: byteOf (c % 4 * 64) d :: bytes
  | text => decodeLast start text

/-- A single symbol after whole groups is looked at first. -/
def decode (text : List UInt8) : Except Fault (List UInt8) :=
  match text.getLast? with
  | some last =>
    if text.length % 4 = 1 ∧ last ≠ pad ∧ bits? last = none then
      .error (.symbol last (text.length - 1))
    else decodeFrom 0 text
  | none => .ok []

end PasteQueue.Base64
