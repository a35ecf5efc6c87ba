/-
Reading bytes as UTF-8, strictly: shortest forms only, no surrogates,
nothing above U+10FFFF. The reader is a machine that takes one byte at a
time and knows how many more bytes the character under way needs and which
values the next one may have.

A fault names the bytes of the sequence that was under way and why it ended:
a byte that starts no character, a byte that does not go on with one, or the
end of the input. Its position counts from the start of what was read in one
piece: a whole file for `decode`, one block (with the bytes carried over from
the block before) for `decodeBlocks`.
-/

namespace InspectionFeed.Text.Utf8

/-- Why a sequence of bytes is no character. -/
inductive Reason
  | invalidStart
  | invalidContinuation
  | unexpectedEnd
  deriving Repr, DecidableEq

/-- The wording of a reason. -/
def Reason.message : Reason → String
  | .invalidStart => "invalid start byte"
  | .invalidContinuation => "invalid continuation byte"
  | .unexpectedEnd => "unexpected end of data"

/-- A sequence of bytes that is no character. -/
structure Fault where
  first : Nat
  count : Nat
  byte : UInt8
  reason : Reason
  deriving Repr, DecidableEq

/-- One byte in hex, with two digits. -/
def hexByte (b : UInt8) : String :=
  let ds := Nat.toDigits 16 b.toNat
  .ofList (List.replicate (2 - ds.length) '0' ++ ds)

/-- The complaint about bytes that cannot be read. -/
def Fault.message (f : Fault) : String :=
  let bytes :=
    if f.count = 1 then "byte 0x" ++ hexByte f.byte ++ " in position " ++ toString f.first
    else "bytes in position " ++ toString f.first ++ "-" ++ toString (f.first + f.count - 1)
  "'utf-8' codec can't decode " ++ bytes ++ ": " ++ f.reason.message

/-- A character under way. -/
structure Partial where
  /-- How many bytes are still needed. -/
  owed : Nat
  /-- The least value of the next byte. -/
  low : Nat
  /-- The greatest value of the next byte. -/
  high : Nat
  bits : Nat
  seen : Nat
  lead : UInt8
  deriving Repr, DecidableEq

/-- The character that a byte of two to four byte sequences starts, if it starts one. -/
def Partial.ofLead? (b : UInt8) : Option Partial :=
  let n := b.toNat
  if 0xC2 ≤ n && n ≤ 0xDF then some ⟨1, 0x80, 0xBF, n - 0xC0, 1, b⟩
  else if n == 0xE0 then some ⟨2, 0xA0, 0xBF, 0, 1, b⟩
  else if n == 0xED then some ⟨2, 0x80, 0x9F, 0xD, 1, b⟩
  else if 0xE1 ≤ n && n ≤ 0xEF then some ⟨2, 0x80, 0xBF, n - 0xE0, 1, b⟩
  else if n == 0xF0 then some ⟨3, 0x90, 0xBF, 0, 1, b⟩
  else if 0xF1 ≤ n && n ≤ 0xF3 then some ⟨3, 0x80, 0xBF, n - 0xF0, 1, b⟩
  else if n == 0xF4 then some ⟨3, 0x80, 0x8F, 4, 1, b⟩
  else none

/-- How reading a piece of input came to an end. -/
inductive Ending
  | whole
  | inside (p : Partial)
  | fault (f : Fault)
  deriving Repr, DecidableEq

/-- Reads bytes from position `pos` on. The characters so far, and those returned, are in
reverse. -/
def decodeFrom (pos : Nat) (under : Option Partial) (read : List Char) :
    List UInt8 → List Char × Ending
  | [] => (read, match under with
    | none => .whole
    | some p => .inside p)
  | b :: bs =>
    match under with
    | none =>
      if b.toNat < 0x80 then decodeFrom (pos + 1) none (Char.ofNat b.toNat :: read) bs
      else match Partial.ofLead? b with
        | some p => decodeFrom (pos + 1) (some p) read bs
        | none => (read, .fault ⟨pos, 1, b, .invalidStart⟩)
    | some p =>
      if p.low ≤ b.toNat && b.toNat ≤ p.high then
        let bits := p.bits * 64 + (b.toNat - 0x80)
        if p.owed ≤ 1 then decodeFrom (pos + 1) none (Char.ofNat bits :: read) bs
        else
          decodeFrom (pos + 1) (some { p with
            owed := p.owed - 1, low := 0x80, high := 0xBF, bits := bits, seen := p.seen + 1 })
            read bs
      else (read, .fault ⟨pos - p.seen, p.seen, p.lead, .invalidContinuation⟩)

/-- The fault of an input that ends inside a character, at position `pos`. -/
def Partial.cutOff (p : Partial) (pos : Nat) : Fault :=
  ⟨pos - p.seen, p.seen, p.lead, .unexpectedEnd⟩

/-- Reads a whole input in one piece. -/
def decode (bytes : List UInt8) : Except Fault (List Char) :=
  match decodeFrom 0 none [] bytes with
  | (cs, .whole) => .ok cs.reverse
  | (_, .inside p) => .error (p.cutOff bytes.length)
  | (_, .fault f) => .error f

/-- How many bytes of a stream are read in one piece. -/
def blockSize : Nat := 8192

/-- What is left over between two blocks. -/
inductive Carry
  | nothing
  | partly (p : Partial)
  /-- The first two bytes of a surrogate, which the next piece will refuse. -/
  | surrogate
  deriving Repr, DecidableEq

/-- A surrogate whose last byte is missing at the end of a block is not refused yet. -/
def isCutSurrogate (f : Fault) (last : Option UInt8) (length : Nat) : Bool :=
  f.byte == 0xED && f.count == 1 && f.reason == .invalidContinuation && f.first + 2 == length &&
    match last with
    | some b => 0xA0 ≤ b.toNat && b.toNat ≤ 0xBF
    | none => false

/-- Reads the first block of what is left, then the next ones, `fuel` blocks at most. The
characters so far are in reverse. -/
def decodeBlocksFrom (size : Nat) : Nat → Carry → List Char → List UInt8 →
    List Char × Option Fault
  | 0, _, read, _ => (read.reverse, none)
  | fuel + 1, carry, read, bytes =>
    match carry with
    | .surrogate => (read.reverse, some ⟨0, 1, 0xED, .invalidContinuation⟩)
    | _ =>
      let under := match carry with
        | .partly p => some p
        | _ => none
      let carried := match under with
        | some p => p.seen
        | none => 0
      match bytes with
      | [] => (read.reverse, under.map fun p => p.cutOff p.seen)
      | _ =>
        let block := bytes.take size
        match decodeFrom carried under read block with
        | (cs, .whole) => decodeBlocksFrom size fuel .nothing cs (bytes.drop size)
        | (cs, .inside p) => decodeBlocksFrom size fuel (.partly p) cs (bytes.drop size)
        | (cs, .fault f) =>
          if isCutSurrogate f block.getLast? (carried + block.length) then
            decodeBlocksFrom size fuel .surrogate cs (bytes.drop size)
          else (read.reverse, some f)

/-- Reads a stream block by block. The characters are those of the blocks before the one with
the fault, and if the fault is that the stream ends inside a character, those of all blocks. -/
def decodeBlocks (bytes : List UInt8) : List Char × Option Fault :=
  decodeBlocksFrom blockSize (bytes.length + 2) .nothing [] bytes

end InspectionFeed.Text.Utf8
