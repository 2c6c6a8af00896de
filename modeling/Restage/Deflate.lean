import Restage.Deflate.Code

/-!
# Compressed streams

A stream is a sequence of blocks. A block holds plain bytes, or symbols under two codes: literals
and lengths under one, distances back under the other. The codes are fixed or written at the head
of the block, themselves under a code.
-/

namespace Restage.Deflate

/-! ## Lengths and distances -/

/-- The least length of each length symbol, and how many bits are added to it. -/
def lengthTable : List (Nat × Nat) :=
  [(3, 0), (4, 0), (5, 0), (6, 0), (7, 0), (8, 0), (9, 0), (10, 0), (11, 1), (13, 1), (15, 1),
    (17, 1), (19, 2), (23, 2), (27, 2), (31, 2), (35, 3), (43, 3), (51, 3), (59, 3), (67, 4),
    (83, 4), (99, 4), (115, 4), (131, 5), (163, 5), (195, 5), (227, 5), (258, 0)]

/-- The least distance of each distance symbol, and how many bits are added to it. -/
def distanceTable : List (Nat × Nat) :=
  [(1, 0), (2, 0), (3, 0), (4, 0), (5, 1), (7, 1), (9, 2), (13, 2), (17, 3), (25, 3), (33, 4),
    (49, 4), (65, 5), (97, 5), (129, 6), (193, 6), (257, 7), (385, 7), (513, 8), (769, 8),
    (1025, 9), (1537, 9), (2049, 10), (3073, 10), (4097, 11), (6145, 11), (8193, 12), (12289, 12),
    (16385, 13), (24577, 13)]

/-- The number a symbol stands for with the bits that are added to it. -/
def extended (table : List (Nat × Nat)) (symbol : Nat) : Reading Nat :=
  match table[symbol]? with
  | none => throw .corrupt
  | some (least, added) => return least + (← Reading.bits added)

/-! ## Blocks -/

/-- Reads symbols until the end of the block. Each takes a bit at least, which bounds their
number. -/
def symbols (literals distances : Code) : Nat → Reading Unit
  | 0 => throw .truncated
  | fuel + 1 => do
      let symbol ← literals.decode
      if symbol < 256 then
        Reading.emit symbol.toUInt8
        symbols literals distances fuel
      else if symbol = 256 then pure ()
      else
        let count ← extended lengthTable (symbol - 257)
        let distance ← extended distanceTable (← distances.decode)
        Reading.repeatBack distance count
        symbols literals distances fuel

/-- The block of plain bytes: their number, the number's complement, and the bytes. -/
def plainBlock : Reading Unit := do
  Reading.align
  let size ← Reading.bits 16
  let complement ← Reading.bits 16
  if size + complement = 65535 then Reading.copy size else throw .corrupt

/-- The lengths of the fixed code for literals and lengths. -/
def fixedLengths : List Nat :=
  List.replicate 144 8 ++ List.replicate 112 9 ++ List.replicate 24 7 ++ List.replicate 8 8

/-- The order in which the lengths of the code for lengths are written. -/
def lengthOrder : List Nat := [16, 17, 18, 0, 8, 7, 9, 6, 10, 5, 11, 4, 12, 3, 13, 2, 14, 1, 15]

/-- Reads the lengths of both codes, `left` of which are still missing. A run may not go beyond
the last. -/
def codeLengths (code : Code) (total : Nat) : Nat → List Nat → Reading (List Nat)
  | 0, reversed => if reversed.length = total then pure reversed.reverse else throw .corrupt
  | left + 1, reversed =>
      if total ≤ reversed.length then codeLengths code total 0 reversed
      else do
        let symbol ← code.decode
        if symbol < 16 then codeLengths code total left (symbol :: reversed)
        else if symbol = 16 then
          match reversed with
          | [] => throw .corrupt
          | last :: _ =>
              let count := 3 + (← Reading.bits 2)
              codeLengths code total left (List.replicate count last ++ reversed)
        else
          let count ← if symbol = 17 then do pure (3 + (← Reading.bits 3))
            else do pure (11 + (← Reading.bits 7))
          codeLengths code total left (List.replicate count 0 ++ reversed)

/-- Reads the lengths of the code for lengths. -/
def readLengths : Nat → Reading (List Nat)
  | 0 => pure []
  | count + 1 => do
      let length ← Reading.bits 3
      pure (length :: (← readLengths count))

/-- Reads the two codes at the head of a block. -/
def writtenCodes : Reading (Code × Code) := do
  let literals := 257 + (← Reading.bits 5)
  let distances := 1 + (← Reading.bits 5)
  let count := 4 + (← Reading.bits 4)
  if 286 < literals ∨ 30 < distances then throw .corrupt
  let given := lengthOrder.zip (← readLengths count)
  let lengthCode :=
    Code.ofLengths ((List.range 19).map fun symbol => (given.lookup symbol).getD 0)
  if ¬ lengthCode.IsComplete then throw .corrupt
  let total := literals + distances
  let lengths ← codeLengths lengthCode total total []
  let literalCode := Code.ofLengths (lengths.take literals)
  let distanceCode := Code.ofLengths (lengths.drop literals)
  if literalCode.IsUsable ∧ distanceCode.IsUsable then pure (literalCode, distanceCode)
  else throw .corrupt

/-- Reads blocks until the last one. Each takes three bits at least. -/
def blocks : Nat → Reading Unit
  | 0 => throw .truncated
  | fuel + 1 => do
      let last ← Reading.bit
      let kind ← Reading.bits 2
      let size := 8 * (← read).size
      match kind with
      | 0 => plainBlock
      | 1 => symbols (Code.ofLengths fixedLengths) (Code.ofLengths (List.replicate 30 5)) size
      | 2 =>
          let (literals, distances) ← writtenCodes
          symbols literals distances size
      | _ => throw .corrupt
      if last = 1 then Reading.align else blocks fuel

/-! ## Streams -/

/-- How a stream ends. -/
inductive Ending where
  | complete
  | broken (fault : Fault)
  deriving DecidableEq, Repr

/-- Reads a stream that begins at a byte of `bytes`: how it ends, the byte behind it, and what it
holds up to there. -/
def inflate (bytes : ByteArray) (start : Nat) : Ending × Nat × ByteArray :=
  match ((blocks (8 * bytes.size)).run bytes).run ⟨8 * start, ByteArray.empty⟩ with
  | .ok () progress => (.complete, progress.position / 8, progress.out)
  | .error fault progress => (.broken fault, progress.position / 8, progress.out)

end Restage.Deflate
