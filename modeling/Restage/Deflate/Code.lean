import Restage.Deflate.Bits

/-!
# Codes of varying length

A code gives every symbol a number of bits. Symbols of one length have consecutive codes in their
own order, and shorter codes come first, so the lengths alone say everything.
-/

namespace Restage.Deflate

/-- A code: how many symbols each length from one on has, and the symbols by length and order. -/
structure Code where
  counts : List Nat
  symbols : Array Nat

namespace Code

/-- The longest length. -/
def longest : Nat := 15

/-- The symbols that have a length. -/
def symbolsOf (lengths : List Nat) (length : Nat) : List Nat :=
  lengths.zipIdx.filterMap fun (other, symbol) => if other = length then some symbol else none

/-- The code of some lengths, where zero means that a symbol is not used. -/
def ofLengths (lengths : List Nat) : Code :=
  let groups := (List.range longest).map fun index => symbolsOf lengths (index + 1)
  { counts := groups.map List.length, symbols := groups.flatten.toArray }

/-- How much of all sequences of fifteen bits is taken by codes. -/
def weight (code : Code) : Nat := code.counts.foldl (fun sum count => 2 * sum + count) 0

/-- Whether every sequence of bits begins with exactly one code. -/
def IsComplete (code : Code) : Prop := code.weight = 32768

instance (code : Code) : Decidable code.IsComplete := inferInstanceAs (Decidable (_ = _))

/-- Whether a code may be used: it is complete, or has at most one symbol. -/
def IsUsable (code : Code) : Prop := code.IsComplete ∨ code.symbols.size ≤ 1

instance (code : Code) : Decidable code.IsUsable := inferInstanceAs (Decidable (_ ∨ _))

/-- Reads the symbol whose code comes next. `word` are the bits read so far, `first` is the first
code of their length, and `index` the number of symbols with shorter codes. -/
def decodeFrom (symbols : Array Nat) (word first index : Nat) : List Nat → Reading Nat
  | [] => throw .corrupt
  | count :: rest => do
      let word := 2 * word + (← Reading.bit)
      if word < first + count then
        match symbols[index + (word - first)]? with
        | some symbol => pure symbol
        | none => throw .corrupt
      else decodeFrom symbols word (2 * (first + count)) (index + count) rest

/-- Reads the next symbol. -/
def decode (code : Code) : Reading Nat := decodeFrom code.symbols 0 0 0 code.counts

end Code

end Restage.Deflate
