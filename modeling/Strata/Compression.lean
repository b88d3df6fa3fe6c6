/-! Compressed data: streams of bits, the lowest bit of each byte first, with prefix codes in them,
and the deflate format, whose blocks are bytes as they are, or words in a prefix code for bytes and
for repetitions of what came before. A compressed file has a header in front of it, and its checksum
and its length behind it. -/
namespace Strata.Compression

abbrev Bits := List Bool

namespace Bits

def ofByte (b : UInt8) : Bits := (List.range 8).map fun i => b.toNat.testBit i

def ofBytes (l : List UInt8) : Bits := l.flatMap ofByte

def number? : Nat → Bits → Option (Nat × Bits)
  | 0, l => some (0, l)
  | _ + 1, [] => none
  | count + 1, b :: l => (number? count l).map fun (n, rest) => (2 * n + b.toNat, rest)

/-- What is left from the next whole byte on, in a stream of whole bytes. -/
def aligned (l : Bits) : Bits := l.drop (l.length % 8)

end Bits

/-- A prefix code in which the words of one length follow each other, and those that are longer
follow those that are shorter. -/
structure PrefixCode where
  counts : List Nat
  symbols : Array Nat

namespace PrefixCode

def lengthLimit : Nat := 15

/-- The code in which symbols, from zero on, have words of these lengths; none has no length. -/
def ofLengths (l : List Nat) : PrefixCode :=
  let numbered := l.zipIdx
  ⟨(List.range' 1 lengthLimit).map fun n => l.count n,
    ((List.range' 1 lengthLimit).flatMap fun n =>
      (numbered.filter fun e => e.1 == n).map Prod.snd).toArray⟩

/-- The symbol of a word that has begun, among the words from its length on. The first of these has
a number and a place among the symbols. -/
def symbolFrom (symbols : Array Nat) (word first place : Nat) :
    List Nat → Bits → Option (Nat × Bits)
  | count :: counts, b :: l =>
    let word := 2 * word + b.toNat
    if word < first + count then (symbols[place + (word - first)]?).map fun s => (s, l)
    else symbolFrom symbols word (2 * (first + count)) (place + count) counts l
  | _, _ => none

def symbol? (c : PrefixCode) (l : Bits) : Option (Nat × Bits) :=
  symbolFrom c.symbols 0 0 0 c.counts l

def room (c : PrefixCode) : Nat := c.counts.foldl (fun n count => 2 * n + count) 0

/-- Whether every text of bits begins with a word. A code of one word or none may do without. -/
def isComplete (c : PrefixCode) : Bool := c.room == 1 <<< lengthLimit || c.symbols.size ≤ 1

end PrefixCode

example : (PrefixCode.ofLengths [2, 1, 3, 3]).symbol? [true, true, false] = some (2, []) := by
  decide +kernel

def crcBit (c : UInt32) : UInt32 :=
  if c &&& 1 = 1 then (0xEDB88320 : UInt32) ^^^ (c >>> 1) else c >>> 1

def crcByte (c : UInt32) (b : UInt8) : UInt32 :=
  crcBit (crcBit (crcBit (crcBit (crcBit (crcBit (crcBit (crcBit (c ^^^ b.toUInt32))))))))

def crc32 (data : ByteArray) : UInt32 := data.foldl crcByte 0xFFFFFFFF ^^^ 0xFFFFFFFF

def adler32 (data : ByteArray) : UInt32 :=
  let sums := data.foldl
    (fun (s : UInt32 × UInt32) b =>
      let low := (s.1 + b.toUInt32) % 65521
      (low, (s.2 + low) % 65521)) (1, 0)
  (sums.2 <<< 16) ||| sums.1

example : crc32 "123456789".toUTF8 = 0xCBF43926 := by decide +kernel
example : adler32 "Wikipedia".toUTF8 = 0x11E60398 := by decide +kernel

namespace Inflate

/-- The least number that each word of a range stands for, and the bits that are added to it. -/
abbrev Steps := List (Nat × Nat)

def steps (start : Nat) : List Nat → Steps
  | [] => []
  | bits :: rest => (start, bits) :: steps (start + 2 ^ bits) rest

/-- Lengths of repetitions. The last one stands for a length of its own. -/
def lengthSteps : Steps :=
  steps 3 [0, 0, 0, 0, 0, 0, 0, 0, 1, 1, 1, 1, 2, 2, 2, 2, 3, 3, 3, 3, 4, 4, 4, 4, 5, 5, 5, 5] ++
    [(258, 0)]

def distanceSteps : Steps :=
  steps 1 [0, 0, 0, 0, 1, 1, 2, 2, 3, 3, 4, 4, 5, 5, 6, 6, 7, 7, 8, 8, 9, 9, 10, 10, 11, 11, 12,
    12, 13, 13]

def stepped? (s : Steps) (n : Nat) (l : Bits) : Option (Nat × Bits) := do
  let (least, bits) ← s[n]?
  let (more, l) ← Bits.number? bits l
  return (least + more, l)

/-- So many bytes more, each as it stands a distance back. In front of the first byte stand
zeros. -/
def repeated (distance : Nat) : Nat → Array UInt8 → Array UInt8
  | 0, out => out
  | count + 1, out =>
    repeated distance count
      (out.push (if out.size < distance then 0 else out.getD (out.size - distance) 0))

def wordsWithin (bytes distances : PrefixCode) :
    Nat → Array UInt8 → Bits → Option (Array UInt8 × Bits)
  | 0, _, _ => none
  | bound + 1, out, l => do
    let (s, l) ← bytes.symbol? l
    if s < 256 then wordsWithin bytes distances bound (out.push (UInt8.ofNat s)) l
    else if s = 256 then return (out, l)
    else
      let (count, l) ← stepped? lengthSteps (s - 257) l
      let (s, l) ← distances.symbol? l
      let (distance, l) ← stepped? distanceSteps s l
      wordsWithin bytes distances bound (repeated distance count out) l

/-- The bytes of a block as they are: two numbers of them, each the other's complement, and they. -/
def stored (out : Array UInt8) (l : Bits) : Option (Array UInt8 × Bits) := do
  let (count, l) ← Bits.number? 16 (Bits.aligned l)
  let (complement, l) ← Bits.number? 16 l
  if count + complement ≠ 65535 then none else bytesWithin count out l
where
  bytesWithin : Nat → Array UInt8 → Bits → Option (Array UInt8 × Bits)
    | 0, out, l => some (out, l)
    | count + 1, out, l => do
      let (b, l) ← Bits.number? 8 l
      bytesWithin count (out.push (UInt8.ofNat b)) l

def fixedCodes : PrefixCode × PrefixCode :=
  (.ofLengths (List.replicate 144 8 ++ List.replicate 112 9 ++ List.replicate 24 7 ++
    List.replicate 8 8), .ofLengths (List.replicate 30 5))

def lengthOrder : List Nat := [16, 17, 18, 0, 8, 7, 9, 6, 10, 5, 11, 4, 12, 3, 13, 2, 14, 1, 15]

def numbersWithin (bits : Nat) : Nat → Bits → Option (List Nat × Bits)
  | 0, l => some ([], l)
  | count + 1, l => do
    let (n, l) ← Bits.number? bits l
    let (rest, l) ← numbersWithin bits count l
    return (n :: rest, l)

/-- Lengths behind others, up to so many in all, of which some words repeat the last or none. The
bound limits the words. -/
def lengthsWithin (c : PrefixCode) (total : Nat) :
    Nat → Array Nat → Bits → Option (Array Nat × Bits)
  | 0, found, l => if found.size = total then some (found, l) else none
  | bound + 1, found, l =>
    if total ≤ found.size then lengthsWithin c total 0 found l
    else do
      let (s, l) ← c.symbol? l
      let more (n bits least : Nat) : Option (Array Nat × Bits) := do
        let (count, l) ← Bits.number? bits l
        lengthsWithin c total bound (found ++ Array.replicate (least + count) n) l
      match s with
      | 16 => if h : 0 < found.size then more (found[found.size - 1]) 2 3 else none
      | 17 => more 0 3 3
      | 18 => more 0 7 11
      | n => lengthsWithin c total bound (found.push n) l

def complete? (lengths : List Nat) : Option PrefixCode :=
  (some (PrefixCode.ofLengths lengths)).filter PrefixCode.isComplete

/-- The codes that a block brings along, for 286 bytes and lengths and 30 distances at most. -/
def ownCodes (l : Bits) : Option ((PrefixCode × PrefixCode) × Bits) := do
  let (bytes, l) ← Bits.number? 5 l
  let (distances, l) ← Bits.number? 5 l
  let (lengths, l) ← Bits.number? 4 l
  let bytes := bytes + 257
  let distances := distances + 1
  if 286 < bytes ∨ 30 < distances then none
  else
    let (given, l) ← numbersWithin 3 (lengths + 4) l
    let order := lengthOrder.zip given
    let c ← complete? ((List.range 19).map fun n => (order.lookup n).getD 0)
    let (found, l) ← lengthsWithin c (bytes + distances) (bytes + distances) #[] l
    let found := found.toList
    return ((← complete? (found.take bytes), ← complete? (found.drop bytes)), l)

def blocksWithin : Nat → Array UInt8 → Bits → Option (Array UInt8 × Bits)
  | 0, _, _ => none
  | bound + 1, out, l => do
    let (isLast, l) ← Bits.number? 1 l
    let (kind, l) ← Bits.number? 2 l
    let (out, l) ← match kind with
      | 0 => stored out l
      | 1 => wordsWithin fixedCodes.1 fixedCodes.2 l.length out l
      | 2 => do
        let ((bytes, distances), l) ← ownCodes l
        wordsWithin bytes distances l.length out l
      | _ => none
    if isLast = 1 then return (out, l) else blocksWithin bound out l

end Inflate

def inflate? (l : Bits) : Option (Array UInt8 × Bits) := Inflate.blocksWithin l.length #[] l

example : (inflate? (Bits.ofBytes [75, 76, 132, 1, 0])).map Prod.fst =
    some (Array.replicate 10 97) := by
  decide +kernel

namespace Gzip

def mark : List UInt8 := [0x1F, 0x8B]

def skipFields (has : UInt8 → Bool) (l : List UInt8) : List UInt8 :=
  let skipText (l : List UInt8) : List UInt8 := (l.dropWhile (· != 0)).drop 1
  let l := if has 4 then
      match l with
      | low :: high :: r => r.drop (low.toNat + 256 * high.toNat)
      | _ => []
    else l
  let l := if has 8 then skipText l else l
  if has 16 then skipText l else l

/-- What follows the header of a file. It may end with half of its own checksum, and the three
highest flags stand for nothing. -/
def skipHeader (l : List UInt8) : Option (List UInt8) :=
  let has (flag : UInt8) : Bool := (l.drop 3).headD 0 &&& flag != 0
  if l.take 3 ≠ mark ++ [8] ∨ l.length < 10 ∨ has 0xE0 then none
  else
    let r := skipFields has (l.drop 10)
    if has 2 then
      let sum := (crc32 ⟨(l.take (l.length - r.length)).toArray⟩).toNat % 65536
      match r with
      | low :: high :: r => if low.toNat + 256 * high.toNat = sum then some r else none
      | _ => none
    else some r

def unpacked? (l : List UInt8) : Option (List UInt8) := do
  let (out, rest) ← inflate? (Bits.ofBytes (← skipHeader l))
  let (sum, rest) ← Bits.number? 32 (Bits.aligned rest)
  let (length, _) ← Bits.number? 32 rest
  let data : ByteArray := ⟨out⟩
  if sum = (crc32 data).toNat ∧ length = out.size % 4294967296 then some out.toList else none

end Gzip

end Strata.Compression
