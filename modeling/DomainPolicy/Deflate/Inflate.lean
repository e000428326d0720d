import DomainPolicy.Deflate.Huffman

/-!
# Inflating

* Compressed data are blocks, the last of which says so. A block is stored as it is, or it is a sequence of bytes and of
  copies of what came before, in words of a code that is fixed or stands in front of the block.
* `inflate` gives what data expand to, and the bits after the last block; data that end early give what they have.
-/

namespace DomainPolicy.Deflate

/-- What has been expanded so far, and the bits that are left. -/
structure Progress where
  out : Array UInt8 := #[]
  bits : Bits
  deriving Repr

/-- A step ends with progress, or early with what there is, or in broken data. -/
inductive Expanded where
  | done (p : Progress)
  | short (out : Array UInt8)
  | broken
  deriving Repr

namespace Expanded

def ofHalt (out : Array UInt8) : Halt → Expanded
  | .short => .short out
  | .broken => .broken

/-- Goes on with what was read. -/
def andThen {α : Type} (out : Array UInt8) (r : Except Halt α) (go : α → Expanded) : Expanded :=
  match r with
  | .ok a => go a
  | .error h => ofHalt out h

end Expanded

/-! ### Copies -/

/-- The least length of each word for lengths, and the number of bits that are added to it. -/
def lengthBases : List (Nat × Nat) :=
  [(3, 0), (4, 0), (5, 0), (6, 0), (7, 0), (8, 0), (9, 0), (10, 0), (11, 1), (13, 1), (15, 1), (17, 1), (19, 2), (23, 2),
    (27, 2), (31, 2), (35, 3), (43, 3), (51, 3), (59, 3), (67, 4), (83, 4), (99, 4), (115, 4), (131, 5), (163, 5),
    (195, 5), (227, 5), (258, 0)]

/-- The least distance of each word for distances, and the number of bits that are added to it. -/
def distanceBases : List (Nat × Nat) :=
  [(1, 0), (2, 0), (3, 0), (4, 0), (5, 1), (7, 1), (9, 2), (13, 2), (17, 3), (25, 3), (33, 4), (49, 4), (65, 5), (97, 5),
    (129, 6), (193, 6), (257, 7), (385, 7), (513, 8), (769, 8), (1025, 9), (1537, 9), (2049, 10), (3073, 10), (4097, 11),
    (6145, 11), (8193, 12), (12289, 12), (16385, 13), (24577, 13)]

/-- A number that a word begins and further bits complete. -/
def numberOf (bases : List (Nat × Nat)) (word : Nat) (bits : Bits) : Except Halt (Nat × Bits) :=
  match bases[word]? with
  | none => .error .broken
  | some (base, extra) => (Bits.take extra bits).map fun (n, bits) => (base + n, bits)

/-- Copies `length` bytes from `distance` bytes back; the copy may run into what it copies. -/
def copy (distance : Nat) : Nat → Array UInt8 → Option (Array UInt8)
  | 0, out => some out
  | n + 1, out =>
    if distance = 0 ∨ out.size < distance then none
    else (out[out.size - distance]?).bind fun b => copy distance n (out.push b)

/-! ### Blocks -/

/-- The word that ends a block. -/
def endWord : Nat := 256

/-- Expands words up to the end of the block. Each takes a bit at least, so that as many steps as there are bits will
do. -/
def expandWords (letters distances : Code) : Nat → Progress → Expanded
  | 0, p => .short p.out
  | fuel + 1, p =>
    .andThen p.out (letters.decode p.bits) fun (word, bits) =>
      if word < endWord then expandWords letters distances fuel ⟨p.out.push word.toUInt8, bits⟩
      else if word = endWord then .done { p with bits }
      else
        .andThen p.out (numberOf lengthBases (word - endWord - 1) bits) fun (length, bits) =>
          .andThen p.out (distances.decode bits) fun (word, bits) =>
            .andThen p.out (numberOf distanceBases word bits) fun (distance, bits) =>
              match copy distance length p.out with
              | some out => expandWords letters distances fuel ⟨out, bits⟩
              | none => .broken

/-- Takes a stored block over; it has its length, the complement of the length, and its bytes. -/
def expandStored (p : Progress) : Expanded :=
  .andThen p.out (Bits.take 16 (Bits.align p.bits)) fun (length, bits) =>
    .andThen p.out (Bits.take 16 bits) fun (complement, bits) =>
      if length + complement ≠ 65535 then .broken
      else
        let out := p.out ++ (Bits.toBytes (List.take (8 * length) bits)).toArray
        if bits.length < 8 * length then .short out else .done ⟨out, List.drop (8 * length) bits⟩

/-- The code for letters and lengths that is used where none stands in front. -/
def fixedLengths : List Nat :=
  List.replicate 144 8 ++ List.replicate 112 9 ++ List.replicate 24 7 ++ List.replicate 8 8

def fixedDistances : List Nat := List.replicate 32 5

/-- The order in which the lengths for the code of lengths come. -/
def lengthOrder : List Nat := [16, 17, 18, 0, 8, 7, 9, 6, 10, 5, 11, 4, 12, 3, 13, 2, 14, 1, 15]

/-- Takes `n` numbers of three bits. -/
def takeTriples : Nat → Bits → Except Halt (List Nat × Bits)
  | 0, bits => .ok ([], bits)
  | n + 1, bits =>
    match Bits.take 3 bits with
    | .error h => .error h
    | .ok (a, bits) => (takeTriples n bits).map fun (rest, bits) => (a :: rest, bits)

/-- A word of the code of lengths: lengths to add, given the last one. -/
def lengthsOf (last : Option Nat) (word : Nat) (bits : Bits) : Except Halt (List Nat × Bits) :=
  let repeated (extra least : Nat) (value : Option Nat) : Except Halt (List Nat × Bits) :=
    match Bits.take extra bits with
    | .error h => .error h
    | .ok (n, bits) =>
      match value with
      | some v => .ok (List.replicate (least + n) v, bits)
      | none => .error .broken
  match word with
  | 16 => repeated 2 3 last
  | 17 => repeated 3 3 (some 0)
  | 18 => repeated 7 11 (some 0)
  | _ => .ok ([word], bits)

/-- Takes `total` lengths. Each word adds one at least, so that `total` steps will do. -/
def takeLengths (code : Code) (total : Nat) : Nat → List Nat → Bits → Except Halt (List Nat × Bits)
  | 0, lengths, bits => .ok (lengths, bits)
  | fuel + 1, lengths, bits =>
    if total ≤ lengths.length then .ok (lengths, bits)
    else
      match code.decode bits with
      | .error h => .error h
      | .ok (word, bits) =>
        match lengthsOf lengths.getLast? word bits with
        | .error h => .error h
        | .ok (more, bits) =>
          if total < lengths.length + more.length then .error .broken
          else takeLengths code total fuel (lengths ++ more) bits

/-- The two codes that stand in front of a block. If the code of lengths has no words, each bit is a length of zero. -/
def takeCodes (bits : Bits) : Except Halt ((Code × Code) × Bits) := do
  let (letters, bits) ← Bits.take 5 bits
  let (distances, bits) ← Bits.take 5 bits
  let (words, bits) ← Bits.take 4 bits
  let (letters, distances) := (letters + 257, distances + 1)
  if 286 < letters ∨ 30 < distances then throw .broken
  let (triples, bits) ← takeTriples (words + 4) bits
  let ordered := lengthOrder.zip triples
  let lengths := (List.range lengthOrder.length).map fun i => ((ordered.find? (·.1 = i)).map Prod.snd).getD 0
  match Code.ofLengths? false lengths with
  | none => throw .broken
  | some code =>
    let total := letters + distances
    let code := if code.symbols.isEmpty then Code.zeros else code
    let (lengths, bits) ← takeLengths code total total [] bits
    if lengths[endWord]?.getD 0 = 0 then throw .broken
    match Code.ofLengths? true (lengths.take letters), Code.ofLengths? true (lengths.drop letters) with
    | some l, some d => return ((l, d), bits)
    | _, _ => throw .broken

/-- Expands a block of a kind. -/
def expandBlock (kind : Nat) (p : Progress) : Expanded :=
  match kind with
  | 0 => expandStored p
  | 1 =>
    match Code.ofLengths? true fixedLengths, Code.ofLengths? true fixedDistances with
    | some letters, some distances => expandWords letters distances (p.bits.length + 1) p
    | _, _ => .broken
  | 2 =>
    .andThen p.out (takeCodes p.bits) fun ((letters, distances), bits) =>
      expandWords letters distances (bits.length + 1) { p with bits }
  | _ => .broken

/-- Expands blocks up to the last. Each takes three bits at least, so that as many steps as there are bits will do. -/
def expandBlocks : Nat → Progress → Expanded
  | 0, p => .short p.out
  | fuel + 1, p =>
    .andThen p.out (Bits.take 1 p.bits) fun (isLast, bits) =>
      .andThen p.out (Bits.take 2 bits) fun (kind, bits) =>
        match expandBlock kind { p with bits } with
        | .done p => if isLast = 1 then .done p else expandBlocks fuel p
        | other => other

/-- Expands data. -/
def inflate (bits : Bits) : Expanded := expandBlocks (bits.length + 1) { bits }

end DomainPolicy.Deflate
