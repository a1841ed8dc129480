import StyledMap.Double.Parts

/-! # Raster images

* `Raster` is an encoded image with its size.
* `Raster.ofBytes?` reads the size from the header of a PNG or GIF image. It passes over what stands
  between the header and the pixels, and refuses an image without pixels.
-/

set_option autoImplicit false

namespace StyledMap

/-- An encoded image and its size in pixels. -/
structure Raster where
  content : List UInt8
  width : Nat
  height : Nat
  deriving DecidableEq, Repr

namespace Raster

/-- The number that bytes write, the highest first. -/
def bigEndian (bytes : List UInt8) : Nat :=
  bytes.foldl (fun n b => 256 * n + b.toNat) 0

/-- The bytes from `start` on, `count` of them. -/
def slice (bytes : List UInt8) (start count : Nat) : List UInt8 :=
  (bytes.drop start).take count

/-- The signature of a PNG image and the head of its first chunk. -/
def pngHead : List UInt8 :=
  [0x89, 0x50, 0x4E, 0x47, 0x0D, 0x0A, 0x1A, 0x0A, 0, 0, 0, 13, 0x49, 0x48, 0x44, 0x52]

def gifHeads : List (List UInt8) :=
  [[0x47, 0x49, 0x46, 0x38, 0x37, 0x61], [0x47, 0x49, 0x46, 0x38, 0x39, 0x61]]

def pixelChunk : List UInt8 := [0x49, 0x44, 0x41, 0x54]

/-- Whether chunks of a PNG image lead to its pixels. A chunk is a length, a name, as many bytes,
and a checksum. -/
def leadsToPixelChunk (chunks : List UInt8) : Bool :=
  if chunks.length < 8 then false
  else if slice chunks 4 4 = pixelChunk then true
  else leadsToPixelChunk (chunks.drop (12 + bigEndian (slice chunks 0 4)))
termination_by chunks.length
decreasing_by simp only [List.length_drop]; omega

def paletteSize (flags : UInt8) : Nat :=
  if flags < 0x80 then 0 else 3 * 2 ^ (flags.toNat % 8 + 1)

/-- Passes over blocks of data, each a length and as many bytes, the last of them empty. Adds their
lengths to `size` and gives what follows. -/
def passData? (size : Nat) : List UInt8 → Option (Nat × List UInt8)
  | [] => none
  | n :: rest =>
    if n = 0 then some (size, rest) else passData? (size + n.toNat) (rest.drop n.toNat)
termination_by bytes => bytes.length
decreasing_by simp only [List.length_drop, List.length_cons]; omega

/-- The labels of extensions of a GIF image that may hold any amount of data: plain text, comment
and application. -/
def freeLabels : List UInt8 := [0x01, 0xFE, 0xFF]

def controlLabel : UInt8 := 0xF9

/-- Whether an extension of a GIF image may hold `size` bytes of data. -/
def isExtension (label : UInt8) (size : Nat) : Bool :=
  freeLabels.contains label || (label = controlLabel && size = 4)

/-- What follows an extension of a GIF image, from its label on. Its first block of data does not
end it, even when it is empty. -/
def afterExtension? : List UInt8 → Option (List UInt8)
  | label :: first :: rest =>
    (passData? first.toNat (rest.drop first.toNat)).bind fun (size, rest) =>
      if isExtension label size then some rest else none
  | _ => none

def trailer : UInt8 := 0x3B

/-- Whether blocks of a GIF image lead to one that is no extension. Each step passes over an
extension. One byte of the block is not enough, unless it ends the image after an extension. -/
def leadsToBlock : Nat → List UInt8 → Bool
  | fuel + 1, 0x21 :: extension =>
    (afterExtension? extension).any fun rest => rest = [trailer] || leadsToBlock fuel rest
  | _, blocks => 2 ≤ blocks.length

def size? (bytes : List UInt8) : Option (Nat × Nat) :=
  if slice bytes 0 16 = pngHead ∧ leadsToPixelChunk (bytes.drop 33) then
    some (bigEndian (slice bytes 16 4), bigEndian (slice bytes 20 4))
  else if slice bytes 0 6 ∈ gifHeads ∧
      leadsToBlock bytes.length (bytes.drop (13 + paletteSize (bytes.getD 10 0))) then
    some (bigEndian (slice bytes 6 2).reverse, bigEndian (slice bytes 8 2).reverse)
  else none

def ofBytes? (bytes : List UInt8) : Option Raster :=
  match size? bytes with
  | some (width, height) =>
    if width = 0 ∨ height = 0 then none else some ⟨bytes, width, height⟩
  | none => none

end Raster

end StyledMap
