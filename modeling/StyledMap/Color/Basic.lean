import StyledMap.Arith

/-! # Colors

* `Color α` has straight red, green, blue and alpha channels; in `[0, 1]` they are displayable.
* `Color.ofBytes` and `Color.toBytes` convert from and to 8-bit channels.
* `Color.blend` mixes two colors channel by channel, alpha included.
* `transparent`, `black` and `white` are constants.
-/

set_option autoImplicit false

namespace StyledMap

/-- A color with straight alpha. -/
structure Color (α : Type) where
  red : α
  green : α
  blue : α
  alpha : α
  deriving BEq, Repr

/-- Four 8-bit channels. -/
structure ColorBytes where
  red : UInt8
  green : UInt8
  blue : UInt8
  alpha : UInt8
  deriving DecidableEq, Repr

namespace Color

variable {α : Type} [Arith α]
open Arith

/-- Black without any opacity. -/
def transparent : Color α := ⟨zero, zero, zero, zero⟩

def black : Color α := ⟨zero, zero, zero, one⟩

def white : Color α := ⟨one, one, one, one⟩

def channelOfByte (n : UInt8) : α :=
  nat n.toNat / nat 255

def ofBytes (b : ColorBytes) : Color α :=
  ⟨channelOfByte b.red, channelOfByte b.green, channelOfByte b.blue, channelOfByte b.alpha⟩

/-- The byte nearest to a channel; a half rounds up, and channels outside `[0, 1]` are clamped. -/
def byteOfChannel (x : α) : UInt8 :=
  UInt8.ofNat (nearestNat (clamp x * nat 255))

/-- The nearest four bytes. -/
def toBytes (c : Color α) : ColorBytes :=
  ⟨byteOfChannel c.red, byteOfChannel c.green, byteOfChannel c.blue, byteOfChannel c.alpha⟩

/-- The number at position `t` on the way from `x` to `y`. -/
def mix (x t y : α) : α :=
  x + t * (y - x)

/-- The color at position `t` on the way from `c` to `d`; `t` may lie outside `[0, 1]`. -/
def blend (c : Color α) (t : α) (d : Color α) : Color α :=
  ⟨mix c.red t d.red, mix c.green t d.green, mix c.blue t d.blue, mix c.alpha t d.alpha⟩

def toSingles (c : Color Float) : List Float32 :=
  [c.red, c.green, c.blue, c.alpha].map Float.toFloat32

end Color

end StyledMap
