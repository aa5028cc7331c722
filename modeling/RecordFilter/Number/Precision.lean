/-!
# Changing the precision

The machine's floating-point numbers of 32 and of 64 bits, taken to each other.
Going through the unpacked number makes both directions one function: a finite
number is rounded to the other format, a tie to the even significand, and one
beyond the format becomes infinite when it is packed.
-/

namespace RecordFilter.Number

open Float.Model (Format UnpackedFloat)

/-- The number of a format nearest to an unpacked number. -/
def rescale (format : Format) : UnpackedFloat → UnpackedFloat
  | .finite sign significand exponent _ => .round format sign significand exponent
  | x => x

/-- A narrow number as a wide one. -/
def widen (x : Float32) : Float := .ofModel (.pack (rescale .binary64 x.toModel.unpack))

/-- The narrow number nearest to a wide one. -/
def narrow (x : Float) : Float32 := .ofModel (.pack (rescale .binary32 x.toModel.unpack))

end RecordFilter.Number
