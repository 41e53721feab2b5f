import PagedSearch.Number.Binary

/-!
# Natural logarithm in single precision

The argument is 2^k z with z near one. A table gives a point c close to z with its logarithm, so
that ln x = k ln 2 + ln c + ln (z / c), and a polynomial of degree four in z / c - 1 gives the last
term. All steps run in double precision and the sum is rounded to single precision once.
-/

namespace PagedSearch.Binary

def logarithmTable : Array (Binary64 × Binary64) := #[
  (⟨0x3FF661EC79F8F3BE⟩, ⟨0xBFD57BF7808CAADE⟩), (⟨0x3FF571ED4AAF883D⟩, ⟨0xBFD2BEF0A7C06DDB⟩),
  (⟨0x3FF49539F0F010B0⟩, ⟨0xBFD01EAE7F513A67⟩), (⟨0x3FF3C995B0B80385⟩, ⟨0xBFCB31D8A68224E9⟩),
  (⟨0x3FF30D190C8864A5⟩, ⟨0xBFC6574F0AC07758⟩), (⟨0x3FF25E227B0B8EA0⟩, ⟨0xBFC1AA2BC79C8100⟩),
  (⟨0x3FF1BB4A4A1A343F⟩, ⟨0xBFBA4E76CE8C0E5E⟩), (⟨0x3FF12358F08AE5BA⟩, ⟨0xBFB1973C5A611CCC⟩),
  (⟨0x3FF0953F419900A7⟩, ⟨0xBFA252F438E10C1E⟩), (⟨0x3FF0000000000000⟩, ⟨0x0000000000000000⟩),
  (⟨0x3FEE608CFD9A47AC⟩, ⟨0x3FAAA5AA5DF25984⟩), (⟨0x3FECA4B31F026AA0⟩, ⟨0x3FBC5E53AA362EB4⟩),
  (⟨0x3FEB2036576AFCE6⟩, ⟨0x3FC526E57720DB08⟩), (⟨0x3FE9C2D163A1AA2D⟩, ⟨0x3FCBC2860D224770⟩),
  (⟨0x3FE886E6037841ED⟩, ⟨0x3FD1058BC8A07EE1⟩), (⟨0x3FE767DCF5534862⟩, ⟨0x3FD4043057B6EE09⟩)]

def logarithmOfTwo : Binary64 := ⟨0x3FE62E42FEFA39EF⟩

def logarithmTail (r : Binary64) : Binary64 :=
  let quartic : Binary64 := ⟨0xBFD00EA348B88334⟩
  let cubic : Binary64 := ⟨0x3FD5575B0BE00B6A⟩
  let quadratic : Binary64 := ⟨0xBFDFFFFEF20A4123⟩
  let square := r * r
  (quartic * square + (cubic * r + quadratic)) * square

def logarithmOrigin : Nat := 0x3F330000

/-- The logarithm of a positive finite number given as a pattern; a pattern below zero continues
the exponent field downward. -/
def logarithmOfPattern (pattern : Int) : Binary32 :=
  let offset := pattern - logarithmOrigin
  let power := offset.fdiv BinaryFormat.single.binade
  let z : Binary32 := ofPattern false (pattern - power * BinaryFormat.single.binade).toNat
  let sixteenth := offset.fmod BinaryFormat.single.binade / Nat.pow 2 19
  let (reciprocal, logarithm) := logarithmTable[sixteenth.toNat]?.getD (1, 0)
  let r := z.convert * reciprocal - 1
  let base := logarithm + ofInt power * logarithmOfTwo
  (logarithmTail r + (base + r)).convert

/-- The natural logarithm. Numbers too small for a leading one are scaled up by 2^23 first. -/
def logarithm (x : Binary32) : Binary32 :=
  if x.isZero then infinity true
  else if x.isNaN then x.quiet
  else if x.negative then invalid
  else if x.isInfinite then x
  else if x.pattern < BinaryFormat.single.binade then
    logarithmOfPattern ((x * ofNat BinaryFormat.single.binade).pattern -
      (23 * BinaryFormat.single.binade : Nat))
  else
    logarithmOfPattern x.pattern

end PagedSearch.Binary
