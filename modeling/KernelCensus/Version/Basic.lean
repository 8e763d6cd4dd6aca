/-
# Versions and their tolerant order

A version is the numeric run at the front of a kernel release.  Releases of different
distributions carry different numbers of segments, so two versions are compared segment by
segment with a missing trailing segment read as zero: `5.15` and `5.15.0` are level.
-/

namespace KernelCensus

/-- A list of unsigned 64-bit segments, kept as written, trailing zeros included. -/
structure Version where
  segments : List UInt64
  deriving DecidableEq, Repr, Inhabited

namespace Version

/-! ## Order -/

/-- Compares segment by segment; a segment that one side lacks counts as zero. -/
def compareSegments : List UInt64 → List UInt64 → Ordering
  | [], bs => if bs.all (· == 0) then .eq else .lt
  | a :: as, bs => (compare a (bs.headD 0)).then (compareSegments as bs.tail)

instance : Ord Version where
  compare v w := compareSegments v.segments w.segments

instance : LT Version := ltOfOrd

instance : LE Version := leOfOrd

instance : Min Version := minOfLe

instance : Max Version := maxOfLe

/-- The comparison as one that may leave two versions apart; this one never does. -/
def partialCompare (v w : Version) : Option Ordering :=
  some (compare v w)

/-- Whether two versions are level, however many zeros they end in. -/
def isLevel (v w : Version) : Bool :=
  compare v w == .eq

/-- The comparison of two versions is that of their segments. -/
theorem compare_eq (v w : Version) : compare v w = compareSegments v.segments w.segments := rfl

/-! ## Display -/

/-- The decimal digits of a segment, without leading zeros. -/
def digits (segment : UInt64) : List Char :=
  Nat.toDigits 10 segment.toNat

/-- The segments in decimal, joined by dots. -/
def text (v : Version) : String :=
  String.ofList (List.intercalate ['.'] (v.segments.map digits))

/-- The version without segments has the empty text. -/
theorem text_empty : text ⟨[]⟩ = "" := rfl

end Version

end KernelCensus
