/-!
# Code points

Tables of characters as runs of code points at equal distances, and the code
points that are no characters.
-/

namespace SchemaViews.Text

/-- The code points from `first` to `last`, `step` apart. -/
structure CodeRun where
  first : Nat
  last : Nat
  step : Nat

def CodeRun.contains (run : CodeRun) (code : Nat) : Bool :=
  run.first ≤ code && code ≤ run.last && (code - run.first) % run.step == 0

def CodeRun.covers (runs : List CodeRun) (c : Char) : Bool :=
  runs.any fun run => run.contains c.toNat

/-! ### Surrogates

A text that is read from JSON can hold a surrogate without its other half. That is a code point of
the text, but no `Char`. It is held as the code point that lies `surrogateShift` above it, in a
plane where Unicode has no characters and texts are taken to have none: both are unprintable, and
neither is white space, a letter, a digit or the counterpart of one.
-/

def surrogateShift : Nat :=
  0xD0000

/-- A surrogate as it is held. -/
def surrogate (code : Nat) : Char :=
  Char.ofNat (surrogateShift + code)

def isLeadingSurrogate (c : Char) : Bool :=
  surrogateShift + 0xD800 ≤ c.toNat && c.toNat < surrogateShift + 0xDC00

def isTrailingSurrogate (c : Char) : Bool :=
  surrogateShift + 0xDC00 ≤ c.toNat && c.toNat < surrogateShift + 0xE000

def isSurrogate (c : Char) : Bool :=
  isLeadingSurrogate c || isTrailingSurrogate c

/-- Whether a text can be written to a file: surrogates have no encoding. -/
def isEncodable (text : List Char) : Bool :=
  text.all fun c => !isSurrogate c

/-- Whether every surrogate is half of a pair, a leading one with a trailing one right behind it.
The text itself can stand behind a leading one. -/
def pairsUp : Bool → List Char → Bool
  | behindLeading, [] => !behindLeading
  | true, c :: rest => isTrailingSurrogate c && pairsUp false rest
  | false, c :: rest => !isTrailingSurrogate c && pairsUp (isLeadingSurrogate c) rest

def hasOnlyPairs (text : List Char) : Bool :=
  pairsUp false text

end SchemaViews.Text
