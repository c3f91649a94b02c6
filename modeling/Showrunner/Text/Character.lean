namespace Showrunner.Text

def covers (runs : List (Nat × Nat)) (c : Char) : Bool :=
  runs.any fun run => run.1 ≤ c.toNat && c.toNat ≤ run.2

def blankRanges : List (Nat × Nat) := [
    (0x9, 0xd), (0x20, 0x20), (0x85, 0x85), (0xa0, 0xa0), (0x1680, 0x1680), (0x2000, 0x200a),
    (0x2028, 0x2029), (0x202f, 0x202f), (0x205f, 0x205f), (0x3000, 0x3000)]

def isBlank (c : Char) : Bool := covers blankRanges c

def lowerAscii (s : String) : String := .ofList (s.toList.map Char.toLower)

/-- Equality of texts up to the case of the letters `A` to `Z`. -/
def sameIgnoringCase (a b : String) : Bool := lowerAscii a == lowerAscii b

def isHexDigit (c : Char) : Bool := c.isDigit || ('a' ≤ c.toLower && c.toLower ≤ 'f')

def hexDigit (c : Char) : Nat :=
  if c.isDigit then c.toNat - '0'.toNat else c.toLower.toNat - 'a'.toNat + 10

def natOfBase (base : Nat) (ds : List Char) : Nat :=
  ds.foldl (fun n c => base * n + hexDigit c) 0

def codePoint? (ds : List Char) : Option Char :=
  let n := natOfBase 16 ds
  if ds.all isHexDigit && n.isValidChar then some (.ofNat n) else none

end Showrunner.Text
