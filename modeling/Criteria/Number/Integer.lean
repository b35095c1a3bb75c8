/-!
Decimal whole numbers. Writing uses the fewest digits and a leading minus sign; reading also
accepts a plus sign and leading zeros, and takes nothing but digits after the sign.
-/

namespace Criteria.Number

def natural (value : Nat) : List Char :=
  Nat.toDigits 10 value

def integer (value : Int) : List Char :=
  if value < 0 then '-' :: natural value.natAbs else natural value.natAbs

def readNatural (characters : List Char) : Option Nat :=
  if characters.isEmpty || !characters.all Char.isDigit then none
  else some (Nat.ofDigitChars 10 characters 0)

def readInteger : List Char → Option Int
  | '-' :: rest => (readNatural rest).map fun value => -(value : Int)
  | '+' :: rest => (readNatural rest).map fun value => (value : Int)
  | characters => (readNatural characters).map fun value => (value : Int)

example : readInteger ['+', '0', '7'] = some 7 := by decide
example : readInteger ['-'] = none := by decide

/-! The signed numbers of 64 bits. -/

def int64Bound : Nat := 0x8000000000000000

def toInt64? (value : Int) : Option Int64 :=
  if -(int64Bound : Int) ≤ value ∧ value < int64Bound then some (Int64.ofInt value) else none

def readInt64 (characters : List Char) : Option Int64 :=
  (readInteger characters).bind toInt64?

/-- The largest signed number stands for every size that does not fit. -/
def sizeToInt64 (size : Nat) : Int64 :=
  Int64.ofNat (min size (int64Bound - 1))

def groupFromLast : List Char → List Char
  | first :: second :: third :: fourth :: rest =>
      first :: second :: third :: ',' :: groupFromLast (fourth :: rest)
  | short => short

def grouped (value : Nat) : String :=
  String.ofList (groupFromLast (natural value).reverse).reverse

example : groupFromLast ['3', '2', '1', '0'] = ['3', '2', '1', ',', '0'] := by decide

end Criteria.Number
