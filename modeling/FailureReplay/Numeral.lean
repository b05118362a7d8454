import FailureReplay.Text.Basic

/-!
# Signed 32-bit numerals

Reading goes left to right and stops at the first fault. At each position a
character that is no digit is reported before the overflow that the same
position would cause.
-/

namespace FailureReplay.Numeral

/-- Why a text is not a signed 32-bit numeral. -/
inductive Fault where
  | empty
  | invalidDigit
  | tooLarge
  | tooSmall
  deriving DecidableEq, Repr

def Fault.message : Fault → Text
  | .empty => "cannot parse integer from empty string".toList
  | .invalidDigit => "invalid digit found in string".toList
  | .tooLarge => "number too large to fit in target type".toList
  | .tooSmall => "number too small to fit in target type".toList

def least : Int := -2147483648

def greatest : Int := 2147483647

def digitValue (c : Char) : Int := Int.ofNat (c.toNat - 48)

/-- Read the remaining digits of a non-negative numeral. -/
def readUp (value : Int) : Text → Except Fault Int
  | [] => .ok value
  | c :: rest =>
    if c.isDigit = false then .error .invalidDigit
    else if greatest < value * 10 + digitValue c then .error .tooLarge
    else readUp (value * 10 + digitValue c) rest

/-- Read the remaining digits of a numeral with a minus sign. -/
def readDown (value : Int) : Text → Except Fault Int
  | [] => .ok value
  | c :: rest =>
    if c.isDigit = false then .error .invalidDigit
    else if value * 10 - digitValue c < least then .error .tooSmall
    else readDown (value * 10 - digitValue c) rest

/-- The integer that an optionally signed numeral denotes, if it fits 32 bits. -/
def readInt : Text → Except Fault Int
  | [] => .error .empty
  | ['+'] | ['-'] => .error .invalidDigit
  | '+' :: digits => readUp 0 digits
  | '-' :: digits => readDown 0 digits
  | digits => readUp 0 digits

/-- The 32-bit value that an optionally signed numeral denotes. -/
def read (t : Text) : Except Fault Int32 := (readInt t).map Int32.ofInt

/-- The shortest numeral of a value. -/
def write (value : Int32) : Text :=
  if value.toInt < 0 then '-' :: Text.decimal value.toInt.natAbs
  else Text.decimal value.toInt.natAbs

end FailureReplay.Numeral
