/-! ## Unsigned 64-bit numbers in decimal

Reading a decimal number that must fit in 64 bits. One leading `+` is allowed; every other
character must be a digit. The digits are read from the left, and the first character that
is not a digit, or the first digit that takes the value past `2^64 - 1`, decides the fault.
-/

namespace LineScript

/-- Why a text is not an unsigned 64-bit number. -/
inductive NumberFault where
  | empty
  | invalidDigit
  | tooLarge
  deriving DecidableEq, Repr

/-- The text of a number fault. -/
def NumberFault.message : NumberFault → String
  | .empty => "cannot parse integer from empty string"
  | .invalidDigit => "invalid digit found in string"
  | .tooLarge => "number too large to fit in target type"

/-- The largest unsigned 64-bit number. -/
def maxUnsigned64 : Nat := Nat.pow 2 64 - 1

/-- Reads digits onto the value `acc`. -/
def readDigits (acc : Nat) : List Char → Except NumberFault Nat
  | [] => .ok acc
  | c :: rest =>
    if c.isDigit then
      let next := acc * 10 + (c.toNat - '0'.toNat)
      if next > maxUnsigned64 then .error .tooLarge else readDigits next rest
    else .error .invalidDigit

/-- Reads an unsigned 64-bit number written in decimal. -/
def readUnsigned64 (s : String) : Except NumberFault Nat :=
  match s.toList with
  | [] => .error .empty
  | ['+'] => .error .invalidDigit
  | '+' :: rest => readDigits 0 rest
  | cs => readDigits 0 cs

end LineScript
