import BareCode.Text.Basic
/-! # Hexadecimal — the code of a character in two digits -/

namespace BareCode

/-- The last two hexadecimal digits of a number, in lower case. -/
def hexPair (n : Nat) : Text := [Nat.digitChar (n / 16 % 16), Nat.digitChar (n % 16)]

end BareCode
