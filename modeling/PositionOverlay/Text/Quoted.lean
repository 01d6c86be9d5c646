import PositionOverlay.Text.Unprintable

/-!
# Quoted text

Text between double quotes as messages show it: quotes and backslashes carry a backslash, the
usual controls have letters, and other characters without a glyph are shown by code point.
-/
namespace PositionOverlay.Text

/-- The digits of a number in lower case base sixteen. -/
def hexDigits (n : Nat) : List Char := Nat.toDigits 16 n

def quoteChar (c : Char) : List Char :=
  if c = '"' then ['\\', '"']
  else if c = '\\' then ['\\', '\\']
  else if c = '\n' then ['\\', 'n']
  else if c = '\r' then ['\\', 'r']
  else if c = '\t' then ['\\', 't']
  else if c = '\x00' then ['\\', '0']
  else if isUnprintable c then ['\\', 'u', '\x7b'] ++ hexDigits c.toNat ++ ['\x7d']
  else [c]

def quoted (s : String) : String := String.ofList ('"' :: s.toList.flatMap quoteChar ++ ['"'])

end PositionOverlay.Text
