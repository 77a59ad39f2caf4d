import Polysql.Text.Case
import Polysql.Text.HiddenTable
/-!
Texts as messages quote them: between double quotes, with what cannot be seen written out.
-/

namespace Polysql.Text

/-- The digits of a number in base sixteen, small letters. -/
def hexDigits (n : Nat) : List Char :=
  Nat.toDigits 16 n

/-- The two digits of a byte in base sixteen. -/
def hexByte (b : UInt8) : List Char :=
  if b.toNat < 16 then '0' :: hexDigits b.toNat else hexDigits b.toNat

/-- The value of a digit in base sixteen; none for other characters. -/
def hexDigit? (c : Char) : Option Nat :=
  ("0123456789abcdef".toList.findIdx? fun d => d == c.toLower)

/-- The number that digits in base sixteen stand for. Other characters are passed over. -/
def ofHex (cs : List Char) : Nat :=
  (cs.filterMap hexDigit?).foldl (fun n d => n * 16 + d) 0

/-- The bytes that pairs of digits in base sixteen stand for. -/
def bytesOfHex : List Char → List UInt8
  | a :: b :: cs => UInt8.ofNat (ofHex [a, b]) :: bytesOfHex cs
  | _ => []

/-- A character that a quoted text shows by its number. -/
def isHidden (c : Char) : Bool :=
  c.toNat < 32 || inRanges hiddenRanges c

/-- A character as a quoted text shows it. -/
def quotedChar (c : Char) : List Char :=
  if c = '"' then ['\\', '"']
  else if c = '\\' then ['\\', '\\']
  else if c = '\n' then ['\\', 'n']
  else if c = '\r' then ['\\', 'r']
  else if c = '\t' then ['\\', 't']
  else if c.toNat = 0 then ['\\', '0']
  else if isHidden c then ['\\', 'u', '\x7b'] ++ hexDigits c.toNat ++ ['\x7d']
  else [c]

/-- The text between double quotes. -/
def quoted (s : String) : String :=
  String.ofList ('"' :: (s.toList.flatMap quotedChar ++ ['"']))

end Polysql.Text
