import TripletGeometry.Text.Printable

/-!
Text between quotes. The single quote is the mark unless the text holds one and no double quote.
The mark, the backslash and unprintable characters are escaped, the last by their code point in
hexadecimal with two, four or eight digits.
-/
namespace TripletGeometry.Text

def mark (chars : List Char) : Char :=
  if chars.contains '\'' && !chars.contains '"' then '"' else '\''

def hexadecimal (width n : Nat) : List Char :=
  let digits := Nat.toDigits 16 n
  List.replicate (width - digits.length) '0' ++ digits

def escaped (mark c : Char) : List Char :=
  if c = mark ∨ c = '\\' then ['\\', c]
  else if c = '\n' then ['\\', 'n']
  else if c = '\r' then ['\\', 'r']
  else if c = '\t' then ['\\', 't']
  else if isPrintable c then [c]
  else if c.toNat < 0x100 then '\\' :: 'x' :: hexadecimal 2 c.toNat
  else if c.toNat < 0x10000 then '\\' :: 'u' :: hexadecimal 4 c.toNat
  else '\\' :: 'U' :: hexadecimal 8 c.toNat

def quoted (s : String) : String :=
  let chars := s.toList
  let mark := mark chars
  String.ofList (mark :: chars.flatMap (escaped mark) ++ [mark])

end TripletGeometry.Text
