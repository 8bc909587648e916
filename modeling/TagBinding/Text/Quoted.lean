import TagBinding.Text.Printable

/-!
# Quoted text

A quoted text stands between quotation marks on one line. The mark is the apostrophe, unless
the text holds an apostrophe and no double quotation mark. Inside, the mark and the backslash
follow a backslash, line feeds, carriage returns and tabs are written by letters, and every
other character that is not printable is written by its code in the least of two, four or eight
hexadecimal digits that holds it.
-/
namespace TagBinding.Text

/-- The mark around a quoted text. -/
def quotationMark (cs : List Char) : Char :=
  if cs.contains '\x27' && !cs.contains '"' then '"' else '\x27'

/-- A code in lower-case hexadecimal digits, with zeros in front up to a width. -/
def hexadecimal (width code : Nat) : List Char :=
  let digits := Nat.toDigits 16 code
  List.replicate (width - digits.length) '0' ++ digits

/-- One character as it stands between two marks. -/
def quoteChar (mark c : Char) : List Char :=
  if c = mark ∨ c = '\\' then ['\\', c]
  else if c = '\n' then ['\\', 'n']
  else if c = '\r' then ['\\', 'r']
  else if c = '\t' then ['\\', 't']
  else if isPrintable c then [c]
  else if c.toNat < 0x100 then '\\' :: 'x' :: hexadecimal 2 c.toNat
  else if c.toNat < 0x10000 then '\\' :: 'u' :: hexadecimal 4 c.toNat
  else '\\' :: 'U' :: hexadecimal 8 c.toNat

/-- A text between quotation marks. -/
def quote (text : String) : String :=
  let mark := quotationMark text.toList
  String.ofList (mark :: (text.toList.flatMap (quoteChar mark) ++ [mark]))

end TagBinding.Text
