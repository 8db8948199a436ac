import LinearDispatch.Text.Printable

/-!
# Quoted texts

The form in which a text is shown inside a message or a list: between quotes, with a backslash
before what would end or disturb it.
-/

namespace LinearDispatch.Text

def hexDigits : (width n : Nat) → List Char
  | 0, _ => []
  | width + 1, n => hexDigits width (n / 16) ++ [Nat.digitChar (n % 16)]

/-- A text with a single quote and no double quote stands between double quotes, every other
text between single ones. -/
def quoteFor (s : String) : Char :=
  if s.toList.contains '\'' && !s.toList.contains '"' then '"' else '\''

/-- One character as it stands between quotes: tabs and line ends have letters of their own,
and what cannot be printed is written by its code point. -/
def quoteChar (quote c : Char) : List Char :=
  if c = quote ∨ c = '\\' then ['\\', c]
  else if c = '\t' then ['\\', 't']
  else if c = '\n' then ['\\', 'n']
  else if c = '\r' then ['\\', 'r']
  else if isPrintable c then [c]
  else if c.toNat < 0x100 then '\\' :: 'x' :: hexDigits 2 c.toNat
  else if c.toNat < 0x10000 then '\\' :: 'u' :: hexDigits 4 c.toNat
  else '\\' :: 'U' :: hexDigits 8 c.toNat

def quoted (s : String) : String :=
  let quote := quoteFor s
  String.ofList (quote :: s.toList.flatMap (quoteChar quote) ++ [quote])

example : quoted "it's" = "\"it's\"" := by decide +kernel
example : quoted "a\n\\" = "'a\\n\\\\'" := by decide +kernel
example : quoted "é\x7f\u200b" = "'é\\x7f\\u200b'" := by decide +kernel

end LinearDispatch.Text
