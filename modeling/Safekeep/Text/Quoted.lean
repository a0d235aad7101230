import Safekeep.Text.Extend

/-!
# Quoted text

The quoted spelling of a text, as diagnostics print it: the text between double quotes, with a
backslash before a double quote or a backslash, the escapes `\0`, `\t`, `\r` and `\n`, and every
grapheme extender or unprintable character spelled `\u{…}` with its code point in lower-case
hexadecimal without leading zeros. All other characters stand as they are. A single character
is spelled the same way between single quotes, where a single quote is escaped instead of a
double quote.
-/

namespace Safekeep.Text

def codeEscape (c : Char) : List Char :=
  ['\\', 'u', '{'] ++ Nat.toDigits 16 c.toNat ++ ['}']

/-- The quoted spelling of one character. -/
def quoteChar (c : Char) : List Char :=
  if c = '\x00' then ['\\', '0']
  else if c = '\t' then ['\\', 't']
  else if c = '\r' then ['\\', 'r']
  else if c = '\n' then ['\\', 'n']
  else if c = '\\' then ['\\', '\\']
  else if c = '"' then ['\\', '"']
  else if isGraphemeExtend c || !isPrintable c then codeEscape c
  else [c]

def quote (s : String) : String :=
  String.ofList ('"' :: (s.toList.flatMap quoteChar ++ ['"']))

/-- One character between single quotes: a single quote gets a backslash, a double quote stands
for itself, and every other character is spelled by `quoteChar`. -/
def quoteSingle (c : Char) : String :=
  let inner : List Char :=
    if c = '\'' then ['\\', '\'']
    else if c = '"' then ['"']
    else quoteChar c
  String.ofList ('\'' :: inner ++ ['\''])

end Safekeep.Text
