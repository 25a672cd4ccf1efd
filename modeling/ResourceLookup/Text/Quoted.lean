import ResourceLookup.Text.Printable

/-!
# Quoted text

Messages show a text between quotes: single ones, or double ones when the text holds a
single quote and no double quote. The quote in use and the backslash are written with a
backslash before them, line feed, return and tab as letters, and every other unprintable
code point by its number.
-/

namespace ResourceLookup.Text

def singleQuote : Nat := 0x27
def doubleQuote : Nat := 0x22
def backslash : Nat := 0x5C

def quoteFor (t : Text) : Nat :=
  if t.contains singleQuote && !t.contains doubleQuote then doubleQuote else singleQuote

def numbered (c : Nat) : Text :=
  if c < 0x100 then backslash :: 0x78 :: hexadecimal false 2 c
  else if c < 0x10000 then backslash :: 0x75 :: hexadecimal false 4 c
  else backslash :: 0x55 :: hexadecimal false 8 c

def quotedOne (quote c : Nat) : Text :=
  if c = quote || c = backslash then [backslash, c]
  else if c = 0x0A then [backslash, 0x6E]
  else if c = 0x0D then [backslash, 0x72]
  else if c = 0x09 then [backslash, 0x74]
  else if isPrintable c then [c]
  else numbered c

def quoted (t : Text) : Text :=
  quoteFor t :: (t.flatMap (quotedOne (quoteFor t)) ++ [quoteFor t])

def quotedOctets (bs : List Nat) : Text :=
  let one := fun b => if b < 0x80 then quotedOne (quoteFor bs) b else numbered b
  0x62 :: quoteFor bs :: (bs.flatMap one ++ [quoteFor bs])

def quotedList (ts : List Text) : Text :=
  [0x5B] ++ joinWith [0x2C, 0x20] (ts.map quoted) ++ [0x5D]

end ResourceLookup.Text
