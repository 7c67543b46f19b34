import SiteTemplates.Text.Printable

/-!
# Quoted text

A text in quotes, with escapes for what cannot be seen.  Single quotes are used unless the text
holds a single quote and no double one.
-/

namespace SiteTemplates.Text

/-- A number in plain hexadecimal digits, filled up with zeros. -/
def hexadecimal (width n : Nat) : List Char :=
  let digits := Nat.toDigits 16 n
  List.replicate (width - digits.length) '0' ++ digits

/-- A character that is not printable, as the number of its code point. -/
def numbered (n : Nat) : List Char :=
  if n < 0x100 then '\\' :: 'x' :: hexadecimal 2 n
  else if n < 0x10000 then '\\' :: 'u' :: hexadecimal 4 n
  else '\\' :: 'U' :: hexadecimal 8 n

/-- A character inside quotes of a kind, where `isShown` tells which characters stand for
themselves. -/
def escaped (isShown : Char → Bool) (quote c : Char) : List Char :=
  if c = quote ∨ c = '\\' then ['\\', c]
  else if c = '\n' then ['\\', 'n']
  else if c = '\r' then ['\\', 'r']
  else if c = '\t' then ['\\', 't']
  else if isShown c then [c]
  else numbered c.toNat

def quoteFor (s : List Char) : Char := if s.contains '\'' && !s.contains '"' then '"' else '\''

def quotedBy (isShown : Char → Bool) (s : List Char) : List Char :=
  quoteFor s :: s.flatMap (escaped isShown (quoteFor s)) ++ [quoteFor s]

def quoted (s : List Char) : List Char := quotedBy isPrintable s

/-- Bytes in quotes, in which plain printable characters stand for themselves. -/
def quotedBytes (bs : List UInt8) : List Char :=
  'b' :: quotedBy (fun c => 32 ≤ c.toNat && c.toNat ≤ 126) (bs.map (fun b => Char.ofNat b.toNat))

end SiteTemplates.Text
