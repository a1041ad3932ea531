import Calculator.Positional
import Calculator.Text.Printable

/-! Quoted text, as messages show it: between single quotes, or between double quotes when
that saves an escape, with escapes for the quote, the backslash and what is not printable. -/

namespace Calculator.Text
open Positional

def singleQuote : Char := '\''
def doubleQuote : Char := '"'

def quoteFor (cs : List Char) : Char :=
  if cs.contains singleQuote && !cs.contains doubleQuote then doubleQuote else singleQuote

def hexadecimal (width n : Nat) : List Char :=
  let ds := chars 16 n
  zeros (width - ds.length) ++ ds

def escaped (quote c : Char) : List Char :=
  if c = quote ∨ c = '\\' then ['\\', c]
  else if c = '\t' then ['\\', 't']
  else if c = '\n' then ['\\', 'n']
  else if c = '\r' then ['\\', 'r']
  else if isPrintable c then [c]
  else if c.toNat < 0x100 then '\\' :: 'x' :: hexadecimal 2 c.toNat
  else if c.toNat < 0x10000 then '\\' :: 'u' :: hexadecimal 4 c.toNat
  else '\\' :: 'U' :: hexadecimal 8 c.toNat

def quotedChars (cs : List Char) : List Char :=
  let quote := quoteFor cs
  quote :: (cs.flatMap (escaped quote) ++ [quote])

def quoted (s : String) : String := String.ofList (quotedChars s.toList)

end Calculator.Text
