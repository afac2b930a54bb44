import LinkedShapes.Iri.Address
import LinkedShapes.Iri.Domain
import LinkedShapes.Text.Percent

/-!
# Hosts

The host of an authority is written in one form only: addresses of version 6 in brackets and
with their longest run of zeros left out, domain names in ASCII, and a domain name that ends in
a number as the address of version 4 that it is. Where the scheme does not say that hosts are
domain names, a host is any text without delimiters.
-/

namespace LinkedShapes.Iri.Host

open Text

/-- The characters that are always written as bytes: controls and everything beyond ASCII. -/
def isControl (c : Char) : Bool := c.toNat < 0x20 || 0x7F ≤ c.toNat

/-- The delimiters that no host holds. -/
def isDelimiter (c : Char) : Bool := "\x00\t\n\r #/:<>?@[\\]^|".toList.contains c

/-- The host in brackets, where the text starts with one. -/
def bracketed? (text : List Char) : Option (List Char) := do
  if text.getLast? = some ']' then
    let groups ← Address.version6? text.tail.dropLast
    return '[' :: Address.version6Text groups ++ [']']
  else none

/-- The host that a text names by a domain name or an address. -/
def ofDomain? (text : List Char) : Option (List Char) := do
  if text.head? = some '[' then bracketed? text
  else
    let name ← Domain.toAscii? (Utf8.decodeLenient (Percent.decode text))
    if name.isEmpty then none
    else if Address.endsInNumber name then
      return Address.version4Text (← Address.version4? name)
    else return name

/-- The host of a scheme that does not know domain names. -/
def ofText? (text : List Char) : Option (List Char) :=
  if text.head? = some '[' then bracketed? text
  else if text.any isDelimiter then none
  else some (Percent.encode isControl text)

end LinkedShapes.Iri.Host
