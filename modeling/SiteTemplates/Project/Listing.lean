import SiteTemplates.Project.Folder
import SiteTemplates.Text.Digit

/-!
# Listings

A project as lines of text, one for every file: its path, a tab and its bytes in hexadecimal digits.
A path that ends in a slash is a folder.
-/

namespace SiteTemplates

open Text

namespace Entry

/-- Bytes that are written in hexadecimal digits, two for each. -/
def bytesOf? : List Char → Option (List UInt8)
  | [] => some []
  | [_] => none
  | a :: b :: rest => do
    let high ← hexDigit? a
    let low ← hexDigit? b
    return UInt8.ofNat (16 * high + low) :: (← bytesOf? rest)

def ofContent (path : String) (content : ByteArray) : Entry :=
  if path.endsWith "/" then nothing else file content

def putLine? (root : Entry) (line : String) : Option Entry :=
  match splitAll '\t' line.toList with
  | [path, digits] => do
    let bytes ← bytesOf? digits
    let path := String.ofList path
    return root.put (pathOf path) (ofContent path ⟨bytes.toArray⟩)
  | _ => none

def ofListing? (lines : List String) : Option Entry := lines.foldlM putLine? nothing

end Entry

end SiteTemplates
