import SiteTemplates.Fingerprint.Canonical
import SiteTemplates.Fingerprint.Digest

/-!
# Fingerprints of renderings

What is rendered has a fingerprint: the digest of the template, the content and the canonical text
of the context, with a zero byte between them.
-/

namespace SiteTemplates

def bytesOf (s : String) : List UInt8 := s.toUTF8.data.toList

/-- The bytes that a fingerprint is the digest of. -/
def fingerprintInput (template content : String) (context : Value) :
    Except Failure (List UInt8) := do
  let canonical ← context.canonical
  return bytesOf template ++ 0 :: (bytesOf content ++ 0 :: bytesOf (String.ofList canonical))

def fingerprint (template content : String) (context : Value) : Except Failure String := do
  let input ← fingerprintInput template content context
  return String.ofList ((Digest.ofBytes input).flatMap (fun b => Text.hexadecimal 2 b.toNat))

end SiteTemplates
