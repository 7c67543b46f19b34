/-!
# Quotation marks

Single and double quotes hide a separator: `splitOutside` cuts a text at the separators that stand
outside quotes and keeps the quotes in the parts, and `unquote` takes one matching pair off.  Inside
one kind of quote the other kind is an ordinary character, and a quote that is never closed hides
everything after it.
-/

namespace SiteTemplates.Text

def isQuote (c : Char) : Bool := c == '"' || c == '\''

/-- The quotation that is open after `c`, when `quote` was open before it. -/
def quoteAfter (quote : Option Char) (c : Char) : Option Char :=
  match quote with
  | some q => if c = q then none else some q
  | none => if isQuote c then some c else none

/-- The parts of `rest`, after the finished parts `done` (last first) and the start `part` of the
current one (last character first). -/
def splitFrom (separator : Char) (quote : Option Char) (part : List Char)
    (done : List (List Char)) : List Char → List (List Char)
  | [] => (part.reverse :: done).reverse
  | c :: rest =>
    if quote = none ∧ isQuote c = false ∧ c = separator then
      splitFrom separator none [] (part.reverse :: done) rest
    else
      splitFrom separator (quoteAfter quote c) (c :: part) done rest

def splitOutside (separator : Char) (s : List Char) : List (List Char) :=
  splitFrom separator none [] [] s

/-- Takes off one pair of equal quotes that encloses the text. -/
def unquote (s : List Char) : List Char :=
  match s with
  | q :: rest => if isQuote q = true ∧ rest.getLast? = some q then rest.dropLast else s
  | [] => []

/-- The text before the first `separator` and the text after it, which is empty without one. -/
def cutAt (separator : Char) (s : List Char) : List Char × List Char :=
  (s.takeWhile (· != separator), (s.dropWhile (· != separator)).drop 1)

end SiteTemplates.Text
