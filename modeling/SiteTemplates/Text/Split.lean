/-!
# Parts of a text

`splitAll` cuts a text at every separator and keeps empty parts; `runs` gives the words between
separators and no empty ones.
-/

namespace SiteTemplates.Text

/-- The parts of `rest`, after the finished parts `done` (last first) and the start `part` of the
current one (last character first). -/
def splitAllFrom (separator : Char) (part : List Char) (done : List (List Char)) :
    List Char → List (List Char)
  | [] => (part.reverse :: done).reverse
  | c :: rest =>
    if c = separator then splitAllFrom separator [] (part.reverse :: done) rest
    else splitAllFrom separator (c :: part) done rest

def splitAll (separator : Char) (s : List Char) : List (List Char) := splitAllFrom separator [] [] s

def endWord (word : List Char) (done : List (List Char)) : List (List Char) :=
  if word.isEmpty then done else word.reverse :: done

/-- The words of `rest`, after the finished ones and the start of the current one. -/
def runsFrom (isSeparator : Char → Bool) (word : List Char) (done : List (List Char)) :
    List Char → List (List Char)
  | [] => (endWord word done).reverse
  | c :: rest =>
    if isSeparator c then runsFrom isSeparator [] (endWord word done) rest
    else runsFrom isSeparator (c :: word) done rest

def runs (isSeparator : Char → Bool) (s : List Char) : List (List Char) :=
  runsFrom isSeparator [] [] s

def joined (separator : List Char) (parts : List (List Char)) : List Char :=
  separator.intercalate parts

end SiteTemplates.Text
