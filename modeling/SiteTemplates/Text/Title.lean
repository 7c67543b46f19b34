import SiteTemplates.Text.Blank
import SiteTemplates.Text.Case
import SiteTemplates.Text.Digit
import SiteTemplates.Text.Split

/-!
# Titles from file names

`title` makes a title of the name of a file: the last part of the path without its suffix and
without a date in front, its words divided at blanks, hyphens and low lines, each with a capital.
-/

namespace SiteTemplates.Text

/-- The last part of a path that is neither empty nor the mark of the same folder. -/
def lastPart (path : List Char) : List Char :=
  (((splitAll '/' path).filter (fun p => !p.isEmpty && p != ['.'])).getLast?).getD []

/-- A name before its last point, where there is something before that point and after it. -/
def stem (name : List Char) : List Char :=
  let suffix := name.reverse.takeWhile (· != '.')
  match name.reverse.dropWhile (· != '.') with
  | _ :: before => if suffix.isEmpty || before.isEmpty then name else before.reverse
  | [] => name

/-- A name after the year, the month and the day in front of it, if it begins with three numbers. -/
def withoutDate (name : List Char) : List Char :=
  match splitAll '-' name with
  | year :: month :: day :: first :: rest =>
    if allDigits year && allDigits month && allDigits day then joined ['-'] (first :: rest)
    else name
  | _ => name

def dividesWords (c : Char) : Bool := isBlank c || c == '-' || c == '_'

def title (path : List Char) : List Char :=
  match runs dividesWords (withoutDate (stem (lastPart path))) with
  | [] => "Untitled".toList
  | words => joined [' '] (words.map capitalize)

end SiteTemplates.Text
