/-!
# Styled text

A terminal takes an escape character and what follows it, up to a letter, for a change of style.
`withoutStyles` leaves such sequences out.
-/

namespace SiteTemplates.Text

def isStyleParameter (c : Char) : Bool := c == ';' || c == '?' || ('0' ≤ c && c ≤ '9')

def isStyleEnd (c : Char) : Bool := ('a' ≤ c && c ≤ 'z') || ('A' ≤ c && c ≤ 'Z')

/-- Leaves sequences out.  `held`, last first, is the start of what may become one, and `done`, last
first, is the text before it. -/
def withoutStylesFrom (held done : List Char) : List Char → List Char
  | [] => (held ++ done).reverse
  | c :: rest =>
    match held with
    | [] =>
      if c = '\x1B' then withoutStylesFrom [c] done rest
      else withoutStylesFrom [] (c :: done) rest
    | [_] =>
      if c = '[' then withoutStylesFrom (c :: held) done rest
      else if c = '\x1B' then withoutStylesFrom [c] (held ++ done) rest
      else withoutStylesFrom [] (c :: (held ++ done)) rest
    | _ =>
      if isStyleParameter c then withoutStylesFrom (c :: held) done rest
      else if isStyleEnd c then withoutStylesFrom [] done rest
      else if c = '\x1B' then withoutStylesFrom [c] (held ++ done) rest
      else withoutStylesFrom [] (c :: (held ++ done)) rest

def withoutStyles (s : String) : String := String.ofList (withoutStylesFrom [] [] s.toList)

end SiteTemplates.Text
