import SiteTemplates.Yaml.Fold

/-!
# Plain scalars

A scalar without quotes: words with gaps between them.  It ends before a comment, before a colon
that a gap follows, in front of what is indented too little, and within brackets also before
whatever has a meaning there.
-/

namespace SiteTemplates.Yaml

def isFlowMark (c : Char) : Bool :=
  c == ',' || c == '[' || c == ']' || c == '{' || c == '}'

/-- Whether a character can begin a plain scalar only if a word goes on after it, or never. -/
def isIndicator (c : Char) : Bool := "-?:,[]\x7b\x7d#&*!|>'\"%@\x60".toList.contains c

def startsPlain (inFlow : Bool) : List Char → Bool
  | [] => false
  | c :: rest =>
    (!isGap c && !isIndicator c) ||
      (!startsGap rest && (c == '-' || (!inFlow && (c == '?' || c == ':'))))

/-- Whether a word of a plain scalar ends before a character. -/
def endsWord (inFlow : Bool) (c : Char) (rest : List Char) : Bool :=
  isGap c || (inFlow && (isFlowMark c || c == '?')) ||
    (c == ':' && (startsGap rest || (inFlow && rest.head?.any isFlowMark)))

/-- A plain scalar that was read, its characters last first, and whether a line ended after it. -/
structure Plain where
  text : List Char
  stop : Cursor
  endsLine : Bool

/-- Reads a plain scalar; `indent` is the least column of its lines, and `gap?` is the gap after the
last word, unless that word may go on. -/
def readPlain (inFlow : Bool) (indent : Nat) (gap? : Option Gap) (text : List Char) (c : Cursor) :
    List Char → Plain
  | [] => ⟨text, c, gap?.any Gap.endsLine⟩
  | ch :: rest =>
    match gap? with
    | none =>
      if !endsWord inFlow ch rest then readPlain inFlow indent none (ch :: text) c.next rest
      else if ch = ' ' then readPlain inFlow indent (some (.spaces [' '])) text c.next rest
      else if isLineEnd ch then
        readPlain inFlow indent (some (.lines (lineEnd ch) [])) text c.next rest
      else ⟨text, c, false⟩
    | some gap =>
      if gap.endsLine && c.column == 0 && startsSeparator (ch :: rest) then ⟨text, c, true⟩
      else
        match gap with
        | .spaces s =>
          if ch = ' ' then readPlain inFlow indent (some (.spaces (' ' :: s))) text c.next rest
          else if isLineEnd ch then
            readPlain inFlow indent (some (.lines (lineEnd ch) [])) text c.next rest
          else if ch = '#' || endsWord inFlow ch rest then ⟨text, c, false⟩
          else readPlain inFlow indent none (ch :: (gap.folded ++ text)) c.next rest
        | .lines first more =>
          if ch = ' ' then readPlain inFlow indent (some gap) text c.next rest
          else if isLineEnd ch then
            readPlain inFlow indent (some (.lines first (lineEnd ch :: more))) text c.next rest
          else if ch = '#' || (!inFlow && c.column < indent) || endsWord inFlow ch rest then
            ⟨text, c, true⟩
          else readPlain inFlow indent none (ch :: (gap.folded ++ text)) c.next rest

end SiteTemplates.Yaml
