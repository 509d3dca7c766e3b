import WikiSite.Text.Accent
import WikiSite.Text.CaseFold
import WikiSite.Text.Grapheme

/-!
# Fuzzy search

A query is a list of words that must all match. A plain word matches a text that holds its characters in order; marks
change that: `'word` wants the word in one piece, `^word` at the start, `word$` at the end, `^word$` as the whole, and
`!` in front turns a word around. A backslash takes the meaning from a mark or a space. Case does not count, and
accents count only when the word itself has some. A text that is not plain ASCII is compared by the first character
of each of its clusters.
-/

namespace WikiSite

namespace Search

/-- How the characters of a word must stand in a text. -/
inductive Manner where
  | scattered
  | together
  | atStart
  | atEnd
  | whole
  deriving DecidableEq, Repr

/-- A word of a query. -/
structure Word where
  manner : Manner
  /-- Whether the text must not match. -/
  inverted : Bool
  needle : Text
  /-- Whether the word is plain ASCII. -/
  isAscii : Bool
  /-- Whether accents of the text do not count. -/
  ignoresAccents : Bool
  deriving Repr

private def isAsciiText (t : Text) : Bool := t.all fun c => c.toNat < 0x80

/-- Splits a query at spaces that no backslash precedes. -/
def splitQuery (escaped : Bool) : Text → List Text
  | [] => [[]]
  | c :: rest =>
    if c == ' ' && !escaped then [] :: splitQuery false rest
    else
      match splitQuery (c == '\\') rest with
      | [] => [[c]]
      | w :: ws => (c :: w) :: ws

/-- The word with a plain space for every escaped one. -/
private def unescapeSpaces : Text → Text
  | '\\' :: ' ' :: rest => ' ' :: unescapeSpaces rest
  | c :: rest => c :: unescapeSpaces rest
  | [] => []

/-- The characters by which a text is compared. -/
def units (t : Text) : Text :=
  if isAsciiText t then t
  else clusterHeads t

/-- The word with its backslashes kept: each stands twice unless a space or the end follows. -/
private def doubleBackslashes : Text → Text
  | '\\' :: ' ' :: rest => '\\' :: ' ' :: doubleBackslashes rest
  | '\\' :: c :: rest => '\\' :: '\\' :: doubleBackslashes (c :: rest)
  | c :: rest => c :: doubleBackslashes rest
  | [] => []

private def foldAll (t : Text) : Text := t.map foldCase

private def quoteMark : Char := Char.ofNat 0x27

/-- Reads one word with its marks. -/
def Word.ofText (t : Text) : Word :=
  let (inverted, t) :=
    match t with
    | '!' :: rest => (true, rest)
    | '\\' :: '!' :: rest => (false, '!' :: rest)
    | _ => (false, t)
  let (manner, t) : Manner × Text :=
    match t with
    | '^' :: rest => (.atStart, rest)
    | '\\' :: c :: rest => if c == '^' || c == quoteMark then (.scattered, c :: rest) else (.scattered, t)
    | c :: rest => if c == quoteMark then (.together, rest) else (.scattered, t)
    | [] => (.scattered, t)
  let (manner, t, dollar) : Manner × Text × Bool :=
    match t.reverse with
    | '$' :: '\\' :: rest => (manner, rest.reverse, true)
    | '$' :: rest => (if manner = .scattered then .atEnd else .whole, rest.reverse, false)
    | _ => (manner, t, false)
  let manner := if inverted && manner = .scattered then .together else manner
  let isAscii := isAsciiText t
  let body := foldAll (if isAscii then unescapeSpaces t else doubleBackslashes (units t))
  { manner := manner
    inverted := inverted
    needle := body ++ (if dollar then ['$'] else [])
    isAscii := isAscii
    ignoresAccents := isAscii || body.all fun c => plainLetter c == c }

/-- The words of a query; empty ones do not count. -/
def wordsOf (query : Text) : List Word :=
  ((splitQuery false query).map Word.ofText).filter fun w => !w.needle.isEmpty

/-- Whether the characters of the needle stand in the text in order. -/
def isScattered : Text → Text → Bool
  | [], _ => true
  | _ :: _, [] => false
  | n :: ns, c :: cs => if n == c then isScattered ns cs else isScattered (n :: ns) cs

private def isBlankStart (t : Text) : Bool := t.head?.any isBlank

private def isBlankEnd (t : Text) : Bool := t.getLast?.any isBlank

/-- Whether the needle stands in the text in the wanted manner. Blanks around the text do not count against a needle
that has none there. -/
def stands (manner : Manner) (needle text : Text) : Bool :=
  let fromStart (t : Text) : Text := if isBlankStart needle then t else trimStart t
  let toEnd (t : Text) : Text := if isBlankEnd needle then t else trimEnd t
  match manner with
  | .scattered => isScattered needle text
  | .together => occursIn needle text
  | .atStart => needle.isPrefixOf (fromStart text)
  | .atEnd => needle.isSuffixOf (toEnd text)
  | .whole => toEnd (fromStart text) == needle

/-- Whether a text is one that a word wants. -/
def Word.matches (w : Word) (text : Text) : Bool :=
  let found :=
    if isAsciiText text && !w.isAscii then false
    else
      let plain (c : Char) : Char := foldCase (if w.ignoresAccents then plainLetter c else c)
      stands w.manner w.needle ((units text).map plain)
  found != w.inverted

/-- Whether a text matches every word of a query. -/
def matchesAll (ws : List Word) (text : Text) : Bool := ws.all fun w => w.matches text

end Search

/-- Keeps the candidates whose text matches a query, in their order; a blank query keeps all. -/
def fuzzyFilter {α : Type} (query : Text) (text : α → Text) (candidates : List α) : List α :=
  if (trim query).isEmpty then candidates
  else candidates.filter fun c => Search.matchesAll (Search.wordsOf query) (text c)

end WikiSite
