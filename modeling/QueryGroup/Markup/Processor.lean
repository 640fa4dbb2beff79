import QueryGroup.Markup.Reader
import QueryGroup.Text.Ranges
set_option autoImplicit false

/- Markup as an XML 1.0 processor reads it. Before it looks at anything else, a processor
refuses a text that holds a character outside the production `Char` and takes every line end
for one line feed; in an attribute's value it then takes white space for blanks. Entities are
read only after that. -/
namespace QueryGroup.Markup

open Text

namespace Xml

def charRanges : Ranges :=
  [(0x9, 0xA), (0xD, 0xD), (0x20, 0xD7FF), (0xE000, 0xFFFD), (0x10000, 0x10FFFF)]

def isChar (c : Char) : Bool := charRanges.holds c

def isText (text : String) : Bool := text.toList.all isChar

/-- A carriage return is a line end by itself, or together with a line feed behind it. -/
def lineFeeds : List Char → List Char
  | [] => []
  | c :: rest =>
      if c = '\r' then
        if rest.head? = some '\n' then lineFeeds rest else '\n' :: lineFeeds rest
      else c :: lineFeeds rest

def isBreak (c : Char) : Bool := c == '\t' || c == '\n' || c == '\r'

/-- A character of an attribute's value as it is read. -/
def blank (c : Char) : Char := if isBreak c then ' ' else c

def readText (text : String) : String := .ofList (lineFeeds text.toList)

def blankText (text : String) : String := .ofList (text.toList.map blank)

def readValue (value : String) : String := blankText (readText value)

end Xml

namespace Token

def blankValues (attributes : List RawAttribute) : List RawAttribute :=
  attributes.map fun pair => (pair.1, pair.2.map Xml.blank)

def blanked : Token → Token
  | .text raw => .text raw
  | .opening name attributes => .opening name (blankValues attributes)
  | .single name attributes => .single name (blankValues attributes)
  | .closing name => .closing name

end Token

/-- The tree that a processor reads from a text whose line ends are line feeds. -/
def Element.ofXml? (text : String) : Option Element :=
  (Token.scan? text.toList).bind fun tokens => Element.ofTokens? (tokens.map Token.blanked)

end QueryGroup.Markup
