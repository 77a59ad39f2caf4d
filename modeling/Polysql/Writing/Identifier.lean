import Polysql.Dialect
import Polysql.Name
import Polysql.Settings
import Polysql.Text.Case
/-!
Names as identifiers: between the delimiters of the engine or bare, and in the case that the
settings ask for.
-/

namespace Polysql

/-- The opening and the closing delimiter of identifiers. -/
def Family.identifierDelimiters : Family → Char × Char
  | .mySql | .mariaDb | .bigQuery | .clickHouse => ('\x60', '\x60')
  | .sqlServer | .sybase => ('[', ']')
  | _ => ('"', '"')

namespace Settings

/-- A part of a name is written between delimiters. -/
def quotes (s : Settings) (p : NamePart) : Bool :=
  match s.quoting with
  | .always => true
  | .unlessUnquoted => p.quoting != .unquoted
  | .ifQuoted => p.quoting == .quoted
  | .never => false

/-- The text of a name in the case that the settings ask for. -/
def cased (s : Settings) (isQuoted : Bool) (text : String) : String :=
  match s.nameCase with
  | .asIs => text
  | .lower => Text.toLower text
  | .upper => Text.toUpper text
  | .lowerIfUnquoted => if isQuoted then text else Text.toLower text
  | .upperIfUnquoted => if isQuoted then text else Text.toUpper text

end Settings

/-- A text between delimiters. A closing delimiter inside of it is doubled. -/
def Family.delimited (f : Family) (text : String) : String :=
  let (opening, closing) := f.identifierDelimiters
  String.singleton opening ++ Text.doubled closing text ++ String.singleton closing

/-- A part of a name as it is written. -/
def NamePart.written (p : NamePart) (s : Settings) (f : Family) : String :=
  let isQuoted := s.quotes p
  let text := s.cased isQuoted p.text
  if isQuoted then f.delimited text else text

end Polysql
