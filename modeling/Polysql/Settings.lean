/-!
How statements are written: layout, quoting and case of names, the form of parameters, and what is
done with changes of whole tables. Settings can be read from named fields, of which any may be left
out.
-/

namespace Polysql

/-- Which names are quoted. -/
inductive NameQuoting where
  /-- All names. -/
  | always
  /-- All names but those that ask not to be. -/
  | unlessUnquoted
  /-- Only the names that ask for it. -/
  | ifQuoted
  /-- No name. -/
  | never
deriving DecidableEq, Repr

/-- The case in which names are written. -/
inductive NameCase where
  | asIs
  | lower
  | upper
  /-- Small letters, except in quoted names. -/
  | lowerIfUnquoted
  /-- Capitals, except in quoted names. -/
  | upperIfUnquoted
deriving DecidableEq, Repr

/-- How a bound value appears in a statement. -/
inductive ParameterStyle where
  /-- As a placeholder with a position. -/
  | indexed
  /-- As a placeholder with a name. -/
  | named
  /-- As a literal; nothing is bound. -/
  | inlined
deriving DecidableEq, Repr

/-- What is done with an update or a delete without a condition. -/
inductive WholeTablePolicy where
  | ignore
  | logDebug
  | logInfo
  | logWarn
  /-- It is refused. -/
  | refuse
deriving DecidableEq, Repr

/-- The settings. -/
structure Settings where
  /-- Each clause starts a line. -/
  formatted : Bool := false
  /-- The indentation of one level. -/
  indentation : String := "  "
  /-- Which names are quoted. -/
  quoting : NameQuoting := .unlessUnquoted
  /-- The case of names. -/
  nameCase : NameCase := .asIs
  /-- The form of bound values. -/
  parameters : ParameterStyle := .indexed
  /-- What is done with a delete without a condition. -/
  wholeDelete : WholeTablePolicy := .ignore
  /-- What is done with an update without a condition. -/
  wholeUpdate : WholeTablePolicy := .ignore

namespace NameQuoting

/-- The settings by the names they are read under. -/
def ofName? : String → Option NameQuoting
  | "always" => some always
  | "explicit_default_quoted" => some unlessUnquoted
  | "explicit_default_unquoted" => some ifQuoted
  | "never" => some never
  | _ => none

/-- The names that settings are shown under. -/
def tag : NameQuoting → String
  | always => "Always"
  | unlessUnquoted => "ExplicitDefaultQuoted"
  | ifQuoted => "ExplicitDefaultUnquoted"
  | never => "Never"

end NameQuoting

namespace NameCase

/-- The settings by the names they are read under. -/
def ofName? : String → Option NameCase
  | "as_is" => some asIs
  | "lower" => some lower
  | "upper" => some upper
  | "lower_if_unquoted" => some lowerIfUnquoted
  | "upper_if_unquoted" => some upperIfUnquoted
  | _ => none

/-- The names that settings are shown under. -/
def tag : NameCase → String
  | asIs => "AsIs"
  | lower => "Lower"
  | upper => "Upper"
  | lowerIfUnquoted => "LowerIfUnquoted"
  | upperIfUnquoted => "UpperIfUnquoted"

end NameCase

namespace ParameterStyle

/-- The settings by the names they are read under. -/
def ofName? : String → Option ParameterStyle
  | "indexed" => some indexed
  | "named" => some named
  | "inlined" => some inlined
  | _ => none

/-- The names that settings are shown under. -/
def tag : ParameterStyle → String
  | indexed => "Indexed"
  | named => "Named"
  | inlined => "Inlined"

end ParameterStyle

namespace WholeTablePolicy

/-- The settings by the names they are read under. -/
def ofName? : String → Option WholeTablePolicy
  | "ignore" => some ignore
  | "log_debug" => some logDebug
  | "log_info" => some logInfo
  | "log_warn" => some logWarn
  | "throw" => some refuse
  | _ => none

/-- The names that settings are shown under. -/
def tag : WholeTablePolicy → String
  | ignore => "Ignore"
  | logDebug => "LogDebug"
  | logInfo => "LogInfo"
  | logWarn => "LogWarn"
  | refuse => "Throw"

end WholeTablePolicy

/-- The content of a field that settings are read from. -/
inductive FieldContent where
  | flag (b : Bool)
  | text (s : String)
  /-- Content that no field of the settings can have. -/
  | other

/-- The flag that a field holds. -/
def FieldContent.flag? : FieldContent → Option Bool
  | flag b => some b
  | _ => none

/-- The text that a field holds. -/
def FieldContent.text? : FieldContent → Option String
  | text s => some s
  | _ => none

namespace Settings

/-- The settings with one field set. A field that the settings do not have changes nothing. -/
def withField? (s : Settings) (name : String) (content : FieldContent) : Option Settings :=
  match name with
  | "render_formatted" => do return { s with formatted := ← content.flag? }
  | "indentation" => do return { s with indentation := ← content.text? }
  | "render_quoted_names" => do
    return { s with quoting := ← content.text?.bind NameQuoting.ofName? }
  | "render_name_case" => do
    return { s with nameCase := ← content.text?.bind NameCase.ofName? }
  | "param_type" => do
    return { s with parameters := ← content.text?.bind ParameterStyle.ofName? }
  | "execute_delete_without_where" => do
    return { s with wholeDelete := ← content.text?.bind WholeTablePolicy.ofName? }
  | "execute_update_without_where" => do
    return { s with wholeUpdate := ← content.text?.bind WholeTablePolicy.ofName? }
  | _ => some s

/-- The settings of some fields; those left out are the default. There are none if a field has the
wrong content. -/
def ofFields? (fields : List (String × FieldContent)) : Option Settings :=
  fields.foldlM (fun s (name, content) => s.withField? name content) {}

/-- Every value is written out. -/
def inlined : Settings :=
  { parameters := .inlined }

/-- Each clause starts a line. -/
def onLines : Settings :=
  { formatted := true }

end Settings

end Polysql
