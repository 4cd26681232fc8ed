import SourceAudit.Regex.Age
import SourceAudit.Regex.BinaryProperty
import SourceAudit.Regex.Category
import SourceAudit.Regex.CodeRanges
import SourceAudit.Regex.Error
import SourceAudit.Regex.Script
import SourceAudit.Regex.ScriptExtension
import SourceAudit.Regex.TextBreak

/-!
# Characters by property

`propertySet` : the characters with a property that is named alone, such as `Lu`, `Greek` or `Alphabetic`.
`propertyValueSet` : the characters for which a named property has a named value, such as `gc` and `Lu`.

Names are compared without their case, blanks, hyphens and underscores, and without a leading `is`.
-/

namespace SourceAudit.Regex

/-- The form of a name that look-ups use. -/
def normalName (name : String) : String :=
  let cs := name.toList
  let afterIs := match cs with
    | i :: s :: rest => if i.toLower == 'i' && s.toLower == 's' then some rest else none
    | _ => none
  let kept := ((afterIs.getD cs).filter fun c => c.toNat < 0x80 && c != ' ' && c != '_' && c != '-').map Char.toLower
  if afterIs.isSome && kept == ['c'] then "isc" else String.ofList kept

def tableSet? (tables : List NamedTable) (name : String) : Option CharSet :=
  (NamedTable.lookup? tables name).map .table

/-- The code points of several categories. -/
def categoriesSet (names : List String) : CharSet := .unions (names.filterMap (tableSet? categoryTables))

def categoryGroup? : String → Option CharSet
  | "l" | "letter" => some (categoriesSet ["lu", "ll", "lt", "lm", "lo"])
  | "lc" | "casedletter" => some (categoriesSet ["lu", "ll", "lt"])
  | "m" | "mark" | "combiningmark" => some (categoriesSet ["mn", "mc", "me"])
  | "n" | "number" => some (categoriesSet ["nd", "nl", "no"])
  | "p" | "punctuation" | "punct" => some (categoriesSet ["pc", "pd", "ps", "pe", "pi", "pf", "po"])
  | "s" | "symbol" => some (categoriesSet ["sm", "sc", "sk", "so"])
  | "z" | "separator" => some (categoriesSet ["zs", "zl", "zp"])
  | "c" | "other" => some (.union (.range 0xD800 0xDFFF) (categoriesSet ["cc", "cf", "co", "cn"]))
  | _ => none

/-- The characters of a general category. There is none for surrogates, which are no characters. -/
def categorySet? (name : String) : Option CharSet :=
  match name with
  | "any" => some .all
  | "ascii" => some (.range 0 0x7F)
  | "assigned" => some (CharSet.negated (categoriesSet ["cn"]))
  | _ => (categoryGroup? name).or (tableSet? categoryTables name)

def scriptSet? (name : String) : Option CharSet := tableSet? scriptTables name

def binarySet? (name : String) : Option CharSet :=
  match name with
  | "wspace" | "whitespace" | "space" => some .blank
  | _ => tableSet? binaryTables name

/-- The characters that a version of the standard has, whether it was the first to have them or not. -/
def ageSet? (name : String) : Option CharSet :=
  let older := ageTables.takeWhile fun t => !t.names.contains name
  (tableSet? ageTables name).map fun s => .unions (older.map (.table ·.table) ++ [s])

def propertySet (name : String) : Except Error CharSet :=
  let name := normalName name
  let binary := if name = "cf" || name = "sc" || name = "lc" then none else binarySet? name
  match (binary.or (categorySet? name)).or (scriptSet? name) with
  | some s => .ok s
  | none => .error .propertyUnknown

def propertyValueSet (name value : String) : Except Error CharSet :=
  let value := normalName value
  let found := match normalName name with
    | "gc" | "generalcategory" => categorySet? value
    | "sc" | "script" => scriptSet? value
    | "scx" | "scriptextensions" => tableSet? scriptExtensionTables value
    | "age" => ageSet? value
    | "gcb" | "graphemeclusterbreak" => tableSet? graphemeBreakTables value
    | "wb" | "wordbreak" => tableSet? wordBreakTables value
    | "sb" | "sentencebreak" => tableSet? sentenceBreakTables value
    | _ => none
  match found with
  | some s => .ok s
  | none => .error .propertyUnknown

end SourceAudit.Regex
