import Steering.Text.CodeSet
import Steering.Text.Property.Age
import Steering.Text.Property.Binary
import Steering.Text.Property.Break
import Steering.Text.Property.Category
import Steering.Text.Property.Script

/-!
# Properties of characters by name

Finds the set of characters that a property name means, or a property name with a value. Names
are compared without regard to case, blanks, hyphens and underscores, and without `is` in front.
-/

namespace Steering.Text.Property

/-- A name as it is compared. -/
def normalName (name : String) : String :=
  let cs := name.toList
  let hasIs := match cs with
    | a :: b :: _ => (a == 'i' || a == 'I') && (b == 's' || b == 'S')
    | _ => false
  let kept := (if hasIs then cs.drop 2 else cs).filter fun c =>
    c != ' ' && c != '_' && c != '-' && c.toNat < 128
  let normal := String.ofList (kept.map Char.toLower)
  if hasIs && normal == "c" then "isc" else normal

/-- The set in a table under a name. -/
def lookup? (table : List (List String × List String)) (name : String) : Option CodeSet :=
  (table.find? fun entry => entry.1.contains name).map fun entry => .ofLines entry.2

/-- The characters of several general categories. -/
def categoriesOf (names : List String) : CodeSet :=
  (names.filterMap (lookup? categories)).foldl CodeSet.union .empty

/-- The characters that are assigned, and those kept for private use. -/
def assigned : CodeSet := categoriesOf (categories.filterMap fun entry => entry.1.head?)

/-- Categories that are made of others. -/
def categoryGroups : List (List String × List String) := [
  (["l", "letter"], ["lu", "ll", "lt", "lm", "lo"]),
  (["lc", "casedletter"], ["lu", "ll", "lt"]),
  (["m", "mark", "combiningmark"], ["mn", "mc", "me"]),
  (["n", "number"], ["nd", "nl", "no"]),
  (["p", "punctuation", "punct"], ["pc", "pd", "ps", "pe", "pi", "pf", "po"]),
  (["s", "symbol"], ["sm", "sc", "sk", "so"]),
  (["z", "separator"], ["zs", "zl", "zp"])]

/-- The characters of a general category. -/
def category? (name : String) : Option CodeSet :=
  match name with
  | "any" => some .all
  | "ascii" => some ⟨#[(0, 127)]⟩
  | "assigned" => some assigned
  | "cn" | "unassigned" => some (assigned.complement.diff ⟨#[(0xD800, 0xDFFF)]⟩)
  | "c" | "other" =>
    some ((assigned.complement.diff ⟨#[(0xD800, 0xDFFF)]⟩).union (categoriesOf ["cc", "cf", "co"]))
  | _ =>
    match categoryGroups.find? fun group => group.1.contains name with
    | some group => some (categoriesOf group.2)
    | none => lookup? categories name

def script? (name : String) : Option CodeSet := lookup? scripts name

/-- The characters that are used with a script, whether or not with others as well. -/
def scriptExtension? (name : String) : Option CodeSet :=
  match lookup? scriptExtensions name with
  | some set => some set
  | none => script? name

/-- The characters that a version has, those of earlier versions among them. -/
def age? (name : String) : Option CodeSet :=
  match ages.findIdx? fun entry => entry.1.contains name with
  | some i =>
    let sets := (ages.take (i + 1)).map fun entry => CodeSet.ofLines entry.2
    some (sets.foldl CodeSet.union .empty)
  | none => none

/-- Names of properties that are neither binary nor stand for themselves; no category or script
of the same name can be meant by them. -/
def otherNames : List String :=
  ["age", "bc", "bidiclass", "blk", "block", "bmg", "bidimirroringglyph", "bpb", "bpt", "ccc",
    "canonicalcombiningclass", "casefolding", "dm", "dt", "ea", "gc", "gcb", "generalcategory",
    "graphemeclusterbreak", "hst", "incb", "inpc", "insc", "isc", "jg", "joininggroup",
    "joiningtype", "jt", "lb", "linebreak", "lowercasemapping", "na", "na1", "name", "nt",
    "numerictype", "numericvalue", "nv", "sb", "scf", "script", "scriptextensions", "scx",
    "sentencebreak", "slc", "stc", "suc", "tc", "titlecasemapping", "uc", "uppercasemapping",
    "vo", "wb", "wordbreak"]

/-- The characters that a name alone means: of a binary property, a category or a script. -/
def named? (name : String) : Option CodeSet :=
  let name := normalName name
  match lookup? binaries name with
  | some set => some set
  | none =>
    if otherNames.contains name then none
    else
      match category? name with
      | some set => some set
      | none => script? name

/-- The characters for which a property has a value. -/
def valued? (property value : String) : Option CodeSet :=
  let value := normalName value
  match normalName property with
  | "gc" | "generalcategory" => category? value
  | "sc" | "script" => script? value
  | "scx" | "scriptextensions" => scriptExtension? value
  | "age" => age? value
  | "gcb" | "graphemeclusterbreak" => lookup? graphemeBreaks value
  | "wb" | "wordbreak" => lookup? wordBreaks value
  | "sb" | "sentencebreak" => lookup? sentenceBreaks value
  | _ => none

end Steering.Text.Property
