import Cadence.Pattern.Letters

/-!
Names of properties of characters.  Case, blanks, hyphens and underscores count for
nothing in them, nor does `is` in front.
-/

namespace Cadence.Pattern.Property

/-- What counts in a name. -/
def normalized (name : String) : String :=
  let text := name.toList
  let hasIs :=
    match text with
    | a :: b :: _ => a.toLower == 'i' && b.toLower == 's'
    | _ => false
  let kept := ((if hasIs then text.drop 2 else text).filter fun c =>
    c.toNat < 128 && c != ' ' && c != '_' && c != '-').map Char.toLower
  if hasIs && kept == ['c'] then "isc" else String.ofList kept

/-- Names of general categories and of groups of them, and other names of both. -/
def groupNames : List (String × Char) :=
  [("c", 'C'), ("other", 'C'), ("l", 'L'), ("letter", 'L'), ("m", 'M'),
    ("mark", 'M'), ("combiningmark", 'M'), ("n", 'N'), ("number", 'N'),
    ("p", 'P'), ("punctuation", 'P'), ("punct", 'P'), ("s", 'S'), ("symbol", 'S'),
    ("z", 'Z'), ("separator", 'Z')]

def otherCategoryNames : List (String × Text.Category) :=
  [("cntrl", .control), ("digit", .decimalNumber)]

def category? (name : String) : Option Letters :=
  if name == "any" then some .all
  else if name == "assigned" then some (.complement (.category .unassigned))
  else if name == "ascii" then some (Letters.ofPosix "ascii")
  else if name == "lc" || name == "casedletter" then
    some (Letters.unionOf
      [.category .uppercaseLetter, .category .lowercaseLetter,
        .category .titlecaseLetter])
  else
    let named := Text.Category.all.find? fun kind =>
      kind != .surrogate &&
        (normalized kind.code == name || normalized kind.name == name)
    ((named <|> otherCategoryNames.lookup name).map Letters.category) <|>
      (groupNames.lookup name).map Letters.group

def otherScriptNames : List (String × String) :=
  [("qaac", "Copt"), ("qaai", "Zinh")]

def script? (name : String) : Option Letters :=
  let named := Text.scriptNames.find? fun (code, long) =>
    normalized code == name || normalized long == name
  ((named.map Prod.fst) <|> otherScriptNames.lookup name).map Letters.script

/-- The letters of a property that holds or does not hold. -/
def plain? (name : String) : Option Letters :=
  if name == "alphabetic" || name == "alpha" then some .alphabetic
  else if name == "uppercase" || name == "upper" then some .uppercase
  else if name == "lowercase" || name == "lower" then some .lowercase
  else if name == "whitespace" || name == "wspace" || name == "space" then
    some .blank
  else if name == "asciihexdigit" || name == "ahex" then
    some (Letters.ofPosix "xdigit")
  else none

/-- The letters that a name stands for, or why it stands for none. -/
def letters (name : PropertyName) : Except Cause Letters :=
  match name with
  | .plain name =>
      let name := normalized name
      match plain? name <|> category? name <|> script? name with
      | some letters => .ok letters
      | none => .error .propertyNotFound
  | .valued name _ value =>
      let name := normalized name
      let value := normalized value
      let found :=
        if name == "generalcategory" || name == "gc" then some (category? value)
        else if name == "script" || name == "sc" then some (script? value)
        else none
      match found with
      | none => .error .propertyNotFound
      | some none => .error .propertyValueNotFound
      | some (some letters) => .ok letters

end Cadence.Pattern.Property
