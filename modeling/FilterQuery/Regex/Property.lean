import FilterQuery.Regex.CharSet.Age
import FilterQuery.Regex.CharSet.Segmentation
import FilterQuery.Regex.Expression

/-!
# Looking up properties of characters

Names of properties are compared loosely: case, blanks, hyphens, low lines and an "is" in
front do not count. A name alone means a property that holds or does not, a general
category or a script; a value belongs to one of the properties that have values.
-/
namespace FilterQuery.Regex

/-- The letters of a name that count, in lower case. -/
def significant (name : List Char) : List Char :=
  (name.filter fun c => c.toNat < 0x80 && c != ' ' && c != '_' && c != '-').map Char.toLower

/-- The form in which names are compared. The short name of comments in the standard keeps
its "is", which would otherwise leave the short name of a category. -/
def comparable (name : List Char) : String :=
  match name with
  | i :: s :: rest =>
    if i.toLower = 'i' ∧ s.toLower = 's' then
      match significant rest with
      | ['c'] => "isc"
      | r => String.ofList r
    else String.ofList (significant name)
  | _ => String.ofList (significant name)

/-- The characters that have a property, if there is one of that name. -/
def Property.set? : Property → Option CharSet
  | named name =>
    let n := comparable name
    (NamedSet.lookup? binaryProperties n).or
      ((NamedSet.lookup? generalCategories n).or (NamedSet.lookup? scripts n))
  | valued name value =>
    let v := comparable value
    match comparable name with
    | "gc" | "generalcategory" => NamedSet.lookup? generalCategories v
    | "sc" | "script" => NamedSet.lookup? scripts v
    | "scx" | "scriptextensions" =>
      (scripts.find? fun s => s.names.contains v).map NamedSet.extended
    | "age" => NamedSet.lookup? ages v
    | "gcb" | "graphemeclusterbreak" => NamedSet.lookup? graphemeBreaks v
    | "sb" | "sentencebreak" => NamedSet.lookup? sentenceBreaks v
    | "wb" | "wordbreak" => NamedSet.lookup? wordBreaks v
    | _ => none

end FilterQuery.Regex
