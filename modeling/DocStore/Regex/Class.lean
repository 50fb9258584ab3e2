import DocStore.Regex.Age
import DocStore.Regex.Boundary
/-!
# Named character classes

The classes of words, digits and white space, the bracketed ASCII classes, and the classes of
Unicode properties by name. Names are compared in a normal form (`Class.normalName`), in which case,
spaces, hyphens and underscores do not matter.

`Class.named?` finds the class of one name, and `Class.valued?` that of a property and its value.
-/

namespace DocStore.Regex

namespace Class

open Rule

def decimalDigit : CharSet := (categories ["nd"]).charSet

def space : CharSet := Property.whiteSpace.charSet

def alphabetic : CharSet := Property.alphabetic.charSet

/-- Letters and digits of any kind. -/
def alphanumeric : CharSet := alphabetic.union (categories ["nd", "nl", "no"]).charSet

/-- Letters, marks, decimal digits, connectors and joiners. -/
def word : CharSet :=
  (Property.alphabetic ++ categories ["mn", "mc", "me", "nd", "pc"] ++ Property.joinControl).charSet

def asciiDigit : CharSet := CharSet.ofTable ["30-39"]

def asciiSpace : CharSet := CharSet.ofTable ["9-d 20"]

def asciiWord : CharSet := CharSet.ofTable ["30-39 41-5a 5f 61-7a"]

/-- The class of a name between `[:` and `:]`. -/
def bracketed? (name : String) : Option CharSet :=
  match name with
  | "alnum" => some (CharSet.ofTable ["30-39 41-5a 61-7a"])
  | "alpha" => some (CharSet.ofTable ["41-5a 61-7a"])
  | "ascii" => some (CharSet.ofTable ["0-7f"])
  | "blank" => some (CharSet.ofTable ["9 20"])
  | "cntrl" => some (CharSet.ofTable ["0-1f 7f"])
  | "digit" => some asciiDigit
  | "graph" => some (CharSet.ofTable ["21-7e"])
  | "lower" => some (CharSet.ofTable ["61-7a"])
  | "print" => some (CharSet.ofTable ["20-7e"])
  | "punct" => some (CharSet.ofTable ["21-2f 3a-40 5b-60 7b-7e"])
  | "space" => some asciiSpace
  | "upper" => some (CharSet.ofTable ["41-5a"])
  | "word" => some asciiWord
  | "xdigit" => some (CharSet.ofTable ["30-39 41-46 61-66"])
  | _ => none

/-! ## Names -/

/-- ASCII characters in lower case, without spaces, underscores and hyphens. -/
def plainName (cs : List Char) : List Char :=
  (cs.filter fun c => c.toNat < 128 && c != ' ' && c != '_' && c != '-').map Char.toLower

/-- The normal form of a name. The letters `is` at its very beginning do not count, but with a `c`
alone they are the name of a property. -/
def normalName (name : String) : String :=
  match name.toList with
  | a :: b :: rest =>
    if a.toLower = 'i' && b.toLower = 's' then
      match plainName rest with
      | ['c'] => "isc"
      | cs => String.ofList cs
    else String.ofList (plainName (a :: b :: rest))
  | cs => String.ofList (plainName cs)

/-- General categories, alone and together. The surrogates count among the other characters. -/
def generalCategories : List Property :=
  [⟨["any"], table ["0-10ffff"]⟩, ⟨["ascii"], table ["0-7f"]⟩,
   ⟨["assigned"], complement Property.unassigned⟩, ⟨["cn", "unassigned"], Property.unassigned⟩,
   ⟨["c", "other"],
    categories ["cc", "cf", "co"] ++ table ["d800-dfff"] ++ Property.unassigned⟩,
   ⟨["l", "letter"], Property.letter⟩, ⟨["lc", "casedletter"], categories ["lu", "ll", "lt"]⟩,
   ⟨["m", "mark", "combiningmark"], categories ["mn", "mc", "me"]⟩,
   ⟨["n", "number"], categories ["nd", "nl", "no"]⟩,
   ⟨["p", "punctuation", "punct"], categories ["pc", "pd", "ps", "pe", "pi", "pf", "po"]⟩,
   ⟨["s", "symbol"], categories ["sm", "sc", "sk", "so"]⟩,
   ⟨["z", "separator"], categories ["zs", "zl", "zp"]⟩]
    ++ Category.all.map fun c => ⟨c.code :: c.aliases, table c.ranges⟩

def category? (name : String) : Option CharSet := Property.find? name generalCategories

def script? (name : String) : Option CharSet :=
  (Script.all.find? fun s => s.aliases.contains name).map fun s => CharSet.ofTable s.ranges

/-- The characters in use with a script: its own ones as far as they are not shared, and the shared
ones that it takes part in. -/
def scriptExtension? (name : String) : Option CharSet :=
  (Script.all.find? fun s => s.aliases.contains name).map fun s =>
    let sharedWith (chars : Script.SharedCharacters) : Bool :=
      (chars.scripts.splitOn " ").any s.aliases.contains
    let shared := CharSet.ofTable (Script.shared.flatMap Script.SharedCharacters.ranges)
    let taken := CharSet.ofTable ((Script.shared.filter sharedWith).flatMap
      Script.SharedCharacters.ranges)
    ((CharSet.ofTable s.ranges).diff shared).union taken

/-- The class of one name: a property of characters, a general category or a script. -/
def named? (name : String) : Option CharSet :=
  let norm := normalName name
  Property.find? norm Property.all <|> category? norm <|> script? norm

/-- The class of a property and its value. -/
def valued? (property value : String) : Option CharSet :=
  let value := normalName value
  match normalName property with
  | "generalcategory" | "gc" => category? value
  | "script" | "sc" => script? value
  | "scriptextensions" | "scx" => scriptExtension? value
  | "age" => Age.charSet? value
  | "graphemeclusterbreak" | "gcb" => Property.find? value Boundary.grapheme
  | "wordbreak" | "wb" => Property.find? value Boundary.word
  | "sentencebreak" | "sb" => Property.find? value Boundary.sentence
  | _ => none

end Class

end DocStore.Regex
