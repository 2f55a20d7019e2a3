import StateNest.Unicode.Age
import StateNest.Unicode.ScriptExtensions
import StateNest.Unicode.Segmentation

/-!
# Sets of characters by name

A name is compared loosely: case, blanks, underscores, hyphens and a leading
`is` make no difference. A single name is looked for among the properties
first, then among the general categories and last among the scripts. A pair
of names gives a property with several values and one of its values.
-/

set_option autoImplicit false

namespace StateNest
namespace Lookup

/-- The symbols of a name that count when names are compared. -/
def significant (name : List Char) : List Char :=
  (name.filter fun symbol =>
    symbol ≠ ' ' && symbol ≠ '_' && symbol ≠ '-' && symbol.toNat < 0x80).map Char.toLower

/-- The form in which names are compared. The abbreviation `isc` of a property is kept apart
from `c`, which names a category. -/
def key (name : List Char) : List Char :=
  match name with
  | 'i' :: 's' :: rest | 'I' :: 's' :: rest | 'i' :: 'S' :: rest | 'I' :: 'S' :: rest =>
    if significant rest = ['c'] then ['i', 's', 'c'] else significant rest
  | _ => significant name

def sameName (name : List Char) (known : String) : Bool :=
  name == significant known.toList

/-- The entry whose names include the given one, which is already a `key`. -/
def find? {α : Type} (name : List Char) (entries : List (List String × α)) : Option α :=
  (entries.find? fun entry => entry.1.any (sameName name)).map Prod.snd

def category? (name : List Char) : Option CodePointSet :=
  if sameName name "Any" then some .all
  else if sameName name "Assigned" then some Category.unassignedPoints.complement
  else if sameName name "ASCII" then some .ascii
  else (find? name Category.named).map Category.union

def scriptNamed? (name : List Char) : Option Script :=
  find? name (Script.all.map fun script => (script.code :: script.names, script))

def script? (name : List Char) : Option CodePointSet :=
  (scriptNamed? name).map Script.points

def extendedScript? (name : List Char) : Option CodePointSet :=
  (scriptNamed? name).map Script.extendedPoints

/-- The points assigned up to the version of the given name, from the versions in order. -/
def upTo? (name : List Char) :
    CodePointSet → List (String × CodePointSet) → Option CodePointSet
  | _, [] => none
  | before, (version, added) :: later =>
    if (Age.names version).any (sameName name) then some (before ++ added)
    else upTo? name (before ++ added) later

def age? (name : List Char) : Option CodePointSet := upTo? name .empty Age.versions

/-- The set that a single name stands for. -/
def single? (name : List Char) : Option CodePointSet :=
  (find? (key name) Property.named).or ((category? (key name)).or (script? (key name)))

/-- The set of the characters whose property of the first name has the value of the second. -/
def valued? (property value : List Char) : Option CodePointSet :=
  let readers : List (List String × (List Char → Option CodePointSet)) :=
    [(["gc", "General_Category"], category?),
     (["sc", "Script"], script?),
     (["scx", "Script_Extensions"], extendedScript?),
     (["age"], age?),
     (["GCB", "Grapheme_Cluster_Break"], (find? · Segmentation.clusters)),
     (["WB", "Word_Break"], (find? · Segmentation.words)),
     (["SB", "Sentence_Break"], (find? · Segmentation.sentences))]
  (find? (key property) readers).bind fun read => read (key value)

end Lookup
end StateNest
