/-
# Repetition

A short text can stand for a long description when its aliases repeat nodes that
hold aliases themselves.  A text is refused when reading the description would
follow more than a hundred aliases for every mark the text is made of.  Aliases
in what is not read do not count.
-/

import ApiDoc.Spec.Decode
import ApiDoc.Yaml.Node

namespace ApiDoc.Yaml

namespace Part

/-- How many aliases are followed to read a single value: a text, a truth value,
or one of them that may be absent. -/
def aliasesHere (p : Part) : Nat :=
  match p.node with
  | .alias _ => 1
  | _ => 0

/-- How many aliases are followed to read a list, given how many for an
element. -/
def aliasesInList (element : Part → Nat) (p : Part) : Nat :=
  match p.target with
  | .sequence items => items.foldl (fun n item => n + element (p.other item)) p.aliasesHere
  | _ => p.aliasesHere

/-- How many aliases are followed to read a mapping, given how many for the value
of a key. -/
def aliasesInMapping (value : Part → Part → Nat) (p : Part) : Nat :=
  match p.target with
  | .mapping members =>
    members.foldl
      (fun n m => n + (p.other m.1).aliasesHere + value (p.other m.1) (p.other m.2))
      p.aliasesHere
  | _ => p.aliasesHere

/-- How many aliases are followed to read a mapping from names to texts. -/
def aliasesInTable : Part → Nat :=
  aliasesInMapping fun _ v => v.aliasesHere

/-- How many aliases are followed to read a record, given how many for each of its
fields. -/
def aliasesInRecord (shape : Shape) (fields : List (Part → Nat)) : Part → Nat :=
  aliasesInMapping fun key v =>
    match key.target.text? with
    | .ok name => (((shape.keys.zip fields).lookup name).map fun field => field v).getD 0
    | .error _ => 0

/-- How many aliases are followed to read a member. -/
def aliasesInMember : Part → Nat :=
  aliasesInRecord Member.shape
    [aliasesHere, aliasesHere, aliasesHere, aliasesHere, aliasesInList aliasesHere, aliasesHere]

/-- How many aliases are followed to read a struct. -/
def aliasesInStruct : Part → Nat :=
  aliasesInRecord StructType.shape
    [aliasesHere, aliasesInList aliasesInMember, aliasesInList aliasesHere]

/-- How many aliases are followed to read a route. -/
def aliasesInRoute : Part → Nat :=
  aliasesInRecord Route.shape
    [aliasesHere, aliasesHere, aliasesHere, aliasesHere, aliasesHere, aliasesInTable,
      aliasesInList aliasesHere]

/-- How many aliases are followed to read a service. -/
def aliasesInService : Part → Nat :=
  let group := aliasesInRecord Group.shape [aliasesInTable, aliasesInList aliasesInRoute]
  aliasesInRecord Service.shape [aliasesHere, aliasesInList group]

/-- How many aliases are followed to read a description. -/
def aliasesInSpec : Part → Nat :=
  aliasesInRecord Spec.shape
    [aliasesInTable, aliasesInService, aliasesInList aliasesInStruct]

/-- Whether reading a description would follow too many aliases. -/
def repeatsTooOften (p : Part) : Bool :=
  100 * p.node.marks < p.aliasesInSpec

end Part

end ApiDoc.Yaml
