import CodeDigest.Json.Record
import CodeDigest.Source
import CodeDigest.Text.Pieces

/-!
# Components

A component is a class with an architectural role.  `Role.ofClass?` gives a class at most one role:
the conditions of the roles are tried in the order of `Role.all`, and the first that holds decides.
A `ComponentMap` lists the names of the classes of each role; `ComponentMap.ofFiles` enters each
name once, where the first declaration of that name with a role stands.
-/

namespace CodeDigest

/-- The architectural roles. -/
inductive Role where
  | controllers
  | services
  | repositories
  | entities
  | configurations
deriving Repr, DecidableEq

namespace Role

/-- Every role, in order of precedence. -/
def all : List Role := [controllers, services, repositories, entities, configurations]

theorem mem_all (r : Role) : r ∈ all := by cases r <;> decide

/-- The name of a role. -/
def name : Role → String
  | controllers => "controllers"
  | services => "services"
  | repositories => "repositories"
  | entities => "entities"
  | configurations => "configurations"

/-- The role with a given name. -/
def ofName? (text : String) : Option Role := all.find? (·.name == text)

theorem ofName?_name (r : Role) : ofName? r.name = some r := by cases r <;> decide

/-- Whether the methods of classes in this role are worth reporting. -/
def hasKeyMethods : Role → Bool
  | controllers | services => true
  | _ => false

/-- Whether a class, in its file, meets the condition of a role. -/
def Fits (file : SourceFile) (c : SourceClass) : Role → Bool
  | controllers => occursIn "Controller" c.name || c.hasAnnotation "Controller"
  | services => occursIn "Service" c.name || c.hasAnnotation "Service"
  | repositories => occursIn "Repository" c.name || c.hasAnnotation "Repository"
  | entities => c.hasAnnotation "Entity" || file.package.any (occursIn "entities")
  | configurations => c.hasAnnotation "Configuration" || occursIn "Config" c.name

/-- The role of a class in a file, if it has one. -/
def ofClass? (file : SourceFile) (c : SourceClass) : Option Role := all.find? (Fits file c)

/-- A class meets the condition of its role. -/
theorem fits_of_ofClass? {file : SourceFile} {c : SourceClass} {r : Role}
    (h : ofClass? file c = some r) : Fits file c r = true := List.find?_some h

/-- Reads a role: its name, alone or as the key of an object that holds nothing else. -/
def ofJson? : Json → Option Role
  | .string text => ofName? text
  | .object [(text, .null)] => ofName? text
  | _ => none

end Role

/-- The names of the classes of each role. -/
structure ComponentMap where
  controllers : List String
  services : List String
  repositories : List String
  entities : List String
  configurations : List String
deriving Repr, DecidableEq

namespace ComponentMap

/-- No class has a role. -/
def empty : ComponentMap := ⟨[], [], [], [], []⟩

/-- The names of one role. -/
def get (m : ComponentMap) : Role → List String
  | .controllers => m.controllers
  | .services => m.services
  | .repositories => m.repositories
  | .entities => m.entities
  | .configurations => m.configurations

/-- Adds a name at the end of a role's list. -/
def add (m : ComponentMap) (role : Role) (name : String) : ComponentMap :=
  match role with
  | .controllers => { m with controllers := m.controllers ++ [name] }
  | .services => { m with services := m.services ++ [name] }
  | .repositories => { m with repositories := m.repositories ++ [name] }
  | .entities => { m with entities := m.entities ++ [name] }
  | .configurations => { m with configurations := m.configurations ++ [name] }

@[simp] theorem get_empty (role : Role) : empty.get role = [] := by cases role <;> rfl

/-- Adding a name changes the list of its role only. -/
@[simp] theorem get_add (m : ComponentMap) (role other : Role) (name : String) :
    (m.add role name).get other = if other = role then m.get other ++ [name] else m.get other := by
  cases role <;> cases other <;> rfl

/-- The number of names in a role. -/
def count (m : ComponentMap) (role : Role) : Nat := (m.get role).length

/-- The roles with their names. -/
def rows (m : ComponentMap) : List (Role × List String) := Role.all.map fun r => (r, m.get r)

/-- The number of names in all roles. -/
def total (m : ComponentMap) : Nat := sumOf (Role.all.map m.count)

@[simp] theorem total_empty : empty.total = 0 := rfl

@[simp] theorem total_add (m : ComponentMap) (role : Role) (name : String) :
    (m.add role name).total = m.total + 1 := by
  cases role <;> simp [total, count, Role.all, get_add] <;> omega

/-- Whether a name has a role. -/
def has (m : ComponentMap) (name : String) : Bool := m.rows.any (·.2.contains name)

/-- The role of a name; if a name has several, the last in the order of the roles holds. -/
def roleOf? (m : ComponentMap) (name : String) : Option Role :=
  Role.all.reverse.find? fun role => (m.get role).contains name

/-- Enters a class, unless its name is entered already. -/
def addClass (file : SourceFile) (m : ComponentMap) (c : SourceClass) : ComponentMap :=
  if m.has c.name then m
  else
    match Role.ofClass? file c with
    | some role => m.add role c.name
    | none => m

/-- Enters the classes of a file. -/
def addFile (m : ComponentMap) (file : SourceFile) : ComponentMap :=
  file.classes.foldl (addClass file) m

/-- The components of a code base. -/
def ofFiles (files : List SourceFile) : ComponentMap := files.foldl addFile empty

/-- The map as JSON. -/
def toJson (m : ComponentMap) : Json :=
  .object (m.rows.map fun (role, names) => (role.name, .strings names))

open Json in
/-- Reads a map; a role that is missing has no names. -/
def ofJson? : Json → Option ComponentMap :=
  readRecord do
    let controllers ← fieldOr "controllers" readStrings []
    let services ← fieldOr "services" readStrings []
    let repositories ← fieldOr "repositories" readStrings []
    let entities ← fieldOr "entities" readStrings []
    let configurations ← fieldOr "configurations" readStrings []
    return ⟨controllers, services, repositories, entities, configurations⟩

end ComponentMap

end CodeDigest
