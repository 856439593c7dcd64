import CodeDigest.Narration.Question

/-!
# Key methods

The business methods of controllers and services, in the order in which they are declared.  Each can
be given a description, for which the narrator is asked one method at a time in that order.
-/

namespace CodeDigest

/-- A method worth reporting. -/
structure KeyMethod where
  className : String
  methodName : String
  signature : String
  description : Option String
  annotations : List String
  role : Option Role
deriving Repr, DecidableEq

namespace KeyMethod

/-- A method of a class in a role, as yet without a description. -/
def ofMethod (role : Role) (c : SourceClass) (m : SourceMethod) : KeyMethod :=
  ⟨c.name, m.name, m.signature, none, m.annotations, some role⟩

/-- The key methods of a class. -/
def ofClass (components : ComponentMap) (c : SourceClass) : List KeyMethod :=
  match components.roleOf? c.name with
  | some role => if role.hasKeyMethods then c.businessMethods.map (ofMethod role c) else []
  | none => []

/-- The key methods of some files. -/
def ofFiles (components : ComponentMap) (files : List SourceFile) : List KeyMethod :=
  (files.flatMap (·.classes)).flatMap (ofClass components)

/-- The method with the description that a narrator gives. -/
def describe {σ : Type} (narrator : Narrator σ) (k : KeyMethod) : StateM σ KeyMethod := do
  let description ← narrator (.method k.signature k.className k.annotations)
  return { k with description := description }

/-- The methods with descriptions, asked for in order, if they are wanted. -/
def describeAll {σ : Type} (narrator : Narrator σ) (wanted : Bool) (ks : List KeyMethod) :
    StateM σ (List KeyMethod) :=
  if wanted then ks.mapM (describe narrator) else return ks

open Json

/-- A key method as JSON. -/
def toJson (k : KeyMethod) : Json :=
  .object
    [("class_name", .string k.className),
     ("method_name", .string k.methodName),
     ("signature", .string k.signature),
     ("description", stringOrNull k.description),
     ("annotations", strings k.annotations),
     ("component_type", stringOrNull (k.role.map Role.name))]

/-- Reads a key method. -/
def ofJson? : Json → Option KeyMethod :=
  readRecord do
    let className ← field "class_name" readString
    let methodName ← field "method_name" readString
    let signature ← field "signature" readString
    let description ← option "description" readString
    let annotations ← field "annotations" readStrings
    let role ← option "component_type" Role.ofJson?
    return ⟨className, methodName, signature, description, annotations, role⟩

end KeyMethod

end CodeDigest
