import PersonaDialogue.Canvas.Basic
import PersonaDialogue.Digest
import PersonaDialogue.Json.Record

/-!
# The canvas as a document

A canvas is written as an object whose members stand in a fixed order, and read from an object or from
the array of its parts.  Collections, the lists of an environment and the description of a stage may be
left out.  The fingerprint of a canvas is the hash of its compact text.
-/

namespace PersonaDialogue

open Json

def wordJson (n : UInt32) : Value := .ofNat n.toNat

namespace AgeRange

def toJson (r : AgeRange) : Value := .object [("min", wordJson r.min), ("max", wordJson r.max)]

def fields : Fields (UInt32 × UInt32 × Unit) :=
  .field "min" decodeWord .required <| .field "max" decodeWord .required .nil

/-- Reads a range; the bounds may be in any order. -/
def decode : Decoder AgeRange := fun depth v => do
  let (min, max, ()) ← fields.decode "struct AgeRange" depth v
  return ⟨min, max⟩

end AgeRange

def textsJson (texts : List String) : Value := .array (texts.map .text)

namespace Demographics

def toJson (d : Demographics) : Value :=
  .object [("age_range", d.ageRange.toJson), ("location", .text d.location),
    ("income", .text d.income), ("education", .text d.education)]

def fields : Fields (AgeRange × String × String × String × Unit) :=
  .field "age_range" AgeRange.decode .required <| .field "location" decodeText .required <|
  .field "income" decodeText .required <| .field "education" decodeText .required .nil

def decode : Decoder Demographics := fun depth v => do
  let (ageRange, location, income, education, ()) ← fields.decode "struct Demographics" depth v
  return ⟨ageRange, location, income, education⟩

end Demographics

namespace Environment

def toJson (e : Environment) : Value :=
  .object [("devices", textsJson e.devices), ("tools", textsJson e.tools),
    ("context", .text e.context)]

def fields : Fields (List String × List String × String × Unit) :=
  .field "devices" (decodeList decodeText) (.anywhere []) <|
  .field "tools" (decodeList decodeText) (.anywhere []) <|
  .field "context" decodeText .required .nil

def decode : Decoder Environment := fun depth v => do
  let (devices, tools, context, ()) ← fields.decode "struct Environment" depth v
  return ⟨devices, tools, context⟩

end Environment

namespace Persona

def toJson (p : Persona) : Value :=
  .object [("name", .text p.name), ("role", .text p.role), ("age", wordJson p.age),
    ("occupation", .text p.occupation), ("goal", .text p.goal),
    ("demographics", p.demographics.toJson), ("environment", p.environment.toJson)]

def fields :
    Fields (String × String × UInt32 × String × String × Demographics × Environment × Unit) :=
  .field "name" decodeText .required <| .field "role" decodeText .required <|
  .field "age" decodeWord .required <| .field "occupation" decodeText .required <|
  .field "goal" decodeText .required <|
  .field "demographics" Demographics.decode .required <|
  .field "environment" Environment.decode .required .nil

def decode : Decoder Persona := fun depth v => do
  let (name, role, age, occupation, goal, demographics, environment, ()) ←
    fields.decode "struct Persona" depth v
  return ⟨name, role, age, occupation, goal, demographics, environment⟩

end Persona

/-- Reads a priority by its name. -/
def Priority.decode : Decoder Priority := decodeVariant Priority.table

namespace PainPoint

def toJson (p : PainPoint) : Value :=
  .object [("id", .text p.id), ("description", .text p.description),
    ("priority", .text p.priority.label)]

def fields : Fields (String × String × Priority × Unit) :=
  .field "id" decodeText .required <| .field "description" decodeText .required <|
  .field "priority" Priority.decode .required .nil

def decode : Decoder PainPoint := fun depth v => do
  let (id, description, priority, ()) ← fields.decode "struct PainPoint" depth v
  return ⟨id, description, priority⟩

end PainPoint

namespace Job

def toJson (j : Job) : Value := .object [("id", .text j.id), ("statement", .text j.statement)]

def fields : Fields (String × String × Unit) :=
  .field "id" decodeText .required <| .field "statement" decodeText .required .nil

def decode : Decoder Job := fun depth v => do
  let (id, statement, ()) ← fields.decode "struct JobToBeDone" depth v
  return ⟨id, statement⟩

end Job

namespace Stage

def toJson (s : Stage) : Value :=
  .object [("id", .text s.id), ("name", .text s.name), ("description", .text s.description)]

def fields : Fields (String × String × String × Unit) :=
  .field "id" decodeText .required <| .field "name" decodeText .required <|
  .field "description" decodeText (.anywhere "") .nil

def decode : Decoder Stage := fun depth v => do
  let (id, name, description, ()) ← fields.decode "struct JourneyStage" depth v
  return ⟨id, name, description⟩

end Stage

namespace Behavior

def toJson (b : Behavior) : Value :=
  .object [("id", .text b.id), ("description", .text b.description)]

def fields : Fields (String × String × Unit) :=
  .field "id" decodeText .required <| .field "description" decodeText .required .nil

def decode : Decoder Behavior := fun depth v => do
  let (id, description, ()) ← fields.decode "struct Behavior" depth v
  return ⟨id, description⟩

end Behavior

namespace Canvas

def toJson (c : Canvas) : Value :=
  .object [("primary_persona", c.primary.toJson), ("secondary_persona", c.secondary.toJson),
    ("pain_points", .array (c.painPoints.map PainPoint.toJson)),
    ("jtbd", .array (c.jobs.map Job.toJson)),
    ("journey_stages", .array (c.stages.map Stage.toJson)),
    ("behaviors", .array (c.behaviors.map Behavior.toJson))]

def fields :
    Fields (Persona × Persona × List PainPoint × List Job × List Stage × List Behavior × Unit) :=
  .field "primary_persona" Persona.decode .required <|
  .field "secondary_persona" Persona.decode .required <|
  .field "pain_points" (decodeList PainPoint.decode) (.anywhere []) <|
  .field "jtbd" (decodeList Job.decode) (.anywhere []) <|
  .field "journey_stages" (decodeList Stage.decode) (.anywhere []) <|
  .field "behaviors" (decodeList Behavior.decode) (.anywhere []) .nil

def decode : Decoder Canvas := fun depth v => do
  let (primary, secondary, painPoints, jobs, stages, behaviors, ()) ←
    fields.decode "struct PersonaState" depth v
  return ⟨primary, secondary, painPoints, jobs, stages, behaviors⟩

def compact (c : Canvas) : String := c.toJson.compact

/-- The fingerprint of a canvas: the hash of its compact text. -/
def fingerprint (c : Canvas) : String := Digest.sha256 c.compact.toUTF8.toList

end Canvas

end PersonaDialogue
