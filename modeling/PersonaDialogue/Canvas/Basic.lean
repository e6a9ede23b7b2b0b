import PersonaDialogue.Canvas.Age
import PersonaDialogue.Uuid

/-!
# The canvas

A canvas describes two personas and four collections of elements: pain points, jobs to be done,
stages of the journey and behaviors.  It is a plain value; a command makes a new canvas out of an old
one.  Every element has an identifier that begins with the name of its collection.
-/

namespace PersonaDialogue

structure Demographics where
  ageRange : AgeRange
  location : String
  income : String
  education : String
deriving DecidableEq, Repr

structure Environment where
  devices : List String
  tools : List String
  context : String
deriving DecidableEq, Repr

structure Persona where
  name : String
  role : String
  age : UInt32
  occupation : String
  goal : String
  demographics : Demographics
  environment : Environment
deriving DecidableEq, Repr

/-- A text of a persona that commands may replace. -/
inductive Trait
  | name
  | role
  | goal
  | occupation
deriving DecidableEq, Repr

namespace Trait

def label : Trait → String
  | name => "name"
  | role => "role"
  | goal => "goal"
  | occupation => "occupation"

def table : List (String × Trait) :=
  [("name", name), ("role", role), ("goal", goal), ("occupation", occupation)]

/-- The trait that a word of a message asks for; `job` is another word for the occupation. -/
def ofWord? (word : String) : Option Trait := (table ++ [("job", occupation)]).lookup word

end Trait

/-- The two personas of a canvas. -/
inductive Rank
  | primary
  | secondary
deriving DecidableEq, Repr

def Rank.label : Rank → String
  | primary => "primary"
  | secondary => "secondary"

/-- How much a pain point matters. -/
inductive Priority
  | low
  | medium
  | high
deriving DecidableEq, Repr

namespace Priority

def label : Priority → String
  | low => "low"
  | medium => "medium"
  | high => "high"

def table : List (String × Priority) := [("low", low), ("medium", medium), ("high", high)]

end Priority

structure PainPoint where
  id : String
  description : String
  priority : Priority
deriving DecidableEq, Repr

structure Job where
  id : String
  statement : String
deriving DecidableEq, Repr

structure Stage where
  id : String
  name : String
  description : String
deriving DecidableEq, Repr

structure Behavior where
  id : String
  description : String
deriving DecidableEq, Repr

structure Canvas where
  primary : Persona
  secondary : Persona
  painPoints : List PainPoint
  jobs : List Job
  stages : List Stage
  behaviors : List Behavior
deriving DecidableEq, Repr

def Persona.trait (p : Persona) : Trait → String
  | .name => p.name
  | .role => p.role
  | .goal => p.goal
  | .occupation => p.occupation

def Persona.withTrait (p : Persona) (trait : Trait) (text : String) : Persona :=
  match trait with
  | .name => { p with name := text }
  | .role => { p with role := text }
  | .goal => { p with goal := text }
  | .occupation => { p with occupation := text }

def Canvas.persona (c : Canvas) : Rank → Persona
  | .primary => c.primary
  | .secondary => c.secondary

def Canvas.withPersona (c : Canvas) (rank : Rank) (p : Persona) : Canvas :=
  match rank with
  | .primary => { c with primary := p }
  | .secondary => { c with secondary := p }

/-- The four collections of elements. -/
inductive Shelf
  | painPoints
  | jobs
  | behaviors
  | stages
deriving DecidableEq, Repr

namespace Shelf

/-- How the identifiers of a collection begin. -/
def idStart : Shelf → String
  | painPoints => "pain"
  | jobs => "jtbd"
  | behaviors => "behavior"
  | stages => "stage"

/-- What a reply calls an element of the collection. -/
def label : Shelf → String
  | painPoints => "pain point"
  | jobs => "job to be done"
  | behaviors => "behavior"
  | stages => "journey stage"

def newId (s : Shelf) (u : Uuid) : String := s.idStart ++ "-" ++ u.plain

end Shelf

def Canvas.ids (c : Canvas) : Shelf → List String
  | .painPoints => c.painPoints.map PainPoint.id
  | .jobs => c.jobs.map Job.id
  | .behaviors => c.behaviors.map Behavior.id
  | .stages => c.stages.map Stage.id

end PersonaDialogue
