import PersonaDialogue.Canvas.Basic

/-!
# The default canvas

Every session begins with this canvas unless it is given another, and a reset goes back to it.  Its
eight elements get new identifiers each time.
-/

namespace PersonaDialogue

def Persona.defaultPrimary : Persona where
  name := "Alex Morgan"
  role := "Product Manager"
  age := 32
  occupation := "Product Manager at a mid-size SaaS company"
  goal := "Ship features customers actually use"
  demographics := ⟨⟨28, 38⟩, "Urban, North America", "$90k-$130k", "Bachelor's degree"⟩
  environment := ⟨["Laptop", "Smartphone"], ["Jira", "Slack", "Figma"],
    "Hybrid office, back-to-back meetings"⟩

def Persona.defaultSecondary : Persona where
  name := "Jordan Lee"
  role := "Engineering Lead"
  age := 38
  occupation := "Engineering Lead"
  goal := "Keep delivery predictable without burning out the team"
  demographics := ⟨⟨33, 45⟩, "Remote", "$120k-$170k", "Master's degree"⟩
  environment := ⟨["Laptop"], ["GitHub", "Slack"], "Fully remote team across time zones"⟩

/-- The number of elements of the default canvas. -/
def Canvas.defaultSize : Nat := 8

/-- The default canvas, its elements named by the identifiers `fresh 0` to `fresh 7`. -/
def Canvas.default (fresh : Nat → Uuid) : Canvas where
  primary := .defaultPrimary
  secondary := .defaultSecondary
  painPoints := [
    ⟨Shelf.painPoints.newId (fresh 0), "Juggling too many disconnected tools", .high⟩,
    ⟨Shelf.painPoints.newId (fresh 1), "Hard to share progress with stakeholders", .medium⟩]
  jobs := [⟨Shelf.jobs.newId (fresh 2), "Keep the team aligned on what ships next"⟩]
  stages := [
    ⟨Shelf.stages.newId (fresh 3), "Discover", ""⟩,
    ⟨Shelf.stages.newId (fresh 4), "Evaluate", ""⟩,
    ⟨Shelf.stages.newId (fresh 5), "Adopt", ""⟩,
    ⟨Shelf.stages.newId (fresh 6), "Expand", ""⟩]
  behaviors := [⟨Shelf.behaviors.newId (fresh 7), "Checks the roadmap every Monday morning"⟩]

end PersonaDialogue
