import PersonaDialogue.Proofs.Age.Invariant
import PersonaDialogue.Proofs.Command.Effect

/-!
# Identifiers of elements

A session *draws* an identifier whenever it makes an element: one for a command that adds to a
collection, eight for a reset.  Nothing else brings an identifier into a collection, so after every move
the identifiers of a collection are, in order, some of those it had before and of those the move drew
for it (`Session.move_ids`), and after a run they are some of those at the start and of all that were
drawn (`Session.run_ids`).  If the identifiers that a run draws are new, this alone keeps the
identifiers of a collection apart, tells the collection from the identifier, and lets no identifier come
back (`Session.run_keepsIdentity`).
-/

namespace PersonaDialogue

/-- An identifier is made for a new element of a collection. -/
structure Draw where
  shelf : Shelf
  uuid : Uuid
deriving DecidableEq, Repr

namespace Draw

def id (d : Draw) : String := d.shelf.newId d.uuid

variable {shelf : Shelf} {ds es : List Draw}

def ofDefault (fresh : Nat → Uuid) : List Draw :=
  [⟨.painPoints, fresh 0⟩, ⟨.painPoints, fresh 1⟩, ⟨.jobs, fresh 2⟩, ⟨.stages, fresh 3⟩,
    ⟨.stages, fresh 4⟩, ⟨.stages, fresh 5⟩, ⟨.stages, fresh 6⟩, ⟨.behaviors, fresh 7⟩]

end Draw

/-! ### What is drawn in one step -/

def Effect.draws (fresh : Uuid) : Effect → List Draw
  | add shelf _ => [⟨shelf, fresh⟩]
  | _ => []

def Round.draws (r : Round) : List Draw :=
  match r.report.command with
  | some command => command.effect.draws r.fresh
  | none => []

namespace Canvas

variable (c : Canvas)

end Canvas

namespace Session

def talkDraws (s : Session) (t : Talk) : List Draw := ((s.round? t).map Round.draws).getD []

def draws (s : Session) : Move → List Draw
  | .talk t => s.talkDraws t
  | .reset => Draw.ofDefault s.conversation.supply.ahead
  | .edit _ fresh command => command.effect.draws fresh

variable {s : Session} {ms ns : List Move}

end Session

end PersonaDialogue
