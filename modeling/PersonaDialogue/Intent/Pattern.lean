import PersonaDialogue.Pattern.Basic

/-!
# The patterns of the rules

Patterns are matched against the message in lower case.  Those of the two age rules, of the two
relative rules and of the general rule look anywhere in the message; all others have to match from its
first word, after an optional `please`, to its end.
-/

namespace PersonaDialogue.Intent

open Pattern

/-- A number of one to three digits as group `index`. -/
def ageNumber (index : Nat) : Pattern := group index (upTo 3 .digit)

/-- An imperative about an age, and later two numbers. -/
def ageRange : Pattern :=
  boundary ++ anyWord ["should use", "use", "change", "update", "set"] ++ boundary ++
    few .notNewline ++ boundary ++ word "age" ++ optional (word "s") ++ boundary ++
    few .nonDigit ++ ageNumber 1 ++ space ++
    oneOf [word "-", word "to" ++ char .blank, char .blank] ++ space ++ ageNumber 2 ++ boundary

/-- A statement of one age. -/
def singleAge : Pattern :=
  boundary ++ word "age" ++ boundary ++ space ++ anyWord ["should be", "is", "to", "="] ++ space ++
    optional (oneOf [word "around" ++ gap, word "about" ++ gap]) ++ ageNumber 1 ++ boundary

/-- A wish to make somebody younger or older. -/
def relativeAge (comparative : String) : Pattern :=
  boundary ++ anyWord ["make", "change"] ++ gap ++
    anyWord ["them", "him", "her", "the persona", "persona", "the user"] ++ gap ++
    word comparative ++ boundary

/-- The beginning of the message, and a `please`. -/
def leading : Pattern := start ++ optional (word "please" ++ gap)

/-- Everything up to the end of the message, which may not contain a line break, as group `index`. -/
def remainder (index : Nat) : Pattern := group index (atLeastOne .notNewline) ++ stop

/-- The name of a trait of a persona, and what to set it to. -/
def personaTrait : Pattern :=
  leading ++ anyWord ["change", "update", "set", "rename"] ++ gap ++ optional (word "the" ++ gap) ++
    optional (group 1 (anyWord ["primary", "secondary"]) ++ gap) ++
    optional (word "persona" ++ optional (word "'s") ++ gap) ++
    group 2 (anyWord ["name", "role", "goal", "occupation", "job"]) ++
    oneOf [gap ++ anyWord ["to", "as", "into"] ++ gap, space ++ char (.among [':', '=']) ++ space] ++
    remainder 3

/-- What stands between the name of a collection and the text: a colon or white space. -/
def separator : Pattern := oneOf [space ++ word ":" ++ space, gap]

/-- An optional article, and `new`. -/
def article : Pattern :=
  optional (word "a" ++ optional (word "n") ++ gap) ++ optional (word "new" ++ gap)

def adding (collection : Pattern) : Pattern :=
  leading ++ word "add" ++ gap ++ article ++ collection ++ separator ++ remainder 1

/-- A removal from a collection; `lead` may stand before the text. -/
def removing (collection lead : Pattern) : Pattern :=
  leading ++ anyWord ["remove", "delete", "drop"] ++ gap ++ optional (word "the" ++ gap) ++
    collection ++ separator ++ lead ++ remainder 1

def hyphen : Pattern := char (.among ['-'])

/-- One white-space character or a hyphen. -/
def joint : Pattern := oneOf [char .blank, hyphen]

def painPoints : Pattern := word "pain" ++ optional joint ++ word "point" ++ optional (word "s")

/-- The words that may introduce the text of a removed pain point. -/
def painPointLead : Pattern :=
  optional (oneOf [word "about" ++ gap, word "containing" ++ gap, word "matching" ++ gap])

def jobs : Pattern :=
  oneOf [word "jtbd", word "job" ++ optional (word "s") ++ joint ++ word "to" ++ joint ++ word "be" ++
    joint ++ word "done"]

/-- The behaviors, in either spelling. -/
def behaviors : Pattern := word "behavio" ++ optional (word "u") ++ word "r" ++ optional (word "s")

def stages : Pattern := word "journey" ++ gap ++ word "stage" ++ optional (word "s")

/-- The persona, as a word of its own. -/
def personas : Pattern := boundary ++ word "persona" ++ optional (word "s") ++ boundary

def displeasure : Pattern :=
  oneOf [word "don" ++ optional (word "'") ++ word "t like", word "do not like", word "dislike",
    word "hate", word "not happy with", word "unhappy with", word "not satisfied with",
    word "change", word "fix", word "improve", word "update", word "adjust", word "tweak"]

def fault : Pattern :=
  oneOf [word "is wrong", word "isn" ++ optional (word "'") ++ word "t right", word "is not right",
    word "doesn" ++ optional (word "'") ++ word "t fit", word "does not fit", word "feels off",
    word "need" ++ optional (word "s") ++ word " to change", word "should change"]

/-- Displeasure with a persona, or a persona at fault. -/
def general : Pattern :=
  oneOf [boundary ++ displeasure ++ boundary ++ many .notNewline ++ personas,
    personas ++ many .notNewline ++ boundary ++ fault ++ boundary]

/-- Two numbers that a hyphen or `to` connects, anywhere. -/
def embeddedRange : Pattern :=
  boundary ++ ageNumber 1 ++ space ++ anyWord ["-", "to"] ++ space ++ ageNumber 2 ++ boundary

end PersonaDialogue.Intent
