import Syllabary.Rule.Basic

/-!
# Operations given as cases

An operation can be written down as data: a list of cases, each with tests on the occurrence and a
reaction to it. The first case whose tests all hold decides, and without one the rule is rejected.

No rule of the library is made this way. The phonetic rules state their operations as functions, and
every result about operations is about all functions. The notation is for a program that takes
operations of its own as data, such as one that runs recorded tests.
-/

namespace Syllabary

/-- A part of the surroundings of an occurrence. -/
inductive Surrounding where
  | trigger
  | following
  | lastInput
  | lastOutput
deriving DecidableEq

/-- The text of a part of the surroundings. -/
def Surrounding.text (occurrence : Occurrence) : Surrounding → Text
  | trigger => occurrence.trigger
  | following => occurrence.following
  | lastInput => occurrence.lastInput
  | lastOutput => occurrence.lastOutput

/-- A piece of an output. -/
inductive Piece where
  | text (t : Text)
  | surrounding (part : Surrounding)
  /-- The output of the rule for a key, or a question mark if there is none. -/
  | outputOf (key : Text)
deriving DecidableEq

/-- The text of a piece. -/
def Piece.eval (occurrence : Occurrence) : Piece → Text
  | text t => t
  | surrounding part => part.text occurrence
  | outputOf key =>
    ((occurrence.rules.lookup? key).bind fun rule => rule.declaration.output?).getD ['?']

/-- The text of pieces one after another. -/
def Piece.evalAll (occurrence : Occurrence) (pieces : List Piece) : Text :=
  pieces.flatMap (eval occurrence)

/-- A test on an occurrence. -/
inductive Test where
  /-- The part is this text. -/
  | equals (part : Surrounding) (t : Text)
  /-- The text that follows starts with this one. -/
  | followedBy (t : Text)
  /-- There is a rule for the key. -/
  | hasRule (key : Text)
deriving DecidableEq

/-- Whether a test holds. -/
def Test.holds (occurrence : Occurrence) : Test → Bool
  | equals part t => part.text occurrence == t
  | followedBy t => t.isPrefixOf occurrence.following
  | hasRule key => (occurrence.rules.lookup? key).isSome

/-- What is done with an occurrence. -/
inductive Reaction where
  | reject
  /-- Accepts it. Without an output the declared one is written, without a length the trigger is
  taken. -/
  | accept (output? : Option (List Piece)) (length? : Option Nat)
    (lastOutput? : Option (List Piece))
deriving DecidableEq

/-- The outcome of a reaction. -/
def Reaction.outcome (occurrence : Occurrence) : Reaction → Outcome
  | reject => .reject
  | accept output? length? lastOutput? =>
    let length := length?.getD occurrence.trigger.length
    let outcome : Outcome :=
      match output? with
      | some pieces => .emit (Piece.evalAll occurrence pieces) length
      | none => .declared length
    match lastOutput? with
    | some pieces => outcome.withLastOutput (Piece.evalAll occurrence pieces)
    | none => outcome

/-- A reaction that is taken if all of its tests hold. -/
structure Case where
  tests : List Test
  reaction : Reaction
deriving DecidableEq

/-- Whether all tests of a case hold. -/
def Case.holds (occurrence : Occurrence) (c : Case) : Bool := c.tests.all (Test.holds occurrence)

/-- The operation that takes the first case that holds. -/
def Operation.ofCases (cases : List Case) : Operation := fun occurrence =>
  match cases.find? (Case.holds occurrence) with
  | some c => c.reaction.outcome occurrence
  | none => .reject

end Syllabary
