import Syllabary.Text

/-!
# Rules

A rule says what to write for its key. A literal rule writes a fixed text; a computed rule asks an
operation, which sees the occurrence of the key in its surroundings and accepts or rejects it.

Rules stand in lists, and of two rules with one key the later one counts. An operation may look at
the other rules, but sees only what they declare (`Rule.summary`).
-/

namespace Syllabary

/-- A number of characters by which a scan moves on. -/
abbrev Stride := { n : Nat // 0 < n }

/-- The stride of `n` characters; zero is raised to one. -/
def Stride.ofNat (n : Nat) : Stride := ⟨max n 1, by omega⟩

/-- What an operation says to an occurrence of its key. -/
inductive Outcome where
  /-- The rule does not apply here; a shorter key may. -/
  | reject
  /-- The rule applies and takes `length` characters of the input. Length zero puts the output in
  the place of the output before it. Without an output the declared one is written. The next step
  sees `lastOutput?` in place of the output. -/
  | accept (output? : Option Text) (length : Nat) (lastOutput? : Option Text)
deriving DecidableEq

namespace Outcome

/-- Writes `output` for `length` characters. -/
def emit (output : Text) (length : Nat) : Outcome := .accept (some output) length none

/-- Writes the declared output for `length` characters. -/
def declared (length : Nat) : Outcome := .accept none length none

/-- Shows `text` to the next step as the output of this one. -/
def withLastOutput (text : Text) : Outcome → Outcome
  | .reject => .reject
  | .accept output? length _ => .accept output? length (some text)

end Outcome

/-- What a rule declares: all of its action but an operation. -/
inductive Declaration where
  /-- A fixed output; the stride, if given, replaces the length of the occurrence. -/
  | literal (output : Text) (stride? : Option Stride)
  /-- An operation, which may fall back on a declared output. -/
  | computed (output? : Option Text)
deriving DecidableEq

/-- The output of the rule, if it declares one. -/
def Declaration.output? : Declaration → Option Text
  | .literal output _ => some output
  | .computed output? => output?

/-- A rule as other rules see it: its key and what it declares, but not its operation. -/
structure RuleSummary where
  key : Text
  declaration : Declaration
deriving DecidableEq

/-- The rules in force, as far as an operation may ask for them. -/
structure RuleView where
  /-- The rule of exactly this key. -/
  get? : Text → Option RuleSummary
  /-- The rule of this key, or else of its lowercase. -/
  lookup? : Text → Option RuleSummary
  /-- The length of the longest key with this leading character, in either case. -/
  maxKeyLength? : Char → Option Nat

/-- An occurrence of a key in a text. -/
structure Occurrence where
  /-- The rules in force. -/
  rules : RuleView
  /-- The text that was found, in its own letter case. -/
  trigger : Text
  /-- The text after it. -/
  following : Text
  /-- The trigger of the step before. -/
  lastInput : Text
  /-- The output that the step before left to see. -/
  lastOutput : Text

/-- What a computed rule does. -/
abbrev Operation := Occurrence → Outcome

/-- What a rule does where its key occurs. -/
inductive Action where
  /-- Writes a fixed output; the stride, if given, replaces the length of the occurrence. -/
  | literal (output : Text) (stride? : Option Stride)
  /-- Asks an operation, with an output for the case that it names none. -/
  | computed (output? : Option Text) (operation : Operation)

/-- An action without its operation. -/
def Action.declaration : Action → Declaration
  | .literal output stride? => .literal output stride?
  | .computed output? _ => .computed output?

/-- A key and what is done where it occurs. -/
structure Rule where
  key : Text
  action : Action

namespace Rule

/-- Writes `output` for the key. -/
def literal (key output : Text) : Rule := ⟨key, .literal output none⟩

/-- Writes `output` for the key and moves on by `length` characters, but by one at least. -/
def literalWithLength (key output : Text) (length : Nat) : Rule :=
  ⟨key, .literal output (some (.ofNat length))⟩

/-- Asks `operation`. -/
def computed (key : Text) (operation : Operation) : Rule := ⟨key, .computed none operation⟩

/-- Asks `operation` and declares an output. -/
def computedWithOutput (key output : Text) (operation : Operation) : Rule :=
  ⟨key, .computed (some output) operation⟩

/-- The declared part of the rule. -/
def declaration (rule : Rule) : Declaration := rule.action.declaration

/-- The rule as others see it. -/
def summary (rule : Rule) : RuleSummary := ⟨rule.key, rule.declaration⟩

/-- The literal or declared output. -/
def output? (rule : Rule) : Option Text := rule.declaration.output?

/-- Whether the output is fixed. -/
def isLiteral (rule : Rule) : Bool :=
  match rule.action with
  | .literal .. => true
  | .computed .. => false

/-- The same action under another key. -/
def withKey (rule : Rule) (key : Text) : Rule := ⟨key, rule.action⟩

@[simp] theorem key_withKey (rule : Rule) (key : Text) : (rule.withKey key).key = key := rfl

@[simp] theorem declaration_withKey (rule : Rule) (key : Text) :
    (rule.withKey key).declaration = rule.declaration := rfl

end Rule

/-- Rules in the order of their registration. A later rule takes the place of an earlier one with
the same key. -/
abbrev RuleSet := List Rule

namespace RuleSet

/-- The sets one after another, so that later sets take precedence. -/
def concat (sets : List RuleSet) : RuleSet := sets.flatten

/-- Puts rules in the place of every rule: none, one or many. -/
def transform (set : RuleSet) (f : Rule → List Rule) : RuleSet := set.flatMap f

/-- Puts rules under new keys: `newKeys?` lists them for the keys that it knows, and rules of other
keys stay. -/
def rekey (set : RuleSet) (newKeys? : Text → Option (List Text)) : RuleSet :=
  set.transform fun rule =>
    match newKeys? rule.key with
    | none => [rule]
    | some keys => keys.map rule.withKey

end RuleSet

end Syllabary
