import Syllabary.Proofs.Longest

/-!
# Steps in numbers

A step holds what it takes as a text. A search over bytes holds numbers instead. It cuts the longest
candidate off the input at a position in bytes, and makes it shorter by cutting it at the position
of its last character. Beside the candidate it keeps the number of its characters, which goes down
by one with every cut and is not counted anew. What an accepted candidate takes is cut off at a
position in bytes as well, and its characters are counted after the cut.

`Index.measuredStep?` is this search with all its cuts and its counter. A cut fails where the
position lies outside the text or inside a character, and counting down fails at zero. Nothing ever
fails: every candidate starts the input and its number is right, so that each position ends a
character.

## Main statements

* `Candidate.Counts.shorten`: making a candidate shorter keeps its number right.
* `Index.search?_eq_some`: the search never fails and finds what the step takes.
* `Rule.perform?_cases`: a rule is refused, or takes the length that it accepts as far as it goes.
* `Index.measuredStep_balances`: the numbers of a step fit its input, its context and every text.
-/

namespace Syllabary

/-! ## Bytes -/

namespace Text

/-- The bytes of the text in UTF-8. -/
def utf8 (t : Text) : List UInt8 := t.flatMap String.utf8EncodeChar

@[simp] theorem utf8_append (s t : Text) : utf8 (s ++ t) = utf8 s ++ utf8 t :=
  List.flatMap_append

@[simp] theorem length_utf8 (t : Text) : (utf8 t).length = t.utf8Size := by
  induction t with
  | nil => rfl
  | cons c t ih =>
    have hcons : utf8 (c :: t) = String.utf8EncodeChar c ++ utf8 t := List.flatMap_cons
    rw [hcons, List.length_append, String.length_utf8EncodeChar, ih, utf8Size_cons]

/-- The positions in bytes at which the characters begin, in a text that begins at `start`. -/
def positions (start : Nat) : Text → List Nat
  | [] => []
  | c :: t => start :: positions (start + c.utf8Size) t

/-- The position of the character behind the first `n`, or of the end if there is no such
character. -/
def positionAt (n : Nat) (t : Text) : Nat := (positions 0 t)[n]?.getD t.utf8Size

/-- The position of the last character, if there is one. -/
def lastPosition? (t : Text) : Option Nat := (positions 0 t).getLast?

theorem getD_positions (start n : Nat) (t : Text) :
    (positions start t)[n]?.getD (start + t.utf8Size) = start + t.byteOffset n := by
  induction t generalizing start n with
  | nil => simp [positions, byteOffset]
  | cons c t ih =>
    cases n with
    | zero => simp [positions, byteOffset]
    | succ n =>
      rw [positions, List.getElem?_cons_succ, utf8Size_cons, ← Nat.add_assoc, ih, byteOffset,
        byteOffset, List.take_succ_cons, utf8Size_cons, Nat.add_assoc]

/-- A character begins behind the bytes of those before it. -/
theorem positionAt_eq_byteOffset (n : Nat) (t : Text) : t.positionAt n = t.byteOffset n := by
  have h := getD_positions 0 n t
  rwa [Nat.zero_add, Nat.zero_add] at h

theorem positions_append (start : Nat) (s t : Text) :
    positions start (s ++ t) = positions start s ++ positions (start + s.utf8Size) t := by
  induction s generalizing start with
  | nil => rfl
  | cons c s ih =>
    rw [List.cons_append, positions, positions, ih, utf8Size_cons, Nat.add_assoc, List.cons_append]

/-- The last character begins behind all others. -/
theorem lastPosition?_concat (t : Text) (c : Char) :
    lastPosition? (t ++ [c]) = some t.utf8Size := by
  rw [lastPosition?, positions_append, Nat.zero_add]
  exact List.getLast?_concat

/-- The first `n` bytes of the text, unless it has fewer or the cut falls inside a character. -/
def takeBytes? (n : Nat) (t : Text) : Option Text :=
  (t.dropBytes? n).map fun back => t.take (t.length - back.length)

theorem takeBytes?_append (s t : Text) : takeBytes? s.utf8Size (s ++ t) = some s := by
  rw [takeBytes?, dropBytes?_append, Option.map_some, List.length_append, Nat.add_sub_cancel,
    List.take_left]

/-- The cut at the position of a character leaves those before it. -/
theorem takeBytes?_positionAt (t : Text) (n : Nat) :
    t.takeBytes? (t.positionAt n) = some (t.take n) := by
  have hcut := takeBytes?_append (t.take n) (t.drop n)
  rw [List.take_append_drop] at hcut
  rw [positionAt_eq_byteOffset]
  exact hcut

end Text

/-! ## Measured steps -/

/-- A step that says in numbers what it takes. -/
structure MeasuredStep where
  output : Text
  /-- The number of characters that are taken. -/
  characters : Nat
  /-- The number of bytes that are taken. -/
  bytes : Nat
  /-- The context for the next step. -/
  context : Context
  /-- Whether the output stands in the place of the output before it. -/
  replacesPrevious : Bool
deriving DecidableEq

/-- The step in numbers. -/
def Step.measure (step : Step) : MeasuredStep :=
  ⟨step.output, step.consumed, step.taken.utf8Size, step.context, step.replacesPrevious⟩

namespace MeasuredStep

/-- What is left of a text behind the bytes that are taken. Nothing is left of a text that is
shorter or has a character across the cut. -/
def rest (step : MeasuredStep) (t : Text) : Text := (t.dropBytes? step.bytes).getD []

/-- The step that lets one character through. -/
def passThrough (c : Char) : MeasuredStep := ⟨[c], 1, c.utf8Size, ⟨[c], [c], false⟩, false⟩

/-- The step that takes `length` characters for the trigger, as far as there are. Their place is
found in bytes, and the characters before it are counted. -/
def accept? (input trigger output : Text) (length : Nat) (lastOutput? : Option Text) :
    Option MeasuredStep :=
  let bytes := input.positionAt length
  (input.takeBytes? bytes).map fun taken =>
    { output, characters := taken.length, bytes,
      context := ⟨trigger, lastOutput?.getD output, taken.length == 0⟩,
      replacesPrevious := taken.length == 0 }

theorem rest_measure (step : Step) (t : Text) : step.measure.rest t = step.rest t := rfl

theorem measure_passThrough (c : Char) : (Step.passThrough c).measure = passThrough c := by
  simp [Step.measure, Step.passThrough, Step.consumed, passThrough]

/-- What is taken ends with a character, and is measured in full. -/
theorem accept?_eq_some (input trigger output : Text) (length : Nat) (lastOutput? : Option Text) :
    accept? input trigger output length lastOutput? =
      some (Step.accept input trigger output length lastOutput?).measure := by
  have hzero : ((input.take length).length == 0) = (input.take length).isEmpty := by
    cases input.take length <;> rfl
  rw [accept?, Text.takeBytes?_positionAt, Option.map_some, hzero, Text.positionAt_eq_byteOffset]
  rfl

end MeasuredStep

/-! ## Candidates -/

/-- A candidate of a search, with its length beside it. -/
structure Candidate where
  trigger : Text
  /-- The number of characters of the trigger, as the search has counted them down. -/
  length : Nat
deriving DecidableEq

namespace Candidate

/-- The first candidate: `bound` characters of the input, as far as there are. -/
def longest? (input : Text) (bound : Nat) : Option Candidate :=
  (input.takeBytes? (input.positionAt bound)).map fun trigger => ⟨trigger, trigger.length⟩

/-- The next candidate, cut in front of the last character. It fails if there is no such character,
if the cut fails, and if there is nothing left to count down. -/
def shorten? (candidate : Candidate) : Option Candidate :=
  candidate.trigger.lastPosition?.bind fun last =>
    if candidate.length = 0 then none
    else (candidate.trigger.takeBytes? last).map fun trigger => ⟨trigger, candidate.length - 1⟩

/-- The candidate starts the input, and its number is the number of its characters. -/
structure Counts (candidate : Candidate) (input : Text) : Prop where
  isFront : candidate.trigger <+: input
  length_eq : candidate.length = candidate.trigger.length

variable {candidate shorter : Candidate} {input : Text}

theorem longest?_eq_some (input : Text) (bound : Nat) :
    longest? input bound = some ⟨input.take bound, (input.take bound).length⟩ := by
  rw [longest?, Text.takeBytes?_positionAt, Option.map_some]

theorem counts_take (input : Text) (bound : Nat) :
    Counts ⟨input.take bound, (input.take bound).length⟩ input :=
  ⟨List.take_prefix bound input, rfl⟩

theorem shorten?_eq_some_iff :
    candidate.shorten? = some shorter ↔ candidate.trigger ≠ [] ∧ candidate.length ≠ 0 ∧
      ⟨candidate.trigger.dropLast, candidate.length - 1⟩ = shorter := by
  obtain ⟨trigger, length⟩ := candidate
  rcases trigger.eq_nil_or_concat with rfl | ⟨t, c, rfl⟩
  · simp [shorten?, Text.lastPosition?, Text.positions]
  · simp [shorten?, Text.lastPosition?_concat, Text.takeBytes?_append]

/-- A candidate with the right number can be made shorter as long as it has a character. -/
theorem Counts.shorten?_eq_some (h : candidate.Counts input) (hne : candidate.trigger ≠ []) :
    candidate.shorten? = some ⟨candidate.trigger.dropLast, candidate.length - 1⟩ := by
  refine shorten?_eq_some_iff.mpr ⟨hne, ?_, rfl⟩
  rw [h.length_eq]
  exact mt List.length_eq_zero_iff.mp hne

/-- Making a candidate shorter keeps its number right. -/
theorem Counts.shorten (h : candidate.Counts input) (hshorter : candidate.shorten? = some shorter) :
    shorter.Counts input := by
  obtain ⟨-, -, rfl⟩ := shorten?_eq_some_iff.mp hshorter
  refine ⟨(List.dropLast_prefix _).trans h.isFront, ?_⟩
  rw [List.length_dropLast, h.length_eq]

theorem length_lt_of_shorten? (hshorter : candidate.shorten? = some shorter) :
    shorter.trigger.length < candidate.trigger.length := by
  obtain ⟨hne, -, rfl⟩ := shorten?_eq_some_iff.mp hshorter
  have hpos := List.length_pos_iff.mpr hne
  rw [List.length_dropLast]
  omega

end Candidate

/-! ## The search with its cuts -/

/-- Applies a rule to a candidate. The outer option is empty if a cut fails, and the inner one if
the rule refuses the candidate. -/
def Rule.measure? (rule : Rule) (rules : RuleView) (context : Context) (input : Text)
    (candidate : Candidate) : Option (Option MeasuredStep) :=
  match rule.action with
  | .literal output stride? =>
    let length := (stride?.map Subtype.val).getD candidate.length
    (MeasuredStep.accept? input candidate.trigger output length none).map some
  | .computed declared? operation =>
    (input.dropBytes? candidate.trigger.utf8Size).bind fun following =>
      match operation
        ⟨rules, candidate.trigger, following, context.lastInput, context.lastOutput⟩ with
      | .reject => some none
      | .accept output? length lastOutput? =>
        if length = 0 ∧ context.mustAdvance then some none
        else
          let output := (output? <|> declared?).getD []
          (MeasuredStep.accept? input candidate.trigger output length lastOutput?).map some

/-- What a search has come through and what it has found. -/
structure Trail where
  /-- The candidates, the longest first. -/
  candidates : List Candidate
  found? : Option MeasuredStep

namespace Index

/-- Tries one candidate. The outer option is empty if a cut fails. -/
def measure? (index : Index) (context : Context) (input : Text) (candidate : Candidate) :
    Option (Option MeasuredStep) :=
  match index.lookup? candidate.trigger with
  | none => some none
  | some rule => rule.measure? index.view context input candidate

/-- Tries a candidate and makes it shorter until it is accepted or empty, unless a cut fails or the
counter runs out. -/
def search? (index : Index) (context : Context) (input : Text) (candidate : Candidate) :
    Option Trail :=
  if candidate.trigger = [] then some ⟨[candidate], none⟩
  else
    match index.measure? context input candidate with
    | none => none
    | some (some step) => some ⟨[candidate], some step⟩
    | some none =>
      match _hshorter : candidate.shorten? with
      | none => none
      | some shorter =>
        (search? index context input shorter).map fun trail =>
          { trail with candidates := candidate :: trail.candidates }
termination_by candidate.trigger.length
decreasing_by exact Candidate.length_lt_of_shorten? (by assumption)

/-- The step in numbers, with the candidates of its search, unless a cut fails or the counter runs
out. -/
def measuredStep? (index : Index) (context : Context) :
    Text → Option (List Candidate × MeasuredStep)
  | [] => some ([], ⟨[], 0, 0, context, false⟩)
  | c :: t =>
    match index.maxKeyLength? c with
    | none => some ([], .passThrough c)
    | some bound =>
      (Candidate.longest? (c :: t) bound).bind fun longest =>
        (index.search? context (c :: t) longest).map fun trail =>
          (trail.candidates, trail.found?.getD (.passThrough c))

end Index

/-- On a candidate with the right number a rule does what it does to the trigger. -/
theorem Rule.measure?_eq_some (rule : Rule) (rules : RuleView) (context : Context) {input : Text}
    {candidate : Candidate} (h : candidate.Counts input) :
    rule.measure? rules context input candidate =
      some ((rule.perform? rules context input candidate.trigger).map Step.measure) := by
  obtain ⟨following, rfl⟩ := h.isFront
  have hcut := Text.dropBytes?_append candidate.trigger following
  unfold Rule.measure? Rule.perform?
  cases rule.action with
  | literal output stride? =>
    dsimp only
    rw [MeasuredStep.accept?_eq_some, h.length_eq, Option.map_some, Option.map_some]
  | computed declared? operation =>
    dsimp only
    rw [hcut, Option.bind_some, List.drop_left]
    cases operation _ with
    | reject => rfl
    | accept output? length lastOutput? =>
      dsimp only
      split
      · rfl
      · rw [MeasuredStep.accept?_eq_some, Option.map_some, Option.map_some]

namespace Index

variable {input : Text} {candidate : Candidate}

theorem measure?_eq_some (index : Index) (context : Context) (h : candidate.Counts input) :
    index.measure? context input candidate =
      some ((index.attempt context input candidate.trigger).map Step.measure) := by
  rw [measure?, attempt]
  cases index.lookup? candidate.trigger with
  | none => rfl
  | some rule => exact rule.measure?_eq_some index.view context h

/-- A refused candidate is made shorter. -/
theorem search?_of_refused {index : Index} {context : Context} {shorter : Candidate}
    (hne : candidate.trigger ≠ []) (hrefused : index.measure? context input candidate = some none)
    (hshorter : candidate.shorten? = some shorter) :
    index.search? context input candidate =
      (index.search? context input shorter).map fun trail =>
        { trail with candidates := candidate :: trail.candidates } := by
  rw [search?, if_neg hne, hrefused]
  dsimp only
  split
  · next hnone =>
    rw [hnone] at hshorter
    contradiction
  · next other hother =>
    obtain rfl := Option.some.inj (hother.symm.trans hshorter)
    rfl

/-- From a candidate with the right number on, the search does not fail. It finds what the step
finds among the candidates of this length and less, and all numbers on its way are right. -/
theorem search?_eq_some (index : Index) (context : Context) (h : candidate.Counts input) :
    ∃ candidates,
      index.search? context input candidate =
        some ⟨candidates, (index.firstAccepted context input candidate.length).map Step.measure⟩ ∧
      ∀ other ∈ candidates, other.Counts input := by
  -- the counter carries the induction, since it tells the length of the candidate
  induction hn : candidate.length generalizing candidate with
  | zero =>
    have hempty : candidate.trigger = [] := List.length_eq_zero_iff.mp (h.length_eq ▸ hn)
    refine ⟨[candidate], ?_, List.forall_mem_singleton.mpr h⟩
    rw [search?, if_pos hempty]
    rfl
  | succ n ih =>
    have hlength : candidate.trigger.length = n + 1 := h.length_eq ▸ hn
    have hne : candidate.trigger ≠ [] := List.ne_nil_of_length_pos (by omega)
    have htake : candidate.trigger = input.take (n + 1) :=
      hlength ▸ List.prefix_iff_eq_take.mp h.isFront
    have hmeasure := index.measure?_eq_some context h
    rw [firstAccepted_succ, ← htake]
    cases hattempt : index.attempt context input candidate.trigger with
    | some step =>
      refine ⟨[candidate], ?_, List.forall_mem_singleton.mpr h⟩
      rw [search?, if_neg hne, hmeasure, hattempt]
      rfl
    | none =>
      rw [hattempt] at hmeasure
      have hshorter := h.shorten?_eq_some hne
      obtain ⟨candidates, hsearch, hcounts⟩ := ih (h.shorten hshorter) (by rw [hn]; rfl)
      refine ⟨candidate :: candidates, ?_, List.forall_mem_cons.mpr ⟨h, hcounts⟩⟩
      rw [search?_of_refused hne hmeasure hshorter, hsearch]
      rfl

/-- No step fails in numbers, and all candidates of its search have the right number. -/
theorem measuredStep?_eq_some (index : Index) (context : Context) (input : Text) :
    ∃ candidates,
      index.measuredStep? context input = some (candidates, (index.step context input).measure) ∧
      ∀ candidate ∈ candidates, candidate.Counts input := by
  cases input with
  | nil => exact ⟨[], rfl, by simp⟩
  | cons c t =>
    rw [measuredStep?, step]
    cases index.maxKeyLength? c with
    | none =>
      dsimp only
      exact ⟨[], by rw [MeasuredStep.measure_passThrough], by simp⟩
    | some bound =>
      obtain ⟨candidates, hsearch, hcounts⟩ :=
        index.search?_eq_some context (Candidate.counts_take (c :: t) bound)
      refine ⟨candidates, ?_, hcounts⟩
      dsimp only
      rw [Candidate.longest?_eq_some, Option.bind_some, hsearch, Option.map_some,
        ← MeasuredStep.measure_passThrough, Option.getD_map]

end Index

/-! ## Accepted lengths -/

/-- The length that a rule accepts an occurrence for, unless it refuses it. -/
def Rule.length? (rule : Rule) (context : Context) (occurrence : Occurrence) : Option Nat :=
  match rule.action with
  | .literal _ stride? => some ((stride?.map Subtype.val).getD occurrence.trigger.length)
  | .computed _ operation =>
    match operation occurrence with
    | .reject => none
    | .accept _ length _ => if length = 0 ∧ context.mustAdvance then none else some length

/-- A rule either refuses a trigger, or takes the length that it accepts as far as there are
characters. -/
theorem Rule.perform?_cases (rule : Rule) (rules : RuleView) (context : Context)
    (input trigger : Text) :
    (rule.length? context (context.occurrence rules input trigger) = none ∧
        rule.perform? rules context input trigger = none) ∨
      ∃ output length lastOutput?,
        rule.length? context (context.occurrence rules input trigger) = some length ∧
        rule.perform? rules context input trigger =
          some (.accept input trigger output length lastOutput?) := by
  unfold Rule.length? Rule.perform? Context.occurrence
  cases rule.action with
  | literal output stride? => exact Or.inr ⟨_, _, _, rfl, rfl⟩
  | computed declared? operation =>
    dsimp only
    cases operation _ with
    | reject => exact Or.inl ⟨rfl, rfl⟩
    | accept output? length lastOutput? =>
      dsimp only
      by_cases hguard : length = 0 ∧ context.mustAdvance = true
      · rw [if_pos hguard, if_pos hguard]
        exact Or.inl ⟨rfl, rfl⟩
      · rw [if_neg hguard, if_neg hguard]
        exact Or.inr ⟨_, _, _, rfl, rfl⟩

/-- A rule with a fixed output and no stride of its own accepts the trigger. -/
theorem Rule.length?_of_literal {rule : Rule} {output : Text}
    (h : rule.action = .literal output none) (context : Context) (occurrence : Occurrence) :
    rule.length? context occurrence = some occurrence.trigger.length := by
  rw [Rule.length?, h]
  rfl

/-! ## The numbers of a step -/

/-- The nonempty front parts of an input, as far as its first character reaches. -/
def Index.IsCandidate (index : Index) (input front : Text) : Prop :=
  front ≠ [] ∧ front <+: input ∧
    ∃ c bound, input.head? = some c ∧ index.maxKeyLength? c = some bound ∧ front.length ≤ bound

namespace MeasuredStep

/-- A rule accounts for a step if it was found for the trigger that the next step is shown, accepted
it for `length` characters, and these were taken as far as there are. -/
structure AcceptedBy (step : MeasuredStep) (index : Index) (context : Context) (input : Text)
    (rule : Rule) (length : Nat) : Prop where
  isCandidate : index.IsCandidate input step.context.lastInput
  found : index.lookup? step.context.lastInput = some rule
  accepted : rule.length? context
    (context.occurrence index.view input step.context.lastInput) = some length
  characters_eq : step.characters = min length input.length
  /-- A fixed output without a stride of its own takes just the trigger. -/
  takes_trigger (output : Text) : rule.action = .literal output none →
    step.characters = step.context.lastInput.length ∧
      step.context.lastInput ++ step.rest input = input

/-- What the numbers of a step say about its input, about each other and about any text. -/
structure Balances (step : MeasuredStep) (index : Index) (context : Context) (input : Text) :
    Prop where
  characters_le : step.characters ≤ input.length
  /-- The bytes that are taken are the bytes of the characters that are taken. -/
  utf8_take : input.utf8.take step.bytes = Text.utf8 (input.take step.characters)
  bytes_eq : step.bytes = (Text.utf8 (input.take step.characters)).length
  rest_eq : step.rest input = input.drop step.characters
  replacesPrevious_iff : step.replacesPrevious = true ↔ step.characters = 0
  mustAdvance_iff : step.context.mustAdvance = true ↔ step.characters = 0
  /-- A rule accounts for the step, or all rules within reach refuse and a character passes. -/
  accounted : (∃ rule length, step.AcceptedBy index context input rule length) ∨
    (∃ c, input.head? = some c ∧ step = .passThrough c) ∧
      ∀ front rule, index.IsCandidate input front → index.lookup? front = some rule →
        rule.length? context (context.occurrence index.view input front) = none
  /-- In any text, what stands behind as many bytes is left. -/
  rest_append (front back : Text) : front.utf8.length = step.bytes →
    step.rest (front ++ back) = back
  /-- Of any text nothing else is left. -/
  rest_cases (t : Text) : step.rest t = [] ∨
    ∃ front : Text, t = front ++ step.rest t ∧ front.utf8.length = step.bytes

/-- The numbers of a step cut its input behind what the step takes. -/
theorem cut_of_append {step : Step} {input back : Text} (h : step.taken ++ back = input) :
    input.take step.measure.characters = step.taken ∧
      input.utf8.take step.measure.bytes = step.taken.utf8 ∧
      input.drop step.measure.characters = back := by
  subst h
  refine ⟨List.take_left, ?_, List.drop_left⟩
  rw [Text.utf8_append]
  exact List.take_left' (Text.length_utf8 _)

theorem rest_append_of_bytes (step : MeasuredStep) {front : Text} (back : Text)
    (h : front.utf8.length = step.bytes) : step.rest (front ++ back) = back := by
  rw [rest, ← h, Text.length_utf8, Text.dropBytes?_append, Option.getD_some]

theorem rest_eq_nil_or_append (step : MeasuredStep) (t : Text) :
    step.rest t = [] ∨ ∃ front : Text, t = front ++ step.rest t ∧ front.utf8.length = step.bytes := by
  cases hcut : t.dropBytes? step.bytes with
  | none => exact Or.inl (by rw [rest, hcut, Option.getD_none])
  | some back =>
    have hrest : step.rest t = back := by rw [rest, hcut, Option.getD_some]
    obtain ⟨front, ht, hsize⟩ := Text.dropBytes?_eq_some_iff.mp hcut
    exact Or.inr ⟨front, by rw [hrest, ht], by rw [Text.length_utf8, hsize]⟩

end MeasuredStep

namespace Index

variable {index : Index} {context : Context} {input front : Text} {c : Char} {t : Text}

/-- The candidates of a step are those that it tries. -/
theorem isCandidate_cons_iff :
    index.IsCandidate (c :: t) front ↔
      ∃ k < ((c :: t).take ((index.maxKeyLength? c).getD 0)).length,
        front = (c :: t).take (k + 1) := by
  rw [List.length_take]
  constructor
  · rintro ⟨hne, hfront, d, bound, hd, hbound, hle⟩
    obtain rfl : c = d := Option.some.inj hd
    obtain ⟨k, hk, htake, hlength⟩ := exists_eq_take_of_prefix hfront hne
    rw [hbound, Option.getD_some]
    exact ⟨k, by omega, htake⟩
  · rintro ⟨k, hk, rfl⟩
    cases hbound : index.maxKeyLength? c with
    | none =>
      rw [hbound, Option.getD_none] at hk
      omega
    | some bound =>
      rw [hbound, Option.getD_some] at hk
      refine ⟨by simp, List.take_prefix _ _, c, bound, rfl, hbound, ?_⟩
      rw [List.length_take]
      omega

/-- A candidate that is accepted accounts for the step that it makes. -/
theorem acceptedBy_of_attempt {step : Step} (hfront : index.IsCandidate input front)
    (h : index.attempt context input front = some step) :
    ∃ rule length, step.measure.AcceptedBy index context input rule length := by
  obtain ⟨rule, hfound, hperform⟩ := Option.bind_eq_some_iff.mp h
  rcases rule.perform?_cases index.view context input front with
    ⟨-, hnone⟩ | ⟨output, length, lastOutput?, hlength, haccept⟩
  · rw [hnone] at hperform
    contradiction
  · obtain rfl := Option.some.inj (haccept.symm.trans hperform)
    refine ⟨rule, length, hfront, hfound, hlength, List.length_take, fun output haction => ?_⟩
    -- the length is that of the trigger, which starts the input
    rw [Rule.length?_of_literal haction] at hlength
    obtain rfl : front.length = length := Option.some.inj hlength
    obtain ⟨back, rfl⟩ := hfront.2.1
    refine ⟨?_, ?_⟩
    · show ((front ++ back).take front.length).length = front.length
      rw [List.take_left]
    · rw [MeasuredStep.rest_measure, rest_accept, List.drop_left]
      rfl

/-- A rule accounts for the step, or all rules within reach refuse and a character passes. -/
theorem acceptedBy_or_passThrough (index : Index) (context : Context) (c : Char) (t : Text) :
    (∃ rule length,
      (index.step context (c :: t)).measure.AcceptedBy index context (c :: t) rule length) ∨
    (index.step context (c :: t)).measure = .passThrough c ∧
      ∀ front rule, index.IsCandidate (c :: t) front → index.lookup? front = some rule →
        rule.length? context (context.occurrence index.view (c :: t) front) = none := by
  rw [step_cons]
  cases hsearch : index.firstAccepted context (c :: t)
      ((c :: t).take ((index.maxKeyLength? c).getD 0)).length with
  | some step =>
    obtain ⟨k, hk, haccepted, -⟩ := firstAccepted_eq_some_iff.mp hsearch
    exact Or.inl (acceptedBy_of_attempt (isCandidate_cons_iff.mpr ⟨k, hk, rfl⟩) haccepted)
  | none =>
    refine Or.inr ⟨MeasuredStep.measure_passThrough c, fun front rule hfront hfound => ?_⟩
    obtain ⟨k, hk, rfl⟩ := isCandidate_cons_iff.mp hfront
    have hrefused := firstAccepted_eq_none_iff.mp hsearch k hk
    rw [attempt, hfound, Option.bind_some] at hrefused
    rcases rule.perform?_cases index.view context (c :: t) ((c :: t).take (k + 1)) with
      ⟨hnone, -⟩ | ⟨output, length, lastOutput?, -, haccept⟩
    · exact hnone
    · rw [haccept] at hrefused
      contradiction

/-- The numbers of a step on a nonempty input say what the step does. -/
theorem measure_balances (index : Index) (context : Context) (c : Char) (t : Text) :
    (index.step context (c :: t)).measure.Balances index context (c :: t) := by
  have hinput : c :: t ≠ [] := List.cons_ne_nil c t
  obtain ⟨back, hback⟩ := (index.fits_step context hinput).front
  obtain ⟨htake, hbytes, hdrop⟩ := MeasuredStep.cut_of_append hback
  constructor
  case characters_le => exact index.consumed_step_le context (c :: t)
  case utf8_take => rw [htake, hbytes]
  case bytes_eq =>
    rw [htake, Text.length_utf8]
    rfl
  case rest_eq => rw [MeasuredStep.rest_measure, Step.rest_eq_of_append hback, hdrop]
  case replacesPrevious_iff => exact (index.replacesPrevious_step context hinput).1
  case mustAdvance_iff => exact (index.replacesPrevious_step context hinput).2
  case accounted =>
    refine (index.acceptedBy_or_passThrough context c t).imp_right fun ⟨hpass, hrefused⟩ => ?_
    exact ⟨⟨c, rfl, hpass⟩, hrefused⟩
  case rest_append => exact fun front back => MeasuredStep.rest_append_of_bytes _ back
  case rest_cases => exact MeasuredStep.rest_eq_nil_or_append _

/-- A step in numbers never fails, neither at a cut nor where its search counts down, and it is the
step. Every candidate of the search starts the input, with the right number of characters. The
numbers of the step tell what it takes of its input, in characters and in bytes, and what they leave
of any text. -/
theorem measuredStep_balances (index : Index) (context : Context) (c : Char) (t : Text) :
    (∃ candidates,
      index.measuredStep? context (c :: t) =
        some (candidates, (index.step context (c :: t)).measure) ∧
      ∀ candidate ∈ candidates, candidate.trigger <+: c :: t ∧
        candidate.length = candidate.trigger.length) ∧
    (index.step context (c :: t)).measure.Balances index context (c :: t) := by
  refine ⟨?_, index.measure_balances context c t⟩
  obtain ⟨candidates, hstep, hcounts⟩ := index.measuredStep?_eq_some context (c :: t)
  refine ⟨candidates, hstep, fun candidate hcandidate => ?_⟩
  have h := hcounts candidate hcandidate
  exact ⟨h.isFront, h.length_eq⟩

/-- The longest candidate is refused. The stride of the other one leads far beyond the end of the
input, which is reached after seven bytes. -/
example :
    (ofRules .unicode [.computed ['か', 'な'] fun _ => .reject,
        .literalWithLength ['か'] ['x'] (2 ^ 64 - 1)]).measuredStep? .fresh ['か', 'な', '!'] =
      some ([⟨['か', 'な'], 2⟩, ⟨['か'], 1⟩],
        ⟨['x'], 3, 7, ⟨['か'], ['x'], false⟩, false⟩) := by
  decide +kernel

end Index

end Syllabary
