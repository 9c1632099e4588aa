import Syllabary.Proofs.DefaultKeys

/-!
# Letter case

The case of letters of ASCII does not matter to a scan, if all keys are in lower case and the rules
are literal or look at their surroundings as the phonetic rules do. A text is then found in lower
case or not at all, and the lowercase of a text does not depend on the case of these letters: they
are cased letters in either case, so that a sigma behind or before them ends its word or does not.

## Main statements

* `Unicode.lowercase_map_toLower`: lowercasing may start with the letters of ASCII.
* `Rule.IsPhonetic.perform?_alike`: what the rules do does not depend on the case.
* `Index.alikeScans_of_alike`: two texts that differ in the case only are scanned alike.
* `Kana.scans_ignore_case`: this for all sets of phonetic rules, and for the default converter.
-/

namespace Syllabary

open scoped Text

namespace Unicode

/-! ## Letters of ASCII -/

/-- The capital letters of ASCII. -/
def capitals : Text := (List.range 26).map fun n => Char.ofNat (0x41 + n)

theorem toLower_eq_self_or_mem (c : Char) : c.toLower = c ∨ c ∈ capitals := by
  unfold Char.toLower
  split
  · next hrange =>
    right
    have hlow : 0x41 ≤ c.toNat := hrange.1
    have hhigh : c.toNat ≤ 0x5A := hrange.2
    refine List.mem_map.mpr ⟨c.toNat - 0x41, List.mem_range.mpr (by omega), ?_⟩
    rw [Nat.add_sub_cancel' hlow, Char.ofNat_toNat]
  · exact Or.inl rfl

/-- What the small and the capital letter have in common. -/
structure SameLetter (c d : Char) : Prop where
  fold : foldChar c = foldChar d
  cased : isCased c = isCased d
  ignorable : isCaseIgnorable c = isCaseIgnorable d
  ne_sigma : c = 'Σ' ↔ d = 'Σ'
  ne_dotted : c = 'İ' ↔ d = 'İ'

theorem sameLetter_toLower (c : Char) : SameLetter c.toLower c := by
  have hcapitals : ∀ c ∈ capitals, foldChar c.toLower = foldChar c ∧
      isCased c.toLower = isCased c ∧ isCaseIgnorable c.toLower = isCaseIgnorable c ∧
      (c.toLower = 'Σ' ↔ c = 'Σ') ∧ (c.toLower = 'İ' ↔ c = 'İ') := by decide +kernel
  rcases toLower_eq_self_or_mem c with heq | hmem
  · rw [heq]
    exact ⟨rfl, rfl, rfl, Iff.rfl, Iff.rfl⟩
  · obtain ⟨hfold, hcased, hignorable, hsigma, hdotted⟩ := hcapitals c hmem
    exact ⟨hfold, hcased, hignorable, hsigma, hdotted⟩

theorem map_foldChar_map_toLower (t : Text) :
    (t.map Char.toLower).map foldChar = t.map foldChar := by
  induction t with
  | nil => rfl
  | cons c t ih =>
    rw [List.map_cons, List.map_cons, List.map_cons, ih, (sameLetter_toLower c).fold]

/-! ## Lowercase -/

theorem meetsCased_cons (c : Char) (t : Text) :
    meetsCased (c :: t) = if isCaseIgnorable c = true then meetsCased t else isCased c := by
  rw [meetsCased, List.dropWhile_cons]
  cases isCaseIgnorable c <;> rfl

theorem meetsCased_map_toLower (t : Text) : meetsCased (t.map Char.toLower) = meetsCased t := by
  induction t with
  | nil => rfl
  | cons c t ih =>
    obtain ⟨-, hcased, hignorable, -, -⟩ := sameLetter_toLower c
    rw [List.map_cons, meetsCased_cons, meetsCased_cons, ih, hcased, hignorable]

theorem lowercaseBetween_toLower (before : Text) (c : Char) (after : Text) :
    lowercaseBetween (before.map Char.toLower) c.toLower (after.map Char.toLower) =
      lowercaseBetween before c after := by
  obtain ⟨hfold, -, -, hsigma, hdotted⟩ := sameLetter_toLower c
  unfold lowercaseBetween lowercaseChar endsWord
  rw [meetsCased_map_toLower, meetsCased_map_toLower, hfold]
  by_cases hc : c = 'Σ'
  · rw [if_pos hc, if_pos (hsigma.mpr hc)]
  · rw [if_neg hc, if_neg (mt hsigma.mp hc)]
    by_cases hc : c = 'İ'
    · rw [if_pos hc, if_pos (hdotted.mpr hc)]
    · rw [if_neg hc, if_neg (mt hdotted.mp hc)]

/-- Lowercasing may start with the letters of ASCII. -/
theorem lowercase_map_toLower (t : Text) : lowercase (t.map Char.toLower) = lowercase t := by
  suffices h : ∀ before : Text,
      lowercase.go (before.map Char.toLower) (t.map Char.toLower) = lowercase.go before t from h []
  induction t with
  | nil => exact fun _ => rfl
  | cons c t ih =>
    intro before
    rw [List.map_cons, lowercase.go, lowercase.go, lowercaseBetween_toLower, ← List.map_cons,
      ih (c :: before)]

end Unicode

open Unicode (lowercase foldChar firstFolded? lastFolded? startsWithFolded startsWithFolded_iff)

/-! ## Texts that differ in the case only -/

/-- Texts of one length that differ in nothing but the case of letters of ASCII. -/
def Text.Alike (s t : Text) : Prop := s.map Char.toLower = t.map Char.toLower

instance (s t : Text) : Decidable (s.Alike t) := inferInstanceAs (Decidable (_ = _))

namespace Text.Alike

variable {s t : Text}

theorem refl (t : Text) : Alike t t := rfl

theorem length_eq (h : Alike s t) : s.length = t.length := by
  rw [← List.length_map Char.toLower, h, List.length_map]

theorem take (h : Alike s t) (n : Nat) : Alike (s.take n) (t.take n) := by
  rw [Alike, List.map_take, List.map_take, h]

theorem drop (h : Alike s t) (n : Nat) : Alike (s.drop n) (t.drop n) := by
  rw [Alike, List.map_drop, List.map_drop, h]

theorem eq_nil_iff (h : Alike s t) : s = [] ↔ t = [] := by
  rw [← List.length_eq_zero_iff, h.length_eq, List.length_eq_zero_iff]

theorem lowercase_eq (h : Alike s t) : lowercase s = lowercase t := by
  rw [← Unicode.lowercase_map_toLower, h, Unicode.lowercase_map_toLower]

theorem map_foldChar_eq (h : Alike s t) : s.map foldChar = t.map foldChar := by
  rw [← Unicode.map_foldChar_map_toLower, h, Unicode.map_foldChar_map_toLower]

theorem firstFolded?_eq (h : Alike s t) : firstFolded? s = firstFolded? t := by
  rw [firstFolded?, firstFolded?, ← List.head?_map, ← List.head?_map, h.map_foldChar_eq]

theorem lastFolded?_eq (h : Alike s t) : lastFolded? s = lastFolded? t := by
  rw [lastFolded?, lastFolded?, ← List.getLast?_map, ← List.getLast?_map, h.map_foldChar_eq]

theorem startsWithFolded_eq (h : Alike s t) (start : Text) :
    startsWithFolded s start = startsWithFolded t start := by
  rw [Bool.eq_iff_iff, startsWithFolded_iff, startsWithFolded_iff, h.map_foldChar_eq]

end Text.Alike

/-! ## Rules -/

/-- The rules of romaji tables: the literal ones, and those that look at the vowels and nasals
around them. -/
inductive Rule.IsPhonetic : Rule → Prop
  | literal (key output : Text) (stride? : Option Stride) :
      IsPhonetic ⟨key, .literal output stride?⟩
  | prolongedVowel (vowel : Char) (output mark : Text) :
      IsPhonetic (.prolongedVowel vowel output mark)
  | quotedVowel (vowel : Char) (output : Text) : IsPhonetic (.quotedVowel vowel output)
  | syllabicNasal (key nasal : Text) (onsets : List Text) :
      IsPhonetic (.syllabicNasal key nasal onsets)

/-- Contexts that differ to a phonetic rule in the case only. -/
structure Context.Alike (context other : Context) : Prop where
  lastInput : Text.Alike context.lastInput other.lastInput
  mustAdvance : context.mustAdvance = other.mustAdvance

/-- Steps that write the same and take texts that differ in the case only. -/
structure Step.Alike (step other : Step) : Prop where
  output : step.output = other.output
  taken : Text.Alike step.taken other.taken
  context : step.context.Alike other.context

variable {rule : Rule} {rules : RuleView} {context context' : Context}
  {input input' trigger trigger' : Text}

theorem Step.accept_alike (hinput : Text.Alike input input')
    (htrigger : Text.Alike trigger trigger') (output : Text) (length : Nat)
    (lastOutput? : Option Text) :
    (Step.accept input trigger output length lastOutput?).Alike
      (Step.accept input' trigger' output length lastOutput?) where
  output := rfl
  taken := hinput.take length
  context :=
    ⟨htrigger, by
      rw [Step.accept, Step.accept, Bool.eq_iff_iff, List.isEmpty_iff, List.isEmpty_iff]
      exact (hinput.take length).eq_nil_iff⟩

/-- An operation of a phonetic rule says the same to occurrences that differ in the case only. -/
theorem Rule.IsPhonetic.operation_eq (hrule : rule.IsPhonetic) {declared? : Option Text}
    {operation : Operation} (haction : rule.action = .computed declared? operation)
    (hcontext : context.Alike context') (hinput : Text.Alike input input')
    (htrigger : Text.Alike trigger trigger') :
    operation ⟨rules, trigger, input.drop trigger.length, context.lastInput, context.lastOutput⟩ =
      operation ⟨rules, trigger', input'.drop trigger'.length, context'.lastInput,
        context'.lastOutput⟩ := by
  have hlast := hcontext.lastInput.lastFolded?_eq
  have hfollowing : Text.Alike (input.drop trigger.length) (input'.drop trigger'.length) :=
    htrigger.length_eq ▸ hinput.drop trigger.length
  cases hrule with
  | literal => simp at haction
  | prolongedVowel =>
    obtain ⟨-, rfl⟩ := (Action.computed.injEq ..).mp haction
    simp only [hlast, hfollowing.firstFolded?_eq]
  | quotedVowel =>
    obtain ⟨-, rfl⟩ := (Action.computed.injEq ..).mp haction
    simp only [hlast, htrigger.length_eq]
  | syllabicNasal =>
    obtain ⟨-, rfl⟩ := (Action.computed.injEq ..).mp haction
    dsimp only
    rw [funext hfollowing.startsWithFolded_eq, htrigger.length_eq]

/-- A phonetic rule does the same where the texts and the contexts differ in the case only. -/
theorem Rule.IsPhonetic.perform?_alike (hrule : rule.IsPhonetic)
    (hcontext : context.Alike context') (hinput : Text.Alike input input')
    (htrigger : Text.Alike trigger trigger') :
    Option.Rel Step.Alike (rule.perform? rules context input trigger)
      (rule.perform? rules context' input' trigger') := by
  unfold Rule.perform?
  cases haction : rule.action with
  | literal output stride? =>
    rw [htrigger.length_eq]
    exact .some (Step.accept_alike hinput htrigger _ _ _)
  | computed declared? operation =>
    dsimp only
    rw [hrule.operation_eq haction hcontext hinput htrigger, hcontext.mustAdvance]
    cases operation _ with
    | reject => exact .none
    | accept output? length lastOutput? =>
      dsimp only
      split
      · exact .none
      · exact .some (Step.accept_alike hinput htrigger _ _ _)

namespace Index

/-! ## Lookups -/

variable {normalizer : Normalizer} {set : RuleSet}

/-- Texts that differ in the case only find the same rule. -/
theorem lookup?_eq_of_alike (hkeys : ∀ key ∈ (ofRules normalizer set).keys, lowercase key = key)
    {s t : Text} (h : Text.Alike s t) :
    (ofRules normalizer set).lookup? s = (ofRules normalizer set).lookup? t := by
  rw [lookup?_eq_get?_lowercase hkeys, lookup?_eq_get?_lowercase hkeys, h.lowercase_eq]

/-! ## Scans -/

/-- At both cursors one rule takes the step and writes the same, or the corresponding characters
pass through. -/
inductive AlikeSteps (index : Index) (a b : Cursor) : Prop
  | taken {front front' : Text} {rule : Rule} (htakes : index.Takes a front rule)
      (htakes' : index.Takes b front' rule)
      (houtput : (a.next index).output = (b.next index).output)
  | passed {c d : Char} (hpasses : index.Passes a c) (hpasses' : index.Passes b d)
      (hcase : c.toLower = d.toLower)

/-- The scans of two texts take as many steps, and alike steps of one length at all places. -/
def AlikeScans (index : Index) (s t : Text) : Prop :=
  List.Forall₂
    (fun a b => index.AlikeSteps a b ∧ (a.next index).consumed = (b.next index).consumed)
    (index.cursors ⟨.fresh, s⟩) (index.cursors ⟨.fresh, t⟩)

/-- Cursors that have come to the same place of texts that differ in the case only. -/
structure AlikeCursors (a b : Cursor) : Prop where
  rest : Text.Alike a.rest b.rest
  context : a.context.Alike b.context

section

variable {a b : Cursor} (hrules : ∀ rule ∈ set, rule.IsPhonetic)
  (hkeys : ∀ key ∈ (ofRules normalizer set).keys, lowercase key = key)

include hrules hkeys

/-- The front parts of texts that differ in the case only are counterparts. -/
theorem counterparts_of_alike (h : AlikeCursors a b) (k : Nat) :
    Counterparts (ofRules normalizer set) (ofRules normalizer set) Eq Step.Alike a b
      (a.rest.take k) (b.rest.take k) := by
  unfold Counterparts
  rw [lookup?_eq_of_alike hkeys (h.rest.take k)]
  cases hrule : (ofRules normalizer set).lookup? (b.rest.take k) with
  | none => exact .none
  | some rule =>
    have hphonetic := hrules rule (mem_of_lookup? hrule).1
    exact .some ⟨rfl, hphonetic.perform?_alike h.context h.rest (h.rest.take k)⟩

/-- The steps at two such cursors are alike and lead to two such cursors. -/
theorem alikeSteps_of_alike (h : AlikeCursors a b) (hrest : a.rest ≠ []) :
    (ofRules normalizer set).AlikeSteps a b ∧
      (a.next (ofRules normalizer set)).taken.Alike (b.next (ofRules normalizer set)).taken ∧
      (a.next (ofRules normalizer set)).context.Alike
        (b.next (ofRules normalizer set)).context := by
  rcases takes_or_passes_of_counterparts hrest h.rest.length_eq
    (fun k _ _ => counterparts_of_alike hrules hkeys h k) with
    ⟨k, rule, _, rfl, htakes, htakes', hsteps⟩ | ⟨c, d, hpasses, hpasses'⟩
  · exact ⟨.taken htakes htakes' hsteps.output, hsteps.taken, hsteps.context⟩
  · have hcase : c.toLower = d.toLower := by
      have hhead := congrArg List.head? h.rest
      rw [List.head?_map, List.head?_map, hpasses.first, hpasses'.first] at hhead
      exact Option.some.inj hhead
    have htaken : Text.Alike [c] [d] := congrArg (fun e => [e]) hcase
    rw [hpasses.next_eq, hpasses'.next_eq]
    exact ⟨.passed hpasses hpasses' hcase, htaken, htaken, rfl⟩

theorem alikeCursors_advance (h : AlikeCursors a b) (hrest : a.rest ≠ []) :
    AlikeCursors (a.advance (ofRules normalizer set)) (b.advance (ofRules normalizer set)) := by
  obtain ⟨-, htaken, hcontext⟩ := alikeSteps_of_alike hrules hkeys h hrest
  refine ⟨?_, hcontext⟩
  have ha := append_rest_step (ofRules normalizer set) a.context a.rest
  have hb := append_rest_step (ofRules normalizer set) b.context b.rest
  have hlength := htaken.length_eq
  have hdrop := h.rest.drop (a.next (ofRules normalizer set)).taken.length
  have hrestA : a.rest.drop (a.next (ofRules normalizer set)).taken.length =
      (a.advance (ofRules normalizer set)).rest := by
    conv_lhs => rw [← ha]
    exact List.drop_left
  have hrestB : b.rest.drop (b.next (ofRules normalizer set)).taken.length =
      (b.advance (ofRules normalizer set)).rest := by
    conv_lhs => rw [← hb]
    exact List.drop_left
  rw [← hrestA, ← hrestB, ← hlength]
  exact hdrop

/-- The scans of two texts that differ in the case only are alike. -/
theorem alikeScans_of_alike {s t : Text} (h : Text.Alike s t) :
    (ofRules normalizer set).AlikeScans s t := by
  have hstart : AlikeCursors ⟨.fresh, s⟩ ⟨.fresh, t⟩ := ⟨h, Text.Alike.refl [], rfl⟩
  refine (forall₂_cursors (fun a b h => h.rest.eq_nil_iff)
    (fun a b h hrest => alikeCursors_advance hrules hkeys h hrest) hstart).imp ?_
  rintro a b ⟨h, hrest⟩
  obtain ⟨hsteps, htaken, -⟩ := alikeSteps_of_alike hrules hkeys h hrest
  exact ⟨hsteps, htaken.length_eq⟩

end

/-- What alike steps write differs in the case only. -/
theorem alike_flatMap_output {index : Index} {as bs : List Cursor}
    (h : List.Forall₂ index.AlikeSteps as bs) :
    Text.Alike (as.flatMap fun a => (a.next index).output)
      (bs.flatMap fun b => (b.next index).output) := by
  induction h with
  | nil => exact Text.Alike.refl []
  | @cons a b as bs hsteps _ ih =>
    have houtput : Text.Alike (a.next index).output (b.next index).output := by
      cases hsteps with
      | taken _ _ houtput => rw [houtput]; exact Text.Alike.refl _
      | passed hpasses hpasses' hcase =>
        rw [hpasses.next_eq, hpasses'.next_eq]
        exact congrArg (fun e => [e]) hcase
    rw [List.flatMap_cons, List.flatMap_cons, Text.Alike, List.map_append, List.map_append, houtput,
      ih]

end Index

/-! ## Kana -/

namespace Kana

theorem isPhonetic_of_mem_ruleSet (table : Table) (script : Script) :
    ∀ rule ∈ Converter.ruleSet table [] script, rule.IsPhonetic := by
  intro rule hrule
  rw [ruleSet_eq, List.mem_append, mem_romajiToKana_append_vowelRuns_iff] at hrule
  rcases hrule with hkana | hromaji
  · obtain ⟨key, output, rfl⟩ := exists_literal_of_mem_fromKana hkana
    exact .literal key output none
  · cases hromaji with
    | short => exact .literal _ _ _
    | long => exact .literal _ _ _
    | geminate => exact .literal _ _ _
    | quoted => exact .quotedVowel _ _
    | nasal => exact .syllabicNasal _ _ _
    | prolonged => exact .prolongedVowel _ _ _

/-- A converter writes the outputs of the steps at the cursors of its scan. -/
theorem convert_eq_flatMap_cursors (script : Script) (t : Text) :
    (Converter.default.index script).convert t =
      ((Converter.default.index script).cursors ⟨.fresh, t⟩).flatMap
        fun cursor => (cursor.next (Converter.default.index script)).output := by
  rw [convert_default, Index.outputs, ← Index.map_next_cursors _ ⟨.fresh, t⟩, List.flatMap_map]

/-- Texts that differ in the case only are scanned alike: the same rules write the same, and what
differs is let through. This goes for all sets of phonetic rules with keys in lower case, and so for
the default table, where a conversion is the outputs of its steps. -/
theorem scans_ignore_case :
    (∀ (normalizer : Normalizer) (set : RuleSet), (∀ rule ∈ set, rule.IsPhonetic) →
      (∀ key ∈ (Index.ofRules normalizer set).keys, lowercase key = key) →
      ∀ s t : Text, Text.Alike s t → (Index.ofRules normalizer set).AlikeScans s t) ∧
    (∀ (script : Script) (s t : Text), Text.Alike s t →
      (Converter.default.index script).AlikeScans s t ∧
        Text.Alike ((Converter.default.index script).convert s)
          ((Converter.default.index script).convert t)) ∧
    ∀ (script : Script) (t : Text),
      (Converter.default.index script).convert t =
        ((Converter.default.index script).cursors ⟨.fresh, t⟩).flatMap
          fun cursor => (cursor.next (Converter.default.index script)).output := by
  refine ⟨fun normalizer set hrules hkeys s t h => Index.alikeScans_of_alike hrules hkeys h,
    fun script s t h => ?_, convert_eq_flatMap_cursors⟩
  have hscans : (Converter.default.index script).AlikeScans s t := by
    rw [index_default]
    exact Index.alikeScans_of_alike (isPhonetic_of_mem_ruleSet .default script)
      (lowercase_of_mem_keys script) h
  refine ⟨hscans, ?_⟩
  rw [convert_eq_flatMap_cursors, convert_eq_flatMap_cursors]
  exact Index.alike_flatMap_output (hscans.imp fun a b hsteps => hsteps.1)

/-- A repeated vowel is a repeated vowel in either case. -/
theorem scans_ignore_case_of_repeated_vowel :
    (Index.ofRules .unicode [.prolongedVowel 'a' ['ア'] ['ー']]).AlikeScans ['a', 'A'] ['A', 'a'] ∧
    (Converter.default.index .katakana).AlikeScans ['k', 'A', 'a', 'X'] ['K', 'a', 'A', 'x'] ∧
    Text.Alike ((Converter.default.index .katakana).convert ['k', 'A', 'a', 'X'])
      ((Converter.default.index .katakana).convert ['K', 'a', 'A', 'x']) := by
  have hkeys : ∀ key ∈ (Index.ofRules .unicode [.prolongedVowel 'a' ['ア'] ['ー']]).keys,
      lowercase key = key := by
    have hforms : ∀ form ∈ Normalizer.unicode.forms (Rule.prolongedVowel 'a' ['ア'] ['ー']).key,
        lowercase form = form := by decide +kernel
    intro key hkey
    obtain ⟨rule, hrule, hclaims⟩ := Index.mem_keys_ofRules.mp hkey
    obtain rfl := List.mem_singleton.mp hrule
    exact hforms key (Rule.mem_forms_iff_claims.mpr hclaims)
  refine ⟨scans_ignore_case.1 .unicode _ ?_ hkeys _ _ (by decide), ?_⟩
  · exact List.forall_mem_singleton.mpr (.prolongedVowel _ _ _)
  · exact scans_ignore_case.2.1 .katakana _ _ (by decide)

end Kana

end Syllabary
