import Mathlib.Logic.Relation
import Syllabary.Proofs.Longest
import Syllabary.Proofs.NormalForms
import Syllabary.Proofs.Overlay
import Syllabary.Rule.Phonetic

/-!
# Rule sets that scan alike

A scan asks its rule set for nothing but the owners of texts. So two sets in which every text has
one owner scan every input alike (`RuleSet.Agree`). Such sets come from each other by exchanging
neighbours that claim nothing in common, and by dropping rules whose claims are all made again.

On one input a scan asks for the parts of this input only. Where the two sets find the same for all
of these, and what they find does not look at the other rules (`Rule.IgnoresRules`), they scan this
input alike, whatever they hold besides.

## Main statements

* `RuleSet.Agree.steps_eq`: sets with the same owners take the same steps.
* `Index.steps_eq_of_lookup?`: sets that find the same in an input take the same steps on it.
* `Index.scans_survive_rearrangement`: order and rules without a claim of their own do not matter.
* `Index.unmatched_rules_do_not_interfere`: rules that no part of an input meets do not matter.
-/

namespace Syllabary

open Unicode (lowercase)

variable {normalizer normalizer' : Normalizer} {set other : RuleSet}

/-! ## Scans -/

namespace Index

variable {input : Text}

/-- Scans agree where all parts of the input are tried alike. -/
theorem steps_congr
    (h : ∀ context rest front, rest <:+ input → front ≠ [] → front <+: rest →
      (ofRules normalizer set).attempt context rest front =
        (ofRules normalizer' other).attempt context rest front) (context : Context) :
    (ofRules normalizer set).steps context input =
      (ofRules normalizer' other).steps context input := by
  fun_induction steps (ofRules normalizer set) context input with
  | case1 => rw [steps_nil]
  | case2 context input hinput step ih =>
    have hstep : step = (ofRules normalizer' other).step context input :=
      step_congr (fun front => h context input front List.suffix_rfl) hinput
    rw [steps_of_ne_nil _ context hinput, ← hstep]
    congr 1
    apply ih
    intro context' rest front hrest
    exact h context' rest front (hrest.trans (rest_step_suffix _ context input))

end Index

/-! ## One owner for every text -/

namespace RuleSet

/-- Every text has the same owner in both sets. -/
def Agree (normalizer : Normalizer) (set other : RuleSet) : Prop :=
  ∀ t, set.owner? normalizer t = other.owner? normalizer t

namespace Agree

theorem get?_eq (h : Agree normalizer set other) (t : Text) :
    (Index.ofRules normalizer set).get? t = (Index.ofRules normalizer other).get? t := by
  rw [Index.get?_ofRules, Index.get?_ofRules, h t]

theorem lookup?_eq (h : Agree normalizer set other) (t : Text) :
    (Index.ofRules normalizer set).lookup? t = (Index.ofRules normalizer other).lookup? t := by
  rw [Index.lookup?_eq_or, Index.lookup?_eq_or, h.get?_eq, h.get?_eq]

theorem mem_keys_iff (h : Agree normalizer set other) (t : Text) :
    t ∈ (Index.ofRules normalizer set).keys ↔ t ∈ (Index.ofRules normalizer other).keys := by
  rw [Index.mem_keys_iff_get?_ne_none, Index.mem_keys_iff_get?_ne_none, h.get?_eq]

theorem maxKeyLength?_eq (h : Agree normalizer set other) (c : Char) :
    (Index.ofRules normalizer set).maxKeyLength? c =
      (Index.ofRules normalizer other).maxKeyLength? c := by
  rw [Index.maxKeyLength?_ofRules, Index.maxKeyLength?_ofRules]
  apply Index.max?_congr
  intro n
  simp only [List.mem_map, List.mem_filter, h.mem_keys_iff]

/-- Operations are shown the same rules. -/
theorem view_eq (h : Agree normalizer set other) :
    (Index.ofRules normalizer set).view = (Index.ofRules normalizer other).view := by
  unfold Index.view
  rw [funext h.get?_eq, funext h.lookup?_eq, funext h.maxKeyLength?_eq]

/-- Sets with the same owners take the same steps on every input, from every context. -/
theorem steps_eq (h : Agree normalizer set other) (context : Context) (input : Text) :
    (Index.ofRules normalizer set).steps context input =
      (Index.ofRules normalizer other).steps context input := by
  apply Index.steps_congr
  intro context rest front _ _ _
  rw [Index.attempt, Index.attempt, h.lookup?_eq, h.view_eq]

end Agree

/-! ### Rearrangements -/

/-- One change of a rule set that does not show. -/
inductive Rearrangement (normalizer : Normalizer) : RuleSet → RuleSet → Prop
  /-- Two neighbours whose keys have no form in common change places. -/
  | swap (before after : RuleSet) {rule next : Rule}
      (hdisjoint : (normalizer.forms rule.key).Disjoint (normalizer.forms next.key)) :
      Rearrangement normalizer (before ++ rule :: next :: after) (before ++ next :: rule :: after)
  /-- A rule is dropped, each form of whose key is a form of the key of a later rule too. -/
  | drop (before after : RuleSet) {rule : Rule}
      (hclaimed : ∀ form ∈ normalizer.forms rule.key,
        ∃ later ∈ after, form ∈ normalizer.forms later.key) :
      Rearrangement normalizer (before ++ rule :: after) (before ++ after)

/-- A change of this kind leaves every text to its owner. -/
theorem Rearrangement.agree (h : Rearrangement normalizer set other) :
    Agree normalizer set other := by
  intro t
  cases h with
  | @swap before after rule next hdisjoint =>
    have hnever : ¬ (rule.Claims normalizer t ∧ next.Claims normalizer t) := by
      rw [← Rule.mem_forms_iff_claims, ← Rule.mem_forms_iff_claims]
      exact fun h => hdisjoint h.1 h.2
    rw [owner?_append, owner?_append]
    congr 1
    rw [owner?_cons, owner?_cons, owner?_cons, owner?_cons, Option.or_assoc, Option.or_assoc]
    congr 1
    -- at most one of the two claims the text, so that it does not matter which one is asked first
    by_cases hrule : rule.Claims normalizer t
    · rw [if_pos hrule, if_neg fun hnext => hnever ⟨hrule, hnext⟩, Option.none_or, Option.or_none]
    · rw [if_neg hrule, Option.none_or, Option.or_none]
  | @drop before after rule hclaimed =>
    rw [owner?_append, owner?_append, owner?_cons_of_claimed]
    intro hclaims
    obtain ⟨later, hlater, hform⟩ := hclaimed t (Rule.mem_forms_iff_claims.mpr hclaims)
    exact ⟨later, hlater, Rule.mem_forms_iff_claims.mp hform⟩

theorem agree_of_rearrangements (h : Relation.ReflTransGen (Rearrangement normalizer) set other) :
    Agree normalizer set other := by
  induction h with
  | refl => exact fun _ => rfl
  | tail _ hlast ih => exact fun t => (ih t).trans (hlast.agree t)

end RuleSet

namespace Index

/-- Rules may be rearranged as long as no text changes its owner: neighbours without a common form
may change places, and a rule may go each of whose forms a later rule claims again. The index then
has the same keys and the same bounds and finds the same rules, and all scans take the same
steps.

`get?` and `lookup?` find whole rules here. An operation that asks for another rule is shown less,
its key and its declaration (`RuleView`): it may copy the output that a rule declares, but it does
not run that rule's operation. The scans are compared for operations of this kind. -/
theorem scans_survive_rearrangement
    (h : Relation.ReflTransGen (RuleSet.Rearrangement normalizer) set other) :
    let index := ofRules normalizer set
    let index' := ofRules normalizer other
    (∀ t, t ∈ index.keys ↔ t ∈ index'.keys) ∧
    (∀ t, index.get? t = index'.get? t ∧ index.lookup? t = index'.lookup? t) ∧
    (∀ c, index.maxKeyLength? c = index'.maxKeyLength? c) ∧
    (∀ context input, index.steps context input = index'.steps context input) ∧
    ∀ input, index.convert input = index'.convert input := by
  have hagree := RuleSet.agree_of_rearrangements h
  refine ⟨hagree.mem_keys_iff, fun t => ⟨hagree.get?_eq t, hagree.lookup?_eq t⟩,
    hagree.maxKeyLength?_eq, hagree.steps_eq, fun input => ?_⟩
  rw [convert, convert, hagree.steps_eq]

/-- The composed letter loses both of its forms to the decomposed one and goes, and two syllables
change places. -/
theorem scans_survive_rearrangement_long_a :
    let set : RuleSet := [.literal ['ā'] ['x'], .literal ['k', 'a'] ['か'],
      .literal ['k', 'i'] ['き'], .literal ['a', '\u0304'] ['y']]
    let other : RuleSet := [.literal ['k', 'i'] ['き'], .literal ['k', 'a'] ['か'],
      .literal ['a', '\u0304'] ['y']]
    Relation.ReflTransGen (RuleSet.Rearrangement .unicode) set other ∧
      (ofRules .unicode set).convert ['k', 'a', 'ā'] =
        (ofRules .unicode other).convert ['k', 'a', 'ā'] := by
  intro set other
  have hdrop : RuleSet.Rearrangement .unicode set
      [.literal ['k', 'a'] ['か'], .literal ['k', 'i'] ['き'], .literal ['a', '\u0304'] ['y']] :=
    .drop [] _ (by decide +kernel)
  have hswap : RuleSet.Rearrangement .unicode
      [.literal ['k', 'a'] ['か'], .literal ['k', 'i'] ['き'], .literal ['a', '\u0304'] ['y']]
      other := .swap [] _ (by unfold List.Disjoint; decide +kernel)
  have hboth := (Relation.ReflTransGen.single hdrop).tail hswap
  exact ⟨hboth, (scans_survive_rearrangement hboth).2.2.2.2 _⟩

end Index

/-! ## The same findings in one input -/

/-- The operation of the rule, if it has one, does not look at the other rules. -/
def Rule.IgnoresRules (rule : Rule) : Prop :=
  ∀ declared? operation, rule.action = .computed declared? operation →
    ∀ (occurrence : Occurrence) (rules : RuleView),
      operation { occurrence with rules } = operation occurrence

namespace Rule

theorem ignoresRules_literal (key output : Text) (stride? : Option Stride) :
    IgnoresRules ⟨key, .literal output stride?⟩ := by
  intro _ _ haction
  simp at haction

theorem ignoresRules_prolongedVowel (vowel : Char) (output mark : Text) :
    (prolongedVowel vowel output mark).IgnoresRules := by
  intro _ operation haction
  obtain ⟨-, rfl⟩ := (Action.computed.injEq ..).mp haction
  exact fun _ _ => rfl

theorem ignoresRules_quotedVowel (vowel : Char) (output : Text) :
    (quotedVowel vowel output).IgnoresRules := by
  intro _ operation haction
  obtain ⟨-, rfl⟩ := (Action.computed.injEq ..).mp haction
  exact fun _ _ => rfl

theorem ignoresRules_syllabicNasal (key nasal : Text) (onsets : List Text) :
    (syllabicNasal key nasal onsets).IgnoresRules := by
  intro _ operation haction
  obtain ⟨-, rfl⟩ := (Action.computed.injEq ..).mp haction
  exact fun _ _ => rfl

/-- Such a rule does the same whatever rules it is shown. -/
theorem IgnoresRules.perform?_eq {rule : Rule} (h : rule.IgnoresRules) (rules rules' : RuleView)
    (context : Context) (input trigger : Text) :
    rule.perform? rules context input trigger = rule.perform? rules' context input trigger := by
  unfold perform?
  cases haction : rule.action with
  | literal output stride? => rfl
  | computed declared? operation =>
    have hsame := h declared? operation haction
      ⟨rules', trigger, input.drop trigger.length, context.lastInput, context.lastOutput⟩ rules
    dsimp only at hsame ⊢
    rw [hsame]

end Rule

namespace Index

variable {input : Text} {below above : RuleSet}

/-- Sets that find the same in an input take the same steps on it, if the rules do not look at each
other. -/
theorem steps_eq_of_lookup? (hrules : ∀ rule ∈ set, rule.IgnoresRules)
    (h : ∀ t, t ≠ [] → t <:+: input →
      (ofRules normalizer set).lookup? t = (ofRules normalizer' other).lookup? t)
    (context : Context) :
    (ofRules normalizer set).steps context input =
      (ofRules normalizer' other).steps context input := by
  apply steps_congr
  intro context rest front hrest hne hfront
  have hpart : front <:+: input := hfront.isInfix.trans hrest.isInfix
  rw [attempt, attempt, ← h front hne hpart]
  apply Option.bind_congr
  intro rule hrule
  exact (hrules rule (mem_of_lookup? hrule).1).perform?_eq _ _ context rest front

/-- A set above that claims neither the text nor its lowercase leaves the findings to the set
below. -/
theorem lookup?_ofRules_concat_of_unclaimed {t : Text}
    (h : ∀ rule ∈ above, ¬ rule.Claims normalizer t ∧ ¬ rule.Claims normalizer (lowercase t)) :
    (ofRules normalizer (.concat [below, above])).lookup? t =
      (ofRules normalizer below).lookup? t := by
  have hexact : (ofRules normalizer above).get? t = none := by
    rw [get?_ofRules, RuleSet.owner?_eq_none_iff]
    exact fun rule hrule => (h rule hrule).1
  have hlower : (ofRules normalizer above).get? (lowercase t) = none := by
    rw [get?_ofRules, RuleSet.owner?_eq_none_iff]
    exact fun rule hrule => (h rule hrule).2
  rw [lookup?_eq_or, lookup?_eq_or, get?_ofRules_concat, get?_ofRules_concat, hexact, hlower,
    Option.none_or, Option.none_or]

/-! ### No findings at all -/

theorem lookup?_ofRules_nil (t : Text) : (ofRules normalizer []).lookup? t = none := by
  rw [lookup?_ofRules, RuleSet.lookup?, RuleSet.owner?_eq_none_iff.mpr (by simp),
    RuleSet.owner?_eq_none_iff.mpr (by simp), Option.none_or]

/-- Without rules every character passes through. -/
theorem step_ofRules_nil (context : Context) (c : Char) (t : Text) :
    (ofRules normalizer []).step context (c :: t) = .passThrough c := by
  rcases exists_decides_or_passThrough normalizer [] context c t with ⟨front, hdecides⟩ | hpass
  · have haccepted := hdecides.accepted
    rw [attempt, lookup?_ofRules_nil, Option.bind_none] at haccepted
    contradiction
  · exact hpass.2

theorem outputs_ofRules_nil (context : Context) (input : Text) :
    (ofRules normalizer []).outputs context input = input := by
  induction input generalizing context with
  | nil => exact outputs_nil
  | cons c t ih =>
    have hstep : (ofRules normalizer []).step context (c :: t) = .accept (c :: t) [c] [c] 1 none :=
      step_ofRules_nil context c t
    rw [outputs_of_step_eq (List.cons_ne_nil c t) hstep, List.drop_one, List.tail_cons, ih,
      List.singleton_append]

/-- Without rules nothing is changed. -/
theorem convert_ofRules_nil (input : Text) : (ofRules normalizer []).convert input = input := by
  rw [convert_eq_outputs, outputs_ofRules_nil]
  intro context input hinput
  obtain ⟨c, t, rfl⟩ := List.exists_cons_of_ne_nil hinput
  rw [step_ofRules_nil]
  exact List.cons_ne_nil c []

/-- A text in which nothing is found stays. -/
theorem convert_eq_self
    (h : ∀ t, t ≠ [] → t <:+: input → (ofRules normalizer set).lookup? t = none) :
    (ofRules normalizer set).convert input = input := by
  have hsteps : (ofRules normalizer []).steps .fresh input =
      (ofRules normalizer set).steps .fresh input := by
    apply steps_eq_of_lookup? (by simp)
    intro t hne hpart
    rw [lookup?_ofRules_nil, h t hne hpart]
  rw [convert, ← hsteps]
  exact convert_ofRules_nil input

/-! ### Empty keys -/

/-- An empty key has no other form. -/
theorem eq_nil_of_claims_of_key_eq_nil {rule : Rule} {t : Text} (hkey : rule.key = [])
    (h : rule.Claims .unicode t) : t = [] := by
  rw [Rule.Claims, hkey] at h
  rcases h with h | h | h
  · exact h
  · exact h.trans (Unicode.nfc_eq_nil_iff.mpr rfl)
  · exact h.trans (Unicode.nfd_eq_nil_iff.mpr rfl)

/-- Rules with an empty key are found for no other text. -/
theorem lookup?_filter_key_ne_nil {t : Text} (ht : t ≠ []) :
    (ofRules .unicode (set.filter (·.key ≠ []))).lookup? t = (ofRules .unicode set).lookup? t := by
  have howner {s : Text} (hs : s ≠ []) :
      RuleSet.owner? .unicode (set.filter (·.key ≠ [])) s = set.owner? .unicode s := by
    apply RuleSet.owner?_filter
    intro rule _ hclaims
    exact decide_eq_true fun hkey => hs (eq_nil_of_claims_of_key_eq_nil hkey hclaims)
  rw [lookup?_ofRules, lookup?_ofRules, RuleSet.lookup?, RuleSet.lookup?, howner ht,
    howner (Unicode.lowercase_ne_nil ht)]

/-- Rules that no part of an input meets, as it stands or in lower case, do not interfere with the
scan of this input, whether they stand over other rules or share keys with them, as long as the
rules below do not look at the rules. So a text stays if nothing is found in it, and rules with an
empty key never matter. None of the phonetic rules looks at the rules. -/
theorem unmatched_rules_do_not_interfere :
    (∀ (normalizer : Normalizer) (below above : RuleSet) (input : Text),
      (∀ rule ∈ below, rule.IgnoresRules) →
      (∀ t, t ≠ [] → t <:+: input →
        ∀ rule ∈ above, ¬ rule.Claims normalizer t ∧ ¬ rule.Claims normalizer (lowercase t)) →
      (∀ context, (ofRules normalizer (.concat [below, above])).steps context input =
        (ofRules normalizer below).steps context input) ∧
      (ofRules normalizer (.concat [below, above])).convert input =
        (ofRules normalizer below).convert input) ∧
    (∀ (normalizer : Normalizer) (set : RuleSet) (input : Text),
      (∀ t, t ≠ [] → t <:+: input → (ofRules normalizer set).lookup? t = none) →
      (ofRules normalizer set).convert input = input) ∧
    (∀ set : RuleSet, (∀ rule ∈ set, rule.IgnoresRules) → ∀ context input,
      (ofRules .unicode (set.filter (·.key ≠ []))).steps context input =
        (ofRules .unicode set).steps context input) ∧
    ∀ consonant marker vowel output mark key nasal onsets,
      (Rule.geminate consonant marker).IgnoresRules ∧
      (Rule.prolongedVowel vowel output mark).IgnoresRules ∧
      (Rule.quotedVowel vowel output).IgnoresRules ∧
      (Rule.syllabicNasal key nasal onsets).IgnoresRules := by
  refine ⟨fun normalizer below above input hrules hunmet => ?_,
    fun normalizer set input hnone => ?_, fun set hrules context input => ?_,
    fun consonant marker vowel output mark key nasal onsets => ?_⟩
  · have hsteps (context : Context) : (ofRules normalizer below).steps context input =
        (ofRules normalizer (.concat [below, above])).steps context input :=
      steps_eq_of_lookup? hrules (fun t hne hpart =>
        (lookup?_ofRules_concat_of_unclaimed (hunmet t hne hpart)).symm) context
    refine ⟨fun context => (hsteps context).symm, ?_⟩
    rw [convert, convert, hsteps]
  · exact convert_eq_self hnone
  · apply steps_eq_of_lookup?
    · exact fun rule hrule => hrules rule (List.mem_of_mem_filter hrule)
    · exact fun t hne _ => lookup?_filter_key_ne_nil hne
  · exact ⟨Rule.ignoresRules_literal _ _ _, Rule.ignoresRules_prolongedVowel vowel output mark,
      Rule.ignoresRules_quotedVowel vowel output, Rule.ignoresRules_syllabicNasal key nasal onsets⟩

/-- The set above has a longer key for the same leading character, and an empty one. -/
theorem unmatched_rules_do_not_interfere_ka :
    let below : RuleSet := [.literal ['k', 'a'] ['か'], .quotedVowel 'a' ['あ']]
    let above : RuleSet := [.literal ['k', 'ā'] ['x'], .literal [] ['y']]
    (ofRules .unicode (.concat [below, above])).convert ['K', 'a', '\x27', 'a'] =
        (ofRules .unicode below).convert ['K', 'a', '\x27', 'a'] ∧
      (ofRules .unicode above).convert ['K', 'a'] = ['K', 'a'] ∧
      (ofRules .unicode (above.filter (·.key ≠ []))).steps .fresh ['k', 'ā'] =
        (ofRules .unicode above).steps .fresh ['k', 'ā'] := by
  have hbelow : ∀ rule ∈ ([.literal ['k', 'a'] ['か'], .quotedVowel 'a' ['あ']] : RuleSet),
      rule.IgnoresRules := by
    intro rule hrule
    rcases List.mem_pair.mp hrule with rfl | rfl
    · exact Rule.ignoresRules_literal _ _ _
    · exact Rule.ignoresRules_quotedVowel _ _
  have habove : ∀ rule ∈ ([.literal ['k', 'ā'] ['x'], .literal [] ['y']] : RuleSet),
      rule.IgnoresRules := by
    intro rule hrule
    rcases List.mem_pair.mp hrule with rfl | rfl <;> exact Rule.ignoresRules_literal _ _ _
  have hunmet : ∀ t ∈ ['K', 'a', '\x27', 'a'].sublists, t ≠ [] →
      ∀ rule ∈ ([.literal ['k', 'ā'] ['x'], .literal [] ['y']] : RuleSet),
        ¬ rule.Claims .unicode t ∧ ¬ rule.Claims .unicode (lowercase t) := by decide +kernel
  have hnone : ∀ t ∈ ['K', 'a'].sublists, t ≠ [] →
      ((ofRules .unicode [.literal ['k', 'ā'] ['x'], .literal [] ['y']]).lookup? t).isNone := by
    decide +kernel
  refine ⟨(unmatched_rules_do_not_interfere.1 .unicode _ _ _ hbelow fun t hne hpart => ?_).2,
    unmatched_rules_do_not_interfere.2.1 .unicode _ _ fun t hne hpart => ?_,
    unmatched_rules_do_not_interfere.2.2.1 _ habove .fresh _⟩
  · exact hunmet t (List.mem_sublists.mpr hpart.sublist) hne
  · exact Option.isNone_iff_eq_none.mp (hnone t (List.mem_sublists.mpr hpart.sublist) hne)

end Index

end Syllabary
