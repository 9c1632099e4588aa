import Syllabary.Proofs.Longest

/-!
# Keys in lower case

A text is looked up as it stands and then in its full lowercase. A key that the characters of a text
fold to, one by one, is this lowercase unless the text has one of two characters. U+0130 folds to
`i` and lowers to two characters, and a capital sigma folds to the medial sigma and lowers to the
final one where it ends its word. Any other text in any case is found with the key, and a step on it
tries the rule that is found before all shorter candidates.

## Main statements

* `Index.decides_or_refused`: a step takes no shorter front part than one that is not refused.
* `Index.folded_text_finds_rule`: texts in any case find the keys in lower case.
* `Index.folded_texts_without_rule`: the two characters that stand out.
-/

namespace Syllabary.Index

open Unicode (lowercase foldChar HasFinalSigma)

variable {normalizer : Normalizer} {set : RuleSet} {t key : Text}

/-- A step takes no shorter front part than one that is not refused. -/
theorem decides_or_refused (normalizer : Normalizer) (set : RuleSet) (ht : t ≠ [])
    (context : Context) (w : Text) :
    (∃ front, t.length ≤ front.length ∧ (ofRules normalizer set).Decides context (t ++ w) front
        ((ofRules normalizer set).step context (t ++ w))) ∨
      (ofRules normalizer set).attempt context (t ++ w) t = none := by
  obtain ⟨c, s, rfl⟩ := List.exists_cons_of_ne_nil ht
  rcases exists_decides_or_passThrough normalizer set context c (s ++ w) with
    ⟨front, hdecides⟩ | hpass
  · by_cases hlength : (c :: s).length ≤ front.length
    · exact Or.inl ⟨front, hlength, hdecides⟩
    · exact Or.inr (hdecides.longest (c :: s) (List.prefix_append _ w) (by omega))
  · exact Or.inr (hpass.1 (c :: s) ht (List.prefix_append _ w))

/-- A text whose characters fold to those of a key finds a rule, unless it has U+0130 or a capital
sigma that ends its word. So a step on the text, whatever follows it, is taken by the text or a
longer candidate, or else the rule that is found refuses it. That such a key is in lower case need
not be assumed. -/
theorem folded_text_finds_rule (hkey : key ∈ (ofRules normalizer set).keys)
    (hfold : t.map foldChar = key) (hdotted : 'İ' ∉ t) (hsigma : ¬ HasFinalSigma [] t) :
    ∃ rule, (ofRules normalizer set).lookup? t = some rule ∧
      (t ≠ [] → ∀ context w,
        (∃ front, t.length ≤ front.length ∧ (ofRules normalizer set).Decides context (t ++ w) front
            ((ofRules normalizer set).step context (t ++ w))) ∨
          rule.perform? (ofRules normalizer set).view context (t ++ w) t = none) := by
  have hlower : lowercase t = key := by
    rw [← hfold]
    exact Unicode.lowercase_eq_map_iff.mpr ⟨hdotted, hsigma⟩
  obtain ⟨owner, howner, hclaims⟩ := mem_keys_ofRules.mp hkey
  obtain ⟨rule, hrule⟩ := exists_lookup?_of_claims howner (hlower ▸ hclaims)
  refine ⟨rule, hrule, fun ht context w => ?_⟩
  have hstep := decides_or_refused normalizer set ht context w
  rwa [attempt, hrule, Option.bind_some] at hstep

/-- A capital sigma inside a word is found as the medial one. -/
theorem folded_text_finds_rule_sigma :
    let index := ofRules .unicode [.literal ['α', 'σ', 'α'] ['x']]
    ['α', 'σ', 'α'] ∈ index.keys ∧ ['α', 'Σ', 'Α'].map foldChar = ['α', 'σ', 'α'] ∧
      'İ' ∉ ['α', 'Σ', 'Α'] ∧ ¬ HasFinalSigma [] ['α', 'Σ', 'Α'] ∧
      ∃ rule, index.lookup? ['α', 'Σ', 'Α'] = some rule := by
  have hkey : ['α', 'σ', 'α'] ∈ (ofRules .unicode [.literal ['α', 'σ', 'α'] ['x']]).keys :=
    mem_keys_ofRules.mpr ⟨_, List.mem_singleton_self _, Or.inl rfl⟩
  have hfold : ['α', 'Σ', 'Α'].map foldChar = ['α', 'σ', 'α'] := by decide +kernel
  have hdotted : 'İ' ∉ ['α', 'Σ', 'Α'] := by decide
  have hsigma : ¬ HasFinalSigma [] ['α', 'Σ', 'Α'] := by decide +kernel
  obtain ⟨rule, hrule, -⟩ := folded_text_finds_rule hkey hfold hdotted hsigma
  exact ⟨hkey, hfold, hdotted, hsigma, rule, hrule⟩

/-- The two keys are in lower case, and the two texts fold to them. Neither text is found, and its
first character passes through. -/
theorem folded_texts_without_rule :
    let index := ofRules .unicode [.literal ['i'] ['x'], .literal ['α', 'σ'] ['y']]
    (['i'] ∈ index.keys ∧ lowercase ['i'] = ['i'] ∧ ['İ'].map foldChar = ['i'] ∧
        index.lookup? ['İ'] = none ∧ index.step .fresh ['İ'] = .passThrough 'İ') ∧
      ['α', 'σ'] ∈ index.keys ∧ lowercase ['α', 'σ'] = ['α', 'σ'] ∧
        ['Α', 'Σ'].map foldChar = ['α', 'σ'] ∧ index.lookup? ['Α', 'Σ'] = none ∧
        index.step .fresh ['Α', 'Σ'] = .passThrough 'Α' := by
  intro index
  have hkey : ['i'] ∈ index.keys := mem_keys_ofRules.mpr ⟨_, List.mem_cons_self, Or.inl rfl⟩
  have hkey' : ['α', 'σ'] ∈ index.keys :=
    mem_keys_ofRules.mpr ⟨_, List.mem_cons_of_mem _ List.mem_cons_self, Or.inl rfl⟩
  have hnone : (index.lookup? ['İ']).isNone ∧ (index.lookup? ['Α', 'Σ']).isNone := by
    decide +kernel
  exact ⟨⟨hkey, by decide +kernel, by decide +kernel, Option.isNone_iff_eq_none.mp hnone.1,
    by decide +kernel⟩, hkey', by decide +kernel, by decide +kernel,
    Option.isNone_iff_eq_none.mp hnone.2, by decide +kernel⟩

end Syllabary.Index
