import Syllabary.Proofs.Longest
import Syllabary.Proofs.NormalForms
import Syllabary.Rule.Phonetic

/-!
# Equivalent spellings

A rule claims its key in three spellings, and several rules may claim one spelling each of the same
text. For forms that obey their laws this splits no pair: which rule owns a composed text and which
one owns the decomposed text depends on the composed form of the keys alone. So the two spellings of
a text have one owner, and a literal owner writes the same for both and takes the spelling that it
finds. An owner with a stride of its own counts the characters that it finds, and these are not as
many in both spellings.

## Main statements

* `Rule.claims_composed_iff`, `Rule.claims_decomposed_iff`: a rule claims both forms or none.
* `Index.step_append_eq_accept`: a literal rule that no longer candidate disturbs makes the step.
* `Index.normal_forms_agree`: both spellings of a text have the same owner and the same output.
* `Index.strides_of_normal_forms`: what an owner with a stride leaves of each spelling.
-/

namespace Syllabary

variable {normalizer : Normalizer} {set : RuleSet}

/-! ## Owners -/

/-- A rule claims a composed text exactly if the text is the composed form of its key. -/
theorem Rule.claims_composed_iff (h : normalizer.IsCanonical) {rule : Rule} {t : Text} :
    rule.Claims normalizer (normalizer.composed t) ↔
      normalizer.composed t = normalizer.composed rule.key := by
  constructor
  · rintro (hkey | hcomposed | hdecomposed)
    · rw [← hkey, h.composed_composed]
    · exact hcomposed
    · rw [← h.composed_composed t, hdecomposed, h.composed_decomposed]
  · exact fun hcomposed => Or.inr (Or.inl hcomposed)

/-- A rule claims a decomposed text exactly if it claims the composed one. -/
theorem Rule.claims_decomposed_iff (h : normalizer.IsCanonical) {rule : Rule} {t : Text} :
    rule.Claims normalizer (normalizer.decomposed t) ↔
      normalizer.composed t = normalizer.composed rule.key := by
  constructor
  · rintro (hkey | hcomposed | hdecomposed)
    · rw [← hkey, h.composed_decomposed]
    · rw [← h.composed_decomposed t, hcomposed, h.composed_composed]
    · rw [← h.composed_decomposed t, hdecomposed, h.composed_decomposed]
  · intro hcomposed
    refine Or.inr (Or.inr ?_)
    rw [← h.decomposed_composed t, hcomposed, h.decomposed_composed]

theorem RuleSet.owner?_composed (h : normalizer.IsCanonical) (t : Text) :
    set.owner? normalizer (normalizer.composed t) =
      set.owner? normalizer (normalizer.decomposed t) := by
  simp only [RuleSet.owner?, Rule.claims_composed_iff h, Rule.claims_decomposed_iff h]

namespace Index

/-- The two forms of a text have one owner. -/
theorem get?_composed (h : normalizer.IsCanonical) (t : Text) :
    (ofRules normalizer set).get? (normalizer.composed t) =
      (ofRules normalizer set).get? (normalizer.decomposed t) := by
  rw [get?_ofRules, get?_ofRules, RuleSet.owner?_composed h]

/-! ## Steps -/

/-- Where a literal rule owns the front of the input and nothing longer is found, the step is made
by this rule. -/
theorem step_append_eq_accept {front w key output : Text} {stride? : Option Stride}
    (hfront : front ≠ [])
    (hget : (ofRules normalizer set).get? front = some ⟨key, .literal output stride?⟩)
    (hlonger : ∀ t, t <+: front ++ w → front.length < t.length →
      (ofRules normalizer set).lookup? t = none) (context : Context) :
    (ofRules normalizer set).step context (front ++ w) =
      .accept (front ++ w) front output ((stride?.map Subtype.val).getD front.length) none := by
  have hfound : (ofRules normalizer set).lookup? front = some ⟨key, .literal output stride?⟩ := by
    rw [lookup?_eq_or, hget, Option.some_or]
  refine step_eq_of_decides
    ⟨hfront, List.prefix_append _ _, ?_, fun longer hinitial hlength => ?_⟩
  · rw [attempt, hfound]
    rfl
  · rw [attempt, hlonger longer hinitial hlength, Option.bind_none]

/-- Without a stride of its own the rule takes the front that it owns. -/
theorem step_append_of_literal {front w key output : Text} (hfront : front ≠ [])
    (hget : (ofRules normalizer set).get? front = some ⟨key, .literal output none⟩)
    (hlonger : ∀ t, t <+: front ++ w → front.length < t.length →
      (ofRules normalizer set).lookup? t = none) (context : Context) :
    ((ofRules normalizer set).step context (front ++ w)).output = output ∧
      ((ofRules normalizer set).step context (front ++ w)).rest (front ++ w) = w := by
  rw [step_append_eq_accept hfront hget hlonger, rest_accept]
  exact ⟨rfl, List.drop_left⟩

/-- For forms that obey their laws, the composed and the decomposed spelling of a text have the same
owner. Where this is a literal rule without a stride of its own and no longer front part of the
input is found, the steps on the two spellings write the same and leave the same, from any contexts.
The forms of Unicode obey the laws, and their forms of a nonempty text are not empty. -/
theorem normal_forms_agree :
    (∀ normalizer : Normalizer, normalizer.IsCanonical → ∀ set : RuleSet,
      let index := ofRules normalizer set
      (∀ s, index.get? (normalizer.composed s) = index.get? (normalizer.decomposed s)) ∧
      ∀ s key output w,
        index.get? (normalizer.composed s) = some ⟨key, .literal output none⟩ →
        normalizer.composed s ≠ [] → normalizer.decomposed s ≠ [] →
        (∀ t, t <+: normalizer.composed s ++ w → (normalizer.composed s).length < t.length →
          index.lookup? t = none) →
        (∀ t, t <+: normalizer.decomposed s ++ w → (normalizer.decomposed s).length < t.length →
          index.lookup? t = none) →
        ∀ context context',
          let step := index.step context (normalizer.composed s ++ w)
          let step' := index.step context' (normalizer.decomposed s ++ w)
          step.output = step'.output ∧ step.rest (normalizer.composed s ++ w) = w ∧
            step'.rest (normalizer.decomposed s ++ w) = w) ∧
    Normalizer.unicode.IsCanonical ∧
    ∀ s ≠ [], Normalizer.unicode.composed s ≠ [] ∧ Normalizer.unicode.decomposed s ≠ [] := by
  refine ⟨fun normalizer h set => ⟨get?_composed h, ?_⟩, Normalizer.isCanonical_unicode, ?_⟩
  · intro s key output w hget hcomposed hdecomposed hlonger hlonger' context context'
    have hget' := hget
    rw [get?_composed h] at hget'
    obtain ⟨hout, hrest⟩ := step_append_of_literal hcomposed hget hlonger context
    obtain ⟨hout', hrest'⟩ := step_append_of_literal hdecomposed hget' hlonger' context'
    exact ⟨hout.trans hout'.symm, hrest, hrest'⟩
  · intro s hs
    exact ⟨mt Unicode.nfc_eq_nil_iff.mp hs, mt Unicode.nfd_eq_nil_iff.mp hs⟩

/-- A key with two marks out of order is neither composed nor decomposed. Both forms of it are read
alike, before a letter that no key goes on with. -/
theorem normal_forms_agree_two_marks :
    let index := ofRules .unicode [.literal ['a', '\u0302', '\u0323'] ['x']]
    index.get? ['ậ'] = index.get? ['a', '\u0323', '\u0302'] ∧
      (index.step .fresh ['ậ', 'b']).output =
        (index.step .fresh ['a', '\u0323', '\u0302', 'b']).output ∧
      (index.step .fresh ['ậ', 'b']).rest ['ậ', 'b'] = ['b'] ∧
      (index.step .fresh ['a', '\u0323', '\u0302', 'b']).rest ['a', '\u0323', '\u0302', 'b'] =
        ['b'] := by
  have hcomposed : Normalizer.unicode.composed ['a', '\u0302', '\u0323'] = ['ậ'] := by
    decide +kernel
  have hdecomposed : Normalizer.unicode.decomposed ['a', '\u0302', '\u0323'] =
      ['a', '\u0323', '\u0302'] := by decide +kernel
  have hlonger : ∀ t ∈ [['ậ', 'b'], ['a', '\u0323', '\u0302', 'b']],
      ((ofRules .unicode [.literal ['a', '\u0302', '\u0323'] ['x']]).lookup? t).isNone := by
    decide +kernel
  have hagree := normal_forms_agree.1 .unicode Normalizer.isCanonical_unicode
    [.literal ['a', '\u0302', '\u0323'] ['x']]
  have hget := hagree.1 ['a', '\u0302', '\u0323']
  have hsteps := hagree.2 ['a', '\u0302', '\u0323'] ['a', '\u0302', '\u0323'] ['x'] ['b']
  rw [hcomposed, hdecomposed] at hget hsteps
  refine ⟨hget, hsteps ?_ (by simp) (by simp) ?_ ?_ .fresh .fresh⟩
  · rw [get?_ofRules, RuleSet.owner?_singleton, if_pos (by decide +kernel)]
    rfl
  · intro t hinitial hlength
    obtain rfl := hinitial.eq_of_length_le (Nat.succ_le_of_lt hlength)
    exact Option.isNone_iff_eq_none.mp (hlonger _ (by simp))
  · intro t hinitial hlength
    obtain rfl := hinitial.eq_of_length_le (Nat.succ_le_of_lt hlength)
    exact Option.isNone_iff_eq_none.mp (hlonger _ (by simp))

/-! ## Strides -/

theorem drop_append_eq_right_iff {front w : Text} {n : Nat} :
    (front ++ w).drop n = w ↔ front.length = n ∨ w = [] ∧ front.length ≤ n := by
  constructor
  · intro hdrop
    have hlength := congrArg List.length hdrop
    rw [List.length_drop, List.length_append] at hlength
    rw [← List.length_eq_zero_iff]
    omega
  · rintro (rfl | ⟨rfl, hle⟩)
    · exact List.drop_left
    · rw [List.append_nil]
      exact List.drop_of_length_le hle

/-- A stride counts the characters that stand in the text, in whichever form. So where the stride of
the owner is the length of its key, each of the two forms takes as many characters as the key has,
and the step leaves just what stands behind the form if the form has the length of the key. -/
theorem strides_of_normal_forms {s key output w : Text} {stride : Stride}
    (hget : (ofRules .unicode set).get? (Unicode.nfc s) = some ⟨key, .literal output (some stride)⟩)
    (hstride : stride.val = key.length)
    (hlonger : ∀ form ∈ [Unicode.nfc s, Unicode.nfd s], ∀ t, t <+: form ++ w →
      form.length < t.length → (ofRules .unicode set).lookup? t = none) :
    ∀ form ∈ [Unicode.nfc s, Unicode.nfd s], ∀ context,
      let step := (ofRules .unicode set).step context (form ++ w)
      step.rest (form ++ w) = (form ++ w).drop key.length ∧
        (step.rest (form ++ w) = w ↔
          form.length = key.length ∨ w = [] ∧ form.length ≤ key.length) := by
  have hcanonical := Normalizer.isCanonical_unicode
  have hs : s ≠ [] := by
    rintro rfl
    -- the key is not empty, so that it has another composed form than the empty text
    have hclaims : Rule.Claims .unicode ⟨key, .literal output (some stride)⟩
        (Normalizer.unicode.composed []) :=
      (RuleSet.mem_of_owner? (get?_ofRules.symm.trans hget)).2
    have hcomposed : Unicode.nfc [] = Unicode.nfc key :=
      (Rule.claims_composed_iff hcanonical).mp hclaims
    have hkey : key = [] := Unicode.nfc_eq_nil_iff.mp hcomposed.symm
    have hpos := stride.property
    rw [hstride, hkey] at hpos
    exact Nat.lt_irrefl 0 hpos
  intro form hform context
  have howner : form ≠ [] ∧ (ofRules .unicode set).get? form =
      some ⟨key, .literal output (some stride)⟩ := by
    rcases List.mem_pair.mp hform with rfl | rfl
    · exact ⟨mt Unicode.nfc_eq_nil_iff.mp hs, hget⟩
    · exact ⟨mt Unicode.nfd_eq_nil_iff.mp hs, (get?_composed hcanonical s).symm.trans hget⟩
  have hrest : ((ofRules .unicode set).step context (form ++ w)).rest (form ++ w) =
      (form ++ w).drop key.length := by
    rw [step_append_eq_accept howner.1 howner.2 (hlonger form hform), rest_accept, ← hstride]
    rfl
  exact ⟨hrest, by rw [hrest, drop_append_eq_right_iff]⟩

/-- Before a single character only the whole text is longer than its front. -/
theorem lookup?_eq_none_of_longer {index : Index} {front t : Text} {c : Char}
    (hnone : (index.lookup? (front ++ [c])).isNone) (hinitial : t <+: front ++ [c])
    (hlength : front.length < t.length) : index.lookup? t = none := by
  obtain rfl := hinitial.eq_of_length_le (List.length_append ▸ Nat.succ_le_of_lt hlength)
  exact Option.isNone_iff_eq_none.mp hnone

/-- The variants of a rule keep its stride. In one letter the long vowel has the length of the bare
one, and the mark of the decomposed text is left over. -/
theorem strides_of_normal_forms_ka :
    let index := ofRules .unicode
      (RuleSet.longVowelVariants [.literalWithLength ['k', 'a'] ['カ'] 2] ['ー'])
    index.get? ['k', 'ā'] = some ⟨['k', 'ā'], .literal ['カ', 'ー'] (some (.ofNat 2))⟩ ∧
      (index.step .fresh ['k', 'ā', 'n']).rest ['k', 'ā', 'n'] = ['n'] ∧
      (index.step .fresh ['k', 'a', '\u0304', 'n']).rest ['k', 'a', '\u0304', 'n'] =
        ['\u0304', 'n'] := by
  intro index
  have hnfc : Unicode.nfc ['k', 'ā'] = ['k', 'ā'] := by decide +kernel
  have hnfd : Unicode.nfd ['k', 'ā'] = ['k', 'a', '\u0304'] := by decide +kernel
  have hget : index.get? ['k', 'ā'] =
      some ⟨['k', 'ā'], .literal ['カ', 'ー'] (some (.ofNat 2))⟩ := by
    rw [get?_ofRules, RuleSet.owner?_eq_some_iff]
    exact ⟨[_, _], [], rfl, by decide +kernel, by simp⟩
  have hnone : ∀ form ∈ [['k', 'ā'], ['k', 'a', '\u0304']],
      (index.lookup? (form ++ ['n'])).isNone := by decide +kernel
  have hget' : index.get? (Unicode.nfc ['k', 'ā']) =
      some ⟨['k', 'ā'], .literal ['カ', 'ー'] (some (.ofNat 2))⟩ := hnfc.symm ▸ hget
  have hforms := strides_of_normal_forms (w := ['n']) hget' rfl
  rw [hnfc, hnfd] at hforms
  have hrest := hforms fun form hform t => lookup?_eq_none_of_longer (hnone form hform)
  exact ⟨hget, (hrest _ List.mem_cons_self .fresh).1,
    (hrest _ (List.mem_cons_of_mem _ List.mem_cons_self) .fresh).1⟩

/-- The stride is the length of the key. The composed text is taken as a whole, and of the
decomposed one the mark is left in front of what stands behind it. -/
theorem strides_part_normal_forms :
    let index := ofRules .unicode [.literalWithLength ['ā'] ['x'] 1]
    (Unicode.nfc ['ā'] = ['ā'] ∧ Unicode.nfd ['ā'] = ['a', '\u0304']) ∧
      index.get? ['ā'] = some ⟨['ā'], .literal ['x'] (some (.ofNat 1))⟩ ∧
      (Stride.ofNat 1).val = ['ā'].length ∧
      (∀ form ∈ [['ā'], ['a', '\u0304']], ∀ t, t <+: form ++ ['b'] → form.length < t.length →
        index.lookup? t = none) ∧
      (index.step .fresh ['ā', 'b']).rest ['ā', 'b'] = ['b'] ∧
      (index.step .fresh ['a', '\u0304', 'b']).rest ['a', '\u0304', 'b'] ≠ ['b'] := by
  intro index
  have hget : index.get? ['ā'] = some ⟨['ā'], .literal ['x'] (some (.ofNat 1))⟩ := by
    rw [get?_ofRules, RuleSet.owner?_singleton, if_pos (by decide +kernel)]
    rfl
  have hnone : ∀ form ∈ [['ā'], ['a', '\u0304']], (index.lookup? (form ++ ['b'])).isNone := by
    decide +kernel
  refine ⟨by decide +kernel, hget, rfl, ?_, by decide +kernel, by decide +kernel⟩
  exact fun form hform t => lookup?_eq_none_of_longer (hnone form hform)

end Index

end Syllabary
