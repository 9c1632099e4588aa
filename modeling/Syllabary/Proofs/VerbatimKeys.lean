import Syllabary.Proofs.Agreement
import Syllabary.Proofs.LatinText

/-!
# Keys with capital letters

A text is looked up as it stands and then in lower case. Lowercasing twice is lowercasing once, so
that the second look-up asks for texts in lower case only. A key that is not in lower case in any of
its forms is therefore found as it stands or not at all, and on an input without these forms its
rule changes nothing.

## Main statements

* `Unicode.lowercase_lowercase`: lowercasing is idempotent.
* `Index.claims_of_lookup?`: a key that is not in lower case is found verbatim.
* `Index.verbatim_keys_do_not_interfere`: scans of inputs without such keys.
-/

namespace Syllabary

open scoped Text

namespace Unicode

/-! ## Lowercasing twice -/

/-- Whatever a character lowers to, the two sigmas and the dot above included, is folded. -/
theorem foldChar_of_mem_lowercaseBetween {beforeReversed after : Text} {c d : Char}
    (h : d ∈ lowercaseBetween beforeReversed c after) : foldChar d = d := by
  have hspecial : ∀ d ∈ ['σ', 'ς', '\u0307'], foldChar d = d := by decide +kernel
  unfold lowercaseBetween lowercaseChar at h
  split at h
  · apply hspecial
    split at h
    · exact List.mem_cons_of_mem _ (List.mem_cons.mpr (Or.inl (List.mem_singleton.mp h)))
    · exact List.mem_cons.mpr (Or.inl (List.mem_singleton.mp h))
  · split at h
    · rcases List.mem_pair.mp h with heq | heq
      · rw [heq]
        exact foldChar_foldChar c
      · rw [heq]
        exact hspecial '\u0307' (by simp)
    · rw [List.mem_singleton.mp h]
      exact foldChar_foldChar c

theorem foldChar_of_mem_lowercase {t : Text} {d : Char} (h : d ∈ lowercase t) : foldChar d = d := by
  -- the text before does not matter, but the recursion passes it on
  suffices hgo : ∀ beforeReversed, d ∈ lowercase.go beforeReversed t → foldChar d = d from hgo [] h
  clear h
  induction t with
  | nil => simp [lowercase.go]
  | cons c t ih =>
    intro beforeReversed h
    rcases List.mem_append.mp h with hfirst | hrest
    · exact foldChar_of_mem_lowercaseBetween hfirst
    · exact ih (c :: beforeReversed) hrest

/-- Lowercasing is idempotent. -/
theorem lowercase_lowercase (t : Text) : lowercase (lowercase t) = lowercase t := by
  have hchanged : foldChar 'Σ' ≠ 'Σ' ∧ foldChar 'İ' ≠ 'İ' := by decide +kernel
  have hfolded : ∀ d ∈ lowercase t, foldChar d = d := fun d => foldChar_of_mem_lowercase
  rw [lowercase_eq_map, List.map_congr_left hfolded, List.map_id']
  intro d hd
  constructor
  · rintro rfl
    exact hchanged.1 (hfolded _ hd)
  · rintro rfl
    exact hchanged.2 (hfolded _ hd)

end Unicode

open Unicode (lowercase)

/-! ## Rules with such keys -/

/-- No form of the key is in lower case. -/
def Rule.IsVerbatim (normalizer : Normalizer) (rule : Rule) : Prop :=
  ∀ form ∈ normalizer.forms rule.key, lowercase form ≠ form

instance (normalizer : Normalizer) (rule : Rule) : Decidable (rule.IsVerbatim normalizer) :=
  List.decidableBAll _ _

variable {normalizer : Normalizer} {rule : Rule}

/-- No text lowercases to such a key. -/
theorem Rule.IsVerbatim.not_claims_lowercase (h : rule.IsVerbatim normalizer) (t : Text) :
    ¬ rule.Claims normalizer (lowercase t) := by
  intro hclaims
  exact h (lowercase t) (Rule.mem_forms_iff_claims.mpr hclaims) (Unicode.lowercase_lowercase t)

namespace Index

variable {set below above : RuleSet} {input : Text}

/-- A key that is not in lower case is found verbatim. -/
theorem claims_of_lookup? (hrule : rule.IsVerbatim normalizer) {t : Text}
    (h : (ofRules normalizer set).lookup? t = some rule) : rule.Claims normalizer t := by
  obtain ⟨-, hclaims | hlower⟩ := mem_of_lookup? h
  · exact hclaims
  · exact absurd hlower (hrule.not_claims_lowercase t)

/-- Rules whose keys are not in lower case in any form are found for these forms only, whatever
rules they stand over. On an input in which none of the forms occurs they change nothing: the scans
are those of the rules below, as long as these do not look at the rules. -/
theorem verbatim_keys_do_not_interfere (hrules : ∀ rule ∈ below, rule.IgnoresRules)
    (habove : ∀ rule ∈ above, rule.IsVerbatim normalizer)
    (hinput : ∀ rule ∈ above, ∀ form ∈ normalizer.forms rule.key, ¬ form <:+: input) :
    let index := ofRules normalizer (.concat [below, above])
    (∀ rule ∈ above, ∀ t, index.lookup? t = some rule → t ∈ normalizer.forms rule.key) ∧
    (∀ context, index.steps context input = (ofRules normalizer below).steps context input) ∧
    index.convert input = (ofRules normalizer below).convert input := by
  intro index
  have hlookup (t : Text) (hpart : t <:+: input) :
      (ofRules normalizer below).lookup? t = index.lookup? t := by
    symm
    apply lookup?_ofRules_concat_of_unclaimed
    intro rule hrule
    refine ⟨fun hclaims => ?_, (habove rule hrule).not_claims_lowercase t⟩
    exact hinput rule hrule t (Rule.mem_forms_iff_claims.mpr hclaims) hpart
  have hsteps (context : Context) :
      (ofRules normalizer below).steps context input = index.steps context input :=
    steps_eq_of_lookup? hrules (fun t _ => hlookup t) context
  refine ⟨fun rule hrule t hfound => ?_, fun context => (hsteps context).symm, ?_⟩
  · exact Rule.mem_forms_iff_claims.mpr (claims_of_lookup? (habove rule hrule) hfound)
  · rw [convert, convert, hsteps]

/-- The input has the letters of both keys, but neither key in any of its forms. -/
theorem verbatim_keys_do_not_interfere_ka :
    let below : RuleSet := [.literal ['k', 'a'] ['か'], .quotedVowel 'a' ['あ']]
    let above : RuleSet := [.literal ['K', 'A'] ['x'], .literal ['Ā'] ['y']]
    let input := ['K', 'a', '\x27', 'A', 'k', 'A', 'ā', '\u0304']
    (∀ rule ∈ below, rule.IgnoresRules) ∧ (∀ rule ∈ above, rule.IsVerbatim .unicode) ∧
      (∀ rule ∈ above, ∀ form ∈ Normalizer.unicode.forms rule.key, ¬ form <:+: input) ∧
      (ofRules .unicode (.concat [below, above])).convert input =
        (ofRules .unicode below).convert input := by
  intro below above input
  have hrules : ∀ rule ∈ below, rule.IgnoresRules := by
    intro rule hrule
    rcases List.mem_pair.mp hrule with rfl | rfl
    · exact Rule.ignoresRules_literal _ _ _
    · exact Rule.ignoresRules_quotedVowel _ _
  have habove : ∀ rule ∈ above, rule.IsVerbatim .unicode := by decide +kernel
  have hinput : ∀ rule ∈ above, ∀ form ∈ Normalizer.unicode.forms rule.key, ¬ form <:+: input := by
    decide +kernel
  exact ⟨hrules, habove, hinput, (verbatim_keys_do_not_interfere hrules habove hinput).2.2⟩

end Index

end Syllabary
