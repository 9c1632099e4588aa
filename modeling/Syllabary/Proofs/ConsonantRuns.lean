import Syllabary.Proofs.DoubledNasal
import Syllabary.Proofs.LetterRuns

/-!
# Runs of a consonant

A pair of consonants is written as a small letter, and its first character is taken, so that the
next step meets the second one, and with another consonant behind it the next pair. A run of a
consonant is therefore written as one small letter less than it has characters, whatever follows it,
and its last character opens the next syllable.

## Main statements

* `Index.stretch_geminates`: the steps over a run of a consonant.
* `Kana.findsPair_geminate`: the default converter knows nothing longer than a pair of consonants.
* `Kana.convert_geminates`: how the default converter writes a run of a consonant.
-/

namespace Syllabary

open Unicode
open scoped Text

variable {consonant : Char} {rule : Rule} {x : Text}

namespace Index

variable {normalizer : Normalizer} {set : RuleSet} {marker : Text}

/-! ## Runs -/

/-- The steps over a run of a consonant write the marker and take one character each, for all
characters but the last one, which the scan meets next. -/
theorem stretch_geminates
    (h : (ofRules normalizer set).FindsPair consonant (.geminate consonant marker))
    (hconsonant : consonant.isLower = true) (hx : IsRun consonant x) (w : Text)
    (context : Context) :
    ∃ first last, (ofRules normalizer set).Stretch ⟨context, x ++ w⟩ first
        ⟨last, x.getLast hx.ne_nil :: w⟩ ∧
      first.map Step.taken = x.dropLast.map (fun c => [c]) ∧
      first.map Step.output = List.replicate (x.length - 1) marker := by
  induction x generalizing context with
  | nil => exact absurd rfl hx.ne_nil
  | cons c x ih =>
    cases x with
    | nil => exact ⟨[], context, .refl _, rfl, rfl⟩
    | cons d x =>
      have hc := hx.isCasing hconsonant c List.mem_cons_self
      have hd := hx.isCasing hconsonant d (List.mem_cons_of_mem c List.mem_cons_self)
      have hstep : (ofRules normalizer set).step context (c :: d :: (x ++ w)) =
          .accept (c :: d :: (x ++ w)) [c, d] marker 1 none :=
        step_eq_of_decides (h.decides hc hd (Kana.perform?_geminate consonant marker))
      obtain ⟨first, last, hstretch, htaken, houtput⟩ := ih hx.tail
        (Step.accept (c :: d :: (x ++ w)) [c, d] marker 1 none).context
      refine ⟨_, last, .accept (List.cons_ne_nil c _) hstep hstretch, ?_, ?_⟩
      · rw [List.map_cons, htaken]
        rfl
      · rw [List.map_cons, houtput]
        rfl

end Index

namespace Kana

/-! ## The consonants of the default converter -/

variable {script : Script}

theorem not_doubled_of_mem (script : Script) : ∀ entry ∈ Table.default.romajiEntries script,
    ∀ consonant ∈ geminateConsonants, ¬ [consonant, consonant] <+: entry.1 := by
  cases script <;> decide +kernel

theorem isLower_of_mem_geminateConsonants : ∀ consonant ∈ geminateConsonants,
    consonant.isLower = true := by
  decide

theorem not_mem_of_mem_geminateConsonants : ∀ consonant ∈ geminateConsonants,
    consonant ∉ ['\x27', 'a', 'i', 'u', 'e', 'o'] := by
  decide

/-- The only key that begins with a consonant twice is the pair. -/
theorem OpensWith.eq_geminate (h : OpensWith script consonant rule)
    (hconsonant : consonant ∈ geminateConsonants)
    (hkey : [consonant, consonant] <+: nfd rule.key) :
    rule = .geminate consonant script.geminateMarker := by
  have hlt := (plain_of_mem_consonants hconsonant).1
  cases h with
  | @short key output hentry hhead =>
    rcases (romajiEntry_of_mem hentry).latin with hwon | ⟨-, hlatin⟩
    · rw [show key = ['₩'] from hwon] at hhead
      obtain rfl := Option.some.inj hhead
      exact absurd hconsonant (by decide)
    · rw [key_literal, nfd_eq_self fun c hc => Or.inl (hlatin c hc).1] at hkey
      exact absurd hkey (not_doubled_of_mem script _ hentry consonant hconsonant)
  | @long stem output long hlong hentry hhead =>
    rcases (romajiEntry_of_mem hentry).latin with hwon | ⟨-, hlatin⟩
    · rw [show stem ++ [long.vowel] = ['₩'] from hwon] at hhead
      obtain rfl := Option.some.inj hhead
      exact absurd hconsonant (by decide)
    · have hstem : ∀ c ∈ stem, c.toNat < 0xC0 := fun c hc =>
        (hlatin c (List.mem_append_left _ hc)).1
      rw [key_literal, nfd_concat_letter hstem hlong] at hkey
      -- the mark is no consonant, so the pair lies before it
      have hpair : [consonant, consonant] <+: stem ++ [long.vowel] := by
        rcases List.prefix_concat_iff.mp hkey with heq | hpair
        · have hlast := congrArg List.getLast? heq
          rw [List.getLast?_concat, List.getLast?_cons_cons, List.getLast?_singleton,
            Option.some.injEq] at hlast
          obtain ⟨-, -, -, hmark⟩ := LongVowel.bounds long hlong
          rw [← hlast] at hmark
          omega
        · exact hpair
      exact absurd hpair (not_doubled_of_mem script _ hentry consonant hconsonant)
  | geminate => rfl
  | quoted hquote => exact absurd (hquote ▸ hconsonant) (by decide)
  | nasal hnasal => exact absurd (hnasal ▸ hconsonant) (by decide)
  | prolonged hscript hmem hlatin =>
    have hvowel := (foldChar_latin_of_mem_vowels script _ hmem).2
    exact absurd (not_mem_of_mem_geminateConsonants consonant hconsonant)
      (not_not_intro (List.mem_cons_of_mem _ (hlatin ▸ hvowel)))

/-- The default converter finds pairs of consonants and nothing longer that begins with one. -/
theorem findsPair_geminate (script : Script) (hconsonant : consonant ∈ geminateConsonants) :
    (Converter.default.index script).FindsPair consonant
      (.geminate consonant script.geminateMarker) := by
  have hlt := (plain_of_mem_consonants hconsonant).1
  apply Index.findsPair_of_lookup?
  · intro first second hfirst hsecond
    have hrule : RomajiRule .default script (.geminate consonant script.geminateMarker) :=
      .geminate hconsonant
    exact exists_lookup?_of_claims hrule (Or.inl (lowercase_pair hfirst hsecond))
  · intro first second t found hfirst hsecond hlooked
    have hfound := found_of_lookup? (Or.inl hfirst.lt) hlooked
    obtain ⟨back, hback, hlength⟩ := exists_lowercase_pair hfirst hsecond t
    have hnfd : nfd found.key = consonant :: consonant :: nfd back := by
      rw [hfound.nfd_key, hback, nfd_cons_of_lt hlt, nfd_cons_of_lt hlt]
    have hopens := hfound.kind.opensWith hlt (by rw [hnfd, List.head?_cons])
    obtain rfl := hopens.eq_geminate hconsonant
      (by rw [hnfd]; exact List.prefix_append [consonant, consonant] _)
    have hspelled := hfound.spelled
    have hkey : nfd [consonant, consonant] = [consonant, consonant] :=
      nfd_eq_self (by simp [hlt])
    rw [hback, key_geminate, hkey, or_self, List.cons.injEq, List.cons.injEq] at hspelled
    rw [hspelled.2.2, List.length_nil, Nat.le_zero, List.length_eq_zero_iff] at hlength
    exact ⟨rfl, hlength⟩

/-- A run of a consonant is written as one small letter less than it has characters, in front of
what its last character and the rest of the text are written as. -/
theorem convert_geminates (script : Script) (hconsonant : consonant ∈ geminateConsonants)
    (hx : IsRun consonant x) (w : Text) :
    (Converter.default.index script).convert (x ++ w) =
      (List.replicate (x.length - 1) script.geminateMarker).flatten ++
        (Converter.default.index script).convert (x.getLast hx.ne_nil :: w) := by
  have hlower := isLower_of_mem_geminateConsonants consonant hconsonant
  have hpair := findsPair_geminate script hconsonant
  have hlast := hx.isCasing hlower _ (List.getLast_mem hx.ne_nil)
  rw [index_default] at hpair
  obtain ⟨first, last, hstretch, -, houtput⟩ := Index.stretch_geminates hpair hlower hx w .fresh
  have hwritten : first.flatMap Step.output =
      (List.replicate (x.length - 1) script.geminateMarker).flatten := by
    rw [List.flatMap_def, houtput]
  rw [← index_default] at hstretch
  have houtputs := hstretch.outputs_eq
  rw [convert_default, convert_default, houtputs, hwritten]
  -- the step at a consonant does not look at the small letter before it
  rw [outputs_congr_of_head (Or.inl hlast.lt)]
  rw [hlast.fold]
  exact not_mem_of_mem_geminateConsonants consonant hconsonant

end Kana

/-- A run of a consonant that is doubled by a marker: the marker is written once for each character
but the last one, which the scan meets next, with whatever follows the run. For the converter of the
default table this holds of all its consonants and in both scripts. -/
theorem geminate_runs :
    (∀ (normalizer : Normalizer) (set : RuleSet) (consonant : Char) (marker : Text),
      consonant.isLower = true →
      (Index.ofRules normalizer set).get? [consonant, consonant] =
        some (.geminate consonant marker) →
      (∀ key ∈ (Index.ofRules normalizer set).keys,
        [consonant, consonant] <+: key.map Char.toLower → key = [consonant, consonant]) →
      ∀ (x w : Text) (hx : IsRun consonant x) (context : Context),
        ∃ first last, (Index.ofRules normalizer set).Stretch ⟨context, x ++ w⟩ first
            ⟨last, x.getLast hx.ne_nil :: w⟩ ∧
          first.map Step.taken = x.dropLast.map (fun c => [c]) ∧
          first.map Step.output = List.replicate (x.length - 1) marker) ∧
    ∀ (script : Kana.Script), ∀ consonant ∈ Kana.geminateConsonants,
      ∀ (x w : Text) (hx : IsRun consonant x),
        (Kana.Converter.default.index script).convert (x ++ w) =
          (List.replicate (x.length - 1) script.geminateMarker).flatten ++
            (Kana.Converter.default.index script).convert (x.getLast hx.ne_nil :: w) := by
  constructor
  · intro normalizer set consonant marker hletter hget hkeys x w hx context
    have hpair := Index.findsPair_of_get? hletter hget hkeys
    exact Index.stretch_geminates hpair hletter hx w context
  · intro script consonant hconsonant x w hx
    exact Kana.convert_geminates script hconsonant hx w

/-- Three consonants in mixed case, in a small index and in the default converter. -/
theorem geminate_runs_kka :
    let index := Index.ofRules .unicode [.literal ['k', 'a'] ['カ'], .geminate 'k' ['ッ']]
    'k'.isLower = true ∧ index.get? ['k', 'k'] = some (.geminate 'k' ['ッ']) ∧
      (∀ key ∈ index.keys, ['k', 'k'] <+: key.map Char.toLower → key = ['k', 'k']) ∧
      IsRun 'k' ['k', 'K', 'k'] ∧
      (∃ first last, index.Stretch ⟨.fresh, ['k', 'K', 'k'] ++ ['A']⟩ first ⟨last, ['k', 'A']⟩ ∧
        first.map Step.output = [['ッ'], ['ッ']]) ∧
      (Kana.Converter.default.index .hiragana).convert (['k', 'K', 'k'] ++ ['A']) =
        ['っ', 'っ'] ++ (Kana.Converter.default.index .hiragana).convert ['k', 'A'] := by
  intro index
  have hget : index.get? ['k', 'k'] = some (.geminate 'k' ['ッ']) := by
    rw [Index.get?_ofRules]
    exact RuleSet.owner?_eq_some_iff.mpr
      ⟨[.literal ['k', 'a'] ['カ']], [], rfl, Or.inl rfl, List.forall_mem_nil _⟩
  have hkeys : ∀ key ∈ index.keys, ['k', 'k'] <+: key.map Char.toLower → key = ['k', 'k'] := by
    decide +kernel
  have hx : IsRun 'k' ['k', 'K', 'k'] := ⟨by decide, by decide⟩
  obtain ⟨first, last, hstretch, -, houtput⟩ :=
    geminate_runs.1 .unicode _ 'k' ['ッ'] (by decide) hget hkeys _ ['A'] hx .fresh
  have hconvert := geminate_runs.2 .hiragana 'k' (by decide) _ ['A'] hx
  exact ⟨by decide, hget, hkeys, hx, ⟨first, last, hstretch, houtput⟩, hconvert⟩

end Syllabary
