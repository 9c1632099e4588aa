import Syllabary.Proofs.VowelSteps

/-!
# Steps on decomposed text

A long vowel is one letter in composed text and two characters in decomposed text. Every key is
indexed in both forms, so the scans of the two texts go side by side: where the one takes a front
part, the other takes the decomposed front part and writes the same. Only rules that look at the
text behind their trigger, or ahead for a vowel that was there before, can see the difference
(`DependsOnForm`).

## Main statements

* `exists_attempt_of_attempt_nfd`: what the decomposed text has accepted, the text has accepted.
* `step_nfd`: where nothing depends on the form, the steps on the two texts correspond.
-/

namespace Syllabary

open scoped Text

/-! ## Contexts and steps -/

/-- The context that a step on the decomposed text sees. -/
def Context.decomposed (context : Context) : Context :=
  { context with lastInput := Unicode.nfd context.lastInput }

/-- The step that takes the decomposed text and writes the same. -/
def Step.decomposed (step : Step) : Step :=
  { step with taken := Unicode.nfd step.taken, context := step.context.decomposed }

theorem Step.accept_nfd {input : Text} {length n : Nat}
    (htake : (Unicode.nfd input).take n = Unicode.nfd (input.take length))
    (trigger output : Text) :
    Step.accept (Unicode.nfd input) (Unicode.nfd trigger) output n none =
      (Step.accept input trigger output length none).decomposed := by
  have hempty : (Unicode.nfd (input.take length)).isEmpty = (input.take length).isEmpty := by
    rw [Bool.eq_iff_iff, List.isEmpty_iff, List.isEmpty_iff]
    exact Unicode.nfd_eq_nil_iff
  simp only [Step.accept, Step.decomposed, Context.decomposed, htake, hempty]

namespace Kana

open Unicode

/-- A step that takes `taken` has a rule that looks at a long vowel behind it, where in the
decomposed text the bare vowel stands. Here `before` is the trigger of the step before, and `after`
the text behind what is taken. -/
inductive DependsOnForm (script : Script) (before taken after : Text) : Prop
  /-- Two nasals are taken, and decomposed the text behind them starts with an onset. -/
  | nasal {onset : Text} (honset : onset ∈ syllableOnsets)
      (htaken : taken.map foldChar = ['n', 'n'])
      (hafter : startsWithFolded (nfd after) onset = true) : DependsOnForm script before taken after
  /-- A quote is taken by itself, though decomposed it stands before the last vowel once more. -/
  | quote {vowel : Vowel} (hvowel : vowel ∈ script.vowels) (htaken : taken = ['\x27'])
      (hbefore : lastFolded? before = some vowel.latin)
      (hafter : firstFolded? (nfd after) = some vowel.latin) :
      DependsOnForm script before taken after
  /-- A repeated vowel is taken, and only decomposed the same vowel follows once more. -/
  | run {vowel : Vowel} (hscript : script = .katakana) (hvowel : vowel ∈ script.vowels)
      (htaken : taken.map foldChar = [vowel.latin])
      (hbefore : lastFolded? before = some vowel.latin)
      (hafter : firstFolded? (nfd after) = some vowel.latin)
      (hcomposed : firstFolded? after ≠ some vowel.latin) : DependsOnForm script before taken after

variable {script : Script} {rule : Rule} {context : Context} {vowel : Vowel} {c : Char}
  {t front back : Text}

/-! ## Accepted steps -/

/-- A step that takes its whole trigger takes the decomposed trigger. -/
theorem accept_whole_nfd (hlatin : ∀ c ∈ front ++ back, IsLatin c) (output : Text) :
    Step.accept (nfd (front ++ back)) (nfd front) output (nfd front).length none =
      (Step.accept (front ++ back) front output front.length none).decomposed := by
  obtain ⟨hfront, hback⟩ := List.forall_mem_append.mp hlatin
  have htake : (nfd (front ++ back)).take (nfd front).length =
      nfd ((front ++ back).take front.length) := by
    rw [nfd_append hfront hback, List.take_left, List.take_left]
  exact Step.accept_nfd htake front output

/-- A step that takes one character below U+00C0 takes it from the decomposed text as well. -/
theorem accept_one_nfd (hlt : c.toNat < 0xC0) (trigger output t : Text) :
    Step.accept (nfd (c :: t)) (nfd trigger) output 1 none =
      (Step.accept (c :: t) trigger output 1 none).decomposed :=
  Step.accept_nfd (take_one_nfd hlt t) trigger output

/-- The rule for runs of vowels sees the same in both forms, unless only the decomposed text goes on
with the vowel. -/
theorem repeats_nfd_iff (hmem : vowel ∈ script.vowels) (hback : ∀ c ∈ back, IsLatin c)
    (hcontext : ∀ c ∈ context.lastInput, IsLatin c)
    (hform : lastFolded? context.lastInput = some vowel.latin →
      firstFolded? (nfd back) = some vowel.latin → firstFolded? back = some vowel.latin) :
    (lastFolded? context.decomposed.lastInput = some vowel.latin ∧
        firstFolded? (nfd back) ≠ some vowel.latin) ↔
      (lastFolded? context.lastInput = some vowel.latin ∧
        firstFolded? back ≠ some vowel.latin) := by
  have hlt := lt_of_mem_vowels _ (foldChar_latin_of_mem_vowels script vowel hmem).2
  constructor
  · rintro ⟨hlast, hfirst⟩
    exact ⟨(lastFolded?_nfd hcontext hlt).mp hlast,
      mt (firstFolded?_nfd_of_eq_some hback hlt) hfirst⟩
  · rintro ⟨hlast, hfirst⟩
    exact ⟨(lastFolded?_nfd hcontext hlt).mpr hlast, mt (hform hlast) hfirst⟩

/-- The rule that makes the step on a text makes the corresponding step on the decomposed text. -/
theorem Applies.perform?_nfd (happlies : Applies script context t front rule)
    (hlatin : ∀ c ∈ t, IsLatin c) (hcontext : ∀ c ∈ context.lastInput, IsLatin c)
    (hform : ¬ DependsOnForm script context.lastInput
      ((Converter.default.index script).step context t).taken
      (((Converter.default.index script).step context t).rest t)) :
    rule.perform? (Converter.default.index script).view context.decomposed (nfd t) (nfd front) =
      some ((Converter.default.index script).step context t).decomposed := by
  have hne := happlies.decides.ne_nil
  obtain ⟨back, rfl⟩ := happlies.decides.isFront
  obtain ⟨hfront, hback⟩ := List.forall_mem_append.mp hlatin
  have hne' : nfd front ≠ [] := mt nfd_eq_nil_iff.mp hne
  obtain ⟨-, hkey⟩ := key_of_lookup? hfront hne happlies.looked
  have hperformed := happlies.performed
  obtain ⟨c, s, hcons⟩ := List.exists_cons_of_ne_nil hne
  -- a rule that takes one character has a plain one in front, so that nothing is cut apart
  have hhead {d : Char} (hd : d.toNat < 0xC0) (hhead : rule.key.head? = some d) :
      c.toNat < 0xC0 := by
    rw [hkey, hcons, List.map_cons, List.head?_cons, Option.some.injEq] at hhead
    exact lt_of_foldChar_lt (hfront c (hcons ▸ List.mem_cons_self)) (by rw [hhead]; exact hd)
  cases happlies.found.kind with
  | short =>
    rw [perform?_literal, Option.some.injEq] at hperformed
    rw [perform?_literal, accept_whole_nfd hlatin, hperformed]
  | long =>
    rw [perform?_literal, Option.some.injEq] at hperformed
    rw [perform?_literal, accept_whole_nfd hlatin, hperformed]
  | geminate hc =>
    have hplain := plain_of_mem_consonants hc
    rw [perform?_geminate, Option.some.injEq] at hperformed
    rw [perform?_geminate, ← hperformed, hcons, List.cons_append,
      accept_one_nfd (hhead hplain.1 rfl)]
  | @quoted vowel hmem =>
    obtain ⟨hfold, hvowel⟩ := foldChar_latin_of_mem_vowels script vowel hmem
    rw [perform?_quotedVowel hne, Option.ite_none_right_eq_some, Option.some.injEq, hfold]
      at hperformed
    rw [perform?_quotedVowel hne', hfold, if_pos, accept_whole_nfd hlatin, hperformed.2]
    exact (lastFolded?_nfd hcontext (lt_of_mem_vowels _ hvowel)).mpr hperformed.1
  | nasal =>
    rw [perform?_doubledNasal hne, Option.ite_none_left_eq_some, Option.some.injEq] at hperformed
    rw [← hperformed.2, Index.rest_accept, List.drop_left, Step.accept] at hform
    rw [perform?_doubledNasal hne', nfd_append hfront hback, List.drop_left, if_neg,
      ← nfd_append hfront hback, accept_whole_nfd hlatin, hperformed.2]
    -- an onset that only the decomposed text shows is what depends on the form
    rintro ⟨onset, honset, hstarts⟩
    refine hform (.nasal honset ?_ hstarts)
    rw [List.take_left, ← hkey, key_doubledNasal]
  | @prolonged vowel hscript hmem =>
    obtain ⟨hfold, hvowel⟩ := foldChar_latin_of_mem_vowels script vowel hmem
    rw [key_prolongedVowel, hfold] at hkey hhead
    have hone := hhead (lt_of_mem_vowels _ hvowel) rfl
    rw [perform?_prolongedVowel, Option.some.injEq, List.drop_left, hfold] at hperformed
    rw [← hperformed, Index.rest_accept, Step.accept] at hform
    obtain ⟨d, rfl, hd⟩ := List.map_eq_singleton_iff.mp hkey.symm
    rw [perform?_prolongedVowel, hfold, nfd_append hfront hback, List.drop_left, if_congr
      (repeats_nfd_iff hmem hback hcontext fun hlast hafter => ?_) rfl rfl,
      ← nfd_append hfront hback, ← hperformed, List.singleton_append, accept_one_nfd]
    · exact (List.cons.inj hcons).1 ▸ hone
    · by_contra hcomposed
      exact hform (.run hscript hmem (by simpa using hd) hlast hafter hcomposed)

/-! ## Refused texts -/

/-- A rule that refuses a text refuses the decomposed text. -/
theorem RomajiRule.perform?_nfd_eq_none {rules : RuleView} (h : RomajiRule .default script rule)
    (hfront : front ≠ []) (hlatin : ∀ c ∈ front ++ back, IsLatin c)
    (hcontext : ∀ c ∈ context.lastInput, IsLatin c)
    (hrefused : rule.perform? rules context (front ++ back) front = none) :
    rule.perform? rules context.decomposed (nfd (front ++ back)) (nfd front) = none := by
  obtain ⟨hlatinFront, hlatinBack⟩ := List.forall_mem_append.mp hlatin
  have hfront' : nfd front ≠ [] := mt nfd_eq_nil_iff.mp hfront
  cases h with
  | short => simp [perform?_literal] at hrefused
  | long => simp [perform?_literal] at hrefused
  | geminate => simp [perform?_geminate] at hrefused
  | @quoted vowel hmem =>
    obtain ⟨hfold, hvowel⟩ := foldChar_latin_of_mem_vowels script vowel hmem
    rw [perform?_quotedVowel hfront, hfold, ite_eq_right_iff] at hrefused
    rw [perform?_quotedVowel hfront', hfold, if_neg]
    intro hlast
    have hlast' := (lastFolded?_nfd hcontext (lt_of_mem_vowels _ hvowel)).mp hlast
    exact Option.some_ne_none _ (hrefused hlast')
  | nasal =>
    rw [perform?_doubledNasal hfront, List.drop_left, ite_eq_left_iff] at hrefused
    rw [perform?_doubledNasal hfront', nfd_append hlatinFront hlatinBack, List.drop_left, if_pos]
    obtain ⟨onset, honset, hstarts⟩ := not_imp_comm.mp hrefused (Option.some_ne_none _)
    exact ⟨onset, honset,
      startsWithFolded_nfd hlatinBack (lt_of_mem_syllableOnsets honset) hstarts⟩
  | prolonged => simp [perform?_prolongedVowel] at hrefused

/-- A text that is refused is refused in decomposed form. -/
theorem attempt_nfd_eq_none (hlatin : ∀ c ∈ t, IsLatin c)
    (hcontext : ∀ c ∈ context.lastInput, IsLatin c) (hfront : front ≠ []) (hinitial : front <+: t)
    (hrefused : (Converter.default.index script).attempt context t front = none) :
    (Converter.default.index script).attempt context.decomposed (nfd t) (nfd front) = none := by
  obtain ⟨back, rfl⟩ := hinitial
  obtain ⟨hlatinFront, -⟩ := List.forall_mem_append.mp hlatin
  rw [Index.attempt, Option.bind_eq_none_iff] at hrefused ⊢
  intro rule hrule
  rw [lookup?_nfd hlatinFront] at hrule
  exact (key_of_lookup? hlatinFront hfront hrule).1.perform?_nfd_eq_none hfront hlatin hcontext
    (hrefused rule hrule)

/-! ## Front parts of the decomposed text -/

/-- What is accepted up to a bare vowel is accepted with the long vowel in the text. Only a quote
stands by itself there. -/
theorem attempt_letter_of_attempt_vowel {long : LongVowel} (hlong : long ∈ longVowels)
    (hfront : ∀ c ∈ front, IsLatin c) (hcontext : ∀ c ∈ context.lastInput, IsLatin c)
    (haccepted : (Converter.default.index script).attempt context.decomposed (nfd t)
      (nfd (front ++ [long.vowel])) ≠ none) :
    (Converter.default.index script).attempt context t (front ++ [long.letter]) ≠ none ∨
      front = ['\x27'] ∧ ∃ vowel ∈ script.vowels, vowel.latin = foldChar long.vowel ∧
        lastFolded? context.lastInput = some vowel.latin := by
  obtain ⟨-, -, hvowel, -⟩ := LongVowel.bounds long hlong
  have hlatin : ∀ c ∈ front ++ [long.vowel], IsLatin c :=
    List.forall_mem_append.mpr ⟨hfront, List.forall_mem_singleton.mpr (Or.inl (by omega))⟩
  have hne : nfd (front ++ [long.vowel]) ≠ [] := mt nfd_eq_nil_iff.mp (by simp)
  rw [Index.attempt, lookup?_nfd hlatin] at haccepted
  cases hlooked : (Converter.default.index script).lookup? (front ++ [long.vowel]) with
  | none => simp [hlooked] at haccepted
  | some rule =>
    rw [hlooked, Option.bind_some] at haccepted
    rcases lookup?_letter_of_vowel hlong hfront hlooked with
      ⟨hquote, vowel, hmem, hlatinVowel, rfl⟩ | ⟨key, output, hlooked⟩
    · refine Or.inr ⟨hquote, vowel, hmem, hlatinVowel, ?_⟩
      obtain ⟨hfold, hvowel⟩ := foldChar_latin_of_mem_vowels script vowel hmem
      rw [perform?_quotedVowel hne, hfold, Ne, ite_eq_right_iff, Classical.not_imp] at haccepted
      exact (lastFolded?_nfd hcontext (lt_of_mem_vowels _ hvowel)).mp haccepted.1
    · rw [Index.attempt, hlooked]
      exact Or.inl (Option.some_ne_none _)

/-- What is accepted in the decomposed text is accepted in the text as well, and ends no later. Only
a quote before a long vowel is accepted where the text has none. -/
theorem exists_attempt_of_attempt_nfd (hlatin : ∀ c ∈ t, IsLatin c)
    (hcontext : ∀ c ∈ context.lastInput, IsLatin c) (hfront : front ≠ [])
    (hinitial : front <+: nfd t)
    (haccepted : (Converter.default.index script).attempt context.decomposed (nfd t) front ≠ none) :
    (∃ s, s ≠ [] ∧ s <+: t ∧ front.length ≤ (nfd s).length ∧
        (Converter.default.index script).attempt context t s ≠ none) ∨
      ∃ s, t = '\x27' :: s ∧ front.length = 2 ∧ ∃ vowel ∈ script.vowels,
        lastFolded? context.lastInput = some vowel.latin ∧
          firstFolded? (nfd s) = some vowel.latin := by
  -- the front part ends between two characters of the text, or cuts a long vowel before its mark
  rcases prefix_nfd hlatin hinitial with ⟨s, hs, rfl⟩ | ⟨s, long, hlong, hs, rfl⟩
  · have hne : s ≠ [] := mt nfd_eq_nil_iff.mpr hfront
    exact Or.inl ⟨s, hne, hs, le_rfl, mt (attempt_nfd_eq_none hlatin hcontext hne hs) haccepted⟩
  · have hletter : ∀ c ∈ s ++ [long.letter], IsLatin c := fun c hc => hlatin c (hs.subset hc)
    obtain ⟨hstem, hlast⟩ := List.forall_mem_append.mp hletter
    obtain ⟨-, -, hvowel, -⟩ := LongVowel.bounds long hlong
    have hform : nfd (s ++ [long.vowel]) = nfd s ++ [long.vowel] := by
      have hone : ∀ c ∈ [long.vowel], c.toNat < 0xC0 := List.forall_mem_singleton.mpr (by omega)
      rw [nfd_append hstem fun c hc => Or.inl (hone c hc),
        nfd_eq_self fun c hc => Or.inl (hone c hc)]
    rcases attempt_letter_of_attempt_vowel hlong hstem hcontext haccepted with
      haccepted | ⟨rfl, vowel, hmem, hlatinVowel, hbefore⟩
    · refine Or.inl ⟨_, by simp, hs, ?_, haccepted⟩
      rw [hform, nfd_append hstem hlast, nfd_of_latin hlast, List.flatMap_singleton,
        LongVowel.decomposeChar_letter long hlong, List.length_append, List.length_append]
      exact Nat.add_le_add_left (by simp) _
    · obtain ⟨rest, rfl⟩ := hs
      refine Or.inr ⟨long.letter :: rest, rfl, ?_, vowel, hmem, hbefore, ?_⟩
      · have hquote : nfd ['\x27'] = ['\x27'] := nfd_eq_self (by decide)
        rw [hform, hquote, List.singleton_append, List.length_cons, List.length_singleton]
      · rw [firstFolded?_nfd_cons (hlast _ List.mem_cons_self),
          LongVowel.decomposeChar_letter long hlong, hlatinVowel]
        rfl

/-! ## Steps -/

/-- A step on a quote takes the quote by itself, if it takes only one character. -/
theorem Applies.of_quote (happlies : Applies script context ('\x27' :: t) front rule)
    (hlength : (nfd front).length < 2) :
    ((Converter.default.index script).step context ('\x27' :: t)).taken = ['\x27'] ∧
      ((Converter.default.index script).step context ('\x27' :: t)).rest ('\x27' :: t) = t := by
  obtain ⟨s, rfl⟩ := Index.exists_cons_of_prefix happlies.decides.isFront happlies.decides.ne_nil
  rw [nfd_cons_of_lt (by decide), List.length_cons] at hlength
  obtain rfl : s = [] := nfd_eq_nil_iff.mp (List.length_eq_zero_iff.mp (by omega))
  obtain ⟨output, n, hpos, hle, hstep⟩ := happlies.exists_accept
  obtain rfl : n = 1 := Nat.le_antisymm hle hpos
  rw [hstep, Index.rest_accept, Step.accept]
  exact ⟨rfl, rfl⟩

/-- Where a rule takes the step on a text, and nothing depends on the form, the same front part
decides about the step on the decomposed text. -/
theorem Applies.step_nfd (happlies : Applies script context t front rule)
    (hlatin : ∀ c ∈ t, IsLatin c) (hcontext : ∀ c ∈ context.lastInput, IsLatin c)
    (hform : ¬ DependsOnForm script context.lastInput
      ((Converter.default.index script).step context t).taken
      (((Converter.default.index script).step context t).rest t)) :
    (Converter.default.index script).step context.decomposed (nfd t) =
      ((Converter.default.index script).step context t).decomposed := by
  have hisFront := happlies.decides.isFront
  have hfront : ∀ d ∈ front, IsLatin d := fun d hd => hlatin d (hisFront.subset hd)
  refine step_eq_of_decides (nfd front) ⟨mt nfd_eq_nil_iff.mp happlies.decides.ne_nil,
    nfd_prefix_nfd hlatin hisFront, ?_, fun longer hlonger hlength => ?_⟩
  · rw [Index.attempt, lookup?_nfd hfront, happlies.looked, Option.bind_some,
      happlies.perform?_nfd hlatin hcontext hform]
  · by_contra haccepted
    rcases exists_attempt_of_attempt_nfd hlatin hcontext (List.ne_nil_of_length_pos (by omega))
      hlonger haccepted with ⟨s, -, hs, hle, haccepted⟩ |
        ⟨s, rfl, htwo, vowel, hmem, hbefore, hafter⟩
    · -- the front part in the text is longer as well, so it was refused
      refine haccepted (happlies.decides.longest s hs ?_)
      by_contra hshort
      have hnested := List.prefix_of_prefix_length_le hs hisFront (by omega)
      have := (nfd_prefix_nfd hfront hnested).length_le
      omega
    · -- in the text the quote is taken by itself, which is what depends on the form
      obtain ⟨htaken, hrest⟩ := happlies.of_quote (htwo ▸ hlength)
      rw [htaken, hrest] at hform
      exact hform (.quote hmem rfl hbefore hafter)

/-- A long vowel does not pass through. -/
theorem attempt_letter_ne_none {long : LongVowel} (hlong : long ∈ longVowels) (script : Script)
    (context : Context) (t : Text) :
    (Converter.default.index script).attempt context t [long.letter] ≠ none := by
  obtain ⟨key, output, hlooked⟩ := lookup?_letter hlong script
  rw [Index.attempt, hlooked]
  exact Option.some_ne_none _

/-- What passes through in a text passes through in the decomposed text. -/
theorem step_nfd_of_passThrough (hlatin : ∀ d ∈ c :: t, IsLatin d)
    (hcontext : ∀ c ∈ context.lastInput, IsLatin c)
    (hrefused : ∀ front, front ≠ [] → front <+: c :: t →
      (Converter.default.index script).attempt context (c :: t) front = none) :
    (Converter.default.index script).step context.decomposed (nfd (c :: t)) =
      (Step.passThrough c).decomposed := by
  have hlt : c.toNat < 0xC0 := by
    rcases hlatin c List.mem_cons_self with hlt | ⟨long, hlong, rfl⟩
    · exact hlt
    · exact absurd (hrefused [long.letter] (by simp) (List.prefix_append _ t))
        (attempt_letter_ne_none hlong script context _)
  have hone : nfd [c] = [c] := nfd_eq_self (List.forall_mem_singleton.mpr (Or.inl hlt))
  rcases exists_applies_or_passThrough (Or.inl hlt) script context.decomposed (nfd t) with
    ⟨front, rule, happlies⟩ | ⟨-, hpass⟩
  · have hisFront := happlies.decides.isFront
    have haccepted := happlies.decides.accepted
    rw [← nfd_cons_of_lt hlt] at hisFront haccepted
    rcases exists_attempt_of_attempt_nfd hlatin hcontext happlies.decides.ne_nil hisFront
      (by rw [haccepted]; exact Option.some_ne_none _) with ⟨s, hne, hs, -, haccepted⟩ | ⟨s, hs, -⟩
    · exact absurd (hrefused s hne hs) haccepted
    · -- a quote has a rule of its own
      obtain ⟨rfl, -⟩ := List.cons.inj hs
      have hnone := hrefused ['\x27'] (by simp) (List.prefix_append _ t)
      rw [Index.attempt, lookup?_quote] at hnone
      exact absurd hnone (Option.some_ne_none _)
  · rw [nfd_cons_of_lt hlt, hpass, Step.decomposed, Context.decomposed, Step.passThrough]
    dsimp only
    rw [hone]

/-- Where nothing depends on the form, the steps on a text and on the decomposed text correspond. -/
theorem step_nfd (hne : t ≠ []) (hlatin : ∀ c ∈ t, IsLatin c)
    (hcontext : ∀ c ∈ context.lastInput, IsLatin c)
    (hform : ¬ DependsOnForm script context.lastInput
      ((Converter.default.index script).step context t).taken
      (((Converter.default.index script).step context t).rest t)) :
    (Converter.default.index script).step context.decomposed (nfd t) =
      ((Converter.default.index script).step context t).decomposed := by
  obtain ⟨c, s, rfl⟩ := List.exists_cons_of_ne_nil hne
  rcases exists_applies_or_passThrough (hlatin c List.mem_cons_self) script context s with
    ⟨front, rule, happlies⟩ | ⟨hrefused, hpass⟩
  · exact happlies.step_nfd hlatin hcontext hform
  · rw [hpass]
    exact step_nfd_of_passThrough hlatin hcontext hrefused

end Kana

end Syllabary
