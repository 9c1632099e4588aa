import Syllabary.Proofs.KanaLetters

/-!
# Halfwidth letters

A letter of half width stands alone or with a sound mark behind it, and either mark has a halfwidth
and a combining spelling. Whatever is found at such a letter is the letter, or the letter with a
mark that it takes. A letter is never a mark, so the longest text found is the letter with its mark,
if it has one, whatever letter follows. Words of such letters are read letter by letter, in any
mixture of the spellings.

## Main statements

* `eq_of_lookup?_halfwidth`: what is found at a halfwidth letter.
* `toHiragana_of_spellings`: words of halfwidth letters.
-/

namespace Syllabary.Kana

open Unicode
open scoped Text

variable {row : HalfwidthRow} {rule : Rule} {mark? mark?' : Option SoundMark}
  {letter : MarkedLetter} {letters : List MarkedLetter} {c : Char} {s t tail w : Text}
  {spelled : List Text}

/-! ## Spellings -/

/-- Behind a letter stands nothing or one mark. -/
theorem eq_nil_or_of_mem_markSpellings (h : tail ∈ markSpellings mark?) :
    tail = [] ∨ ∃ d ∈ soundMarks, tail = [d] := by
  have hmarks : ∀ mark? ∈ [none, some .voiced, some .semiVoiced], ∀ tail ∈ markSpellings mark?,
      tail = [] ∨ tail ∈ soundMarks.map fun d => [d] := by
    decide
  have htail : tail = [] ∨ tail ∈ soundMarks.map fun d => [d] := by
    obtain _ | _ | _ := mark? <;> exact hmarks _ (by simp) tail h
  exact htail.imp_right fun hmem => by simpa [eq_comm] using hmem

/-- A spelling tells the mark. -/
theorem eq_of_mem_markSpellings (h : tail ∈ markSpellings mark?)
    (h' : tail ∈ markSpellings mark?') : mark?' = mark? := by
  have hmarks : ∀ mark? ∈ [none, some .voiced, some .semiVoiced],
      ∀ mark?' ∈ [none, some .voiced, some .semiVoiced], ∀ tail ∈ markSpellings mark?,
        tail ∈ markSpellings mark?' → mark?' = mark? := by
    decide
  obtain _ | _ | _ := mark? <;> obtain _ | _ | _ := mark?' <;>
    exact hmarks _ (by simp) _ (by simp) tail h h'

/-! ## The letters of the default table -/

theorem exists_katakana_eq (hrow : row ∈ Table.default.halfwidth) :
    ∃ c, row.katakana = [c] ∧ IsLetter c := by
  have hrows : ∀ row ∈ Table.default.halfwidth,
      row.katakana.length = 1 ∧ ∀ c ∈ row.katakana, IsLetter c := by
    decide +kernel
  obtain ⟨hlength, hletter⟩ := hrows row hrow
  obtain ⟨c, hc⟩ := List.length_eq_one_iff.mp hlength
  exact ⟨c, hc, hletter c (hc ▸ List.mem_cons_self)⟩

theorem eq_of_katakana_eq : ∀ row ∈ Table.default.halfwidth, ∀ other ∈ Table.default.halfwidth,
    other.katakana = row.katakana → other = row := by
  decide +kernel

/-- The sections whose rules for kana are not derived. -/
def listedKana : RuleSet :=
  .concat [katakanaRows Table.default.kana, katakanaRows Table.default.smallKana,
    extraRules Table.default.katakanaExtra, katakanaRows Table.default.rareKatakana]

theorem mem_fromKana_hiragana_iff :
    rule ∈ fromKana .default .hiragana ↔
      rule ∈ listedKana ∨ ∃ row ∈ Table.default.halfwidth, rule ∈ row.rules := by
  simp [fromKana, Script.pick, katakanaToHiragana, listedKana, RuleSet.concat, or_assoc]

/-- The rules that claim a text with a halfwidth letter in front are those of the letter, and they
claim no other form of their keys. The mark of long vowels is listed twice, with one rule. -/
theorem mem_rules_of_claims (hrule : rule ∈ fromKana .default .hiragana)
    (hclaims : rule.Claims .unicode (c :: t)) (hrow : row ∈ Table.default.halfwidth)
    (hc : row.katakana = [c]) : rule ∈ row.rules ∧ rule.key = c :: t := by
  have hlisted : ∀ rule ∈ listedKana, ∀ form ∈ Normalizer.unicode.forms rule.key,
      ∀ row ∈ Table.default.halfwidth, row.katakana = form.take 1 →
        form = rule.key ∧ rule.key = row.katakana ∧ rule.output? = some row.hiragana := by
    decide +kernel
  have hderived : ∀ row ∈ Table.default.halfwidth, ∀ rule ∈ row.rules,
      ∀ form ∈ Normalizer.unicode.forms rule.key, form = rule.key ∧ form.take 1 = row.katakana := by
    decide +kernel
  have hform := Rule.mem_forms_iff_claims.mpr hclaims
  rcases mem_fromKana_hiragana_iff.mp hrule with hmem | ⟨other, hother, hmem⟩
  · obtain ⟨hkey, hbare, houtput⟩ := hlisted rule hmem _ hform row hrow hc
    obtain ⟨key, output, rfl⟩ := exists_literal_of_mem_fromKana hrule
    rw [key_literal] at hbare
    refine ⟨HalfwidthRow.mem_rules_iff.mpr ⟨none, ?_, key, ?_, ?_⟩, hkey.symm⟩
    · cases row.voicing <;> simp [Voicing.marks]
    · exact HalfwidthRow.mem_spellings_iff.mpr ⟨[], List.mem_cons_self, by simp [hbare]⟩
    · rw [Option.some.inj houtput]
      rfl
  · obtain ⟨hkey, hhead⟩ := hderived other hother rule hmem _ hform
    have heq : other = row := eq_of_katakana_eq row hrow other hother (hhead.symm.trans hc.symm)
    exact ⟨heq ▸ hmem, hkey.symm⟩

/-! ## Lookups -/

theorem isUncased_of_mem_soundMarks : ∀ d ∈ soundMarks, IsUncased d := by decide

/-- The characters of a spelling are a letter and marks. -/
theorem isUncased_of_mem_spellings (hrow : row ∈ Table.default.halfwidth)
    (hs : s ∈ row.spellings mark?) : ∀ d ∈ s, IsUncased d := by
  obtain ⟨c, hc, hletter⟩ := exists_katakana_eq hrow
  obtain ⟨tail, htail, rfl⟩ := HalfwidthRow.mem_spellings_iff.mp hs
  rw [hc, List.singleton_append, List.forall_mem_cons]
  refine ⟨hletter.1, ?_⟩
  rcases eq_nil_or_of_mem_markSpellings htail with rfl | ⟨d, hd, rfl⟩
  · exact List.forall_mem_nil _
  · exact List.forall_mem_singleton.mpr (isUncased_of_mem_soundMarks d hd)

/-- At a halfwidth letter the letter is found, alone or with a mark that it takes. -/
theorem eq_of_lookup?_halfwidth (hrow : row ∈ Table.default.halfwidth) (hc : row.katakana = [c])
    (ht : ∀ d ∈ c :: t, IsUncased d)
    (h : (Converter.default.index .hiragana).lookup? (c :: t) = some rule) :
    ∃ mark? ∈ row.voicing.marks, c :: t ∈ row.spellings mark? ∧
      rule = .literal (c :: t) (row.reading mark?) := by
  rw [lookup?_eq_owner?, lowercase_of_uncased ht] at h
  obtain ⟨before, after, hset, hclaims, -⟩ := RuleSet.owner?_eq_some_iff.mp h
  have hmem : rule ∈ Converter.ruleSet .default [] .hiragana :=
    hset ▸ List.mem_append_right before List.mem_cons_self
  rcases mem_ruleSet_cases hmem with hkana | hromaji
  · obtain ⟨hrule, hkey⟩ := mem_rules_of_claims hkana hclaims hrow hc
    obtain ⟨mark?, hmark, s, hs, rfl⟩ := HalfwidthRow.mem_rules_iff.mp hrule
    rw [key_literal] at hkey
    subst hkey
    exact ⟨mark?, hmark, hs, rfl⟩
  · -- romaji lies below all kana
    have hlt := (hromaji.form_of_claims hclaims).1 c List.mem_cons_self
    have hle := (ht c List.mem_cons_self).le
    omega

/-- Every spelling of a marked letter is found for its reading. -/
theorem lookup?_spelling (hrow : letter.row ∈ Table.default.halfwidth)
    (hs : s ∈ letter.spellings) :
    (Converter.default.index .hiragana).lookup? s = some (.literal s letter.reading) := by
  obtain ⟨c, hc, -⟩ := exists_katakana_eq hrow
  have huncased := isUncased_of_mem_spellings hrow hs
  have hmem : Rule.literal s letter.reading ∈ fromKana .default .hiragana :=
    mem_fromKana_hiragana_iff.mpr (Or.inr ⟨letter.row, hrow,
      HalfwidthRow.mem_rules_iff.mpr ⟨letter.mark?, letter.admitted, s, hs, rfl⟩⟩)
  obtain ⟨found, hfound⟩ := exists_lookup?_of_mem (t := s) (mem_ruleSet_of_mem_fromKana hmem)
    (Or.inl (by rw [lowercase_of_uncased huncased, key_literal]))
  obtain ⟨tail, htail, rfl⟩ := HalfwidthRow.mem_spellings_iff.mp hs
  rw [hc, List.singleton_append] at hfound huncased ⊢
  obtain ⟨mark?, -, hother, rfl⟩ := eq_of_lookup?_halfwidth hrow hc huncased hfound
  obtain ⟨tail', htail', heq⟩ := HalfwidthRow.mem_spellings_iff.mp hother
  rw [hc, List.singleton_append, List.cons.injEq] at heq
  have hmark : mark? = letter.mark? := eq_of_mem_markSpellings htail (heq.2 ▸ htail')
  rw [hfound, hmark]
  rfl

/-! ## Steps -/

/-- A marked letter is taken as it is spelled, if no mark stands behind it. -/
theorem step_spelling (hrow : letter.row ∈ Table.default.halfwidth) (hs : s ∈ letter.spellings)
    (hw : ∀ d ∈ w, IsUncased d) (hhead : ∀ d ∈ w.head?, d ∉ soundMarks) (context : Context) :
    (Converter.default.index .hiragana).step context (s ++ w) =
      .accept (s ++ w) s letter.reading s.length none := by
  obtain ⟨c, hc, -⟩ := exists_katakana_eq hrow
  have hlooked := lookup?_spelling hrow hs
  have huncased := isUncased_of_mem_spellings hrow hs
  obtain ⟨tail, htail, rfl⟩ := HalfwidthRow.mem_spellings_iff.mp hs
  rw [hc, List.singleton_append] at hlooked huncased ⊢
  refine step_eq_of_decides (c :: tail) ⟨List.cons_ne_nil c tail, ⟨w, rfl⟩, ?_, ?_⟩
  · rw [Index.attempt, hlooked, Option.bind_some, perform?_literal]
  · intro longer hfront hlength
    obtain ⟨t, rfl⟩ := Index.exists_cons_of_prefix hfront (List.ne_nil_of_length_pos (by omega))
    have hchars : ∀ d ∈ c :: t, IsUncased d := fun d hd =>
      (List.mem_append.mp (hfront.subset hd)).elim (huncased d) (hw d)
    rw [Index.attempt, Option.bind_eq_none_iff]
    intro rule hrule
    -- a longer text ends in a mark, which stands behind the spelling
    exfalso
    obtain ⟨mark?, -, hother, -⟩ := eq_of_lookup?_halfwidth hrow hc hchars hrule
    obtain ⟨tail', htail', heq⟩ := HalfwidthRow.mem_spellings_iff.mp hother
    rw [hc, List.singleton_append, List.cons.injEq] at heq
    obtain ⟨-, rfl⟩ := heq
    rcases eq_nil_or_of_mem_markSpellings htail' with rfl | ⟨d, hd, rfl⟩
    · simp at hlength
    · rw [List.length_cons, List.length_cons, List.length_singleton] at hlength
      obtain rfl : tail = [] := List.length_eq_zero_iff.mp (by omega)
      obtain ⟨rest, rfl⟩ : [d] <+: w := (List.cons_prefix_cons.mp hfront).2
      exact hhead d rfl hd

/-! ## Words -/

variable (hrows : ∀ letter ∈ letters, letter.row ∈ Table.default.halfwidth)
  (hspelled : List.Forall₂ (fun s letter => s ∈ letter.spellings) spelled letters)

include hrows hspelled

theorem isUncased_of_mem_flatten : ∀ d ∈ spelled.flatten, IsUncased d := by
  induction hspelled with
  | nil => simp
  | cons hs _ ih =>
    obtain ⟨hrow, hrows⟩ := List.forall_mem_cons.mp hrows
    rw [List.flatten_cons]
    exact List.forall_mem_append.mpr ⟨isUncased_of_mem_spellings hrow hs, ih hrows⟩

/-- A word begins with a letter, not with a mark. -/
theorem not_mem_soundMarks_of_mem_head? : ∀ d ∈ spelled.flatten.head?, d ∉ soundMarks := by
  cases hspelled with
  | nil => simp
  | cons hs _ =>
    obtain ⟨c, hc, hletter⟩ := exists_katakana_eq (hrows _ List.mem_cons_self)
    obtain ⟨tail, -, rfl⟩ := HalfwidthRow.mem_spellings_iff.mp hs
    rw [List.flatten_cons, hc]
    intro d hd
    rw [← Option.some.inj hd]
    exact hletter.2

theorem outputs_of_spellings (context : Context) :
    (Converter.default.index .hiragana).outputs context spelled.flatten =
      letters.flatMap MarkedLetter.reading := by
  induction hspelled generalizing context with
  | nil => simp
  | @cons s letter spelled letters hs hrest ih =>
    obtain ⟨hrow, hrows⟩ := List.forall_mem_cons.mp hrows
    have hne : s ++ spelled.flatten ≠ [] := by
      obtain ⟨c, hc, -⟩ := exists_katakana_eq hrow
      obtain ⟨tail, -, rfl⟩ := HalfwidthRow.mem_spellings_iff.mp hs
      simp [hc]
    rw [List.flatten_cons, Index.outputs_of_step_eq hne (step_spelling hrow hs
      (isUncased_of_mem_flatten hrows hrest) (not_mem_soundMarks_of_mem_head? hrows hrest) context),
      List.drop_left, ih hrows, List.flatMap_cons]

omit hrows hspelled

/-- Words of halfwidth letters, with and without the marks that they take, are read letter by
letter. The spellings of the marks, which may be mixed, do not count. -/
theorem toHiragana_of_spellings (letters : List MarkedLetter)
    (hrows : ∀ letter ∈ letters, letter.row ∈ Table.default.halfwidth) :
    (∀ spelled, List.Forall₂ (fun s letter => s ∈ letter.spellings) spelled letters →
      Converter.default.toHiragana spelled.flatten = letters.flatMap MarkedLetter.reading) ∧
    ∀ spelled spelled', List.Forall₂ (fun s letter => s ∈ letter.spellings) spelled letters →
      List.Forall₂ (fun s letter => s ∈ letter.spellings) spelled' letters →
        Converter.default.toHiragana spelled.flatten =
          Converter.default.toHiragana spelled'.flatten := by
  have hreading : ∀ spelled, List.Forall₂ (fun s letter => s ∈ letter.spellings) spelled letters →
      Converter.default.toHiragana spelled.flatten = letters.flatMap MarkedLetter.reading := by
    intro spelled hspelled
    exact (convert_default .hiragana spelled.flatten).trans
      (outputs_of_spellings hrows hspelled .fresh)
  exact ⟨hreading, fun spelled spelled' hspelled hspelled' =>
    (hreading spelled hspelled).trans (hreading spelled' hspelled').symm⟩

/-- A letter of each kind, the marks once of half width and once combining. -/
theorem toHiragana_of_spellings_pagana :
    let ha : MarkedLetter := ⟨⟨['は'], ['ﾊ'], .semiVoiced⟩, some .semiVoiced, by decide⟩
    let ga : MarkedLetter := ⟨⟨['か'], ['ｶ'], .voiced⟩, some .voiced, by decide⟩
    let wa : MarkedLetter := ⟨⟨['わ'], ['ﾜ'], .voiced⟩, some .voiced, by decide⟩
    let na : MarkedLetter := ⟨⟨['な'], ['ﾅ'], .plain⟩, none, by decide⟩
    let letters := [ha, ga, na, wa]
    let spelled := [['ﾊ', '\uFF9F'], ['ｶ', '\u3099'], ['ﾅ'], ['ﾜ', '\uFF9E']]
    let spelled' := [['ﾊ', '\u309A'], ['ｶ', '\uFF9E'], ['ﾅ'], ['ﾜ', '\u3099']]
    (∀ letter ∈ letters, letter.row ∈ Table.default.halfwidth) ∧
      List.Forall₂ (fun s letter => s ∈ letter.spellings) spelled letters ∧
      List.Forall₂ (fun s letter => s ∈ letter.spellings) spelled' letters ∧
      Converter.default.toHiragana spelled.flatten = ['ぱ', 'が', 'な', 'わ', '\u3099'] ∧
      Converter.default.toHiragana spelled.flatten =
        Converter.default.toHiragana spelled'.flatten := by
  intro ha ga wa na letters spelled spelled'
  have hrows : ∀ letter ∈ letters, letter.row ∈ Table.default.halfwidth := by
    simp only [letters, List.forall_mem_cons]
    decide
  have hspelled : List.Forall₂ (fun s letter => s ∈ letter.spellings) spelled letters :=
    .cons (by decide) (.cons (by decide) (.cons (by decide) (.cons (by decide) .nil)))
  have hspelled' : List.Forall₂ (fun s letter => s ∈ letter.spellings) spelled' letters :=
    .cons (by decide) (.cons (by decide) (.cons (by decide) (.cons (by decide) .nil)))
  obtain ⟨hreading, hsame⟩ := toHiragana_of_spellings letters hrows
  refine ⟨hrows, hspelled, hspelled', ?_, hsame spelled spelled' hspelled hspelled'⟩
  rw [hreading spelled hspelled]
  decide +kernel

end Syllabary.Kana
