import Syllabary.Kana.Converter
import Syllabary.Proofs.Equivalence
import Syllabary.Proofs.LatinText
import Syllabary.Proofs.Longest
import Syllabary.Proofs.MarkedLetters

/-!
# Rules for romaji

The rules of a script fall into two parts. Those for kana have keys that no Latin text meets in any
spelling. Those for romaji are of six kinds (`RomajiRule`): entries of the table, the entries with a
long vowel, doubled consonants, vowels behind a quote, the doubled nasal, and prolonged vowels.
-/

namespace Syllabary.Kana

open Unicode

variable {table : Table} {script : Script} {rule : Rule}

/-! ## The rules of a table -/

/-- The romaji of a table with what it is written as. -/
def Table.romajiEntries (table : Table) (script : Script) : List (Text × Text) :=
  (table.kana ++ table.digraphs ++ table.ime).map (fun row => (row.romaji, row.inScript script)) ++
    table.punctuation.map fun row => (row.romaji, row.kana)

/-- The rules that write a script for the other one. -/
def fromKana (table : Table) (script : Script) : RuleSet :=
  script.pick (katakanaToHiragana table) (hiraganaToKatakana table)

/-- The rules for runs of vowels. Hiragana has none. -/
def vowelRuns (script : Script) : RuleSet := script.pick [] (prolongedVowels .katakana)

/-- The rules for romaji. -/
inductive RomajiRule (table : Table) (script : Script) : Rule → Prop
  | short {key output : Text} (hentry : (key, output) ∈ table.romajiEntries script) :
      RomajiRule table script (.literal key output)
  | long {stem output : Text} {long : LongVowel} (hlong : long ∈ longVowels)
      (hentry : (stem ++ [long.vowel], output) ∈ table.romajiEntries script) :
      RomajiRule table script
        (.literal (stem ++ [long.letter]) (output ++ prolongedSoundMark))
  | geminate {consonant : Char} (hconsonant : consonant ∈ geminateConsonants) :
      RomajiRule table script (.geminate consonant script.geminateMarker)
  | quoted {vowel : Vowel} (hvowel : vowel ∈ script.vowels) :
      RomajiRule table script (.quotedVowel vowel.latin vowel.kana)
  | nasal : RomajiRule table script (doubledNasal script)
  | prolonged {vowel : Vowel} (hscript : script = .katakana) (hvowel : vowel ∈ script.vowels) :
      RomajiRule table script (.prolongedVowel vowel.latin vowel.kana prolongedSoundMark)

theorem ruleSet_eq (table : Table) (script : Script) :
    Converter.ruleSet table [] script =
      fromKana table script ++ (romajiToKana table script ++ vowelRuns script) := by
  cases script <;>
    simp [Converter.ruleSet, RuleSet.concat, Table.rules, fromKana, vowelRuns, Script.pick]

theorem index_default (script : Script) :
    Converter.default.index script =
      .ofRules .unicode (Converter.ruleSet .default [] script) := by
  cases script <;> rfl

/-- The texts of a row are texts of its section. -/
theorem mem_texts_of_mem_rows {s : Section} {rows : List Row}
    (hs : table.texts s = rows.flatMap Row.texts) {row : Row} (hrow : row ∈ rows) :
    row.hiragana ∈ table.texts s ∧ row.katakana ∈ table.texts s ∧ row.romaji ∈ table.texts s := by
  have htexts : ∀ t ∈ row.texts, t ∈ table.texts s := fun t ht =>
    hs ▸ List.mem_flatMap.mpr ⟨row, hrow, ht⟩
  simpa [Row.texts] using htexts

theorem mem_texts_of_mem_extraRows {s : Section} {rows : List ExtraRow}
    (hs : table.texts s = rows.flatMap ExtraRow.texts) {row : ExtraRow} (hrow : row ∈ rows) :
    row.source ∈ table.texts s ∧ row.target ∈ table.texts s := by
  have htexts : ∀ t ∈ row.texts, t ∈ table.texts s := fun t ht =>
    hs ▸ List.mem_flatMap.mpr ⟨row, hrow, ht⟩
  simpa [ExtraRow.texts] using htexts

/-- A rule for kana pairs two texts of a section, or it is derived for a halfwidth letter. -/
theorem mem_fromKana_cases (h : rule ∈ fromKana table script) :
    (∃ s, ∃ key ∈ table.texts s, ∃ output ∈ table.texts s, rule = .literal key output) ∨
      ∃ row ∈ table.halfwidth, rule ∈ row.rules := by
  cases script with
  | hiragana =>
    simp only [fromKana, Script.pick, katakanaToHiragana, RuleSet.concat, List.flatten_cons,
      List.flatten_nil, List.append_nil, List.mem_append, katakanaRows, extraRules, List.mem_map,
      List.mem_flatMap] at h
    rcases h with ⟨row, hrow, rfl⟩ | ⟨row, hrow, rfl⟩ | ⟨row, hrow, rfl⟩ | ⟨row, hrow, rfl⟩ | h
    · exact Or.inl ⟨.kana, _, (mem_texts_of_mem_rows rfl hrow).2.1, _,
        (mem_texts_of_mem_rows rfl hrow).1, rfl⟩
    · exact Or.inl ⟨.smallKana, _, (mem_texts_of_mem_rows rfl hrow).2.1, _,
        (mem_texts_of_mem_rows rfl hrow).1, rfl⟩
    · exact Or.inl ⟨.katakanaExtra, _, (mem_texts_of_mem_extraRows rfl hrow).1, _,
        (mem_texts_of_mem_extraRows rfl hrow).2, rfl⟩
    · exact Or.inl ⟨.rareKatakana, _, (mem_texts_of_mem_rows rfl hrow).2.1, _,
        (mem_texts_of_mem_rows rfl hrow).1, rfl⟩
    · exact Or.inr h
  | katakana =>
    simp only [fromKana, Script.pick, hiraganaToKatakana, RuleSet.concat, List.flatten_cons,
      List.flatten_nil, List.append_nil, List.mem_append, hiraganaRows, extraRules,
      List.mem_map] at h
    rcases h with ⟨row, hrow, rfl⟩ | ⟨row, hrow, rfl⟩ | ⟨row, hrow, rfl⟩
    · exact Or.inl ⟨.kana, _, (mem_texts_of_mem_rows rfl hrow).1, _,
        (mem_texts_of_mem_rows rfl hrow).2.1, rfl⟩
    · exact Or.inl ⟨.smallKana, _, (mem_texts_of_mem_rows rfl hrow).1, _,
        (mem_texts_of_mem_rows rfl hrow).2.1, rfl⟩
    · exact Or.inl ⟨.hiraganaExtra, _, (mem_texts_of_mem_extraRows rfl hrow).1, _,
        (mem_texts_of_mem_extraRows rfl hrow).2, rfl⟩

/-- A rule for kana writes a fixed output. -/
theorem exists_literal_of_mem_fromKana (h : rule ∈ fromKana table script) :
    ∃ key output, rule = .literal key output := by
  rcases mem_fromKana_cases h with ⟨s, key, -, output, -, rfl⟩ | ⟨row, -, hrule⟩
  · exact ⟨key, output, rfl⟩
  · obtain ⟨mark?, -, spelling, -, rfl⟩ := HalfwidthRow.mem_rules_iff.mp hrule
    exact ⟨spelling, row.reading mark?, rfl⟩

/-- An entry of romaji pairs two texts of a section. -/
theorem exists_section_of_mem_romajiEntries {entry : Text × Text}
    (h : entry ∈ table.romajiEntries script) :
    ∃ s, entry.1 ∈ table.texts s ∧ entry.2 ∈ table.texts s := by
  have hpair {s : Section} {rows : List Row} (hs : table.texts s = rows.flatMap Row.texts)
      {row : Row} (hrow : row ∈ rows) :
      row.romaji ∈ table.texts s ∧ row.inScript script ∈ table.texts s := by
    obtain ⟨hhiragana, hkatakana, hromaji⟩ := mem_texts_of_mem_rows hs hrow
    cases script with
    | hiragana => exact ⟨hromaji, hhiragana⟩
    | katakana => exact ⟨hromaji, hkatakana⟩
  simp only [Table.romajiEntries, List.mem_append, List.mem_map] at h
  rcases h with ⟨row, (hrow | hrow) | hrow, rfl⟩ | ⟨row, hrow, rfl⟩
  · exact ⟨.kana, hpair rfl hrow⟩
  · exact ⟨.digraphs, hpair rfl hrow⟩
  · exact ⟨.ime, hpair rfl hrow⟩
  · have htexts : ∀ t ∈ row.texts, t ∈ table.texts .punctuation := fun t ht =>
      List.mem_flatMap.mpr ⟨row, hrow, ht⟩
    exact ⟨.punctuation, by simpa [PunctuationRow.texts] using htexts⟩

theorem mem_shortRomaji_iff :
    rule ∈ shortRomaji table script ↔
      (∃ entry ∈ table.romajiEntries script, rule = .literal entry.1 entry.2) ∨
      (∃ consonant ∈ geminateConsonants, rule = .geminate consonant script.geminateMarker) ∨
      (∃ vowel ∈ script.vowels, rule = .quotedVowel vowel.latin vowel.kana) ∨
      rule = doubledNasal script := by
  simp only [shortRomaji, RuleSet.concat, romajiRows, punctuationRules, RuleSet.geminates,
    quotedVowels, Table.romajiEntries, List.flatten_cons, List.flatten_nil, List.append_nil,
    List.mem_append, List.mem_map, List.mem_singleton]
  constructor
  · rintro (⟨row, hrow, rfl⟩ | ⟨row, hrow, rfl⟩ | ⟨row, hrow, rfl⟩ | ⟨c, hc, rfl⟩ |
      ⟨vowel, hvowel, rfl⟩ | ⟨row, hrow, rfl⟩ | rfl)
    · exact Or.inl ⟨_, Or.inl ⟨row, Or.inl (Or.inl hrow), rfl⟩, rfl⟩
    · exact Or.inl ⟨_, Or.inl ⟨row, Or.inl (Or.inr hrow), rfl⟩, rfl⟩
    · exact Or.inl ⟨_, Or.inr ⟨row, hrow, rfl⟩, rfl⟩
    · exact Or.inr (Or.inl ⟨c, hc, rfl⟩)
    · exact Or.inr (Or.inr (Or.inl ⟨vowel, hvowel, rfl⟩))
    · exact Or.inl ⟨_, Or.inl ⟨row, Or.inr hrow, rfl⟩, rfl⟩
    · exact Or.inr (Or.inr (Or.inr rfl))
  · rintro (⟨entry, ⟨row, (hrow | hrow) | hrow, rfl⟩ | ⟨row, hrow, rfl⟩, rfl⟩ | ⟨c, hc, rfl⟩ |
      ⟨vowel, hvowel, rfl⟩ | rfl)
    · exact Or.inl ⟨row, hrow, rfl⟩
    · exact Or.inr (Or.inl ⟨row, hrow, rfl⟩)
    · exact Or.inr (Or.inr (Or.inr (Or.inr (Or.inr (Or.inl ⟨row, hrow, rfl⟩)))))
    · exact Or.inr (Or.inr (Or.inl ⟨row, hrow, rfl⟩))
    · exact Or.inr (Or.inr (Or.inr (Or.inl ⟨c, hc, rfl⟩)))
    · exact Or.inr (Or.inr (Or.inr (Or.inr (Or.inl ⟨vowel, hvowel, rfl⟩))))
    · exact Or.inr (Or.inr (Or.inr (Or.inr (Or.inr (Or.inr rfl)))))

/-! ## Long vowels -/

/-- The variants that the table of long vowels gives to a vowel, circumflex first. -/
theorem exists_of_longVowels? {vowel circumflex macron : Char}
    (h : longVowels? vowel = some (circumflex, macron)) :
    ⟨circumflex, vowel, '\u0302'⟩ ∈ longVowels ∧ ⟨macron, vowel, '\u0304'⟩ ∈ longVowels := by
  unfold longVowels? at h
  split at h <;> cases h <;> decide

theorem longVowels?_vowel : ∀ long ∈ longVowels,
    ∃ letters ∈ longVowels? long.vowel, long.letter = letters.1 ∨ long.letter = letters.2 := by
  decide

/-- The variants of a rule are those of a literal rule whose key ends in a vowel. -/
theorem mem_longVowelVariants_iff {base : Rule} {mark : Text} :
    rule ∈ base.longVowelVariants mark ↔
      ∃ stem output stride?, ∃ long ∈ longVowels,
        base = ⟨stem ++ [long.vowel], .literal output stride?⟩ ∧
        rule = ⟨stem ++ [long.letter], .literal (output ++ mark) stride?⟩ := by
  obtain ⟨key, action⟩ := base
  constructor
  · intro h
    unfold Rule.longVowelVariants at h
    split at h
    · next output stride? circumflex macron haction hletters =>
      obtain ⟨vowel, hvowel, hletters⟩ := Option.bind_eq_some_iff.mp hletters
      obtain ⟨hcircumflex, hmacron⟩ := exists_of_longVowels? hletters
      obtain ⟨stem, rfl⟩ := List.getLast?_eq_some_iff.mp hvowel
      simp only at haction
      subst haction
      rcases List.mem_pair.mp h with rfl | rfl
      · exact ⟨stem, output, stride?, _, hcircumflex, rfl, by simp [Rule.lengthened]⟩
      · exact ⟨stem, output, stride?, _, hmacron, rfl, by simp [Rule.lengthened]⟩
    · simp at h
  · rintro ⟨stem, output, stride?, long, hlong, hbase, rfl⟩
    obtain ⟨rfl, rfl⟩ := (Rule.mk.injEq ..).mp hbase
    obtain ⟨⟨circumflex, macron⟩, hletters, hletter⟩ := longVowels?_vowel long hlong
    have hlast : (stem ++ [long.vowel]).getLast?.bind longVowels? = some (circumflex, macron) := by
      rw [List.getLast?_concat, Option.bind_some]
      exact hletters
    simp only [Rule.longVowelVariants, hlast, Rule.lengthened, List.dropLast_concat,
      List.mem_cons, List.not_mem_nil, or_false]
    rcases hletter with hletter | hletter
    · exact Or.inl (by rw [hletter])
    · exact Or.inr (by rw [hletter])

theorem vowel_not_mem_geminateConsonants : ∀ long ∈ longVowels,
    long.vowel ∉ geminateConsonants := by
  decide

/-- The rules for romaji are of the six kinds. -/
theorem mem_romajiToKana_append_vowelRuns_iff :
    rule ∈ romajiToKana table script ++ vowelRuns script ↔ RomajiRule table script rule := by
  rw [List.mem_append, romajiToKana, RuleSet.longVowelVariants, RuleSet.transform, List.mem_flatMap]
  constructor
  · rintro (⟨base, hbase, hrule⟩ | hrule)
    · rw [mem_shortRomaji_iff] at hbase
      rcases List.mem_cons.mp hrule with rfl | hvariant
      · rcases hbase with ⟨entry, hentry, rfl⟩ | ⟨c, hc, rfl⟩ | ⟨vowel, hvowel, rfl⟩ | rfl
        · exact .short hentry
        · exact .geminate hc
        · exact .quoted hvowel
        · exact .nasal
      · -- only an entry is literal and ends in a vowel
        obtain ⟨stem, output, stride?, long, hlong, hkey, rfl⟩ :=
          mem_longVowelVariants_iff.mp hvariant
        rcases hbase with ⟨entry, hentry, rfl⟩ | ⟨c, hc, rfl⟩ | ⟨vowel, hvowel, rfl⟩ | rfl
        · obtain ⟨key, short⟩ := entry
          simp only [Rule.literal, Rule.mk.injEq, Action.literal.injEq] at hkey
          obtain ⟨rfl, rfl, rfl⟩ := hkey
          exact .long hlong hentry
        · simp only [Rule.geminate, Rule.literalWithLength, Rule.mk.injEq] at hkey
          have hlast := congrArg List.getLast? hkey.1
          rw [List.getLast?_concat, List.getLast?_cons_cons, List.getLast?_singleton,
            Option.some.injEq] at hlast
          exact absurd (hlast ▸ hc) (vowel_not_mem_geminateConsonants long hlong)
        · simp [Rule.quotedVowel, Rule.computedWithOutput] at hkey
        · simp [doubledNasal, Rule.syllabicNasal, Rule.computedWithOutput] at hkey
    · cases script with
      | hiragana => simp [vowelRuns, Script.pick] at hrule
      | katakana =>
        obtain ⟨vowel, hvowel, rfl⟩ := List.mem_map.mp hrule
        exact .prolonged rfl hvowel
  · intro h
    cases h with
    | short hentry =>
      exact Or.inl ⟨_, mem_shortRomaji_iff.mpr (Or.inl ⟨_, hentry, rfl⟩), List.mem_cons_self⟩
    | long hlong hentry =>
      refine Or.inl ⟨_, mem_shortRomaji_iff.mpr (Or.inl ⟨_, hentry, rfl⟩), ?_⟩
      exact List.mem_cons_of_mem _
        (mem_longVowelVariants_iff.mpr ⟨_, _, _, _, hlong, rfl, rfl⟩)
    | geminate hc =>
      exact Or.inl ⟨_, mem_shortRomaji_iff.mpr (Or.inr (Or.inl ⟨_, hc, rfl⟩)), List.mem_cons_self⟩
    | quoted hvowel =>
      exact Or.inl ⟨_, mem_shortRomaji_iff.mpr (Or.inr (Or.inr (Or.inl ⟨_, hvowel, rfl⟩))),
        List.mem_cons_self⟩
    | nasal =>
      exact Or.inl ⟨_, mem_shortRomaji_iff.mpr (Or.inr (Or.inr (Or.inr rfl))), List.mem_cons_self⟩
    | prolonged hscript hvowel =>
      subst hscript
      exact Or.inr (List.mem_map.mpr ⟨_, hvowel, rfl⟩)

/-! ## What the rules do -/

@[simp] theorem key_literal (key output : Text) : (Rule.literal key output).key = key := rfl

@[simp] theorem key_geminate (consonant : Char) (marker : Text) :
    (Rule.geminate consonant marker).key = [consonant, consonant] := rfl

@[simp] theorem key_quotedVowel (vowel : Char) (output : Text) :
    (Rule.quotedVowel vowel output).key = ['\x27', foldChar vowel] := rfl

@[simp] theorem key_doubledNasal (script : Script) : (doubledNasal script).key = ['n', 'n'] := rfl

@[simp] theorem key_prolongedVowel (vowel : Char) (output mark : Text) :
    (Rule.prolongedVowel vowel output mark).key = [foldChar vowel] := rfl

section

variable {rules : RuleView} {context : Context} {input trigger : Text} {step : Step}

theorem perform?_literal (key output : Text) :
    (Rule.literal key output).perform? rules context input trigger =
      some (.accept input trigger output trigger.length none) := rfl

theorem perform?_geminate (consonant : Char) (marker : Text) :
    (Rule.geminate consonant marker).perform? rules context input trigger =
      some (.accept input trigger marker 1 none) := rfl

theorem perform?_quotedVowel (htrigger : trigger ≠ []) (vowel : Char) (output : Text) :
    (Rule.quotedVowel vowel output).perform? rules context input trigger =
      if lastFolded? context.lastInput = some (foldChar vowel) then
        some (.accept input trigger output trigger.length none)
      else none := by
  simp only [Rule.perform?, Rule.quotedVowel, Rule.computedWithOutput]
  by_cases hlast : lastFolded? context.lastInput = some (foldChar vowel)
  · simp [hlast, Outcome.declared, htrigger]
  · simp [hlast]

theorem perform?_prolongedVowel (vowel : Char) (output mark : Text) :
    (Rule.prolongedVowel vowel output mark).perform? rules context input trigger =
      some (.accept input trigger
        (if lastFolded? context.lastInput = some (foldChar vowel) ∧
            firstFolded? (input.drop trigger.length) ≠ some (foldChar vowel) then mark
          else output) 1 none) := by
  simp only [Rule.perform?, Rule.prolongedVowel, Rule.computedWithOutput]
  by_cases hrepeats : lastFolded? context.lastInput = some (foldChar vowel) ∧
      firstFolded? (input.drop trigger.length) ≠ some (foldChar vowel)
  · rw [if_pos hrepeats, if_pos hrepeats]
    rfl
  · rw [if_neg hrepeats, if_neg hrepeats]
    rfl

theorem lowercase_of_mem_syllableOnsets : ∀ onset ∈ syllableOnsets, lowercase onset = onset := by
  decide +kernel

theorem perform?_syllabicNasal (htrigger : trigger ≠ []) (key nasal : Text) (onsets : List Text) :
    (Rule.syllabicNasal key nasal onsets).perform? rules context input trigger =
      if ∃ onset ∈ onsets,
          startsWithFolded (input.drop trigger.length) (lowercase onset) = true then none
      else some (.accept input trigger nasal trigger.length none) := by
  have hany : (onsets.map lowercase).any (startsWithFolded (input.drop trigger.length)) = true ↔
      ∃ onset ∈ onsets,
        startsWithFolded (input.drop trigger.length) (lowercase onset) = true := by
    simp only [List.any_map, List.any_eq_true, Function.comp_apply]
  simp only [Rule.perform?, Rule.syllabicNasal, Rule.computedWithOutput, ← hany]
  by_cases honset : (onsets.map lowercase).any
      (startsWithFolded (input.drop trigger.length)) = true
  · simp [honset]
  · simp [honset, Outcome.declared, htrigger]

theorem perform?_doubledNasal (htrigger : trigger ≠ []) (script : Script) :
    (doubledNasal script).perform? rules context input trigger =
      if ∃ onset ∈ syllableOnsets,
          startsWithFolded (input.drop trigger.length) onset = true then none
      else some (.accept input trigger script.nasal trigger.length none) := by
  rw [doubledNasal, perform?_syllabicNasal htrigger]
  have honsets : (∃ onset ∈ syllableOnsets,
      startsWithFolded (input.drop trigger.length) (lowercase onset) = true) ↔
        ∃ onset ∈ syllableOnsets, startsWithFolded (input.drop trigger.length) onset = true := by
    refine exists_congr fun onset => and_congr_right fun honset => ?_
    rw [lowercase_of_mem_syllableOnsets onset honset]
  exact if_congr honsets rfl rfl

/-- Whatever a rule for romaji writes, it takes something, and no more than its trigger. -/
theorem RomajiRule.exists_accept (h : RomajiRule table script rule) (htrigger : trigger ≠ [])
    (hstep : rule.perform? rules context input trigger = some step) :
    ∃ output n, 0 < n ∧ n ≤ trigger.length ∧ step = .accept input trigger output n none := by
  have hpos : 0 < trigger.length := List.length_pos_iff.mpr htrigger
  cases h with
  | short => exact ⟨_, _, hpos, le_rfl, (Option.some.inj hstep).symm⟩
  | long => exact ⟨_, _, hpos, le_rfl, (Option.some.inj hstep).symm⟩
  | geminate => exact ⟨_, 1, Nat.one_pos, hpos, (Option.some.inj hstep).symm⟩
  | quoted =>
    rw [perform?_quotedVowel htrigger, Option.ite_none_right_eq_some] at hstep
    exact ⟨_, _, hpos, le_rfl, (Option.some.inj hstep.2).symm⟩
  | nasal =>
    rw [perform?_doubledNasal htrigger, Option.ite_none_left_eq_some] at hstep
    exact ⟨_, _, hpos, le_rfl, (Option.some.inj hstep.2).symm⟩
  | prolonged =>
    rw [perform?_prolongedVowel] at hstep
    exact ⟨_, 1, Nat.one_pos, hpos, (Option.some.inj hstep).symm⟩

end

/-! ## Conversions -/

/-- Every step of a converter takes something. -/
theorem taken_step_ne_nil (table : Table) (script : Script) (context : Context) (input : Text)
    (hinput : input ≠ []) :
    ((Index.ofRules .unicode (Converter.ruleSet table [] script)).step context input).taken ≠
      [] := by
  apply Index.taken_step_ne_nil_of_decides hinput
  intro front step hdecides
  have hpos := List.length_pos_iff.mpr hdecides.ne_nil
  obtain ⟨rule, hrule, hperform⟩ := Option.bind_eq_some_iff.mp hdecides.accepted
  have hmem := (Index.mem_of_lookup? hrule).1
  rw [ruleSet_eq, List.mem_append, mem_romajiToKana_append_vowelRuns_iff] at hmem
  obtain ⟨output, n, hn, rfl⟩ : ∃ output n, 0 < n ∧ step = .accept input front output n none := by
    rcases hmem with hkana | hromaji
    · obtain ⟨key, output, rfl⟩ := exists_literal_of_mem_fromKana hkana
      exact ⟨output, _, hpos, (Option.some.inj hperform).symm⟩
    · obtain ⟨output, n, hn, -, hstep⟩ := hromaji.exists_accept hdecides.ne_nil hperform
      exact ⟨output, n, hn, hstep⟩
  simp [Step.accept, hinput, Nat.ne_of_gt hn]

end Syllabary.Kana
