import Syllabary.Proofs.NormalForms
import Syllabary.Rule.Phonetic

/-!
# Latin text

A Latin text has characters below U+00C0 and vowels with circumflex or macron. It is composed as it
stands. Decomposing it spells every long vowel with two characters, a vowel and a mark, and changes
nothing else, so it may be done piece by piece and in any letter case.

## Main statements

* `nfc_of_latin`, `nfd_of_latin`: the normal forms of a Latin text.
* `lowercase_nfd`: decomposing and lowercasing commute.
* `prefix_nfd`: a front part of the decomposed text ends between two characters of the text or
  between a vowel and its mark.
-/

namespace Syllabary.Unicode

open scoped Text

/-! ## Characters without marks -/

theorem combiningClassRows_bounds : ∀ row ∈ combiningClassRows, 0x300 ≤ row.1 := by decide +kernel

theorem combiningClass_of_lt {c : Char} (h : c.toNat < 0x300) : combiningClass c = 0 := by
  have hnone : combiningClassMap.find? c.toNat = none := by
    rw [Option.eq_none_iff_forall_ne_some]
    intro class_ hclass
    obtain ⟨first, last, hrow, hfirst, -⟩ := CodeMap.mem_of_find?_ofRows hclass
    have := combiningClassRows_bounds _ hrow
    simp only at this
    omega
  rw [combiningClass, hnone, Option.getD_none]

theorem compositionPoints_bounds :
    ∀ point ∈ compositionPoints, ∀ follower ∈ point.2, 0x300 ≤ follower.1 := by
  decide +kernel

/-- Nothing is joined with a character below the marks. -/
theorem composite?_of_lt (a : Char) {b : Char} (h : b.toNat < 0x300) : composite? a b = none := by
  have hhangul : Hangul.compose? a b = none := by
    unfold Hangul.compose? Hangul.vowelBase Hangul.tailBase
    dsimp only
    rw [if_neg (by omega), if_neg (by omega)]
  rw [composite?, hhangul]
  simp only [Option.bind_eq_bind, Option.bind_eq_none_iff]
  intro followers hfollowers code hcode
  obtain ⟨before, after, rfl, -⟩ := List.lookup_eq_some_iff.mp hcode
  have := compositionPoints_bounds _ (CodeMap.mem_of_find?_ofPoints hfollowers) (b.toNat, code)
    (List.mem_append_right before List.mem_cons_self)
  simp only at this
  omega

/-- The code points of the long vowels, capital letters first. -/
def longVowelCodes : List Nat :=
  [0xC2, 0x100, 0xCA, 0x112, 0xCE, 0x12A, 0xD4, 0x14C, 0xDB, 0x16A,
    0xE2, 0x101, 0xEA, 0x113, 0xEE, 0x12B, 0xF4, 0x14D, 0xFB, 0x16B]

/-- What the rows of small letters have in common, each with the letter that it is for. -/
structure CaseRow (letter small : Nat) : Prop where
  valid : small < 0xD800 ∨ 0xDFFF < small ∧ small < 0x110000
  behindSigns : 0x61 ≤ small
  below : letter < 0xC0 → small < 0xC0
  /-- Besides capital letters, U+0130 and the Kelvin sign fold to letters of ASCII. -/
  ascii : small < 0x80 → letter < 0xC0 ∨ letter = 0x130 ∨ small = 0x6B
  longVowel : small ∈ longVowelCodes → letter ∈ longVowelCodes
  /-- Nothing folds to a mark. -/
  noMark : small < 0x300 ∨ 0x370 ≤ small

theorem caseRow_of_mem : ∀ point ∈ lowercasePoints, CaseRow point.1 point.2 := by
  have hrows : ∀ point ∈ lowercasePoints,
      (point.2 < 0xD800 ∨ 0xDFFF < point.2 ∧ point.2 < 0x110000) ∧ 0x61 ≤ point.2 ∧
        (point.1 < 0xC0 → point.2 < 0xC0) ∧
        (point.2 < 0x80 → point.1 < 0xC0 ∨ point.1 = 0x130 ∨ point.2 = 0x6B) ∧
        (point.2 ∈ longVowelCodes → point.1 ∈ longVowelCodes) ∧
        (point.2 < 0x300 ∨ 0x370 ≤ point.2) := by decide +kernel
  intro point hpoint
  obtain ⟨hvalid, hsigns, hbelow, hascii, hlong, hmark⟩ := hrows point hpoint
  exact ⟨hvalid, hsigns, hbelow, hascii, hlong, hmark⟩

/-- Below U+00C0 folding is the lowercase of ASCII. -/
theorem foldChar_eq_toLower {c : Char} (h : c.toNat < 0xC0) : foldChar c = c.toLower := by
  have hcodes : ∀ n < 0xC0, foldChar (Char.ofNat n) = (Char.ofNat n).toLower := by decide +kernel
  rw [← Char.ofNat_toNat c]
  exact hcodes c.toNat h

theorem foldChar_lt {c : Char} (h : c.toNat < 0xC0) : (foldChar c).toNat < 0xC0 := by
  rcases foldChar_eq_or_mem c with heq | ⟨code, hmem, heq⟩
  · rwa [heq]
  · have hcode : code < 0xC0 := (caseRow_of_mem _ hmem).below h
    rw [heq, Char.ofNat, dif_pos (Or.inl (by omega))]
    exact hcode

/-- A text without marks of different classes is in canonical order. -/
theorem orderMarks_eq_self (class_ : Nat) {t : Text}
    (h : ∀ c ∈ t, combiningClass c = 0 ∨ combiningClass c = class_) : orderMarks t = t := by
  induction t with
  | nil => rfl
  | cons c t ih =>
    obtain ⟨hc, ht⟩ := List.forall_mem_cons.mp h
    have hcons : orderMarks (c :: t) = insertMark c (orderMarks t) := rfl
    rw [hcons, ih ht]
    cases t with
    | nil => rfl
    | cons d t =>
      have hd := ht d List.mem_cons_self
      rw [insertMark, if_neg (by omega)]

/-- A starter moves behind no mark. -/
theorem insertMark_of_starter {c : Char} (h : combiningClass c = 0) (t : Text) :
    insertMark c t = c :: t := by
  cases t with
  | nil => rfl
  | cons d t => rw [insertMark, if_neg (by omega)]

theorem nfd_cons_of_lt {c : Char} (h : c.toNat < 0xC0) (t : Text) : nfd (c :: t) = c :: nfd t := by
  rw [nfd, List.flatMap_cons, decomposeChar_of_bounds (Or.inl h)]
  exact insertMark_of_starter (combiningClass_of_lt (by omega)) _

theorem take_one_nfd {c : Char} (h : c.toNat < 0xC0) (t : Text) :
    (nfd (c :: t)).take 1 = nfd ((c :: t).take 1) := by
  rw [List.take_succ_cons, List.take_zero, nfd_cons_of_lt h, nfd_cons_of_lt h, List.take_succ_cons,
    List.take_zero]
  rfl

/-! ## Long vowels -/

/-- A vowel with a circumflex or a macron, as one letter and as a vowel with a mark. -/
structure LongVowel where
  letter : Char
  vowel : Char
  mark : Char
deriving DecidableEq

/-- The long vowels of both letter cases. -/
def longVowels : List LongVowel :=
  [⟨'â', 'a', '\u0302'⟩, ⟨'ā', 'a', '\u0304'⟩, ⟨'ê', 'e', '\u0302'⟩, ⟨'ē', 'e', '\u0304'⟩,
    ⟨'î', 'i', '\u0302'⟩, ⟨'ī', 'i', '\u0304'⟩, ⟨'ô', 'o', '\u0302'⟩, ⟨'ō', 'o', '\u0304'⟩,
    ⟨'û', 'u', '\u0302'⟩, ⟨'ū', 'u', '\u0304'⟩, ⟨'Â', 'A', '\u0302'⟩, ⟨'Ā', 'A', '\u0304'⟩,
    ⟨'Ê', 'E', '\u0302'⟩, ⟨'Ē', 'E', '\u0304'⟩, ⟨'Î', 'I', '\u0302'⟩, ⟨'Ī', 'I', '\u0304'⟩,
    ⟨'Ô', 'O', '\u0302'⟩, ⟨'Ō', 'O', '\u0304'⟩, ⟨'Û', 'U', '\u0302'⟩, ⟨'Ū', 'U', '\u0304'⟩]

namespace LongVowel

/-- The same long vowel in lower case. -/
def fold (long : LongVowel) : LongVowel :=
  ⟨foldChar long.letter, foldChar long.vowel, long.mark⟩

variable {long : LongVowel}

@[simp] theorem letter_fold : long.fold.letter = foldChar long.letter := by rw [fold]

@[simp] theorem vowel_fold : long.fold.vowel = foldChar long.vowel := by rw [fold]

@[simp] theorem mark_fold : long.fold.mark = long.mark := by rw [fold]

theorem bounds : ∀ long ∈ longVowels,
    0xC0 ≤ long.letter.toNat ∧ long.letter.toNat < 0x300 ∧ long.vowel.toNat < 0x80 ∧
      0x300 ≤ long.mark.toNat := by
  decide

theorem mark_bounds : ∀ long ∈ longVowels, 0x300 ≤ long.mark.toNat ∧ long.mark.toNat < 0x370 := by
  decide

theorem letter_ne : ∀ long ∈ longVowels, long.letter ≠ 'Σ' ∧ long.letter ≠ 'İ' := by decide

theorem mark_ne : ∀ long ∈ longVowels, long.mark ≠ 'Σ' ∧ long.mark ≠ 'İ' := by decide

/-- What the Unicode data say of a long vowel. -/
structure InData (long : LongVowel) : Prop where
  decomposes : decomposeChar long.letter = [long.vowel, long.mark]
  composes : composite? long.vowel long.mark = some long.letter
  markClass : combiningClass long.mark = 230
  foldMark : foldChar long.mark = long.mark
  fold : long.fold ∈ longVowels
  foldVowel : foldChar long.vowel ∈ ['a', 'i', 'u', 'e', 'o']
  foldLetter : foldChar long.vowel = long.vowel → foldChar long.letter = long.letter

theorem inData : ∀ long ∈ longVowels, long.InData := by
  have hdata : ∀ long ∈ longVowels, decomposeChar long.letter = [long.vowel, long.mark] ∧
      composite? long.vowel long.mark = some long.letter ∧ combiningClass long.mark = 230 ∧
      foldChar long.mark = long.mark ∧ long.fold ∈ longVowels ∧
      foldChar long.vowel ∈ ['a', 'i', 'u', 'e', 'o'] ∧
      (foldChar long.vowel = long.vowel → foldChar long.letter = long.letter) := by decide +kernel
  intro long hlong
  obtain ⟨hdecomposes, hcomposes, hclass, hmark, hfold, hvowel, hletter⟩ := hdata long hlong
  exact ⟨hdecomposes, hcomposes, hclass, hmark, hfold, hvowel, hletter⟩

theorem decomposeChar_letter (long : LongVowel) (h : long ∈ longVowels) :
    decomposeChar long.letter = [long.vowel, long.mark] := (inData long h).decomposes

theorem fold_mem (long : LongVowel) (h : long ∈ longVowels) : long.fold ∈ longVowels :=
  (inData long h).fold

/-- A text that starts with a long vowel starts with the bare vowel when it is decomposed. -/
theorem nfd_cons (h : long ∈ longVowels) (t : Text) :
    nfd (long.letter :: t) = long.vowel :: orderMarks (long.mark :: t.flatMap decomposeChar) := by
  obtain ⟨-, -, hvowel, -⟩ := bounds long h
  rw [nfd, List.flatMap_cons, decomposeChar_letter long h]
  exact insertMark_of_starter (combiningClass_of_lt (by omega)) _

end LongVowel

/-! ## Latin text -/

/-- A character below U+00C0 or a long vowel. -/
def IsLatin (c : Char) : Prop := c.toNat < 0xC0 ∨ ∃ long ∈ longVowels, long.letter = c

instance (c : Char) : Decidable (IsLatin c) := inferInstanceAs (Decidable (_ ∨ _))

theorem not_isLatin_mark : ∀ long ∈ longVowels, ¬ IsLatin long.mark := by decide

variable {s t : Text}

theorem mem_decomposeChar_of_latin {c d : Char} (hc : IsLatin c) (hd : d ∈ decomposeChar c) :
    d.toNat < 0xC0 ∨ ∃ long ∈ longVowels, d = long.mark := by
  rcases hc with hc | ⟨long, hlong, rfl⟩
  · rw [decomposeChar_of_bounds (Or.inl hc)] at hd
    obtain rfl := List.mem_singleton.mp hd
    exact Or.inl hc
  · rw [LongVowel.decomposeChar_letter long hlong] at hd
    obtain ⟨-, -, hvowel, -⟩ := LongVowel.bounds long hlong
    rcases List.mem_pair.mp hd with rfl | rfl
    · exact Or.inl (by omega)
    · exact Or.inr ⟨long, hlong, rfl⟩

/-- Decomposing a Latin text only spells its long vowels with two characters. -/
theorem nfd_of_latin (ht : ∀ c ∈ t, IsLatin c) : nfd t = t.flatMap decomposeChar := by
  -- all marks of long vowels are of one class, so none of them moves
  refine orderMarks_eq_self 230 fun d hd => ?_
  obtain ⟨c, hc, hdc⟩ := List.mem_flatMap.mp hd
  rcases mem_decomposeChar_of_latin (ht c hc) hdc with hlt | ⟨long, hlong, rfl⟩
  · exact Or.inl (combiningClass_of_lt (by omega))
  · exact Or.inr ((LongVowel.inData long hlong).markClass)

theorem nfd_append (hs : ∀ c ∈ s, IsLatin c) (ht : ∀ c ∈ t, IsLatin c) :
    nfd (s ++ t) = nfd s ++ nfd t := by
  rw [nfd_of_latin hs, nfd_of_latin ht, nfd_of_latin (List.forall_mem_append.mpr ⟨hs, ht⟩),
    List.flatMap_append]

theorem nfd_prefix_nfd (ht : ∀ c ∈ t, IsLatin c) (h : s <+: t) : nfd s <+: nfd t := by
  obtain ⟨rest, rfl⟩ := h
  obtain ⟨hs, hrest⟩ := List.forall_mem_append.mp ht
  rw [nfd_append hs hrest]
  exact List.prefix_append _ _

/-- Composing behind a starter joins every mark to its vowel and nothing to the starter. -/
theorem composeAfter_flatMap_decomposeChar (ht : ∀ c ∈ t, IsLatin c) (starter : Char) :
    composeAfter starter [] (t.flatMap decomposeChar) = starter :: t := by
  induction t generalizing starter with
  | nil => rfl
  | cons c t ih =>
    obtain ⟨hc, hrest⟩ := List.forall_mem_cons.mp ht
    have ih := ih hrest
    rcases hc with hc | ⟨long, hlong, rfl⟩
    · rw [List.flatMap_cons, decomposeChar_of_bounds (Or.inl hc), List.singleton_append,
        composeAfter]
      simp only [reaches, List.getLast?_nil, if_true, composite?_of_lt starter (b := c) (by omega),
        combiningClass_of_lt (c := c) (by omega), ih, List.nil_append]
    · obtain ⟨-, -, hvowel, -⟩ := LongVowel.bounds long hlong
      rw [List.flatMap_cons, LongVowel.decomposeChar_letter long hlong, List.cons_append,
        List.singleton_append, composeAfter]
      simp only [reaches, List.getLast?_nil, if_true,
        composite?_of_lt starter (b := long.vowel) (by omega),
        combiningClass_of_lt (c := long.vowel) (by omega), List.nil_append]
      rw [composeAfter]
      simp only [reaches, List.getLast?_nil, if_true, (LongVowel.inData long hlong).composes, ih]

/-- A text of characters below U+00C0 and of the marks of long vowels is decomposed as it stands. -/
theorem nfd_eq_self (ht : ∀ c ∈ t, c.toNat < 0xC0 ∨ ∃ long ∈ longVowels, c = long.mark) :
    nfd t = t := by
  have hfull : ∀ c ∈ t, decomposeChar c = [c] := fun c hc => by
    rcases ht c hc with hlt | ⟨long, hlong, rfl⟩
    · exact decomposeChar_of_bounds (Or.inl hlt)
    · refine decomposeChar_of_mem_decomposeChar (c := long.letter) ?_
      rw [LongVowel.decomposeChar_letter long hlong]
      exact List.mem_cons_of_mem _ List.mem_cons_self
  rw [nfd, flatMap_decomposeChar_eq_self hfull]
  refine orderMarks_eq_self 230 fun c hc => ?_
  rcases ht c hc with hlt | ⟨long, hlong, rfl⟩
  · exact Or.inl (combiningClass_of_lt (by omega))
  · exact Or.inr ((LongVowel.inData long hlong).markClass)

/-- Decomposing a long vowel behind characters below U+00C0 puts its mark at the end. -/
theorem nfd_concat_letter {stem : Text} {long : LongVowel} (hstem : ∀ c ∈ stem, c.toNat < 0xC0)
    (hlong : long ∈ longVowels) :
    nfd (stem ++ [long.letter]) = stem ++ [long.vowel] ++ [long.mark] := by
  have hletter : ∀ c ∈ [long.letter], IsLatin c :=
    List.forall_mem_singleton.mpr (Or.inr ⟨long, hlong, rfl⟩)
  rw [nfd_append (fun c hc => Or.inl (hstem c hc)) hletter, nfd_of_latin hletter,
    nfd_eq_self fun c hc => Or.inl (hstem c hc), List.flatMap_singleton,
    LongVowel.decomposeChar_letter long hlong, List.append_assoc, List.singleton_append]

/-- A text with a long vowel in one letter is not decomposed. -/
theorem nfd_ne_self {long : LongVowel} (hlong : long ∈ longVowels) (hletter : long.letter ∈ t) :
    nfd t ≠ t := by
  intro heq
  have hfull := decomposeChar_of_mem_nfd (heq.symm ▸ hletter)
  rw [LongVowel.decomposeChar_letter long hlong] at hfull
  simp at hfull

/-- A Latin text is composed as it stands. -/
theorem nfc_of_latin (ht : ∀ c ∈ t, IsLatin c) : nfc t = t := by
  rw [nfc, nfd_of_latin ht]
  cases t with
  | nil => rfl
  | cons c t =>
    obtain ⟨hc, hrest⟩ := List.forall_mem_cons.mp ht
    rcases hc with hc | ⟨long, hlong, rfl⟩
    · rw [List.flatMap_cons, decomposeChar_of_bounds (Or.inl hc), List.singleton_append,
        composeMarks, if_pos (combiningClass_of_lt (by omega)),
        composeAfter_flatMap_decomposeChar hrest]
    · obtain ⟨-, -, hvowel, -⟩ := LongVowel.bounds long hlong
      rw [List.flatMap_cons, LongVowel.decomposeChar_letter long hlong, List.cons_append,
        List.singleton_append, composeMarks, if_pos (combiningClass_of_lt (by omega)),
        composeAfter]
      simp only [reaches, List.getLast?_nil, if_true, (LongVowel.inData long hlong).composes]
      exact composeAfter_flatMap_decomposeChar hrest _

/-! ## Letter case -/

/-- No character below U+00C0 has a lowercase that depends on its neighbours or is longer. -/
theorem ne_of_lt {c : Char} (h : c.toNat < 0xC0) : c ≠ 'Σ' ∧ c ≠ 'İ' := by
  have hsigma : 'Σ'.toNat = 0x3A3 := by decide
  have hdotted : 'İ'.toNat = 0x130 := by decide
  refine ⟨fun heq => ?_, fun heq => ?_⟩
  · rw [heq, hsigma] at h
    omega
  · rw [heq, hdotted] at h
    omega

/-- Lowercasing folds every character, unless a capital sigma or U+0130 is there. -/
theorem lowercase_eq_map (ht : ∀ c ∈ t, c ≠ 'Σ' ∧ c ≠ 'İ') : lowercase t = t.map foldChar := by
  rw [lowercase_eq_map_iff]
  refine ⟨fun hdotted => (ht _ hdotted).2 rfl, ?_⟩
  rintro ⟨before, after, rfl, -⟩
  exact (ht 'Σ' (by simp)).1 rfl

/-- Lowercasing folds the characters in front of a text that are below U+00C0. -/
theorem exists_lowercase_append (hs : ∀ c ∈ s, c.toNat < 0xC0) (t : Text) :
    ∃ back, lowercase (s ++ t) = s.map foldChar ++ back ∧ t.length ≤ back.length := by
  -- the characters before do not matter, but the induction passes them on
  suffices h : ∀ beforeReversed, ∃ back,
      lowercase.go beforeReversed (s ++ t) = s.map foldChar ++ back by
    obtain ⟨back, hback⟩ := h []
    refine ⟨back, hback, ?_⟩
    have hlength := length_le_length_lowercase (s ++ t)
    rw [lowercase, hback, List.length_append, List.length_append, List.length_map] at hlength
    omega
  induction s with
  | nil => exact fun beforeReversed => ⟨_, rfl⟩
  | cons c s ih =>
    intro beforeReversed
    obtain ⟨hc, hs⟩ := List.forall_mem_cons.mp hs
    obtain ⟨back, hback⟩ := ih hs (c :: beforeReversed)
    refine ⟨back, ?_⟩
    rw [List.cons_append, lowercase.go, hback, lowercaseBetween, if_neg (ne_of_lt hc).1,
      lowercaseChar, if_neg (ne_of_lt hc).2]
    rfl

theorem exists_lowercaseBetween_subset {c : Char} (hc : c ∈ t) (beforeReversed : Text) :
    ∃ before after, ∀ d ∈ lowercaseBetween before c after, d ∈ lowercase.go beforeReversed t := by
  induction t generalizing beforeReversed with
  | nil => simp at hc
  | cons e t ih =>
    rcases List.mem_cons.mp hc with rfl | hc
    · exact ⟨beforeReversed, t, fun d hd => List.mem_append_left _ hd⟩
    · obtain ⟨before, after, hsubset⟩ := ih hc (e :: beforeReversed)
      exact ⟨before, after, fun d hd => List.mem_append_right _ (hsubset d hd)⟩

/-- Whatever lowercases to characters below the marks and to marks of long vowels has no capital
sigma and no U+0130. -/
theorem ne_of_lowercase
    (h : ∀ d ∈ lowercase t, d.toNat < 0x300 ∨ ∃ long ∈ longVowels, d = long.mark) :
    ∀ c ∈ t, c ≠ 'Σ' ∧ c ≠ 'İ' := by
  -- a capital sigma leaves a small one in either form, and U+0130 leaves a dot above
  have hexcluded : ∀ d ∈ ['σ', 'ς', '\u0307'],
      0x300 ≤ d.toNat ∧ ∀ long ∈ longVowels, d ≠ long.mark := by decide
  have hnot {d : Char} (hd : d ∈ ['σ', 'ς', '\u0307']) : d ∉ lowercase t := fun hmem => by
    obtain ⟨hle, hmark⟩ := hexcluded d hd
    rcases h d hmem with hlt | ⟨long, hlong, heq⟩
    · omega
    · exact hmark long hlong heq
  intro c hc
  obtain ⟨before, after, hsubset⟩ := exists_lowercaseBetween_subset hc []
  refine ⟨fun heq => ?_, fun heq => ?_⟩
  · rw [heq, lowercaseBetween, if_pos rfl] at hsubset
    split at hsubset
    · exact hnot (by simp) (hsubset 'ς' List.mem_cons_self)
    · exact hnot (by simp) (hsubset 'σ' List.mem_cons_self)
  · rw [heq, lowercaseBetween, if_neg (by decide), lowercaseChar, if_pos rfl] at hsubset
    exact hnot (by simp) (hsubset '\u0307' (by simp))

/-- The same if the lowercase is given. -/
theorem map_foldChar_of_lowercase (h : lowercase t = s)
    (hs : ∀ d ∈ s, d.toNat < 0x300 ∨ ∃ long ∈ longVowels, d = long.mark) : t.map foldChar = s := by
  rw [← h, lowercase_eq_map (ne_of_lowercase (h ▸ hs))]

theorem lowercase_of_latin (ht : ∀ c ∈ t, IsLatin c) : lowercase t = t.map foldChar := by
  refine lowercase_eq_map fun c hc => ?_
  rcases ht c hc with hlt | ⟨long, hlong, rfl⟩
  · exact ne_of_lt hlt
  · exact LongVowel.letter_ne long hlong

theorem isLatin_foldChar {c : Char} (hc : IsLatin c) : IsLatin (foldChar c) := by
  rcases hc with hc | ⟨long, hlong, rfl⟩
  · exact Or.inl (foldChar_lt hc)
  · exact Or.inr ⟨long.fold, LongVowel.fold_mem long hlong, LongVowel.letter_fold⟩

/-- Only characters below U+00C0 fold to such characters. -/
theorem lt_of_foldChar_lt {c : Char} (hc : IsLatin c) (h : (foldChar c).toNat < 0xC0) :
    c.toNat < 0xC0 := by
  rcases hc with hlt | ⟨long, hlong, rfl⟩
  · exact hlt
  · obtain ⟨hletter, -⟩ := LongVowel.bounds long.fold (LongVowel.fold_mem long hlong)
    rw [LongVowel.letter_fold] at hletter
    omega

theorem isLatin_map_foldChar (ht : ∀ c ∈ t, IsLatin c) : ∀ c ∈ t.map foldChar, IsLatin c := by
  intro c hc
  obtain ⟨d, hd, rfl⟩ := List.mem_map.mp hc
  exact isLatin_foldChar (ht d hd)

theorem decomposeChar_foldChar {c : Char} (hc : IsLatin c) :
    decomposeChar (foldChar c) = (decomposeChar c).map foldChar := by
  rcases hc with hc | ⟨long, hlong, rfl⟩
  · rw [decomposeChar_of_bounds (Or.inl hc), decomposeChar_of_bounds (Or.inl (foldChar_lt hc)),
      List.map_singleton]
  · have hfold := LongVowel.decomposeChar_letter long.fold (LongVowel.fold_mem long hlong)
    rw [LongVowel.letter_fold, LongVowel.vowel_fold, LongVowel.mark_fold] at hfold
    rw [hfold, LongVowel.decomposeChar_letter long hlong, List.map_cons, List.map_singleton,
      (LongVowel.inData long hlong).foldMark]

theorem nfd_map_foldChar (ht : ∀ c ∈ t, IsLatin c) :
    nfd (t.map foldChar) = (nfd t).map foldChar := by
  rw [nfd_of_latin ht, nfd_of_latin (isLatin_map_foldChar ht), List.flatMap_map, List.map_flatMap]
  exact List.flatMap_congr fun c hc => decomposeChar_foldChar (ht c hc)

theorem ne_of_mem_nfd (ht : ∀ c ∈ t, IsLatin c) : ∀ d ∈ nfd t, d ≠ 'Σ' ∧ d ≠ 'İ' := by
  intro d hd
  rw [nfd_of_latin ht] at hd
  obtain ⟨c, hc, hdc⟩ := List.mem_flatMap.mp hd
  rcases mem_decomposeChar_of_latin (ht c hc) hdc with hlt | ⟨long, hlong, rfl⟩
  · exact ne_of_lt hlt
  · exact LongVowel.mark_ne long hlong

/-- Decomposing and lowercasing commute. -/
theorem lowercase_nfd (ht : ∀ c ∈ t, IsLatin c) : lowercase (nfd t) = nfd (t.map foldChar) := by
  rw [nfd_map_foldChar ht, lowercase_eq_map (ne_of_mem_nfd ht)]

/-! ## Characters by their lowercase -/

section

variable {c d : Char}

/-- A character that folds to another one has a row with the two. -/
theorem mem_lowercasePoints_of_foldChar (h : foldChar c = d) (hne : d ≠ c) :
    (c.toNat, d.toNat) ∈ lowercasePoints := by
  rcases foldChar_eq_or_mem c with heq | ⟨code, hmem, heq⟩
  · exact absurd (h.symm.trans heq) hne
  · have hcode : (Char.ofNat code).toNat = code := by
      rw [Char.ofNat, dif_pos ((caseRow_of_mem _ hmem).valid)]
      rfl
    rw [h] at heq
    rwa [heq, hcode]

/-- Folded characters stay as they are. -/
theorem foldChar_foldChar (c : Char) : foldChar (foldChar c) = foldChar c := by
  have hrows : ∀ point ∈ lowercasePoints,
      foldChar (Char.ofNat point.2) = Char.ofNat point.2 := by
    decide +kernel
  rcases foldChar_eq_or_mem c with heq | ⟨code, hmem, heq⟩
  · rw [heq, heq]
  · rw [heq]
    exact hrows (c.toNat, code) hmem

/-- Nothing else folds to a sign before the small letters. -/
theorem eq_of_foldChar (h : foldChar c = d) (hd : d.toNat < 0x61) : c = d := by
  by_contra hne
  have := (caseRow_of_mem _ (mem_lowercasePoints_of_foldChar h (Ne.symm hne))).behindSigns
  simp only at this
  omega

/-- Below U+00C0 the letters of ASCII have their capital letters, but for U+0130 and the Kelvin
sign. -/
theorem lt_of_foldChar (h : foldChar c = d) (hd : d.toNat < 0x80) (hk : d ≠ 'k') (hc : c ≠ 'İ') :
    c.toNat < 0xC0 := by
  by_cases heq : d = c
  · rw [← heq]
    omega
  · rcases (caseRow_of_mem _ (mem_lowercasePoints_of_foldChar h heq)).ascii hd with
      hlt | hcode | hcode
    · exact hlt
    · refine absurd ?_ hc
      rw [← Char.ofNat_toNat c, show c.toNat = 0x130 from hcode]
    · refine absurd ?_ hk
      rw [← Char.ofNat_toNat d, show d.toNat = 0x6B from hcode]

end

namespace LongVowel

variable {long : LongVowel} {c : Char}

theorem toNat_letter_mem : ∀ long ∈ longVowels, long.letter.toNat ∈ longVowelCodes := by
  decide

theorem exists_letter_of_code : ∀ code ∈ longVowelCodes,
    ∃ long ∈ longVowels, long.letter = Char.ofNat code := by
  decide

/-- Only long vowels fold to long vowels. -/
theorem exists_letter_of_foldChar (h : long ∈ longVowels) (hc : foldChar c = long.letter) :
    ∃ other ∈ longVowels, other.letter = c := by
  by_cases heq : long.letter = c
  · exact ⟨long, h, heq⟩
  · obtain ⟨other, hother, hletter⟩ := exists_letter_of_code _
      ((caseRow_of_mem _ (mem_lowercasePoints_of_foldChar hc heq)).longVowel
        (toNat_letter_mem long h))
    exact ⟨other, hother, by rw [hletter, Char.ofNat_toNat]⟩

/-- Only a mark folds to a mark. -/
theorem eq_mark_of_foldChar (h : long ∈ longVowels) (hc : foldChar c = long.mark) :
    c = long.mark := by
  by_contra hne
  have hbounds := mark_bounds long h
  have hmark := (caseRow_of_mem _ (mem_lowercasePoints_of_foldChar hc (Ne.symm hne))).noMark
  simp only at hmark
  omega

end LongVowel

/-! ## Neighbours -/

/-- What a decomposed text starts with is decided by the first character. -/
theorem firstFolded?_nfd_cons {c : Char} (hc : IsLatin c) (t : Text) :
    firstFolded? (nfd (c :: t)) = firstFolded? (decomposeChar c) := by
  rcases hc with hlt | ⟨long, hlong, rfl⟩
  · rw [nfd_cons_of_lt hlt, decomposeChar_of_bounds (Or.inl hlt)]
    rfl
  · rw [LongVowel.nfd_cons hlong, LongVowel.decomposeChar_letter long hlong]
    rfl

/-- The same for the lowercase of the text. -/
theorem head?_nfd_lowercase {c : Char} (hc : IsLatin c) (t : Text) :
    (nfd (lowercase (c :: t))).head? = firstFolded? (decomposeChar c) := by
  obtain ⟨s, hs⟩ := List.head?_eq_some_iff.mp (head?_lowercase c t)
  rw [hs]
  rcases hc with hlt | ⟨long, hlong, rfl⟩
  · rw [nfd_cons_of_lt (foldChar_lt hlt), decomposeChar_of_bounds (Or.inl hlt)]
    rfl
  · rw [← LongVowel.letter_fold, LongVowel.nfd_cons (LongVowel.fold_mem long hlong),
      LongVowel.decomposeChar_letter long hlong, List.head?_cons, LongVowel.vowel_fold]
    rfl

/-- A character below U+00C0 that ends a Latin text ends it in both forms, in any letter case. -/
theorem lastFolded?_nfd (ht : ∀ c ∈ t, IsLatin c) {d : Char} (hd : d.toNat < 0xC0) :
    lastFolded? (nfd t) = some d ↔ lastFolded? t = some d := by
  rcases List.eq_nil_or_concat' t with rfl | ⟨s, c, rfl⟩
  · rfl
  · obtain ⟨hs, hc⟩ := List.forall_mem_append.mp ht
    rw [nfd_append hs hc, nfd_of_latin hc, List.flatMap_singleton]
    rcases hc c List.mem_cons_self with hlt | ⟨long, hlong, rfl⟩
    · rw [decomposeChar_of_bounds (Or.inl hlt)]
      simp only [lastFolded?, List.getLast?_concat]
    · -- the mark on one side and the letter on the other are both beyond U+00C0
      obtain ⟨-, -, -, hmark⟩ := LongVowel.bounds long hlong
      obtain ⟨hletter, -⟩ := LongVowel.bounds long.fold (LongVowel.fold_mem long hlong)
      rw [LongVowel.letter_fold] at hletter
      rw [LongVowel.decomposeChar_letter long hlong]
      simp only [lastFolded?, List.getLast?_append, List.getLast?_cons_cons,
        List.getLast?_singleton, Option.some_or, Option.map_some, Option.some.injEq,
        (LongVowel.inData long hlong).foldMark]
      constructor <;> rintro rfl <;> omega

/-- A character below U+00C0 that starts a Latin text starts the decomposed text, in any letter
case. -/
theorem firstFolded?_nfd_of_eq_some (ht : ∀ c ∈ t, IsLatin c) {d : Char} (hd : d.toNat < 0xC0)
    (h : firstFolded? t = some d) : firstFolded? (nfd t) = some d := by
  cases t with
  | nil => exact h
  | cons c s =>
    have hfold : foldChar c = d := Option.some.inj h
    have hlt := lt_of_foldChar_lt (ht c List.mem_cons_self) (by rw [hfold]; exact hd)
    rw [nfd_cons_of_lt hlt, ← hfold]
    rfl

/-- A decomposed Latin text starts below U+00C0. -/
theorem exists_of_firstFolded?_nfd (ht : ∀ c ∈ t, IsLatin c) {d : Char}
    (h : firstFolded? (nfd t) = some d) :
    ∃ c s, nfd t = c :: s ∧ c.toNat < 0xC0 ∧ foldChar c = d := by
  cases t with
  | nil =>
    rw [nfd_eq_nil_iff.mpr rfl] at h
    simp [firstFolded?] at h
  | cons c s =>
    rcases ht c List.mem_cons_self with hlt | ⟨long, hlong, rfl⟩
    · rw [nfd_cons_of_lt hlt] at h ⊢
      exact ⟨c, _, rfl, hlt, Option.some.inj h⟩
    · obtain ⟨-, -, hvowel, -⟩ := LongVowel.bounds long hlong
      rw [LongVowel.nfd_cons hlong] at h ⊢
      exact ⟨long.vowel, _, rfl, by omega, Option.some.inj h⟩

/-- Where a Latin text starts with characters below U+00C0, so does the decomposed text. -/
theorem startsWithFolded_nfd (ht : ∀ c ∈ t, IsLatin c) {start : Text}
    (hstart : ∀ c ∈ start, c.toNat < 0xC0) (h : startsWithFolded t start = true) :
    startsWithFolded (nfd t) start = true := by
  rw [startsWithFolded_iff] at h ⊢
  obtain ⟨rest, hrest⟩ := h
  have hlatin := isLatin_map_foldChar ht
  rw [← hrest] at hlatin
  obtain ⟨hfront, hback⟩ := List.forall_mem_append.mp hlatin
  rw [← nfd_map_foldChar ht, ← hrest, nfd_append hfront hback, nfd_of_latin hfront,
    flatMap_decomposeChar_eq_self]
  · exact List.prefix_append _ _
  · intro d hd
    obtain ⟨c, hc, rfl⟩ := List.mem_map.mp hd
    exact decomposeChar_of_bounds (Or.inl (foldChar_lt (hstart c hc)))

/-- A front part of a decomposed Latin text ends between two characters of the text or between a
vowel and its mark. -/
theorem prefix_nfd (ht : ∀ c ∈ t, IsLatin c) {front : Text} (h : front <+: nfd t) :
    (∃ s, s <+: t ∧ front = nfd s) ∨
      ∃ s, ∃ long ∈ longVowels, s ++ [long.letter] <+: t ∧ front = nfd (s ++ [long.vowel]) := by
  induction t generalizing front with
  | nil => exact Or.inl ⟨[], List.prefix_rfl, List.prefix_nil.mp h⟩
  | cons c t ih =>
    obtain ⟨hc, hrest⟩ := List.forall_mem_cons.mp ht
    -- what is found in the rest of the text is found behind `c` as well
    have hcons (s : Text) (hs : ∀ d ∈ s, IsLatin d) : nfd (c :: s) = decomposeChar c ++ nfd s := by
      rw [nfd_of_latin (List.forall_mem_cons.mpr ⟨hc, hs⟩), nfd_of_latin hs, List.flatMap_cons]
    have hbehind {back : Text} (hback : back <+: nfd t) :
        (∃ s, s <+: c :: t ∧ decomposeChar c ++ back = nfd s) ∨
          ∃ s, ∃ long ∈ longVowels, s ++ [long.letter] <+: c :: t ∧
            decomposeChar c ++ back = nfd (s ++ [long.vowel]) := by
      rcases ih hrest hback with ⟨s, hs, rfl⟩ | ⟨s, long, hlong, hs, rfl⟩
      · refine Or.inl ⟨c :: s, List.cons_prefix_cons.mpr ⟨rfl, hs⟩, ?_⟩
        rw [hcons s fun d hd => hrest d (hs.subset hd)]
      · refine Or.inr ⟨c :: s, long, hlong, List.cons_prefix_cons.mpr ⟨rfl, hs⟩, ?_⟩
        obtain ⟨-, -, hvowel, -⟩ := LongVowel.bounds long hlong
        rw [List.cons_append, hcons]
        refine List.forall_mem_append.mpr ⟨fun d hd => ?_, List.forall_mem_singleton.mpr ?_⟩
        · exact hrest d (hs.subset (List.mem_append_left _ hd))
        · exact Or.inl (by omega)
    rw [hcons t hrest] at h
    rcases hc with hlt | ⟨long, hlong, rfl⟩
    · rw [decomposeChar_of_bounds (Or.inl hlt)] at h hbehind
      rcases List.prefix_cons_iff.mp h with rfl | ⟨back, rfl, hback⟩
      · exact Or.inl ⟨[], List.nil_prefix, rfl⟩
      · exact hbehind hback
    · rw [LongVowel.decomposeChar_letter long hlong] at h hbehind
      rcases List.prefix_cons_iff.mp h with rfl | ⟨_, rfl, htail⟩
      · exact Or.inl ⟨[], List.nil_prefix, rfl⟩
      · rcases List.prefix_cons_iff.mp htail with rfl | ⟨back, rfl, hback⟩
        · obtain ⟨-, -, hvowel, -⟩ := LongVowel.bounds long hlong
          refine Or.inr ⟨[], long, hlong, List.cons_prefix_cons.mpr ⟨rfl, List.nil_prefix⟩, ?_⟩
          exact (nfd_cons_of_lt (by omega) []).symm
        · exact hbehind hback

end Syllabary.Unicode
