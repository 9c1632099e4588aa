import Mathlib.Data.List.Chain
import Syllabary.Unicode.Normalizer

/-!
# Laws of the normal forms

Both canonical forms are idempotent, and each of them forgets the other one. Two facts carry this.
Putting marks in canonical order depends on the order of marks of equal class only
(`insertMark_comm`), so ordering may be done piece by piece. And whatever composition joins,
decomposition takes apart again into the same characters (`decomposeChar_of_composite?`).

## Main statements

* `nfd_nfd`, `nfd_nfc`, `nfc_nfd`, `nfc_nfc`: the laws of the two forms.
* `Normalizer.isCanonical_unicode`: the forms of Unicode make a canonical normalizer.
-/

namespace Syllabary

/-- The laws of two normal forms that belong together. -/
structure Normalizer.IsCanonical (normalizer : Normalizer) : Prop where
  composed_composed (t : Text) :
    normalizer.composed (normalizer.composed t) = normalizer.composed t
  composed_decomposed (t : Text) :
    normalizer.composed (normalizer.decomposed t) = normalizer.composed t
  decomposed_composed (t : Text) :
    normalizer.decomposed (normalizer.composed t) = normalizer.decomposed t
  decomposed_decomposed (t : Text) :
    normalizer.decomposed (normalizer.decomposed t) = normalizer.decomposed t

namespace Unicode

/-! ## Canonical order -/

/-- Marks of different classes may be put in their places one before the other. -/
theorem insertMark_comm {a b : Char} (ha : 0 < combiningClass a)
    (hab : combiningClass a < combiningClass b) (t : Text) :
    insertMark b (insertMark a t) = insertMark a (insertMark b t) := by
  induction t with
  | nil =>
    have hba : ¬ combiningClass b < combiningClass a := by omega
    simp [insertMark, ha, hab, hba]
  | cons d t ih =>
    by_cases hda : 0 < combiningClass d ∧ combiningClass d < combiningClass a
    · have hdb : 0 < combiningClass d ∧ combiningClass d < combiningClass b := by omega
      simp only [insertMark, if_pos hda, if_pos hdb, ih]
    · -- `a` stands before `d`, so that `b` passes `a` and then does what it would have done
      have hba : ¬ (0 < combiningClass b ∧ combiningClass b < combiningClass a) := by omega
      have hleft : insertMark b (insertMark a (d :: t)) = a :: insertMark b (d :: t) := by
        rw [insertMark, if_neg hda, insertMark, if_pos ⟨ha, hab⟩]
      rw [hleft, insertMark]
      split
      · rw [insertMark, if_neg hda]
      · rw [insertMark, if_neg hba]

theorem foldr_insertMark_insertMark (c : Char) (s t : Text) :
    (insertMark c s).foldr insertMark t = insertMark c (s.foldr insertMark t) := by
  induction s with
  | nil => rfl
  | cons d s ih =>
    rw [insertMark]
    split
    · next hdc => rw [List.foldr_cons, ih, List.foldr_cons, insertMark_comm hdc.1 hdc.2]
    · rfl

/-- Of the front of a text only its canonical order counts. -/
theorem foldr_insertMark_orderMarks (s t : Text) :
    (orderMarks s).foldr insertMark t = s.foldr insertMark t := by
  induction s with
  | nil => rfl
  | cons c s ih =>
    have hcons : orderMarks (c :: s) = insertMark c (orderMarks s) := rfl
    rw [hcons, foldr_insertMark_insertMark, ih, List.foldr_cons]

theorem orderMarks_append (s t : Text) :
    orderMarks (s ++ t) = s.foldr insertMark (orderMarks t) :=
  List.foldr_append

/-- Of the end of a text only its canonical order counts. -/
theorem orderMarks_append_congr (s : Text) {t u : Text} (h : orderMarks t = orderMarks u) :
    orderMarks (s ++ t) = orderMarks (s ++ u) := by
  rw [orderMarks_append, orderMarks_append, h]

theorem orderMarks_orderMarks (t : Text) : orderMarks (orderMarks t) = orderMarks t :=
  foldr_insertMark_orderMarks t []

/-- A mark may change places with marks of lower class. -/
theorem orderMarks_cons_append {c : Char} {marks : Text}
    (h : ∀ mark ∈ marks, 0 < combiningClass mark ∧ combiningClass mark < combiningClass c)
    (t : Text) : orderMarks (c :: (marks ++ t)) = orderMarks (marks ++ c :: t) := by
  induction marks with
  | nil => rfl
  | cons mark marks ih =>
    obtain ⟨hmark, hmarks⟩ := List.forall_mem_cons.mp h
    calc orderMarks (c :: mark :: (marks ++ t))
        = insertMark mark (orderMarks (c :: (marks ++ t))) :=
          insertMark_comm hmark.1 hmark.2 _
      _ = orderMarks (mark :: (marks ++ c :: t)) := by rw [ih hmarks]; rfl

/-- In canonical order a character is a starter or of no lower class than the one before it. -/
def Ordered (t : Text) : Prop :=
  t.IsChain fun c d => combiningClass d = 0 ∨ combiningClass c ≤ combiningClass d

theorem head?_insertMark (c : Char) (t : Text) :
    (insertMark c t).head? = some c ∨ (insertMark c t).head? = t.head? := by
  cases t with
  | nil => exact Or.inl rfl
  | cons d t =>
    rw [insertMark]
    split
    · exact Or.inr rfl
    · exact Or.inl rfl

theorem Ordered.insertMark {t : Text} (h : Ordered t) (c : Char) :
    Ordered (Unicode.insertMark c t) := by
  induction t with
  | nil => exact .singleton c
  | cons d t ih =>
    obtain ⟨hhead, htail⟩ := List.isChain_cons.mp h
    rw [Unicode.insertMark]
    split
    · next hdc =>
      refine List.isChain_cons.mpr ⟨fun e he => ?_, ih htail⟩
      rcases head?_insertMark c t with hc | ht
      · rw [hc, Option.mem_def, Option.some.injEq] at he
        exact Or.inr (he ▸ hdc.2.le)
      · exact hhead e (ht ▸ he)
    · next hdc =>
      refine List.isChain_cons.mpr ⟨fun e he => ?_, h⟩
      obtain rfl : d = e := by simpa using he
      omega

theorem ordered_orderMarks (t : Text) : Ordered (orderMarks t) := by
  induction t with
  | nil => exact .nil
  | cons c t ih => exact ih.insertMark c

/-! ## Decompositions -/

namespace Hangul

theorem decompose?_eq_none {c : Char} (h : c.toNat < 0xAC00 ∨ 0xD7A3 < c.toNat) :
    decompose? c = none := by
  refine if_neg ?_
  unfold syllableBase leadCount vowelCount tailCount
  omega

/-- The parts of a syllable lie in one block. -/
theorem exists_of_mem_decompose? {c d : Char} {parts : Text} (hparts : decompose? c = some parts)
    (hd : d ∈ parts) : ∃ code, d = Char.ofNat code ∧ 0x1100 ≤ code ∧ code < 0x1200 := by
  unfold decompose? leadBase vowelBase tailBase leadCount vowelCount tailCount at hparts
  dsimp only at hparts
  split at hparts
  · next hrange =>
    split at hparts
    · obtain rfl := Option.some.inj hparts
      rcases List.mem_pair.mp hd with hd | hd
      · exact ⟨_, hd, by omega⟩
      · exact ⟨_, hd, by omega⟩
    · obtain rfl := Option.some.inj hparts
      rcases List.mem_cons.mp hd with hd | hd
      · exact ⟨_, hd, by omega⟩
      · rcases List.mem_pair.mp hd with hd | hd
        · exact ⟨_, hd, by omega⟩
        · exact ⟨_, hd, by omega⟩
  · simp at hparts

/-- A syllable decomposes into the parts that it is numbered by. -/
theorem decompose?_syllable {lead vowel tail : Nat} (hlead : lead < leadCount)
    (hvowel : vowel < vowelCount) (htail : tail < tailCount) :
    decompose? (Char.ofNat (syllableBase + (lead * vowelCount + vowel) * tailCount + tail)) =
      some ([Char.ofNat (leadBase + lead), Char.ofNat (vowelBase + vowel)] ++
        if tail = 0 then [] else [Char.ofNat (tailBase + tail)]) := by
  unfold leadCount at hlead
  unfold vowelCount at hvowel
  unfold tailCount at htail
  have hcode : (Char.ofNat (syllableBase + (lead * vowelCount + vowel) * tailCount + tail)).toNat =
      syllableBase + (lead * vowelCount + vowel) * tailCount + tail := by
    unfold syllableBase vowelCount tailCount
    rw [Char.ofNat, dif_pos (Or.inl (by omega))]
    rfl
  unfold decompose?
  dsimp only
  rw [hcode]
  unfold leadCount vowelCount tailCount
  -- the three numbers are the digits of the place in the block
  have hleadPart :
      (syllableBase + (lead * 21 + vowel) * 28 + tail - syllableBase) / (21 * 28) = lead := by
    omega
  have hvowelPart :
      (syllableBase + (lead * 21 + vowel) * 28 + tail - syllableBase) % (21 * 28) / 28 = vowel := by
    omega
  have htailPart :
      (syllableBase + (lead * 21 + vowel) * 28 + tail - syllableBase) % 28 = tail := by
    omega
  rw [if_pos (by omega), hleadPart, hvowelPart, htailPart]
  split <;> rfl

/-- What two characters are joined into decomposes into the parts of the first one and the second
one. The first one is a leading consonant or a syllable. -/
theorem decompose?_of_compose? {a b joined : Char} (h : compose? a b = some joined) :
    ∃ parts, decompose? joined = some (parts ++ [b]) ∧
      (parts = [a] ∧ 0x1100 ≤ a.toNat ∧ a.toNat < 0x1200 ∨ decompose? a = some parts) := by
  unfold compose? at h
  dsimp only at h
  split at h
  · next hrange =>
    obtain ⟨hleadBase, hlead, hvowelBase, hvowel⟩ := hrange
    obtain rfl := Option.some.inj h
    refine ⟨[a], ?_, Or.inl ⟨rfl, ?_⟩⟩
    · have hwhole := decompose?_syllable hlead hvowel (show 0 < tailCount by decide)
      rw [Nat.add_zero, Nat.add_sub_cancel' hleadBase, Nat.add_sub_cancel' hvowelBase,
        Char.ofNat_toNat, Char.ofNat_toNat] at hwhole
      exact hwhole
    · unfold leadBase leadCount at *
      omega
  · split at h
    · next hrange =>
      obtain ⟨hbase, hsyllable, hopen, htailBase, htail⟩ := hrange
      obtain rfl := Option.some.inj h
      have hlead : (a.toNat - syllableBase) / (vowelCount * tailCount) < leadCount := by
        unfold leadCount vowelCount tailCount at *
        omega
      have hvowel : (a.toNat - syllableBase) / tailCount % vowelCount < vowelCount :=
        Nat.mod_lt _ (by decide)
      have hcode : a.toNat =
          syllableBase + ((a.toNat - syllableBase) / (vowelCount * tailCount) * vowelCount +
            (a.toNat - syllableBase) / tailCount % vowelCount) * tailCount := by
        unfold vowelCount tailCount at *
        omega
      have hfirst := decompose?_syllable hlead hvowel (show 0 < tailCount by decide)
      rw [Nat.add_zero, ← hcode, Char.ofNat_toNat, if_pos rfl, List.append_nil] at hfirst
      have hwhole := decompose?_syllable hlead hvowel htail
      rw [← hcode, Nat.add_sub_cancel' htailBase.le, Char.ofNat_toNat, if_neg (by omega)] at hwhole
      exact ⟨_, hwhole, Or.inr hfirst⟩
    · simp at h

end Hangul

/-- A character without a row is its own decomposition, unless it is a Hangul syllable. -/
theorem decomposeChar_eq_singleton {c : Char} (hhangul : c.toNat < 0xAC00 ∨ 0xD7A3 < c.toNat)
    (hrow : decompositionMap.find? c.toNat = none) : decomposeChar c = [c] := by
  rw [decomposeChar, Hangul.decompose?_eq_none hhangul, hrow]

/-- No row stands below U+00C0 nor in the block of the parts of Hangul syllables. -/
theorem decompositionPoints_bounds : ∀ point ∈ decompositionPoints,
    0xC0 ≤ point.1 ∧ (point.1 < 0x1100 ∨ 0x1200 ≤ point.1) := by
  decide +kernel

theorem decomposeChar_of_bounds {c : Char}
    (h : c.toNat < 0xC0 ∨ 0x1100 ≤ c.toNat ∧ c.toNat < 0x1200) : decomposeChar c = [c] := by
  refine decomposeChar_eq_singleton (by omega) ?_
  rw [Option.eq_none_iff_forall_ne_some]
  intro codes hcodes
  obtain ⟨hlow, hjamo⟩ := decompositionPoints_bounds _ (CodeMap.mem_of_find?_ofPoints hcodes)
  simp only at hlow hjamo
  omega

/-- The rows are full decompositions: what stands in them is decomposed no further. -/
theorem decomposeChar_of_mem_decompositionPoints : ∀ point ∈ decompositionPoints,
    ∀ code ∈ point.2, decomposeChar (Char.ofNat code) = [Char.ofNat code] := by
  decide +kernel

/-- A decomposition is decomposed no further. -/
theorem decomposeChar_of_mem_decomposeChar {c d : Char} (h : d ∈ decomposeChar c) :
    decomposeChar d = [d] := by
  unfold decomposeChar at h
  split at h
  · next parts hparts =>
    obtain ⟨code, rfl, hcode⟩ := Hangul.exists_of_mem_decompose? hparts h
    refine decomposeChar_of_bounds (Or.inr ?_)
    rwa [Char.ofNat, dif_pos (Or.inl (by omega))]
  · next hhangul =>
    split at h
    · next codes hcodes =>
      obtain ⟨code, hcode, rfl⟩ := List.mem_map.mp h
      exact decomposeChar_of_mem_decompositionPoints _ (CodeMap.mem_of_find?_ofPoints hcodes) code
        hcode
    · next hrow =>
      obtain rfl := List.mem_singleton.mp h
      rw [decomposeChar, hhangul, hrow]

theorem flatMap_decomposeChar_eq_self {t : Text} (h : ∀ c ∈ t, decomposeChar c = [c]) :
    t.flatMap decomposeChar = t := by
  induction t with
  | nil => rfl
  | cons c t ih =>
    obtain ⟨hc, ht⟩ := List.forall_mem_cons.mp h
    rw [List.flatMap_cons, hc, ih ht, List.singleton_append]

theorem decomposeChar_of_mem_nfd {c : Char} {t : Text} (h : c ∈ nfd t) : decomposeChar c = [c] := by
  rw [(nfd_perm t).mem_iff, List.mem_flatMap] at h
  obtain ⟨d, -, hc⟩ := h
  exact decomposeChar_of_mem_decomposeChar hc

theorem nfd_nfd (t : Text) : nfd (nfd t) = nfd t := by
  rw [nfd, flatMap_decomposeChar_eq_self fun c hc => decomposeChar_of_mem_nfd hc]
  exact orderMarks_orderMarks _

/-! ## Compositions -/

/-- What a row of composites joins, the rows of decompositions take apart again. -/
theorem decomposeChar_of_mem_compositionPoints : ∀ point ∈ compositionPoints,
    ∀ follower ∈ point.2, decomposeChar (Char.ofNat follower.2) =
      decomposeChar (Char.ofNat point.1) ++ [Char.ofNat follower.1] := by
  decide +kernel

/-- A composite decomposes into the decomposition of its first character and the second one. -/
theorem decomposeChar_of_composite? {a b joined : Char} (h : composite? a b = some joined) :
    decomposeChar joined = decomposeChar a ++ [b] := by
  unfold composite? at h
  split at h
  · next hjoined =>
    obtain rfl := Option.some.inj h
    obtain ⟨parts, hparts, hfirst⟩ := Hangul.decompose?_of_compose? hjoined
    have ha : decomposeChar a = parts := by
      rcases hfirst with ⟨rfl, hrange⟩ | hfirst
      · exact decomposeChar_of_bounds (Or.inr hrange)
      · rw [decomposeChar, hfirst]
    rw [ha, decomposeChar, hparts]
  · obtain ⟨followers, hfollowers, code, hcode, hjoined⟩ :
        ∃ followers, compositionMap.find? a.toNat = some followers ∧
          ∃ code, followers.lookup b.toNat = some code ∧ some (Char.ofNat code) = some joined := by
      simpa [Option.bind_eq_some_iff] using h
    obtain rfl := Option.some.inj hjoined
    obtain ⟨before, after, rfl, -⟩ := List.lookup_eq_some_iff.mp hcode
    have hrow := decomposeChar_of_mem_compositionPoints _
      (CodeMap.mem_of_find?_ofPoints hfollowers) _ (List.mem_append_right before List.mem_cons_self)
    simpa only [Char.ofNat_toNat] using hrow

/-- Where a starter reaches a character, all marks kept between them are of lower class. -/
theorem lt_of_reaches {kept : Text} {c : Char} (hkept : ∀ mark ∈ kept, 0 < combiningClass mark)
    (hordered : Ordered kept) (h : reaches kept c = true) :
    ∀ mark ∈ kept, combiningClass mark < combiningClass c := by
  induction kept with
  | nil => simp
  | cons first kept ih =>
    obtain ⟨-, hkept'⟩ := List.forall_mem_cons.mp hkept
    obtain ⟨hfirst, hordered'⟩ := List.isChain_cons.mp hordered
    cases kept with
    | nil => simpa [reaches] using h
    | cons second kept =>
      have hlater := ih hkept' hordered' (by simpa [reaches] using h)
      have hsecond : 0 < combiningClass second := hkept' second List.mem_cons_self
      have hle := hfirst second rfl
      have hlt := hlater second List.mem_cons_self
      exact List.forall_mem_cons.mpr ⟨by omega, hlater⟩

/-- The relation that `Ordered` puts on neighbours passes over a mark that a starter reaches. -/
theorem Ordered.of_append_cons {kept t : Text} {c : Char} (h : Ordered (kept ++ c :: t))
    (hlower : ∀ mark ∈ kept, combiningClass mark < combiningClass c) : Ordered (kept ++ t) := by
  obtain ⟨hkept, hrest, -⟩ := List.isChain_append.mp h
  obtain ⟨hnext, ht⟩ := List.isChain_cons.mp hrest
  refine List.isChain_append.mpr ⟨hkept, ht, fun mark hmark d hd => ?_⟩
  have hle := hnext d hd
  have hlt := hlower mark (List.mem_of_getLast? hmark)
  omega

/-- Composing behind a starter does not change what the text decomposes into. -/
theorem orderMarks_composeAfter {starter : Char} {kept t : Text}
    (hkept : ∀ mark ∈ kept, 0 < combiningClass mark) (hordered : Ordered (kept ++ t))
    (hfull : ∀ c ∈ kept ++ t, decomposeChar c = [c]) :
    orderMarks ((composeAfter starter kept t).flatMap decomposeChar) =
      orderMarks (decomposeChar starter ++ (kept ++ t)) := by
  fun_induction composeAfter starter kept t with
  | case1 starter kept =>
    rw [List.append_nil] at hfull ⊢
    rw [List.flatMap_cons, flatMap_decomposeChar_eq_self hfull]
  | case2 starter kept c t joined hjoined ih =>
    -- the joined character decomposes with `c` in front of the kept marks, which `c` may pass
    have hreaches : reaches kept c = true := by
      by_contra hnot
      rw [if_neg hnot] at hjoined
      contradiction
    rw [if_pos hreaches] at hjoined
    have hlower := lt_of_reaches hkept (List.isChain_append.mp hordered).1 hreaches
    have hfull' : ∀ d ∈ kept ++ t, decomposeChar d = [d] := fun d hd =>
      hfull d (((List.sublist_cons_self c t).append_left kept).subset hd)
    rw [ih hkept (hordered.of_append_cons hlower) hfull', decomposeChar_of_composite? hjoined,
      List.append_assoc, List.singleton_append]
    refine orderMarks_append_congr _ (orderMarks_cons_append (fun mark hmark => ?_) t)
    exact ⟨hkept mark hmark, hlower mark hmark⟩
  | case3 starter kept c t hnone hstarter ih =>
    -- a new starter: what was kept is written, and nothing is kept behind it
    have hrest : Ordered ([] ++ t) :=
      (List.isChain_cons.mp (List.isChain_append.mp hordered).2.1).2
    obtain ⟨hfullKept, hfullRest⟩ := List.forall_mem_append.mp hfull
    obtain ⟨hfullC, hfullT⟩ := List.forall_mem_cons.mp hfullRest
    rw [List.flatMap_cons, List.flatMap_append, flatMap_decomposeChar_eq_self hfullKept]
    refine orderMarks_append_congr _ (orderMarks_append_congr _ ?_)
    rw [ih (by simp) hrest hfullT, hfullC, List.nil_append, List.singleton_append]
  | case4 starter kept c t hnone hmark ih =>
    rw [ih ?_ ?_ ?_, List.append_assoc, List.singleton_append]
    · exact List.forall_mem_append.mpr ⟨hkept, by simpa [Nat.pos_iff_ne_zero] using hmark⟩
    · rwa [List.append_assoc, List.singleton_append]
    · rwa [List.append_assoc, List.singleton_append]

theorem orderMarks_composeMarks {t : Text} (hordered : Ordered t)
    (hfull : ∀ c ∈ t, decomposeChar c = [c]) :
    orderMarks ((composeMarks t).flatMap decomposeChar) = orderMarks t := by
  induction t with
  | nil => rfl
  | cons c t ih =>
    obtain ⟨-, hordered'⟩ := List.isChain_cons.mp hordered
    obtain ⟨hc, hfull'⟩ := List.forall_mem_cons.mp hfull
    rw [composeMarks]
    split
    · have hrest : Ordered ([] ++ t) := hordered'
      rw [orderMarks_composeAfter (List.forall_mem_nil _) hrest hfull', hc, List.nil_append,
        List.singleton_append]
    · rw [List.flatMap_cons, hc]
      exact orderMarks_append_congr [c] (ih hordered' hfull')

theorem nfd_nfc (t : Text) : nfd (nfc t) = nfd t := by
  have hcompose := orderMarks_composeMarks (ordered_orderMarks (t.flatMap decomposeChar))
    fun c hc => decomposeChar_of_mem_nfd hc
  rw [orderMarks_orderMarks] at hcompose
  exact hcompose

theorem nfc_nfd (t : Text) : nfc (nfd t) = nfc t := by rw [nfc, nfd_nfd, nfc]

theorem nfc_nfc (t : Text) : nfc (nfc t) = nfc t := by rw [nfc, nfd_nfc, nfc]

/-! ## No text vanishes -/

theorem ne_nil_of_mem_decompositionPoints : ∀ point ∈ decompositionPoints, point.2 ≠ [] := by
  decide +kernel

theorem decomposeChar_ne_nil (c : Char) : decomposeChar c ≠ [] := by
  unfold decomposeChar
  split
  · next parts hparts =>
    unfold Hangul.decompose? at hparts
    dsimp only at hparts
    split at hparts
    · split at hparts <;> simp [← Option.some.inj hparts]
    · simp at hparts
  · split
    · next codes hcodes =>
      rw [Ne, List.map_eq_nil_iff]
      exact ne_nil_of_mem_decompositionPoints _ (CodeMap.mem_of_find?_ofPoints hcodes)
    · simp

theorem nfd_eq_nil_iff {t : Text} : nfd t = [] ↔ t = [] := by
  constructor
  · intro h
    have hperm := nfd_perm t
    rw [h, List.nil_perm, List.flatMap_eq_nil_iff] at hperm
    cases t with
    | nil => rfl
    | cons c t => exact absurd (hperm c List.mem_cons_self) (decomposeChar_ne_nil c)
  · rintro rfl
    rfl

theorem nfc_eq_nil_iff {t : Text} : nfc t = [] ↔ t = [] := by
  rw [← nfd_eq_nil_iff, nfd_nfc, nfd_eq_nil_iff]

end Unicode

theorem Normalizer.isCanonical_unicode : Normalizer.unicode.IsCanonical where
  composed_composed := Unicode.nfc_nfc
  composed_decomposed := Unicode.nfc_nfd
  decomposed_composed := Unicode.nfd_nfc
  decomposed_decomposed := Unicode.nfd_nfd

end Syllabary
