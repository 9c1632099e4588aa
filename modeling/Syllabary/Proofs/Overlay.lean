import Mathlib
import Syllabary.Kana.Converter
import Syllabary.Proofs.Reach

/-!
# Overlays

A rule set is laid over another one by standing behind it. Its claims are then the later ones, so
it decides about every text that one of its rules claims, and the set below decides about all other
texts. The two sets may overlap in any way: in equal keys, in one form of a key or in both.

## Main statements

* `Index.get?_ofRules_concat`: the set above answers first.
* `Index.maxKeyLength?_ofRules_concat`: a character reaches as far as in the better of the two sets.
* `Kana.Converter.get?_index_overlay`: rules of a user change no text that they do not claim.
-/

namespace Syllabary

namespace Index

variable {normalizer : Normalizer} {below above : RuleSet}

theorem concat_pair (below above : RuleSet) : RuleSet.concat [below, above] = below ++ above := by
  simp [RuleSet.concat]

/-- The set above answers first. -/
theorem get?_ofRules_concat (t : Text) :
    (ofRules normalizer (.concat [below, above])).get? t =
      ((ofRules normalizer above).get? t).or ((ofRules normalizer below).get? t) := by
  rw [get?_ofRules, get?_ofRules, get?_ofRules, concat_pair, RuleSet.owner?_append]

theorem mem_keys_ofRules_concat {t : Text} :
    t ∈ (ofRules normalizer (.concat [below, above])).keys ↔
      t ∈ (ofRules normalizer below).keys ∨ t ∈ (ofRules normalizer above).keys := by
  simp only [mem_keys_ofRules, concat_pair, List.mem_append, or_and_right, exists_or]

/-- A character reaches as far as in the set where it reaches further. -/
theorem maxKeyLength?_ofRules_concat (c : Char) :
    (ofRules normalizer (.concat [below, above])).maxKeyLength? c =
      greater? ((ofRules normalizer below).maxKeyLength? c)
        ((ofRules normalizer above).maxKeyLength? c) := by
  simp only [maxKeyLength?_ofRules]
  rw [← max?_append_eq_greater?]
  refine max?_congr fun n => ?_
  rw [← List.map_append, ← List.filter_append]
  simp only [List.mem_map, List.mem_filter, List.mem_append, mem_keys_ofRules_concat]

theorem greater?_eq_none_iff {a? b? : Option Nat} :
    greater? a? b? = none ↔ a? = none ∧ b? = none := by
  cases a? <;> cases b? <;> simp

end Index

namespace Kana.Converter

/-- A customized converter lays the rules of the document over the default table. -/
theorem customized_eq_ok_iff {mappings : Text} {converter : Converter} :
    customized mappings = .ok converter ↔
      ∃ custom, RuleSet.ofToml mappings = .ok custom ∧ overlay .default custom = converter := by
  cases h : RuleSet.ofToml mappings with
  | error e => simp [customized, h, bind, Except.bind]
  | ok custom => simp [customized, h, bind, Except.bind, pure, Except.pure]

/-- The rules of a user answer first, in either script. -/
theorem get?_index_overlay (custom : RuleSet) (script : Script) (t : Text) :
    ((overlay .default custom).index script).get? t =
      ((Index.ofRules .unicode custom).get? t).or ((Converter.default.index script).get? t) := by
  have hover : (overlay .default custom).index script =
      .ofRules .unicode (.concat [Table.default.rules script, custom]) := by cases script <;> rfl
  have hbase : Converter.default.index script =
      .ofRules .unicode (.concat [Table.default.rules script, []]) := by cases script <;> rfl
  -- the default converter has no rules of a user, which makes an empty set on top
  have hempty : (Index.ofRules .unicode []).get? t = none := by
    rw [Index.get?_ofRules, RuleSet.owner?_eq_none_iff]
    simp
  rw [hover, hbase, Index.get?_ofRules_concat, Index.get?_ofRules_concat, hempty, Option.none_or]

/-- Where one rule set is laid over another one, the set above answers for every text that it
knows and the set below for all others, and a character reaches as far as in the set where it
reaches further. So the rules of a user decide, in both scripts, about the forms of their keys as
they do by themselves, and leave every other text as it is in the default converter. -/
theorem overlay_decides_its_claims :
    (∀ (normalizer : Normalizer) (below above : RuleSet),
      let index := Index.ofRules normalizer (.concat [below, above])
      (∀ t rule, (Index.ofRules normalizer above).get? t = some rule → index.get? t = some rule) ∧
      (∀ t, (Index.ofRules normalizer above).get? t = none →
        index.get? t = (Index.ofRules normalizer below).get? t) ∧
      ∀ c, index.maxKeyLength? c =
          Index.greater? ((Index.ofRules normalizer below).maxKeyLength? c)
            ((Index.ofRules normalizer above).maxKeyLength? c) ∧
        (index.maxKeyLength? c = none ↔ (Index.ofRules normalizer below).maxKeyLength? c = none ∧
          (Index.ofRules normalizer above).maxKeyLength? c = none)) ∧
    ∀ mappings converter, customized mappings = .ok converter →
      ∃ custom, RuleSet.ofToml mappings = .ok custom ∧ ∀ script t,
        ((∃ rule ∈ custom, rule.Claims .unicode t) →
          ∃ rule, (Index.ofRules .unicode custom).get? t = some rule ∧
            (converter.index script).get? t = some rule) ∧
        ((∀ rule ∈ custom, ¬ rule.Claims .unicode t) →
          (converter.index script).get? t = (Converter.default.index script).get? t) := by
  refine ⟨fun normalizer below above => ⟨fun t rule h => ?_, fun t h => ?_, fun c => ⟨?_, ?_⟩⟩,
    fun mappings converter hcustomized => ?_⟩
  · rw [Index.get?_ofRules_concat, h, Option.some_or]
  · rw [Index.get?_ofRules_concat, h, Option.none_or]
  · exact Index.maxKeyLength?_ofRules_concat c
  · rw [Index.maxKeyLength?_ofRules_concat, Index.greater?_eq_none_iff]
  · obtain ⟨custom, hcustom, rfl⟩ := customized_eq_ok_iff.mp hcustomized
    refine ⟨custom, hcustom, fun script t => ⟨fun hclaimed => ?_, fun hfree => ?_⟩⟩
    · have hsome : (Index.ofRules .unicode custom).get? t ≠ none := by
        rw [Ne, Index.get?_ofRules, RuleSet.owner?_eq_none_iff]
        obtain ⟨rule, hrule, hclaims⟩ := hclaimed
        exact fun hnone => hnone rule hrule hclaims
      obtain ⟨rule, hget⟩ := Option.ne_none_iff_exists'.mp hsome
      refine ⟨rule, hget, ?_⟩
      rw [get?_index_overlay, hget, Option.some_or]
    · have hnone : (Index.ofRules .unicode custom).get? t = none := by
        rw [Index.get?_ofRules, RuleSet.owner?_eq_none_iff]
        exact hfree
      rw [get?_index_overlay, hnone, Option.none_or]

/-- A mapping for the decomposed long `o` takes the composed one over too, and no syllable else. -/
theorem customized_long_o :
    ∃ converter,
      customized ['[', 'm', 'a', 'p', 'p', 'i', 'n', 'g', 's', ']', '\n', '"', 'o', '\u0304', '"',
        '=', '"', 'を', '"', '\n'] = .ok converter ∧
      ∀ script,
        (converter.index script).get? ['ō'] = some (.literal ['o', '\u0304'] ['を']) ∧
        (converter.index script).get? ['k', 'ō'] =
          (Converter.default.index script).get? ['k', 'ō'] := by
  have hread : RuleSet.ofToml ['[', 'm', 'a', 'p', 'p', 'i', 'n', 'g', 's', ']', '\n', '"', 'o',
      '\u0304', '"', '=', '"', 'を', '"', '\n'] = .ok [.literal ['o', '\u0304'] ['を']] := by cbv
  have hcustomized := customized_eq_ok_iff.mpr ⟨_, hread, rfl⟩
  obtain ⟨custom, hcustom, hdecides⟩ := overlay_decides_its_claims.2 _ _ hcustomized
  obtain rfl : [.literal ['o', '\u0304'] ['を']] = custom := Except.ok.inj (hread.symm.trans hcustom)
  refine ⟨_, hcustomized, fun script => ⟨?_, ?_⟩⟩
  · obtain ⟨rule, hget, hindex⟩ := (hdecides script ['ō']).1 ⟨_, List.mem_singleton_self _, by
      decide +kernel⟩
    rw [Index.get?_ofRules, RuleSet.owner?_singleton, if_pos (by decide +kernel)] at hget
    rw [hindex, ← hget]
  · refine (hdecides script ['k', 'ō']).2 fun rule hrule => ?_
    obtain rfl := List.mem_singleton.mp hrule
    decide +kernel

end Kana.Converter

end Syllabary
