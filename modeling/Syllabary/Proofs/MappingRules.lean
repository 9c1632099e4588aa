import Mathlib
import Syllabary.Mappings

/-!
# Rules of mappings

Mappings come in the order of their keys, whatever the order of the document. They are checked one
after another, and the first that is not fit ends the check. So a document gives a rule for every
entry or the fault of the smallest key that has one.

## Main statements

* `Mapping.rule?_eq_error_iff`: the fault of an entry, when it is checked by itself.
* `Mappings.rules_eq_ok_iff`, `Mappings.rules_eq_error_iff`: what the entries together give.
* `Mappings.rules_by_key`: the same, by what is mapped to each key, and for documents.
-/

namespace Syllabary

open Std (TreeMap)

/-! ## Checked lists -/

section

variable {ε α β : Type} {l : List α} {e : ε}

theorem bind_eq_ok_iff {first : Except ε α} {next : α → Except ε β} {b : β} :
    first >>= next = .ok b ↔ ∃ a, first = .ok a ∧ next a = .ok b := by
  cases first <;> simp [bind, Except.bind]

theorem bind_eq_error_iff {first : Except ε α} {next : α → Except ε β} :
    first >>= next = .error e ↔ first = .error e ∨ ∃ a, first = .ok a ∧ next a = .error e := by
  cases first <;> simp [bind, Except.bind]

/-- A check that maps what it lets through does so on a whole list if it lets every element
through. -/
theorem mapM_eq_ok_iff {f : α → Except ε β} {p : α → Prop} {g : α → β}
    (hf : ∀ a b, f a = .ok b ↔ p a ∧ b = g a) {results : List β} :
    l.mapM f = .ok results ↔ (∀ a ∈ l, p a) ∧ results = l.map g := by
  induction l generalizing results with
  | nil => simp [pure, Except.pure, eq_comm]
  | cons a l ih =>
    rw [List.mapM_cons, bind_eq_ok_iff, List.forall_mem_cons, List.map_cons]
    constructor
    · rintro ⟨b, hfirst, hresults⟩
      obtain ⟨bs, hrest, hresults⟩ := bind_eq_ok_iff.mp hresults
      obtain rfl : b :: bs = results := Except.ok.inj hresults
      obtain ⟨ha, rfl⟩ := (hf a b).mp hfirst
      obtain ⟨hl, rfl⟩ := ih.mp hrest
      exact ⟨⟨ha, hl⟩, rfl⟩
    · rintro ⟨⟨ha, hl⟩, rfl⟩
      refine ⟨g a, (hf a _).mpr ⟨ha, rfl⟩, ?_⟩
      exact bind_eq_ok_iff.mpr ⟨l.map g, ih.mpr ⟨hl, rfl⟩, rfl⟩

/-- The first refusal ends the check of a list. -/
theorem mapM_eq_error_iff {f : α → Except ε β} :
    l.mapM f = .error e ↔ ∃ before a after, l = before ++ a :: after ∧
      (∀ b ∈ before, ∃ result, f b = .ok result) ∧ f a = .error e := by
  induction l with
  | nil => simp [pure, Except.pure]
  | cons a l ih =>
    rw [List.mapM_cons, bind_eq_error_iff]
    constructor
    · rintro (hfirst | ⟨b, hfirst, hrest⟩)
      · exact ⟨[], a, l, rfl, List.forall_mem_nil _, hfirst⟩
      · rcases bind_eq_error_iff.mp hrest with hlist | ⟨bs, -, hpure⟩
        · obtain ⟨before, a', after, rfl, hbefore, hrefused⟩ := ih.mp hlist
          exact ⟨a :: before, a', after, rfl, List.forall_mem_cons.mpr ⟨⟨b, hfirst⟩, hbefore⟩,
            hrefused⟩
        · cases hpure
    · rintro ⟨before, a', after, hl, hbefore, hrefused⟩
      cases before with
      | nil =>
        obtain ⟨rfl, rfl⟩ := List.cons.inj hl
        exact Or.inl hrefused
      | cons _ before =>
        obtain ⟨rfl, rfl⟩ := List.cons.inj hl
        obtain ⟨⟨b, hfirst⟩, hbefore⟩ := List.forall_mem_cons.mp hbefore
        refine Or.inr ⟨b, hfirst, bind_eq_error_iff.mpr (Or.inl ?_)⟩
        exact ih.mpr ⟨before, a', after, rfl, hbefore, hrefused⟩

end

/-! ## Entries -/

namespace Mapping

variable {key : Text} {mapping : Mapping} {error : MappingsError}

/-- The entry has a key, an output and no length of zero. -/
structure Fit (mapping : Mapping) (key : Text) : Prop where
  key_ne_nil : key ≠ []
  output_ne_nil : mapping.output ≠ []
  length?_ne : mapping.length? ≠ some 0

/-- What is wrong with an entry. The key counts before the output, and the output before the
length. -/
inductive Fault (mapping : Mapping) (key : Text) : MappingsError → Prop
  | emptyKey (hkey : key = []) : Fault mapping key .emptyKey
  | emptyOutput (hkey : key ≠ []) (houtput : mapping.output = []) :
      Fault mapping key (.emptyOutput key)
  | zeroLength (hkey : key ≠ []) (houtput : mapping.output ≠ [])
      (hlength : mapping.length? = some 0) : Fault mapping key (.zeroLength key)

/-- The rule of an entry that is fit. -/
def toRule (mapping : Mapping) (key : Text) : Rule :=
  ⟨key, .literal mapping.output (mapping.length?.map .ofNat)⟩

theorem rule?_eq_ok_iff_fit {rule : Rule} :
    mapping.rule? key = .ok rule ↔ mapping.Fit key ∧ rule = mapping.toRule key := by
  rw [rule?_eq_ok_iff]
  constructor
  · rintro ⟨⟨hkey, houtput, hlength⟩, rfl⟩
    exact ⟨⟨hkey, houtput, hlength⟩, rfl⟩
  · rintro ⟨⟨hkey, houtput, hlength⟩, rfl⟩
    exact ⟨⟨hkey, houtput, hlength⟩, rfl⟩

theorem rule?_eq_error_iff : mapping.rule? key = .error error ↔ mapping.Fault key error := by
  constructor
  · intro h
    unfold rule? at h
    split at h
    · next hkey =>
      obtain rfl := Except.error.inj h
      exact .emptyKey hkey
    · next hkey =>
      split at h
      · next houtput =>
        obtain rfl := Except.error.inj h
        exact .emptyOutput hkey houtput
      · next houtput =>
        split at h
        · cases h
        · next length hlength =>
          split at h
          · next hzero =>
            obtain rfl := Except.error.inj h
            exact .zeroLength hkey houtput (hzero ▸ hlength)
          · cases h
  · rintro (hkey | ⟨hkey, houtput⟩ | ⟨hkey, houtput, hlength⟩)
    · rw [rule?, if_pos hkey]
    · rw [rule?, if_neg hkey, if_pos houtput]
    · rw [rule?, if_neg hkey, if_neg houtput, hlength]
      rfl

/-- The length of an entry that is fit is the stride of its rule. -/
theorem Fit.eq_stride_iff (h : mapping.Fit key) {stride? : Option Stride} :
    mapping.length?.map .ofNat = stride? ↔ stride?.map Subtype.val = mapping.length? := by
  have hlength : (mapping.length?.map Stride.ofNat).map Subtype.val = mapping.length? := by
    cases hlength : mapping.length? with
    | none => rfl
    | some length =>
      have hzero : length ≠ 0 := fun hzero => h.length?_ne (hzero ▸ hlength)
      show some (max length 1) = some length
      rw [Nat.max_eq_left (Nat.one_le_iff_ne_zero.mpr hzero)]
  constructor
  · rintro rfl
    exact hlength
  · intro hstride
    exact Option.map_injective Subtype.val_injective (hlength.trans hstride.symm)

/-- The message about a fault ends in the key. -/
theorem Fault.suffix_message (h : mapping.Fault key error) : key <:+ error.message := by
  cases h with
  | emptyKey hkey => exact hkey ▸ List.nil_suffix
  | emptyOutput => exact List.suffix_append _ _
  | zeroLength => exact List.suffix_append _ _

end Mapping

/-! ## Mappings -/

/-- The order of the keys is that of their characters, one after another. -/
theorem Text.compare_eq_lt_iff {s t : Text} : compare s t = .lt ↔ s < t := by
  induction s generalizing t with
  | nil => cases t <;> simp
  | cons c s ih =>
    cases t with
    | nil => simp
    | cons d t =>
      have hchar : compare c d = .lt ↔ c < d := compareOfLessAndEq_eq_lt
      rw [List.compare_cons_cons, Ordering.then_eq_lt, List.cons_lt_cons_iff, ih, hchar,
        Std.LawfulEqOrd.compare_eq_iff_eq]

namespace Mappings

variable {mappings : Mappings} {key : Text} {mapping : Mapping} {set : RuleSet}
  {error : MappingsError}

theorem pairwise_lt (mappings : Mappings) :
    mappings.toList.Pairwise fun entry later => entry.1 < later.1 :=
  TreeMap.ordered_keys_toList.imp Text.compare_eq_lt_iff.mp

theorem mem_toList_iff : (key, mapping) ∈ mappings.toList ↔ mappings[key]? = some mapping :=
  TreeMap.mem_toList_iff_getElem?_eq_some

theorem rules_of_isEmpty (h : mappings.isEmpty = true) : mappings.rules = .error .empty := by
  rw [rules, if_pos h]

/-- The entries are checked one after another. -/
theorem rules_of_not_isEmpty (h : mappings.isEmpty = false) :
    mappings.rules = mappings.toList.mapM fun entry => entry.2.rule? entry.1 := by
  rw [rules, h]
  rfl

/-- Entries that are fit give their rules in the order of the keys. -/
theorem rules_eq_ok_iff :
    mappings.rules = .ok set ↔ mappings.isEmpty = false ∧
      (∀ entry ∈ mappings.toList, entry.2.Fit entry.1) ∧
        set = mappings.toList.map fun entry => entry.2.toRule entry.1 := by
  cases hempty : mappings.isEmpty with
  | true => simp [rules_of_isEmpty hempty]
  | false =>
    rw [rules_of_not_isEmpty hempty, mapM_eq_ok_iff fun _ _ => Mapping.rule?_eq_ok_iff_fit]
    simp

/-- The fault of the smallest key that has one. -/
def FirstFault (mappings : Mappings) (error : MappingsError) : Prop :=
  ∃ (key : Text) (mapping : Mapping), mappings[key]? = some mapping ∧ mapping.Fault key error ∧
    ∀ (key' : Text) (mapping' : Mapping), mappings[key']? = some mapping' → key' < key →
      mapping'.Fit key'

theorem mapM_rule?_eq_error_iff :
    (mappings.toList.mapM fun entry => entry.2.rule? entry.1) = .error error ↔
      mappings.FirstFault error := by
  have hfit (entry : Text × Mapping) :
      (∃ rule, entry.2.rule? entry.1 = .ok rule) ↔ entry.2.Fit entry.1 := by
    simp only [Mapping.rule?_eq_ok_iff_fit, exists_and_left, exists_eq, and_true]
  rw [mapM_eq_error_iff]
  constructor
  · rintro ⟨before, ⟨key, mapping⟩, after, hlist, hbefore, hfault⟩
    have hpairwise := mappings.pairwise_lt
    rw [hlist, List.pairwise_append, List.pairwise_cons] at hpairwise
    obtain ⟨-, ⟨hafter, -⟩, -⟩ := hpairwise
    refine ⟨key, mapping, ?_, Mapping.rule?_eq_error_iff.mp hfault,
      fun key' mapping' hget hlt => ?_⟩
    · rw [← mem_toList_iff, hlist]
      exact List.mem_append_right before List.mem_cons_self
    · -- a smaller key stands before the refused one
      rw [← mem_toList_iff, hlist, List.mem_append, List.mem_cons] at hget
      rcases hget with hmem | heq | hmem
      · exact (hfit _).mp (hbefore _ hmem)
      · obtain ⟨rfl, rfl⟩ := (Prod.mk.injEq ..).mp heq
        exact absurd hlt (List.lt_irrefl key')
      · exact absurd hlt (List.lt_asymm (hafter _ hmem))
  · rintro ⟨key, mapping, hget, hfault, hsmaller⟩
    obtain ⟨before, after, hlist⟩ := List.append_of_mem (mem_toList_iff.mpr hget)
    have hpairwise := mappings.pairwise_lt
    rw [hlist, List.pairwise_append] at hpairwise
    obtain ⟨-, -, hbefore⟩ := hpairwise
    refine ⟨before, (key, mapping), after, hlist, fun entry hentry => ?_,
      Mapping.rule?_eq_error_iff.mpr hfault⟩
    apply (hfit entry).mpr
    apply hsmaller entry.1 entry.2 _ (hbefore entry hentry _ List.mem_cons_self)
    rw [← mem_toList_iff, hlist]
    exact List.mem_append_left _ hentry

/-- Otherwise the fault of the smallest key that has one is told. -/
theorem rules_eq_error_iff :
    mappings.rules = .error error ↔
      mappings.isEmpty = true ∧ error = .empty ∨ mappings.FirstFault error := by
  cases hempty : mappings.isEmpty with
  | true =>
    have hnone : ¬ mappings.FirstFault error := by
      rintro ⟨key, mapping, hget, -⟩
      rw [TreeMap.getElem?_of_isEmpty hempty] at hget
      cases hget
    simp [rules_of_isEmpty hempty, hnone, eq_comm]
  | false =>
    rw [rules_of_not_isEmpty hempty, mapM_rule?_eq_error_iff]
    simp

/-- There is a rule for every entry, with its output and its length. -/
theorem mem_rules_iff (h : mappings.rules = .ok set) {rule : Rule} :
    rule ∈ set ↔ ∃ (key : Text) (mapping : Mapping) (stride? : Option Stride),
      mappings[key]? = some mapping ∧ stride?.map Subtype.val = mapping.length? ∧
        rule = ⟨key, .literal mapping.output stride?⟩ := by
  obtain ⟨-, hfit, rfl⟩ := rules_eq_ok_iff.mp h
  simp only [List.mem_map, Prod.exists, mem_toList_iff]
  constructor
  · rintro ⟨key, mapping, hget, rfl⟩
    have hentry : mapping.Fit key := hfit _ (mem_toList_iff.mpr hget)
    exact ⟨key, mapping, _, hget, hentry.eq_stride_iff.mp rfl, rfl⟩
  · rintro ⟨key, mapping, stride?, hget, hstride, rfl⟩
    have hentry : mapping.Fit key := hfit _ (mem_toList_iff.mpr hget)
    exact ⟨key, mapping, hget, by rw [Mapping.toRule, hentry.eq_stride_iff.mpr hstride]⟩

/-- The keys of the rules increase. -/
theorem pairwise_key_rules (h : mappings.rules = .ok set) :
    (set.map Rule.key).Pairwise (· < ·) := by
  obtain ⟨-, -, rfl⟩ := rules_eq_ok_iff.mp h
  rw [List.map_map, List.pairwise_map]
  exact mappings.pairwise_lt

theorem exists_rules_iff :
    (∃ set, mappings.rules = .ok set) ↔ mappings.isEmpty = false ∧
      ∀ (key : Text) (mapping : Mapping), mappings[key]? = some mapping → mapping.Fit key := by
  simp only [rules_eq_ok_iff, exists_and_left, exists_eq, and_true, Prod.forall, mem_toList_iff]

/-! ## Documents -/

theorem mem_of_mapM_ofValue? {entries : Toml.Table} {read : List (Text × Mapping)}
    (h : (entries.mapM fun (key, value) => do return (key, ← Mapping.ofValue? value)) =
      some read) :
    read.map Prod.fst = entries.map Prod.fst ∧
      ∀ key mapping, (key, mapping) ∈ read ↔
        ∃ value, (key, value) ∈ entries ∧ Mapping.ofValue? value = some mapping := by
  induction entries generalizing read with
  | nil =>
    obtain rfl : [] = read := Option.some.inj h
    simp
  | cons entry entries ih =>
    rw [List.mapM_cons] at h
    obtain ⟨first, hfirst, h⟩ := Option.bind_eq_some_iff.mp h
    obtain ⟨rest, hrest, h⟩ := Option.bind_eq_some_iff.mp h
    obtain rfl : first :: rest = read := Option.some.inj h
    obtain ⟨mapping, hmapping, hpair⟩ := Option.bind_eq_some_iff.mp hfirst
    obtain rfl : (entry.1, mapping) = first := Option.some.inj hpair
    obtain ⟨hkeys, hmem⟩ := ih hrest
    refine ⟨by rw [List.map_cons, List.map_cons, hkeys], fun key mapping' => ?_⟩
    rw [List.mem_cons, hmem]
    constructor
    · rintro (heq | ⟨value, hvalue, hmapping'⟩)
      · obtain ⟨rfl, rfl⟩ := (Prod.mk.injEq ..).mp heq
        exact ⟨entry.2, List.mem_cons_self, hmapping⟩
      · exact ⟨value, List.mem_cons_of_mem entry hvalue, hmapping'⟩
    · rintro ⟨value, hvalue, hmapping'⟩
      rcases List.mem_cons.mp hvalue with rfl | hvalue
      · exact Or.inl (by rw [Option.some.inj (hmapping.symm.trans hmapping')])
      · exact Or.inr ⟨value, hvalue, hmapping'⟩

/-- A list of distinct keys, read as a map. -/
theorem getElem?_ofList_iff {entries : List (Text × Mapping)}
    (hdistinct : (entries.map Prod.fst).Nodup) :
    (TreeMap.ofList entries : Mappings)[key]? = some mapping ↔ (key, mapping) ∈ entries := by
  have hpairwise : entries.Pairwise fun entry later => ¬ compare entry.1 later.1 = .eq := by
    refine (List.pairwise_map.mp hdistinct).imp fun hne heq => ?_
    exact hne (Std.LawfulEqOrd.compare_eq_iff_eq.mp heq)
  have hget {value : Mapping} (hmem : (key, value) ∈ entries) :
      (TreeMap.ofList entries : Mappings)[key]? = some value :=
    TreeMap.getElem?_ofList_of_mem (Std.ReflCmp.compare_self) hpairwise hmem
  constructor
  · intro hsome
    by_cases hkey : key ∈ entries.map Prod.fst
    · obtain ⟨⟨_, value⟩, hmem, rfl⟩ := List.mem_map.mp hkey
      rw [hget hmem, Option.some.injEq] at hsome
      exact hsome ▸ hmem
    · rw [TreeMap.getElem?_ofList_of_contains_eq_false (by simpa using hkey)] at hsome
      cases hsome
  · exact hget

/-- What the mappings of a document hold is what its entries say, in whatever order they stand. -/
theorem getElem?_ofDocument? {root entries : Toml.Table}
    (hentries : (root.lookup "mappings".toList).bind entries? = some entries)
    (hdistinct : (entries.map Prod.fst).Nodup) (h : ofDocument? root = some mappings) :
    mappings[key]? = some mapping ↔
      ∃ value, (key, value) ∈ entries ∧ Mapping.ofValue? value = some mapping := by
  obtain ⟨value, hroot, h⟩ := Option.bind_eq_some_iff.mp h
  rw [hroot, Option.bind_some] at hentries
  obtain ⟨_, hentries', h⟩ := Option.bind_eq_some_iff.mp h
  obtain rfl := Option.some.inj (hentries.symm.trans hentries')
  obtain ⟨read, hread, h⟩ := Option.bind_eq_some_iff.mp h
  obtain rfl : TreeMap.ofList read = mappings := Option.some.inj h
  obtain ⟨hkeys, hmem⟩ := mem_of_mapM_ofValue? hread
  rw [getElem?_ofList_iff (hkeys ▸ hdistinct), hmem]

theorem ofToml_eq_malformed_iff {t : Text} :
    RuleSet.ofToml t = .error .malformed ↔ (Toml.read? t).bind ofDocument? = none := by
  unfold RuleSet.ofToml
  split
  · next hnone => simp [hnone]
  · next mappings hread =>
    rw [hread, rules_eq_error_iff]
    simp only [reduceCtorEq, and_false, false_or, iff_false]
    rintro ⟨key, mapping, -, hfault, -⟩
    cases hfault

/-- Mappings give rules exactly if there are some and all of them are fit. Then the keys of the
rules increase, and the rules are those of the entries, with their outputs and lengths. Otherwise
the error is that there are no mappings, or the fault of the smallest key that has one, and the
message ends in this key. A document gives what its mappings give, which are its entries in any
order, and only what is no document of mappings is malformed. -/
theorem rules_by_key :
    (∀ mappings : Mappings,
      ((∃ set, mappings.rules = .ok set) ↔ mappings.isEmpty = false ∧
        ∀ (key : Text) (mapping : Mapping), mappings[key]? = some mapping → mapping.Fit key) ∧
      (∀ set, mappings.rules = .ok set →
        (set.map Rule.key).Pairwise (· < ·) ∧ set.length = mappings.size ∧
        ∀ rule, rule ∈ set ↔ ∃ (key : Text) (mapping : Mapping) (stride? : Option Stride),
          mappings[key]? = some mapping ∧ stride?.map Subtype.val = mapping.length? ∧
            rule = ⟨key, .literal mapping.output stride?⟩) ∧
      ∀ error, mappings.rules = .error error ↔
        mappings.isEmpty = true ∧ error = .empty ∨ mappings.FirstFault error) ∧
    (∀ (mapping : Mapping) key error, mapping.Fault key error → key <:+ error.message) ∧
    ∀ t, (RuleSet.ofToml t = .error .malformed ↔ (Toml.read? t).bind ofDocument? = none) ∧
      ∀ root mappings, Toml.read? t = some root → ofDocument? root = some mappings →
        RuleSet.ofToml t = mappings.rules ∧
        ∀ entries, (root.lookup "mappings".toList).bind entries? = some entries →
          (entries.map Prod.fst).Nodup → ∀ (key : Text) (mapping : Mapping),
            mappings[key]? = some mapping ↔
              ∃ value, (key, value) ∈ entries ∧ Mapping.ofValue? value = some mapping := by
  refine ⟨fun mappings => ⟨exists_rules_iff, fun set h => ?_, fun error => rules_eq_error_iff⟩,
    fun mapping key error h => h.suffix_message, fun t => ⟨ofToml_eq_malformed_iff,
      fun root mappings hread hmappings => ⟨?_, fun entries hentries hdistinct key mapping => ?_⟩⟩⟩
  · refine ⟨pairwise_key_rules h, ?_, fun rule => mem_rules_iff h⟩
    obtain ⟨-, -, rfl⟩ := rules_eq_ok_iff.mp h
    rw [List.length_map, TreeMap.length_toList]
  · rw [RuleSet.ofToml, hread, Option.bind_some, hmappings]
  · exact getElem?_ofDocument? hentries hdistinct hmappings

/-- Both entries are faulty. The key that stands second in the document is the smaller one. -/
theorem rules_by_key_of_two_faults :
    RuleSet.ofToml "[mappings]\nb = \"\"\na = \x7boutput = \"x\", length = 0\x7d\n".toList =
      .error (.zeroLength ['a']) := by
  let entries : Toml.Table := [(['b'], .string []), (['a'], .table .inline
    [("output".toList, .string ['x']), ("length".toList, .integer 0)])]
  have hread : Toml.read?
      "[mappings]\nb = \"\"\na = \x7boutput = \"x\", length = 0\x7d\n".toList =
        some [("mappings".toList, .table .header entries)] := by cbv
  obtain ⟨mappings, hmappings⟩ : ∃ mappings,
      ofDocument? [("mappings".toList, .table .header entries)] = some mappings := ⟨_, rfl⟩
  obtain ⟨herror, hentries⟩ := (rules_by_key.2.2 _).2 _ _ hread hmappings
  have hget := hentries entries rfl (by decide)
  have hfault : mappings.FirstFault (.zeroLength ['a']) := by
    refine ⟨['a'], ⟨['x'], some 0⟩,
      (hget _ _).mpr ⟨_, List.mem_cons_of_mem _ List.mem_cons_self, rfl⟩,
      .zeroLength (by simp) (by simp) rfl, fun key mapping hkey hlt => ?_⟩
    obtain ⟨value, hvalue, -⟩ := (hget key mapping).mp hkey
    rcases List.mem_pair.mp hvalue with heq | heq <;> cases heq <;> exact absurd hlt (by decide)
  rw [herror]
  exact ((rules_by_key.1 _).2.2 _).mpr (Or.inr hfault)

end Mappings

end Syllabary
