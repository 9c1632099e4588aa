import Syllabary.Toml.Document
import Syllabary.Toml.Writing

/-!
# Written documents are read back

A document that is written entry by entry gives these entries, in their order and with all their
texts, whatever characters these hold (`read?_write`).

Every piece of a document is read by a lemma of its own, which says what the parser of the piece
makes of the written piece with anything behind it that may come there. Where the parser repeats
another one, the lemma gives the values in a row (`Reads`). What follows matters in two places: a
string must not be followed by a third quote, and the run of plain characters in it that is read at
once goes on as far as it can.

## Main statements

* `string_quote`: texts are read back from double quotes.
* `spacing_eq`: remarks and indentation are passed over.
* `array_of_items`: an array is read back if its items are.
* `Entry.reads_write`: the lines of an entry give its statement.
* `read?_write`: what is read from a written document.
-/

namespace Syllabary.Toml

open Syllabary.Toml.Parser

variable {c : Char} {s t rest : Text}

/-! ## Strings -/

theorem digit_digitChar {d : Nat} (hd : d < 16) (t : Text) :
    digit 16 (Nat.digitChar d :: t) = some (d, t) := by
  have hall : ∀ d : Fin 16, digitValue? (Nat.digitChar d) = some d.val := by decide
  simp [digit, hall ⟨d, hd⟩, hd]

theorem codePoint_fourDigits (hc : c.toNat < 0x10000) (t : Text) :
    codePoint 4 (fourDigits c.toNat ++ t) = some (c, t) := by
  have hdigit (n : Nat) (t : Text) : digit 16 (Nat.digitChar (n % 16) :: t) = some (n % 16, t) :=
    digit_digitChar (Nat.mod_lt n (by omega)) t
  have hvalue : (((0 * 16 + c.toNat / 0x1000 % 16) * 16 + c.toNat / 0x100 % 16) * 16 +
      c.toNat / 0x10 % 16) * 16 + c.toNat % 16 = c.toNat := by omega
  have hvalid : c.toNat.isValidChar := c.valid
  have hread : fixedDigits 16 4 (fourDigits c.toNat ++ t) = some (c.toNat, t) := by
    simp only [fixedDigits, digitsAfter, fourDigits, List.map_cons, List.map_nil, List.cons_append,
      List.nil_append, bind_apply, hdigit, Option.bind_some, pure_apply, hvalue]
  rw [codePoint, bind_apply, hread, Option.bind_some, bind_apply, guard_apply, if_pos hvalid]
  show some (Char.ofNat c.toNat, t) = _
  rw [Char.ofNat_toNat]

/-- A character stands for itself inside double quotes. -/
def IsDirect (c : Char) : Prop := ¬ (c = '"' ∨ c = '\\') ∧ isHidden c = false

theorem IsDirect.writeChar_eq (hc : IsDirect c) : writeChar c = [c] := by
  rw [writeChar, if_neg hc.1, hc.2, if_neg Bool.false_ne_true]

theorem IsDirect.isBasic (hc : IsDirect c) : isBasic c := by
  obtain ⟨hspecial, hhidden⟩ := hc
  have hplain : isPlain c := by
    simp only [isHidden, Bool.or_eq_false_iff, Bool.not_eq_false'] at hhidden
    exact hhidden.2
  rw [not_or] at hspecial
  simp [Toml.isBasic, hplain, hspecial]

theorem isHidden_of_not_direct (hc : ¬ IsDirect c) (hspecial : ¬ (c = '"' ∨ c = '\\')) :
    isHidden c = true := by
  rw [← Bool.not_eq_false]
  exact fun hhidden => hc ⟨hspecial, hhidden⟩

/-- The escape of a character has room for the code of any hidden one. -/
theorem toNat_lt_of_isHidden (hc : isHidden c) : c.toNat < 0x10000 := by
  simp only [isHidden, isPlain, Bool.or_eq_true, beq_iff_eq, Bool.not_eq_true',
    Bool.or_eq_false_iff] at hc
  rcases hc with (rfl | rfl) | hcontrol
  · decide
  · decide
  · simp at hcontrol
    omega

/-- What does not stand for itself begins with a backslash. -/
theorem exists_writeChar_eq (hc : ¬ IsDirect c) : ∃ t, writeChar c = '\\' :: t := by
  by_cases hspecial : c = '"' ∨ c = '\\'
  · exact ⟨[c], by rw [writeChar, if_pos hspecial]⟩
  · rw [writeChar, if_neg hspecial, if_pos (isHidden_of_not_direct hc hspecial)]
    exact ⟨_, rfl⟩

theorem escaped_writeChar (hc : ¬ IsDirect c) (t : Text) :
    escaped (writeChar c ++ t) = some ([c], t) := by
  by_cases hspecial : c = '"' ∨ c = '\\'
  · rw [writeChar, if_pos hspecial]
    rcases hspecial with rfl | rfl <;> rfl
  · have hhidden := isHidden_of_not_direct hc hspecial
    rw [writeChar, if_neg hspecial, if_pos hhidden]
    show (escape >>= fun c => pure [c]) ('u' :: (fourDigits c.toNat ++ t)) = _
    simp [escape, satisfy, codePoint_fourDigits (toNat_lt_of_isHidden hhidden)]

/-- A piece of a string in double quotes. -/
def stringPiece : Parser Text := takeWhile1 isBasic <|> escaped

/-- Characters that stand for themselves make up one piece at most. -/
theorem exists_reads_of_direct (rest : Text) (hs : ∀ c ∈ s, IsDirect c)
    (hrest : ∀ c ∈ rest.head?, isBasic c = false) :
    ∃ pieces, Reads stringPiece (s ++ rest) pieces rest ∧ pieces.flatten = s := by
  by_cases hne : s = []
  · exact ⟨[], hne ▸ .done rest, hne.symm⟩
  · have hpos := List.length_pos_iff.mpr hne
    have hread : stringPiece (s ++ rest) = some (s, rest) := by
      simp [stringPiece, takeWhile1_append hne (fun c hc => (hs c hc).isBasic) hrest]
    exact ⟨[s], .single hread (by simp only [List.length_append]; omega), by simp⟩

/-- An escape is a piece. -/
theorem reads_writeChar (hc : ¬ IsDirect c) (t : Text) :
    Reads stringPiece (writeChar c ++ t) [[c]] t := by
  obtain ⟨digits, hescape⟩ := exists_writeChar_eq hc
  have hnone : takeWhile1 isBasic (writeChar c ++ t) = none := by
    rw [hescape]
    exact takeWhile1_cons_eq_none rfl _
  refine .single ?_ (by simp only [hescape, List.length_append, List.length_cons]; omega)
  rw [stringPiece, orElse_apply, hnone, Option.none_or, escaped_writeChar hc]

/-- The pieces of a string are the runs of characters that stand for themselves, and the escapes
between them. The induction carries the run `s` that has been passed and not yet been read. -/
theorem exists_reads_stringPiece (t rest : Text) (hs : ∀ c ∈ s, IsDirect c) :
    ∃ pieces, Reads stringPiece (s ++ (t.flatMap writeChar ++ '"' :: rest)) pieces ('"' :: rest) ∧
      pieces.flatten = s ++ t := by
  induction t generalizing s with
  | nil => simpa using exists_reads_of_direct ('"' :: rest) hs (by simp [isBasic])
  | cons c t ih =>
    rw [List.flatMap_cons, List.append_assoc]
    by_cases hc : IsDirect c
    · have hrun : ∀ d ∈ s ++ [c], IsDirect d :=
        List.forall_mem_append.mpr ⟨hs, by simpa using hc⟩
      simpa [hc.writeChar_eq] using ih hrun
    · obtain ⟨digits, hescape⟩ := exists_writeChar_eq hc
      have hstop : ∀ d ∈ (writeChar c ++ (t.flatMap writeChar ++ '"' :: rest)).head?,
          isBasic d = false := by
        simp [hescape, isBasic]
      obtain ⟨run, hrun, hflatten⟩ := exists_reads_of_direct _ hs hstop
      obtain ⟨pieces, hpieces, hflatten'⟩ := ih (s := []) (by simp)
      rw [List.nil_append] at hpieces
      exact ⟨_, hrun.append ((reads_writeChar hc _).append hpieces),
        by simp [hflatten, hflatten']⟩

theorem basicString_quote (t rest : Text) : basicString (quote t ++ rest) = some (t, rest) := by
  obtain ⟨pieces, hreads, hflatten⟩ := exists_reads_stringPiece (s := []) t rest (by simp)
  have hmany : many (takeWhile1 isBasic <|> escaped) (t.flatMap writeChar ++ '"' :: rest) =
      some (pieces, '"' :: rest) := hreads.many_eq rfl
  simp [basicString, quote, hmany, hflatten]

theorem head?_writeChar_ne (c : Char) (t : Text) : (writeChar c ++ t).head? ≠ some '"' := by
  by_cases hc : IsDirect c
  · rw [hc.writeChar_eq]
    exact fun h => hc.1 (Or.inl (Option.some.inj h))
  · obtain ⟨digits, hescape⟩ := exists_writeChar_eq hc
    simp [hescape]

/-- A quoted text is read back, unless it is empty and one more quote makes three of it. -/
theorem string_quote (t : Text) (hrest : rest.head? ≠ some '"') :
    string (quote t ++ rest) = some (t, rest) := by
  have hthree : text ['"', '"', '"'] (quote t ++ rest) = none := by
    refine text_eq_none fun after h => ?_
    simp only [quote, List.cons_append, List.append_assoc, List.nil_append, List.cons.injEq,
      true_and] at h
    cases t with
    | nil => exact hrest (by simp_all)
    | cons c t =>
      rw [List.flatMap_cons, List.append_assoc] at h
      exact head?_writeChar_ne c _ (by rw [h, List.head?_cons])
  simp [string, multilineString, hthree, basicString_quote]

theorem valueWithin_quote (depth : Nat) (t : Text) (hrest : rest.head? ≠ some '"') :
    valueWithin depth (quote t ++ rest) = some (.string t, rest) := by
  have hscalar : scalar (quote t ++ rest) = some (.string t, rest) := by
    simp [scalar, string_quote t hrest]
  cases depth with
  | zero => exact hscalar
  | succ depth => simp [valueWithin, hscalar]

/-! ## Spacing -/

/-- A piece of what may stand between the values of an array. -/
def spacingPiece : Parser Unit := discard (takeWhile1 isBlank) <|> (optional comment *> newline)

/-- The text is the rest with spacing before it. -/
def IsSpacing (t rest : Text) : Prop := ∃ units, Reads spacingPiece t units rest

theorem IsSpacing.trans {after : Text} (h : IsSpacing t after) (h' : IsSpacing after rest) :
    IsSpacing t rest := by
  obtain ⟨units, hreads⟩ := h
  obtain ⟨units', hreads'⟩ := h'
  exact ⟨_, hreads.append hreads'⟩

theorem isSpacing_newline (t : Text) : IsSpacing ('\n' :: t) t :=
  ⟨_, .single rfl (by simp)⟩

theorem isSpacing_indent (n : Nat) (hrest : ∀ c ∈ rest.head?, isBlank c = false) :
    IsSpacing (indent n ++ rest) rest := by
  cases n with
  | zero => exact ⟨[], .done rest⟩
  | succ n =>
    have hread : takeWhile1 isBlank (indent (n + 1) ++ rest) = some (indent (n + 1), rest) :=
      takeWhile1_append (by simp [indent]) (by simp [indent, isBlank]) hrest
    exact ⟨_, .single (by simp [spacingPiece, hread]; rfl) (by simp [indent])⟩

theorem newline_eq_none (hlf : c ≠ '\n') (hcr : c ≠ '\r') (t : Text) : newline (c :: t) = none := by
  have htext : text ['\r', '\n'] (c :: t) = none :=
    text_eq_none fun after h => hcr (List.cons.inj h).1
  simp [newline, hlf, htext]

theorem comment_append {plain : Text} (hplain : plain.all isPlain) (t : Text) :
    comment ('#' :: (plain ++ '\n' :: t)) = some ((), '\n' :: t) := by
  have hread : takeWhile isPlain (plain ++ '\n' :: t) = some (plain, '\n' :: t) :=
    takeWhile_append (List.all_eq_true.mp hplain) (by simp [isPlain])
  simp [comment, hread]

theorem isSpacing_remark (n : Nat) (remark : Remark) (t : Text) :
    IsSpacing (remark.write n ++ t) t := by
  cases remark with
  | blank => exact isSpacing_newline t
  | comment plain hplain =>
    have hread : spacingPiece ('#' :: (plain ++ '\n' :: t)) = some ((), t) := by
      have hblank : takeWhile1 isBlank ('#' :: (plain ++ '\n' :: t)) = none :=
        takeWhile1_cons_eq_none rfl _
      simp [spacingPiece, hblank, comment_append hplain, newline]
    have hline : IsSpacing ('#' :: (plain ++ '\n' :: t)) t :=
      ⟨_, .single hread (by simp only [List.length_append, List.length_cons]; omega)⟩
    simpa [Remark.write] using (isSpacing_indent n (by simp [isBlank])).trans hline

theorem isSpacing_remarks (n : Nat) (remarks : List Remark) (t : Text) :
    IsSpacing (remarks.flatMap (Remark.write n) ++ t) t := by
  induction remarks with
  | nil => exact ⟨[], .done t⟩
  | cons remark remarks ih =>
    rw [List.flatMap_cons, List.append_assoc]
    exact (isSpacing_remark n remark _).trans ih

/-- Characters at which spacing ends. -/
def isVisible (c : Char) : Bool := !isBlank c && c != '#' && c != '\n' && c != '\r'

theorem isBlank_of_isVisible (hc : isVisible c) : isBlank c = false := by
  simp only [isVisible, Bool.and_eq_true, Bool.not_eq_true'] at hc
  exact hc.1.1.1

theorem spacing_eq (h : IsSpacing t (c :: rest)) (hc : isVisible c) :
    spacing t = some ((), c :: rest) := by
  obtain ⟨units, hreads⟩ := h
  have hend : spacingPiece (c :: rest) = none := by
    have hblanks : takeWhile1 isBlank (c :: rest) = none :=
      takeWhile1_cons_eq_none (isBlank_of_isVisible hc) _
    simp only [isVisible, Bool.and_eq_true, bne_iff_ne] at hc
    obtain ⟨⟨⟨-, hcomment⟩, hlf⟩, hcr⟩ := hc
    simp [spacingPiece, hblanks, comment, hcomment, newline_eq_none hlf hcr]
  have hmany : many (discard (takeWhile1 isBlank) <|> (optional comment *> newline)) t =
      some (units, c :: rest) := hreads.many_eq hend
  simp [spacing, hmany]

/-! ## Arrays -/

section Arrays

variable {value : Parser Value} {a first : Value} {others : List Value} {after last : Text}
  {d : Char}

/-- A value of an array, with the spacing around it. -/
def item (value : Parser Value) : Parser Value := spacing *> value <* spacing

theorem item_eq (hbefore : IsSpacing t (c :: s)) (hc : isVisible c)
    (hvalue : value (c :: s) = some (a, after)) (hafter : IsSpacing after (d :: rest))
    (hd : isVisible d) : item value t = some (a, d :: rest) := by
  simp [item, spacing_eq hbefore hc, hvalue, spacing_eq hafter hd]

theorem item_eq_none (hbefore : IsSpacing t (c :: s)) (hc : isVisible c)
    (hvalue : value (c :: s) = none) : item value t = none := by
  simp [item, spacing_eq hbefore hc, hvalue]

/-- An array is read value by value, up to where it is closed. -/
theorem array_of_reads {close : Text} (hfirst : item value t = some (first, after))
    (hothers : Reads (char ',' *> item value) after others last)
    (hnone : (char ',' *> item value) last = none)
    (hcomma : (optional (char ',') last).map Prod.snd = some close)
    (hclose : IsSpacing close (']' :: rest)) :
    array value ('[' :: t) = some (first :: others, rest) := by
  have hitems : (separatedBy (item value) (char ',') <|> pure []) t =
      some (first :: others, last) := by
    rw [orElse_apply, hothers.separatedBy_eq hfirst hnone, Option.some_or]
  obtain ⟨comma, hread, rfl⟩ := Option.map_eq_some_iff.mp hcomma
  show (char '[' >>= fun _ => (separatedBy (item value) (char ',') <|> pure []) >>= _) _ = _
  rw [bind_apply, char_cons, if_pos rfl, Option.bind_some, bind_apply, hitems]
  show (discard (optional (char ',')) *> (spacing *> (char ']' *> pure (first :: others)))) last = _
  rw [seqRight_apply, discard_apply, hread]
  simp [spacing_eq hclose rfl]

theorem array_empty (hnone : item value t = none) (hclose : IsSpacing t (']' :: rest)) :
    array value ('[' :: t) = some ([], rest) := by
  have hitems : (separatedBy (item value) (char ',') <|> pure []) t = some ([], t) := by
    simp only [separatedBy, orElse_apply, bind_apply, hnone, Option.bind_none, Option.none_or,
      pure_apply]
  show (char '[' >>= fun _ => (separatedBy (item value) (char ',') <|> pure []) >>= _) _ = _
  rw [bind_apply, char_cons, if_pos rfl, Option.bind_some, bind_apply, hitems]
  show ((spacing *> (char ']' *> pure [])) t) = _
  simp [spacing_eq hclose rfl]

/-- Whether a value of a written array ends here. -/
def IsDelimited (t : Text) : Prop := ∃ d rest, t = d :: rest ∧ (d = ',' ∨ d = ']')

theorem IsDelimited.head?_ne (h : IsDelimited t) : t.head? ≠ some '"' := by
  obtain ⟨d, rest, rfl, rfl | rfl⟩ := h <;> simp

theorem item_of_delimited (hbefore : IsSpacing t (c :: s)) (hc : isVisible c)
    (hvalue : value (c :: s) = some (a, after)) (hafter : IsDelimited after) :
    item value t = some (a, after) := by
  obtain ⟨d, rest, rfl, rfl | rfl⟩ := hafter <;> exact item_eq hbefore hc hvalue ⟨[], .done _⟩ rfl

theorem valueWithin_closing (depth : Nat) (rest : Text) :
    valueWithin depth (']' :: rest) = none := by
  cases depth <;> rfl

/-- Items that are read one by one, each with its lead, make up an array. -/
theorem array_of_items {β : Type} {w lead : β → Text} {f : β → Value} {close : Text}
    (hread : ∀ b s after, IsSpacing s (w b ++ after) → IsDelimited after →
      item value s = some (f b, after))
    (hlead : ∀ b after, IsSpacing (lead b ++ (w b ++ after)) (w b ++ after))
    (b : β) (bs : List β) (hfirst : ∀ after, IsSpacing (s ++ (w b ++ after)) (w b ++ after))
    (hlast : IsDelimited last) (hnone : (char ',' *> item value) last = none)
    (hcomma : (optional (char ',') last).map Prod.snd = some close)
    (hclose : IsSpacing close (']' :: rest)) :
    array value ('[' :: (s ++ (w b ++ ((bs.flatMap fun b => ',' :: (lead b ++ w b)) ++ last)))) =
      some (f b :: bs.map f, rest) := by
  have hafter : IsDelimited ((bs.flatMap fun b => ',' :: (lead b ++ w b)) ++ last) := by
    cases bs with
    | nil => exact hlast
    | cons b bs => exact ⟨_, _, rfl, Or.inl rfl⟩
  refine array_of_reads (hread b _ _ (hfirst _) hafter) ?_ hnone hcomma hclose
  refine Reads.flatMap IsDelimited (fun b rest hrest => ?_) (by simp)
    (fun b rest => ⟨_, _, rfl, Or.inl rfl⟩) bs hlast
  simp [hread b _ _ (hlead b rest) hrest]

theorem array_writeTexts (depth : Nat) (texts : List Text) (rest : Text) :
    array (valueWithin depth) (writeTexts texts ++ rest) =
      some (texts.map Value.string, rest) := by
  cases texts with
  | nil =>
    exact array_empty (item_eq_none ⟨[], .done _⟩ rfl (valueWithin_closing depth rest))
      ⟨[], .done _⟩
  | cons t others =>
    have hread (u s after : Text) (hbefore : IsSpacing s (quote u ++ after))
        (hafter : IsDelimited after) : item (valueWithin depth) s = some (.string u, after) :=
      item_of_delimited hbefore rfl (valueWithin_quote depth u hafter.head?_ne) hafter
    have hspace (u after : Text) : IsSpacing ([' '] ++ (quote u ++ after)) (quote u ++ after) :=
      isSpacing_indent 1 (by simp [quote, isBlank])
    have harray := array_of_items (w := quote) (s := []) hread hspace t others
      (fun after => ⟨[], .done _⟩) ⟨']', rest, rfl, Or.inr rfl⟩ (by simp) rfl ⟨[], .done _⟩
    simpa [writeTexts] using harray

end Arrays

/-! ## Rows -/

/-- What stands between a row and the comma or the bracket before it. -/
def WrittenRow.lead (row : WrittenRow) : Text :=
  '\n' :: (row.remarks.flatMap (Remark.write 4) ++ indent 4)

theorem isSpacing_lead (row : WrittenRow) (hc : isVisible c) (t : Text) :
    IsSpacing (row.lead ++ c :: t) (c :: t) := by
  have hindent : IsSpacing (indent 4 ++ c :: t) (c :: t) :=
    isSpacing_indent 4 (by simpa using isBlank_of_isVisible hc)
  have hremarks := isSpacing_remarks 4 row.remarks (indent 4 ++ c :: t)
  simpa [WrittenRow.lead] using (isSpacing_newline _).trans (hremarks.trans hindent)

/-- A row gives an array of its texts. -/
def WrittenRow.value (row : WrittenRow) : Value := .array (row.texts.map .string)

theorem exists_writeTexts_eq (texts : List Text) : ∃ t, writeTexts texts = '[' :: t := by
  cases texts <;> exact ⟨_, rfl⟩

theorem valueWithin_writeTexts (depth : Nat) (texts : List Text) (rest : Text) :
    valueWithin (depth + 1) (writeTexts texts ++ rest) =
      some (.array (texts.map .string), rest) := by
  have hscalar : scalar (writeTexts texts ++ rest) = none := by
    obtain ⟨t, ht⟩ := exists_writeTexts_eq texts
    rw [ht]
    rfl
  simp [valueWithin, hscalar, array_writeTexts]

/-- The commas behind the rows can be counted to the rows after them. -/
theorem flatMap_write (rows : List WrittenRow) (t : Text) :
    ',' :: '\n' :: (rows.flatMap WrittenRow.write ++ t) =
      (rows.flatMap fun row => ',' :: (row.lead ++ writeTexts row.texts)) ++ ',' :: '\n' :: t := by
  induction rows with
  | nil => rfl
  | cons row rows ih =>
    rw [List.flatMap_cons, List.flatMap_cons, List.append_assoc, List.append_assoc, ← ih]
    simp [WrittenRow.write, WrittenRow.lead]

theorem array_rows (depth : Nat) (rows : List WrittenRow) (rest : Text) :
    array (valueWithin (depth + 1))
      ('[' :: '\n' :: (rows.flatMap WrittenRow.write ++ ']' :: rest)) =
      some (rows.map WrittenRow.value, rest) := by
  cases rows with
  | nil =>
    have hclose : IsSpacing ('\n' :: ']' :: rest) (']' :: rest) := isSpacing_newline _
    exact array_empty (item_eq_none hclose rfl (valueWithin_closing _ rest)) hclose
  | cons row rows =>
    have hread (row : WrittenRow) (s after : Text)
        (hbefore : IsSpacing s (writeTexts row.texts ++ after)) (hafter : IsDelimited after) :
        item (valueWithin (depth + 1)) s = some (row.value, after) := by
      obtain ⟨t, ht⟩ := exists_writeTexts_eq row.texts
      have hvalue := valueWithin_writeTexts depth row.texts after
      rw [ht] at hbefore hvalue
      exact item_of_delimited hbefore rfl hvalue hafter
    have hlead (row : WrittenRow) (after : Text) :
        IsSpacing (row.lead ++ (writeTexts row.texts ++ after))
          (writeTexts row.texts ++ after) := by
      obtain ⟨t, ht⟩ := exists_writeTexts_eq row.texts
      rw [ht]
      exact isSpacing_lead row rfl _
    have hend : IsSpacing ('\n' :: ']' :: rest) (']' :: rest) := isSpacing_newline _
    have hnone : (char ',' *> item (valueWithin (depth + 1))) (',' :: '\n' :: ']' :: rest) =
        none := by
      simp [item_eq_none hend rfl (valueWithin_closing (depth + 1) rest)]
    have harray := array_of_items hread hlead row rows (hlead row) ⟨_, _, rfl, Or.inl rfl⟩ hnone
      rfl hend
    rw [← flatMap_write] at harray
    simpa [WrittenRow.write, WrittenRow.lead] using harray

/-! ## Entries -/

theorem ne_of_isBare {d : Char} (hc : isBare c) (hd : isBare d = false) : c ≠ d := by
  rintro rfl
  exact Bool.false_ne_true (hd.symm.trans hc)

theorem isBlank_of_isBare (hc : isBare c) : isBlank c = false := by
  simp only [isBlank, Bool.or_eq_false_iff, beq_eq_false_iff_ne]
  exact ⟨ne_of_isBare hc rfl, ne_of_isBare hc rfl⟩

theorem blanks_of_head (hc : isBlank c = false) (t : Text) :
    blanks (c :: t) = some ((), c :: t) := by
  simp [blanks, takeWhile, hc]

/-- A line that begins with a name holds a statement. -/
theorem line_of_isBare (hc : isBare c) (t : Text) :
    line (c :: t) = (some <$> statement <* lineEnd) (c :: t) := by
  -- what makes the line fall to the last case
  have hlf : c ≠ '\n' := ne_of_isBare hc rfl
  have hcr : c ≠ '\r' := ne_of_isBare hc rfl
  have hcomment : c ≠ '#' := ne_of_isBare hc rfl
  simp only [line, bind_apply, blanks_of_head (isBlank_of_isBare hc), Option.bind_some, peek,
    List.head?_cons]

namespace Entry

variable (entry : Entry)

/-- The value of an entry. -/
def value : Value := .array (entry.rows.map WrittenRow.value)

/-- The statement that an entry makes. -/
def statement : Statement := .assign ⟨[], entry.name⟩ entry.value

theorem exists_name_eq : ∃ c s, entry.name = c :: s ∧ isBare c := by
  obtain ⟨hne, hbare⟩ := entry.bare
  obtain ⟨c, s, hname⟩ := List.exists_cons_of_ne_nil hne
  exact ⟨c, s, hname, List.all_eq_true.mp hbare c (hname ▸ List.mem_cons_self)⟩

theorem path_name (t : Text) :
    path (entry.name ++ ' ' :: '=' :: t) = some (⟨[], entry.name⟩, '=' :: t) := by
  obtain ⟨hne, hbare⟩ := entry.bare
  have hkey : keyPart (entry.name ++ ' ' :: '=' :: t) = some (entry.name, ' ' :: '=' :: t) := by
    have hread : takeWhile1 isBare (entry.name ++ ' ' :: '=' :: t) =
        some (entry.name, ' ' :: '=' :: t) :=
      takeWhile1_append hne (List.all_eq_true.mp hbare) (by simp [isBare])
    simp [keyPart, hread]
  have hblanks : blanks (entry.name ++ ' ' :: '=' :: t) =
      some ((), entry.name ++ ' ' :: '=' :: t) := by
    obtain ⟨c, s, hname, hc⟩ := entry.exists_name_eq
    rw [hname]
    exact blanks_of_head (isBlank_of_isBare hc) _
  have hend : blanks (' ' :: '=' :: t) = some ((), '=' :: t) := rfl
  have hparts : separatedBy (blanks *> keyPart <* blanks) (char '.')
      (entry.name ++ ' ' :: '=' :: t) = some ([entry.name], '=' :: t) :=
    (Reads.done _).separatedBy_eq (by simp [hblanks, hkey, hend]) (by simp)
  rw [path, bind_apply, hparts]
  rfl

theorem value_rows (rows : List WrittenRow) (t : Text) :
    Toml.value ('[' :: '\n' :: (rows.flatMap WrittenRow.write ++ ']' :: t)) =
      some (.array (rows.map WrittenRow.value), t) := by
  have hscalar (t : Text) : scalar ('[' :: t) = none := rfl
  -- one level for the rows and one for their texts, of all the levels that a value may have
  show valueWithin (77 + 1 + 1) _ = _
  rw [valueWithin]
  simp only [orElse_apply, hscalar, map_apply, array_rows, Option.none_or, Option.map_some,
    Option.some_or]

/-- What an entry writes below its remarks. -/
def assignmentText : Text :=
  entry.name ++ ' ' :: '=' :: ' ' :: '[' :: '\n' :: (entry.rows.flatMap WrittenRow.write ++ [']'])

theorem statement_assignmentText (t : Text) :
    Toml.statement (entry.assignmentText ++ '\n' :: t) = some (entry.statement, '\n' :: t) := by
  have hassign : assignment Toml.value (entry.assignmentText ++ '\n' :: t) =
      some ((⟨[], entry.name⟩, entry.value), '\n' :: t) := by
    have hblanks (t : Text) : blanks (' ' :: '[' :: t) = some ((), '[' :: t) := rfl
    simp [assignment, assignmentText, path_name, hblanks, value_rows, value]
  obtain ⟨c, s, hname, hc⟩ := entry.exists_name_eq
  have hbracket : c ≠ '[' := ne_of_isBare hc rfl
  have htwo : text ['[', '['] (entry.assignmentText ++ '\n' :: t) = none := by
    rw [assignmentText, hname]
    exact text_eq_none fun after h => hbracket (List.cons.inj h).1
  have hone : char '[' (entry.assignmentText ++ '\n' :: t) = none := by
    simp [assignmentText, hname, hbracket]
  simp [Toml.statement, htwo, hone, hassign, statement]

theorem line_assignmentText (t : Text) :
    line (entry.assignmentText ++ '\n' :: t) = some (some entry.statement, t) := by
  obtain ⟨c, s, hname, hc⟩ := entry.exists_name_eq
  have hstatement := entry.statement_assignmentText t
  obtain ⟨s, hs⟩ : ∃ s, entry.assignmentText ++ '\n' :: t = c :: s := by
    rw [assignmentText, hname]
    exact ⟨_, rfl⟩
  have hend : lineEnd ('\n' :: t) = some ((), t) := rfl
  rw [hs] at hstatement ⊢
  rw [line_of_isBare hc]
  simp [hstatement, hend]

end Entry

theorem line_remark (remark : Remark) (t : Text) : line (remark.write 0 ++ t) = some (none, t) := by
  cases remark with
  | blank => rfl
  | comment plain hplain =>
    have hread := comment_append hplain t
    have hend : lineEnd ('#' :: (plain ++ '\n' :: t)) = some ((), t) := by
      simp [lineEnd, blanks_of_head, isBlank, hread, newline]
    show line ('#' :: ((plain ++ ['\n']) ++ t)) = _
    rw [List.append_assoc]
    show (lineEnd *> pure none) ('#' :: (plain ++ '\n' :: t)) = _
    simp [hend]

/-! ## Documents -/

/-- What the lines of an entry give: nothing for its remarks, and then its statement. -/
def Entry.lines (entry : Entry) : List (Option Statement) :=
  entry.remarks.map (fun _ => none) ++ [some entry.statement]

theorem Entry.reads_write (entry : Entry) (t : Text) :
    Reads line (entry.write ++ t) entry.lines t := by
  have hremarks : Reads line
      (entry.remarks.flatMap (Remark.write 0) ++ (entry.assignmentText ++ '\n' :: t))
      (entry.remarks.map fun _ => none) (entry.assignmentText ++ '\n' :: t) :=
    Reads.flatMap (fun _ => True) (fun remark rest _ => line_remark remark rest)
      (fun remark => by cases remark <;> simp [Remark.write]) (fun _ _ => trivial) _ trivial
  have hline : Reads line (entry.assignmentText ++ '\n' :: t) [some entry.statement] t :=
    .single (entry.line_assignmentText t)
      (by simp only [List.length_append, List.length_cons]; omega)
  simpa [Entry.write, Entry.lines, assignmentText] using hremarks.append hline

theorem reads_write (entries : List Entry) :
    Reads line (write entries) (entries.flatMap Entry.lines) [] := by
  induction entries with
  | nil => exact .done []
  | cons entry entries ih => exact (entry.reads_write (write entries)).append ih

theorem Entry.filterMap_lines (entry : Entry) : entry.lines.filterMap id = [entry.statement] := by
  have hremarks : (entry.remarks.map fun _ => (none : Option Statement)).filterMap id = [] :=
    List.filterMap_eq_nil_iff.mpr (by simp)
  rw [Entry.lines, List.filterMap_append, hremarks]
  rfl

theorem Entry.head?_write_ne (entry : Entry) (t : Text) :
    (entry.write ++ t).head? ≠ some '\uFEFF' := by
  unfold Entry.write
  cases entry.remarks with
  | nil =>
    obtain ⟨c, s, hname, hc⟩ := entry.exists_name_eq
    simpa [hname] using ne_of_isBare hc (d := '\uFEFF') rfl
  | cons remark remarks => cases remark <;> simp [Remark.write, indent]

/-- The statements of a written document are those of its entries. -/
theorem statements_write (entries : List Entry) :
    statements.readAll? (write entries) = some (entries.map Entry.statement) := by
  have hmark : char '\uFEFF' (write entries) = none := by
    cases entries with
    | nil => rfl
    | cons entry entries => exact char_eq_none (entry.head?_write_ne (write entries))
  have hlines := (reads_write entries).many_eq rfl
  have hstatements : (entries.flatMap Entry.lines).filterMap id = entries.map Entry.statement := by
    simp only [List.filterMap_flatMap, Entry.filterMap_lines, List.map_eq_flatMap]
  have hread : statements (write entries) = some (entries.map Entry.statement, []) := by
    simp only [statements, bind_apply, discard_apply, optional_apply, hmark, hlines, hstatements,
      Option.map_none, Option.getD_none, Option.map_some, Option.bind_some, pure_apply]
    rfl
  simp [readAll?, hread]

theorem apply_statement {root : Table} (entry : Entry) (hnew : entry.name ∉ root.map Prod.fst) :
    Document.apply ⟨root, []⟩ entry.statement =
      some ⟨root ++ [(entry.name, entry.value)], []⟩ := by
  have hlookup : root.lookup entry.name = none := by
    simp only [List.lookup_eq_none_iff, bne_iff_ne]
    exact fun pair hpair heq => hnew (heq ▸ List.mem_map_of_mem hpair)
  simp [Document.apply, Entry.statement, Table.changeAt, Table.assign, Table.add?, hlookup]

theorem foldlM_apply (root : Table) (entries : List Entry)
    (hnodup : (root.map Prod.fst ++ entries.map Entry.name).Nodup) :
    (entries.map Entry.statement).foldlM Document.apply ⟨root, []⟩ =
      some ⟨root ++ entries.map fun entry => (entry.name, entry.value), []⟩ := by
  induction entries generalizing root with
  | nil => simp
  | cons entry entries ih =>
    have hnew : entry.name ∉ root.map Prod.fst := fun hmem =>
      (List.nodup_append.mp hnodup).2.2 _ hmem _ List.mem_cons_self rfl
    have hnext := ih (root ++ [(entry.name, entry.value)]) (by simpa using hnodup)
    simp [apply_statement entry hnew, hnext]

/-- A written document gives its entries under their names, in their order. -/
theorem read?_write {entries : List Entry} (hnodup : (entries.map Entry.name).Nodup) :
    read? (write entries) = some (entries.map fun entry => (entry.name, entry.value)) := by
  have hfold := foldlM_apply [] entries (by simpa using hnodup)
  simp [read?, statements_write, hfold]

end Syllabary.Toml
