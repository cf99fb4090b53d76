import BannedApi.Json.Printer
import BannedApi.Json.Reader
import BannedApi.Proofs.Value.Change
import Mathlib.Data.List.Forall2
import Mathlib.Data.List.Nodup
import Mathlib.Data.List.TakeWhile

/-!
Reading what was written.

A string between quotes is read back character by character (`readString_flatMap_escapeChar`). From
there on it goes by layers: a value is `Legible` in a style when at every level it has a text that a
reader takes whole, whatever stands behind it. Texts are legible, and so are a list of legible
values (`legible_list`) and a mapping of them under different names (`legible_object`), on one line
or indented. A whole text may end with white space (`parse_print`).
-/
namespace BannedApi.Json

/-! ### Strings -/

theorem hexValue?_digitChar : ∀ n < 16, hexValue? (Nat.digitChar n) = some n := by decide

theorem hex4?_digits (n : Nat) (h : n < 0x10000) :
    hex4? (Nat.digitChar (n / 4096 % 16)) (Nat.digitChar (n / 256 % 16))
      (Nat.digitChar (n / 16 % 16)) (Nat.digitChar (n % 16)) = some n := by
  have hdigit (m : Nat) : hexValue? (Nat.digitChar (m % 16)) = some (m % 16) :=
    hexValue?_digitChar _ (Nat.mod_lt m (by decide))
  simp only [hex4?, hdigit, Option.bind_eq_bind, Option.bind_some, Option.pure_def,
    Option.some.injEq]
  omega

/-- The code of a control character is no half of a pair, so it stands for that character alone. -/
theorem readCodeEscape_control {c : Char} (hc : c.toNat < 0x20) (d : Char) (rest : List Char) :
    readCodeEscape ((codeEscape c.toNat).drop 2 ++ d :: rest) = .ok (c, d :: rest) := by
  have hhigh : isHighHalf c.toNat = false := by simp [isHighHalf]; omega
  have hlow : isLowHalf c.toNat = false := by simp [isLowHalf]; omega
  have hunit : unitChar c.toNat = c := by simp [unitChar, hhigh, hlow]
  simp only [codeEscape, List.drop_succ_cons, List.drop_zero, List.cons_append, List.nil_append,
    readCodeEscape, hex4?_digits _ (Nat.lt_trans hc (by decide)), hhigh, hunit]
  split
  · simp
  · rfl

/-! One step of the reader for each way to write a character. -/

variable (opening : List Char)

theorem readString_simple {e x : Char} (he : simpleEscape? e = some x) (cs : List Char) :
    readString opening ('\\' :: e :: cs)
      = (readString opening cs).map fun r => (x :: r.1, r.2) := by
  have hcode : e ≠ 'u' := by
    rintro rfl
    cases he
  rw [readString]
  · rw [he]
  · exact fun h => hcode h

theorem readString_code {c : Char} (hc : c.toNat < 0x20) (d : Char) (rest : List Char) :
    readString opening (codeEscape c.toNat ++ d :: rest)
      = (readString opening (d :: rest)).map fun r => (c :: r.1, r.2) := by
  have hread := readCodeEscape_control hc d rest
  simp only [codeEscape, List.drop_succ_cons, List.drop_zero, List.cons_append,
    List.nil_append] at hread ⊢
  rw [readString]
  split
  · next f hfault =>
    rw [hread] at hfault
    cases hfault
  · next x rest' hok =>
    rw [hread] at hok
    cases hok
    rfl

theorem readString_plain {c : Char} (hquote : c ≠ '"') (hback : c ≠ '\\') (hc : ¬ c.toNat < 0x20)
    (cs : List Char) :
    readString opening (c :: cs) = (readString opening cs).map fun r => (c :: r.1, r.2) := by
  rw [readString]
  · rw [if_neg hc]
  · exact fun h => hquote h
  · exact fun h _ => hback h
  · exact fun _ h _ => hback h
  · exact fun _ _ h _ => hback h

/-- A character is read back from what is written for it, when something stands behind it. -/
theorem readString_escapeChar (c d : Char) (rest : List Char) :
    readString opening (escapeChar false c ++ d :: rest)
      = (readString opening (d :: rest)).map fun r => (c :: r.1, r.2) := by
  simp only [escapeChar, Bool.false_and, Bool.false_eq_true, if_false]
  split_ifs with hquote hback hline hreturn htab hbackspace hfeed hcontrol
  · subst hquote
    exact readString_simple opening rfl (d :: rest)
  · subst hback
    exact readString_simple opening rfl (d :: rest)
  · subst hline
    exact readString_simple opening rfl (d :: rest)
  · subst hreturn
    exact readString_simple opening rfl (d :: rest)
  · subst htab
    exact readString_simple opening rfl (d :: rest)
  · subst hbackspace
    exact readString_simple opening rfl (d :: rest)
  · subst hfeed
    exact readString_simple opening rfl (d :: rest)
  · exact readString_code opening hcontrol d rest
  · exact readString_plain opening hquote hback hcontrol (d :: rest)

/-- The characters of a string are read back up to its closing quote. -/
theorem readString_flatMap_escapeChar (cs rest : List Char) :
    readString opening (cs.flatMap (escapeChar false) ++ '"' :: rest) = .ok (cs, rest) := by
  induction cs with
  | nil =>
    rw [List.flatMap_nil, List.nil_append, readString]
  | cons c cs ih =>
    rw [List.flatMap_cons, List.append_assoc]
    -- whatever comes next, be it the closing quote, there is a character behind this one
    obtain ⟨d, tail, htail⟩ :
        ∃ d tail, cs.flatMap (escapeChar false) ++ '"' :: rest = d :: tail := by
      cases cs.flatMap (escapeChar false) with
      | nil => exact ⟨_, _, rfl⟩
      | cons d tail => exact ⟨_, _, rfl⟩
    rw [htail] at ih ⊢
    rw [readString_escapeChar, ih]
    rfl

/-! ### White space -/

theorem skipSpace_append (gap : List Char) (hgap : ∀ c ∈ gap, isSpace c = true) {c : Char}
    (hc : isSpace c = false) (cs : List Char) : skipSpace (gap ++ c :: cs) = c :: cs := by
  rw [skipSpace, List.dropWhile_append_of_pos hgap, List.dropWhile_cons_of_neg (by simp [hc])]

theorem isSpace_lineBreak (style : Style) (level : Nat) :
    ∀ c ∈ style.lineBreak level, isSpace c = true := by
  intro c hc
  unfold Style.lineBreak at hc
  split at hc
  · cases hc
  · rcases List.mem_cons.1 hc with rfl | hc
    · rfl
    · rw [List.eq_of_mem_replicate hc]
      rfl

/-! ### Texts that are read back -/

/-- A reader takes the text for this value and stops behind it, whatever stands there. -/
structure ReadsAs (text : List Char) (v : Value) : Prop where
  opens : ∃ c ∈ ['"', '\x7b', '['], ∃ cs, text = c :: cs
  reads : ∀ {fuel : Nat} (rest : List Char), text.length < fuel →
    readValue fuel (text ++ rest) = .ok (v, rest)

/-- White space before such a text is skipped. -/
theorem ReadsAs.skipSpace_append {text : List Char} {v : Value} (h : ReadsAs text v)
    (gap : List Char) (hgap : ∀ c ∈ gap, isSpace c = true) (rest : List Char) :
    skipSpace (gap ++ (text ++ rest)) = text ++ rest := by
  obtain ⟨c, hc, cs, rfl⟩ := h.opens
  have hspace : isSpace c = false := by
    simp only [List.mem_cons, List.not_mem_nil, or_false] at hc
    rcases hc with rfl | rfl | rfl
    · rfl
    · rfl
    · rfl
  exact Json.skipSpace_append gap hgap hspace (cs ++ rest)

theorem readsAs_renderString (s : String) : ReadsAs (renderString false s) (.text s) where
  opens := ⟨'"', by simp, _, rfl⟩
  reads := by
    intro fuel rest hfuel
    obtain ⟨fuel, rfl⟩ := Nat.exists_eq_add_one_of_ne_zero (Nat.ne_zero_of_lt hfuel)
    simp only [renderString, List.cons_append, List.append_assoc, List.nil_append, readValue,
      readString_flatMap_escapeChar]
    simp [Except.map]

/-! ### Entries -/

/-- What is written for a field: its name, a colon and the text of its value. -/
def FieldText (part : List Char) (field : String × Value) : Prop :=
  ∃ text, part = renderString false field.1 ++ ':' :: ' ' :: text ∧ ReadsAs text field.2

/-- The fields of a mapping as entries. -/
def entriesOf (fields : List (String × Value)) : List (Scalar × Value) :=
  fields.map fun f => (.text f.1, f.2)

theorem putEntry_of_new {name : String} {entries : List (Scalar × Value)}
    (hnew : ∀ e ∈ entries, e.1 ≠ .text name) (v : Value) :
    putEntry (.text name) v entries = entries ++ [(.text name, v)] := by
  induction entries with
  | nil => rfl
  | cons e rest ih =>
    obtain ⟨k, x⟩ := e
    have hk : k.sameKey (.text name) = false := by
      rw [Scalar.sameKey_text]
      simpa using hnew (k, x) (List.mem_cons_self ..)
    rw [putEntry, hk, ih fun e he => hnew e (List.mem_cons_of_mem _ he)]
    rfl

/-- A field is put behind the entries that were read before it, and the reader goes on. -/
theorem readEntries_field {part : List Char} {field : String × Value}
    (hpart : FieldText part field) {entries : List (Scalar × Value)}
    (hnew : ∀ e ∈ entries, e.1 ≠ .text field.1) {fuel : Nat} (hfuel : part.length ≤ fuel)
    (rest : List Char) :
    readEntries (fuel + 1) entries (part ++ rest)
      = match skipSpace rest with
        | '\x7d' :: rest => .ok (entries ++ entriesOf [field], rest)
        | ',' :: rest => readEntries fuel (entries ++ entriesOf [field]) (skipSpace rest)
        | rest => fault .expectingComma rest := by
  obtain ⟨text, rfl, htext⟩ := hpart
  have hlength : text.length < fuel := by
    simp only [renderString, List.length_append, List.length_cons] at hfuel
    omega
  have hcolon (cs : List Char) : skipSpace (':' :: cs) = ':' :: cs :=
    skipSpace_append [] (by simp) rfl cs
  have hvalue : skipSpace (' ' :: (text ++ rest)) = text ++ rest :=
    htext.skipSpace_append [' '] (by simp [isSpace]) rest
  simp only [renderString, List.cons_append, List.append_assoc, List.nil_append, readEntries,
    readString_flatMap_escapeChar, hcolon, hvalue, htext.reads rest hlength, String.ofList_toList,
    putEntry_of_new hnew field.2]
  rfl

theorem new_of_nodup {entries : List (Scalar × Value)} {field : String × Value}
    {fields : List (String × Value)}
    (h : ((entries ++ entriesOf (field :: fields)).map (·.1)).Nodup) :
    ∀ e ∈ entries, e.1 ≠ .text field.1 := by
  intro e he
  rw [List.map_append, List.nodup_append] at h
  exact h.2.2 e.1 (List.mem_map_of_mem he) _ (List.mem_cons_self ..)

/-- The fields of a mapping are read up to its closing brace, when their names differ from each
other and from those read before. -/
theorem readEntries_fields {gap close : List Char} (hgap : ∀ c ∈ gap, isSpace c = true)
    (hclose : ∀ c ∈ close, isSpace c = true) (rest : List Char)
    {parts : List (List Char)} {fields : List (String × Value)}
    (hparts : List.Forall₂ FieldText parts fields) :
    ∀ (fuel : Nat) {part : List Char} {field : String × Value} (_ : FieldText part field)
      (entries : List (Scalar × Value))
      (_ : ((entries ++ entriesOf (field :: fields)).map (·.1)).Nodup)
      (_ : part.length + (parts.flatMap fun q => ',' :: gap ++ q).length < fuel),
      readEntries fuel entries
          (part ++ ((parts.flatMap fun q => ',' :: gap ++ q) ++ (close ++ '\x7d' :: rest)))
        = .ok (entries ++ entriesOf (field :: fields), rest) := by
  induction hparts with
  | nil =>
    intro fuel part field hpart entries hnodup hfuel
    obtain ⟨fuel, rfl⟩ := Nat.exists_eq_add_one_of_ne_zero (Nat.ne_zero_of_lt hfuel)
    rw [List.flatMap_nil, List.nil_append, readEntries_field hpart (new_of_nodup hnodup) (by omega),
      skipSpace_append close hclose rfl]
    rfl
  | @cons next nextField parts fields hnext hrest ih =>
    intro fuel part field hpart entries hnodup hfuel
    obtain ⟨fuel, rfl⟩ := Nat.exists_eq_add_one_of_ne_zero (Nat.ne_zero_of_lt hfuel)
    have hcomma (cs : List Char) : skipSpace (',' :: cs) = ',' :: cs :=
      skipSpace_append [] (by simp) rfl cs
    have hname (cs : List Char) : skipSpace (gap ++ (next ++ cs)) = next ++ cs := by
      obtain ⟨text, rfl, -⟩ := hnext
      exact skipSpace_append gap hgap rfl _
    have hentries : entries ++ entriesOf (field :: nextField :: fields)
        = (entries ++ entriesOf [field]) ++ entriesOf (nextField :: fields) := by
      simp [entriesOf]
    rw [List.flatMap_cons, List.length_append, List.cons_append, List.length_cons,
      List.length_append] at hfuel
    rw [readEntries_field hpart (new_of_nodup hnodup) (by omega), List.flatMap_cons]
    simp only [List.cons_append, List.append_assoc, hcomma, hname]
    rw [hentries] at hnodup ⊢
    exact ih fuel hnext _ hnodup (by omega)

/-! ### Items -/

/-- The items of a list are read up to its closing bracket. -/
theorem readItems_items {gap close : List Char} (hgap : ∀ c ∈ gap, isSpace c = true)
    (hclose : ∀ c ∈ close, isSpace c = true) (rest : List Char)
    {parts : List (List Char)} {xs : List Value} (hparts : List.Forall₂ ReadsAs parts xs) :
    ∀ (fuel : Nat) {part : List Char} {x : Value} (_ : ReadsAs part x)
      (_ : part.length + (parts.flatMap fun q => ',' :: gap ++ q).length + 1 < fuel),
      readItems fuel
          (part ++ ((parts.flatMap fun q => ',' :: gap ++ q) ++ (close ++ ']' :: rest)))
        = .ok (x :: xs, rest) := by
  induction hparts with
  | nil =>
    intro fuel part x hpart hfuel
    obtain ⟨fuel, rfl⟩ := Nat.exists_eq_add_one_of_ne_zero (Nat.ne_zero_of_lt hfuel)
    have hend := skipSpace_append close hclose (c := ']') rfl rest
    rw [List.flatMap_nil, List.nil_append, readItems, hpart.reads _ (by omega)]
    simp only [hend]
  | @cons next y parts xs hnext hrest ih =>
    intro fuel part x hpart hfuel
    obtain ⟨fuel, rfl⟩ := Nat.exists_eq_add_one_of_ne_zero (Nat.ne_zero_of_lt hfuel)
    have hcomma (cs : List Char) : skipSpace (',' :: cs) = ',' :: cs :=
      skipSpace_append [] (by simp) rfl cs
    rw [List.flatMap_cons, List.length_append, List.cons_append, List.length_cons,
      List.length_append] at hfuel
    rw [readItems, hpart.reads _ (by omega), List.flatMap_cons]
    simp only [List.cons_append, List.append_assoc, hcomma, hnext.skipSpace_append gap hgap]
    have hitems := ih fuel hnext (by omega)
    simp only [List.cons_append] at hitems
    rw [hitems]
    rfl

/-! ### Legible values -/

/-- At every level the value has a text that is read back. -/
def Legible (style : Style) (v : Value) : Prop :=
  ∀ level around, ∃ text, render style level around v = .ok text ∧ ReadsAs text v

variable {style : Style}

theorem legible_text (hstyle : style.ascii = false) (s : String) : Legible style (.text s) := by
  intro level around
  refine ⟨renderString false s, ?_, readsAs_renderString s⟩
  rw [render, renderScalar, hstyle]

theorem renderEntries_entriesOf (hstyle : style.ascii = false) {fields : List (String × Value)}
    (hfields : ∀ f ∈ fields, Legible style f.2) (level : Nat) (around : List Nat) :
    ∃ parts, renderEntries style level around (entriesOf fields) = .ok parts
      ∧ List.Forall₂ FieldText parts fields := by
  induction fields with
  | nil => exact ⟨[], rfl, .nil⟩
  | cons field fields ih =>
    obtain ⟨text, hrender, htext⟩ := hfields field (List.mem_cons_self ..) level around
    obtain ⟨parts, hparts, hall⟩ := ih fun f hf => hfields f (List.mem_cons_of_mem _ hf)
    refine ⟨_, ?_, .cons ⟨text, rfl, htext⟩ hall⟩
    rw [entriesOf] at hparts
    simp only [entriesOf, List.map_cons, renderEntries, keyName, hrender, hparts, hstyle]
    rfl

theorem renderItems_of_legible {xs : List Value} (hxs : ∀ x ∈ xs, Legible style x) (level : Nat)
    (around : List Nat) :
    ∃ parts, renderItems style level around xs = .ok parts ∧ List.Forall₂ ReadsAs parts xs := by
  induction xs with
  | nil => exact ⟨[], rfl, .nil⟩
  | cons x xs ih =>
    obtain ⟨text, hrender, htext⟩ := hxs x (List.mem_cons_self ..) level around
    obtain ⟨parts, hparts, hall⟩ := ih fun y hy => hxs y (List.mem_cons_of_mem _ hy)
    refine ⟨text :: parts, ?_, .cons htext hall⟩
    simp only [renderItems, hrender, hparts]
    rfl

/-- What stands between the parts of a list or a mapping: a comma and white space. -/
theorem exists_comma (style : Style) (level : Nat) :
    ∃ gap, (∀ c ∈ gap, isSpace c = true) ∧
      (if style.indent.isNone then [',', ' '] else ',' :: style.lineBreak level) = ',' :: gap := by
  split
  · exact ⟨[' '], by simp [isSpace], rfl⟩
  · exact ⟨_, isSpace_lineBreak style level, rfl⟩

theorem opens_bracketed (style : Style) (level : Nat) (opening closing : Char)
    (parts : List (List Char)) :
    ∃ cs, bracketed style level opening closing parts = opening :: cs := by
  cases parts with
  | nil => exact ⟨_, rfl⟩
  | cons part parts => exact ⟨_, rfl⟩

theorem nodup_entriesOf {fields : List (String × Value)} (h : (fields.map (·.1)).Nodup) :
    ((entriesOf fields).map (·.1)).Nodup := by
  have hkeys : (entriesOf fields).map (·.1) = (fields.map (·.1)).map Scalar.text := by
    rw [entriesOf, List.map_map, List.map_map]
    rfl
  rw [hkeys]
  exact List.Nodup.map (fun _ _ heq => Scalar.text.inj heq) h

theorem readsAs_fields {parts : List (List Char)} {fields : List (String × Value)}
    (hparts : List.Forall₂ FieldText parts fields) (hnames : (fields.map (·.1)).Nodup)
    (level : Nat) :
    ReadsAs (bracketed style level '\x7b' '\x7d' parts) (.object fields) where
  opens := ⟨'\x7b', by simp, opens_bracketed ..⟩
  reads := by
    intro fuel rest hfuel
    obtain ⟨fuel, rfl⟩ := Nat.exists_eq_add_one_of_ne_zero (Nat.ne_zero_of_lt hfuel)
    cases hparts with
    | nil => rfl
    | @cons part field parts fields hpart hrest =>
      obtain ⟨gap, hgap, hcomma⟩ := exists_comma style (level + 1)
      simp only [bracketed, hcomma, List.cons_append, List.append_assoc, List.nil_append,
        List.length_cons, List.length_append] at hfuel ⊢
      have hread := readEntries_fields hgap (isSpace_lineBreak style level) rest hrest fuel hpart []
        (nodup_entriesOf hnames) (by simp only [List.cons_append]; omega)
      simp only [List.cons_append] at hread
      obtain ⟨text, rfl, -⟩ := hpart
      simp only [renderString, List.cons_append, List.append_assoc, List.nil_append] at hread ⊢
      rw [readValue, skipSpace_append _ (isSpace_lineBreak style _) rfl]
      exact congrArg (Except.map fun r => (Value.map r.1, r.2)) hread

theorem readsAs_items {parts : List (List Char)} {xs : List Value}
    (hparts : List.Forall₂ ReadsAs parts xs) (level : Nat) :
    ReadsAs (bracketed style level '[' ']' parts) (.list xs) where
  opens := ⟨'[', by simp, opens_bracketed ..⟩
  reads := by
    intro fuel rest hfuel
    obtain ⟨fuel, rfl⟩ := Nat.exists_eq_add_one_of_ne_zero (Nat.ne_zero_of_lt hfuel)
    cases hparts with
    | nil => rfl
    | @cons part x parts xs hpart hrest =>
      obtain ⟨gap, hgap, hcomma⟩ := exists_comma style (level + 1)
      simp only [bracketed, hcomma, List.cons_append, List.append_assoc, List.nil_append,
        List.length_cons, List.length_append] at hfuel ⊢
      have hread := readItems_items hgap (isSpace_lineBreak style level) rest hrest fuel hpart
        (by simp only [List.cons_append]; omega)
      simp only [List.cons_append] at hread
      rw [readValue, hpart.skipSpace_append _ (isSpace_lineBreak style _)]
      have hitems := congrArg (Except.map fun r => (Value.list r.1, r.2)) hread
      -- an item does not start with the closing bracket
      obtain ⟨c, hc, cs, rfl⟩ := hpart.opens
      simp only [List.mem_cons, List.not_mem_nil, or_false] at hc
      rcases hc with rfl | rfl | rfl
      · exact hitems
      · exact hitems
      · exact hitems

/-- A list of legible values is legible. -/
theorem legible_list {xs : List Value} (hxs : ∀ x ∈ xs, Legible style x) :
    Legible style (.list xs) := by
  intro level around
  obtain ⟨parts, hrender, hparts⟩ := renderItems_of_legible hxs (level + 1) around
  refine ⟨bracketed style level '[' ']' parts, ?_, readsAs_items hparts level⟩
  rw [render, hrender]
  rfl

/-- A mapping of legible values under different names is legible. -/
theorem legible_object (hstyle : style.ascii = false) {fields : List (String × Value)}
    (hnames : (fields.map (·.1)).Nodup) (hfields : ∀ f ∈ fields, Legible style f.2) :
    Legible style (.object fields) := by
  intro level around
  obtain ⟨parts, hrender, hparts⟩ := renderEntries_entriesOf hstyle hfields (level + 1) around
  refine ⟨bracketed style level '\x7b' '\x7d' parts, ?_, readsAs_fields hparts hnames level⟩
  rw [entriesOf] at hrender
  rw [Value.object, render, hrender]
  rfl

/-! ### Whole texts -/

/-- A legible value has a text, and the text is read back with white space behind it. -/
theorem parse_print {v : Value} (hv : Legible style v) (gap : String)
    (hgap : ∀ c ∈ gap.toList, isSpace c = true) :
    ∃ text, print style v = .ok text ∧ parse (text ++ gap) = .ok v := by
  obtain ⟨text, hrender, htext⟩ := hv 0 []
  refine ⟨String.ofList text, by rw [print, hrender]; rfl, ?_⟩
  have hskip : skipSpace (text ++ gap.toList) = text ++ gap.toList :=
    htext.skipSpace_append [] (by simp) _
  have hend : skipSpace gap.toList = [] := by
    rw [skipSpace, List.dropWhile_eq_nil_iff]
    exact hgap
  have hvalue : readValue (2 * (text ++ gap.toList).length + 1) (text ++ gap.toList)
      = .ok (v, gap.toList) :=
    htext.reads _ (by rw [List.length_append]; omega)
  have hread : read (text ++ gap.toList) = .ok v := by
    unfold read
    split
    · next heq =>
      -- a legible text does not start with a byte order mark
      obtain ⟨c, hc, cs, rfl⟩ := htext.opens
      cases heq
      exact absurd hc (by decide)
    · rw [hskip, hvalue]
      simp only [hend]
  rw [parse, String.toList_append, String.toList_ofList, hread]
  rfl

end BannedApi.Json
