import BannedApi.Value.Display

/-!
Values in messages hold no escape character of their own.

What is quoted in a listing is escaped, and numbers, moments and brackets have none. So a message
gets an escape character from a value only where the value is itself a text, which stands as it is
(`plain_display`).
-/
namespace BannedApi

/-- There is no escape character among these. -/
def Text.Plain (cs : List Char) : Prop := '\x1b' ∉ cs

namespace Text.Plain

instance (cs : List Char) : Decidable (Plain cs) := inferInstanceAs (Decidable ('\x1b' ∉ cs))

@[simp] theorem nil : Plain [] := by simp [Plain]

@[simp] theorem cons_iff {c : Char} {cs : List Char} : Plain (c :: cs) ↔ c ≠ '\x1b' ∧ Plain cs := by
  simp [Plain, eq_comm]

@[simp] theorem append_iff {cs ds : List Char} : Plain (cs ++ ds) ↔ Plain cs ∧ Plain ds := by
  simp [Plain]

theorem ite {p : Prop} [Decidable p] {cs ds : List Char} (h : Plain cs) (h' : Plain ds) :
    Plain (if p then cs else ds) := by
  split
  · exact h
  · exact h'

theorem of_subset {cs ds : List Char} (h : Plain ds) (hsub : cs ⊆ ds) : Plain cs :=
  fun hmem => h (hsub hmem)

theorem intercalate {sep : List Char} {parts : List (List Char)} (hsep : Plain sep)
    (hparts : ∀ part ∈ parts, Plain part) : Plain (sep.intercalate parts) := by
  induction parts with
  | nil => simp
  | cons part rest ih =>
    rw [List.forall_mem_cons] at hparts
    cases rest with
    | nil => simpa using hparts.1
    | cons next rest =>
      rw [List.intercalate_cons_cons, append_iff, append_iff]
      exact ⟨⟨hparts.1, hsep⟩, ih hparts.2⟩

/-- Texts put together with a separator. -/
theorem joined {sep : String} {parts : List String} (hsep : Plain sep.toList)
    (hparts : ∀ part ∈ parts, Plain part.toList) : Plain (sep.intercalate parts).toList := by
  rw [String.toList_intercalate]
  exact .intercalate hsep (List.forall_mem_map.2 hparts)

theorem replicate {c : Char} (n : Nat) (hc : c ≠ '\x1b') : Plain (List.replicate n c) := by
  simp [Plain, List.mem_replicate, hc.symm]

@[simp] theorem toDigits (n : Nat) : Plain (Nat.toDigits 10 n) := by
  intro h
  have hdigit := Nat.isDigit_of_mem_toDigits (by decide) (by decide) h
  simp at hdigit

@[simp] theorem toString_text {s : String} : Plain (toString s).toList ↔ Plain s.toList := Iff.rfl

@[simp] theorem toString_nat (n : Nat) : Plain (toString n).toList := by
  rw [Nat.toString_eq_repr, Nat.toList_repr]
  exact toDigits n

@[simp] theorem toString_int (n : Int) : Plain (toString n).toList := by
  cases n with
  | ofNat n => exact toString_nat n
  | negSucc n =>
    show Plain ("-" ++ toString (n + 1)).toList
    simp

end Text.Plain

open Text (Plain)

/-! ### Numbers and moments -/

namespace Number

@[simp] theorem plain_padded (width n : Nat) : Plain (padded width n) := by
  simp [padded, Plain.replicate]

theorem plain_trimZeros {ds : List Char} (h : Plain ds) : Plain (trimZeros ds) := by
  refine h.of_subset fun c hc => ?_
  rw [trimZeros, List.mem_reverse] at hc
  exact List.mem_reverse.1 ((List.dropWhile_sublist _).subset hc)

theorem plain_exponentText (width : Nat) (e : Int) : Plain (exponentText width e) := by
  have hsign : (if e < 0 then '-' else '+') ≠ '\x1b' := by split <;> decide
  simp [exponentText, hsign]

theorem plain_digits (l : Layout) {ds : List Char} (h : Plain ds) (e : Int) :
    Plain (l.digits ds e) := by
  have htake (n : Nat) : Plain (ds.take n) := h.of_subset (List.take_subset n ds)
  have hdrop (n : Nat) : Plain (ds.drop n) := h.of_subset (List.drop_subset n ds)
  have hzeros (n : Nat) : Plain (List.replicate n '0') := .replicate n (by decide)
  have hpoint {front back : List Char} (hfront : Plain front) (hback : Plain back) :
      Plain (if back.isEmpty then (if l.keepPoint then front ++ ['.', '0'] else front)
        else front ++ '.' :: back) :=
    .ite (.ite (by simp [hfront]) hfront) (by simp [hfront, hback])
  refine .ite (.ite (hpoint ?_ ?_) (hpoint ?_ ?_)) ?_
  · simp
  · simp [hzeros, h]
  · simp [htake, hzeros]
  · exact hdrop _
  · refine Plain.append_iff.2 ⟨.ite h ?_, plain_exponentText _ _⟩
    rw [Plain.append_iff, Plain.cons_iff]
    exact ⟨htake 1, by decide, hdrop 1⟩

theorem plain_decimal (l : Layout) (d : Decimal) : Plain (l.decimal d) := by
  unfold Layout.decimal
  dsimp only
  split
  · exact plain_digits l (by simp) 0
  · exact plain_digits l (plain_trimZeros (.toDigits _)) _

theorem plain_text (n : Number) : Plain n.text.toList := by
  cases n with
  | int n => exact .toString_int n
  | float x =>
    cases x with
    | nan => exact (by decide : Plain "nan".toList)
    | infinite n =>
      cases n with
      | false => decide +kernel
      | true => decide +kernel
    | finite n m e =>
      rw [text, Binary64.text, Layout.signed, String.toList_ofList]
      have hsize := Plain.ite (p := m = 0) (plain_decimal .value ⟨0, 0⟩)
        (plain_decimal .value (Decimal.shortest m e))
      exact .ite (by simp [hsize]) hsize

end Number

namespace Moment

@[simp] theorem plain_pad (width n : Nat) : Plain (pad width n).toList := by
  rw [pad, String.toList_ofList]
  exact Number.plain_padded width n

theorem plain_offsetText (minutes : Int) : Plain (offsetText minutes).toList := by
  have hsign : Plain (if minutes < 0 then "-" else "+").toList := by split <;> decide
  simp only [offsetText, String.toList_append, Plain.append_iff, Plain.toString_text, plain_pad,
    hsign, and_true, true_and]
  decide

theorem plain_text (m : Moment) : Plain m.text.toList := by
  cases m with
  | date y m d =>
    simp only [text, String.toList_append, Plain.append_iff, Plain.toString_text, plain_pad,
      and_true, true_and]
    decide
  | dateTime y m d hh mm ss us offset =>
    have hfraction : Plain (if us = 0 then "" else "." ++ pad 6 us).toList := by
      split
      · decide
      · simp
    have hoffset : Plain ((offset.map offsetText).getD "").toList := by
      cases offset with
      | none => decide
      | some minutes => exact plain_offsetText minutes
    simp only [text, String.toList_append, Plain.append_iff, Plain.toString_text, plain_pad,
      hfraction, hoffset, and_true, true_and]
    decide

theorem plain_spanQuoted (minutes : Int) : Plain (spanQuoted minutes).toList := by
  have hpart (label : String) (n : Int) (hlabel : Plain label.toList) :
      ∀ part ∈ (if n = 0 then [] else [s!"{label}{n}"]), Plain part.toList := by
    split
    · simp
    · intro part hpart
      rw [List.mem_singleton.1 hpart, String.toList_append, Plain.append_iff]
      exact ⟨hlabel, .toString_int n⟩
  have hparts := List.forall_mem_append.2
    ⟨hpart "days=" (Int.fdiv minutes 1440) (by decide),
      hpart "seconds=" (60 * Int.fmod minutes 1440) (by decide)⟩
  have hlist := Plain.joined (by decide : Plain ", ".toList) hparts
  unfold spanQuoted
  simp only [String.toList_append, Plain.append_iff]
  refine ⟨⟨by decide +kernel, ?_⟩, by decide⟩
  rw [apply_ite String.toList]
  exact .ite (by decide) hlist

theorem plain_offsetQuoted (minutes : Int) : Plain (offsetQuoted minutes).toList := by
  have hspan := plain_spanQuoted minutes
  rw [offsetQuoted]
  split
  · decide
  · simp only [String.toList_append, Plain.append_iff, Plain.toString_text, hspan, and_true]
    decide +kernel

theorem plain_quoted (m : Moment) : Plain m.quoted.toList := by
  unfold quoted
  split
  · simp only [String.toList_append, Plain.append_iff, Plain.toString_text, Plain.toString_nat,
      and_true]
    decide +kernel
  · next y m d hh mm ss us offset =>
    have hfield {p : Prop} [Decidable p] (n : Nat) :
        Plain (if p then "" else s!", {n}").toList := by
      split
      · decide
      · simp only [String.toList_append, Plain.append_iff, Plain.toString_text, Plain.toString_nat,
          and_true]
        decide
    have hzone : Plain ((offset.map fun o => ", tzinfo=" ++ offsetQuoted o).getD "").toList := by
      cases offset with
      | none => decide
      | some minutes =>
        have hoffset := plain_offsetQuoted minutes
        simp [hoffset]
    simp only [String.toList_append, Plain.append_iff, Plain.toString_text, Plain.toString_nat,
      hfield, hzone, and_true]
    decide +kernel

end Moment

/-! ### Quotes -/

namespace Text

theorem plain_hexDigits (width n : Nat) : Plain (hexDigits width n) := by
  have hdigit : ∀ d < 16, Nat.digitChar d ≠ '\x1b' := by decide
  induction width generalizing n with
  | zero => exact .nil
  | succ width ih =>
    rw [hexDigits, Plain.append_iff, Plain.cons_iff]
    exact ⟨ih (n / 16), hdigit _ (Nat.mod_lt n (by decide)), .nil⟩

theorem ne_escape_of_isPrintable {c : Char} (h : isPrintable c = true) : c ≠ '\x1b' := by
  rintro rfl
  have hnot : isPrintable '\x1b' = false := by decide +kernel
  rw [hnot] at h
  cases h

theorem plain_quoteChar {q : Char} (hq : q ≠ '\x1b') (c : Char) : Plain (quoteChar q c) := by
  have hhex (mark : Char) (width : Nat) (hmark : mark ≠ '\x1b') :
      Plain ('\\' :: mark :: hexDigits width c.toNat) := by
    simp [hmark, plain_hexDigits]
  unfold quoteChar
  split
  · next h =>
    have hc : c ≠ '\x1b' := by
      rcases Bool.or_eq_true_iff.1 h with h | h
      · rw [of_decide_eq_true h]
        exact hq
      · rw [of_decide_eq_true h]
        decide
    simp [hc]
  refine .ite (by decide) (.ite (by decide) (.ite (by decide) ?_))
  split
  · next h => simp [ne_escape_of_isPrintable h]
  exact .ite (hhex 'x' 2 (by decide)) (.ite (hhex 'u' 4 (by decide)) (hhex 'U' 8 (by decide)))

theorem quoteMark_ne_escape (cs : List Char) : quoteMark cs ≠ '\x1b' := by
  unfold quoteMark
  split <;> decide

theorem Plain.flatMap {α : Type} {f : α → List Char} {xs : List α} (h : ∀ x ∈ xs, Plain (f x)) :
    Plain (xs.flatMap f) := by
  intro hmem
  obtain ⟨x, hx, hc⟩ := List.mem_flatMap.1 hmem
  exact h x hx hc

theorem plain_quoted (s : String) : Plain (quoted s).toList := by
  have hq := quoteMark_ne_escape s.toList
  rw [quoted, String.toList_ofList]
  simp [hq, Plain.flatMap fun c _ => plain_quoteChar hq c]

theorem plain_quotedBytes (data : List UInt8) : Plain (quotedBytes data).toList := by
  have hq := quoteMark_ne_escape (data.map fun b => Char.ofNat b.toNat)
  have hbyte (b : UInt8) : Plain (quoteByte (quoteMark (data.map fun b => Char.ofNat b.toNat)) b) :=
    .ite (plain_quoteChar hq _) (by simp [plain_hexDigits])
  rw [quotedBytes, String.toList_ofList]
  simp [hq, Plain.flatMap fun b _ => hbyte b]

end Text

/-! ### Values -/

theorem Scalar.plain_quoted (s : Scalar) : Plain s.quoted.toList := by
  cases s with
  | null => decide
  | bool b => cases b <;> decide
  | number n => exact n.plain_text
  | text s => exact Text.plain_quoted s
  | moment m => exact m.plain_quoted
  | bytes data => exact Text.plain_quotedBytes data

theorem plain_between {opening closing : String} {parts : List String}
    (hopening : Plain opening.toList) (hclosing : Plain closing.toList)
    (hparts : ∀ part ∈ parts, Plain part.toList) :
    Plain (between opening parts closing).toList := by
  rw [between, String.toList_append, String.toList_append, Plain.append_iff, Plain.append_iff]
  exact ⟨⟨hopening, .joined (by decide) hparts⟩, hclosing⟩

namespace Value

/-- Whatever a value holds, its listing has no escape character. -/
theorem plain_quotedIn (around : List Nat) (v : Value) : Plain (v.quotedIn around).toList := by
  -- The entries of mappings and the items of lists and tuples are listed part by part.
  refine quotedIn.induct (fun around v => Plain (v.quotedIn around).toList)
    (fun around es => ∀ part ∈ quotedEntries around es, Plain part.toList)
    (fun around xs => ∀ part ∈ quotedItems around xs, Plain part.toList)
    ?scalar ?list ?map ?tuple ?emptySet ?set ?again ?knot ?unwritten ?noItem ?item ?noEntry ?entry around v
  case scalar =>
    intro around s
    rw [quotedIn]
    exact s.plain_quoted
  case list =>
    intro around xs hxs
    rw [quotedIn]
    exact plain_between (by decide) (by decide) hxs
  case map =>
    intro around es hes
    rw [quotedIn]
    exact plain_between (by decide) (by decide) hes
  case tuple =>
    intro around xs hxs
    rw [quotedIn]
    exact plain_between (by decide) (by decide) hxs
  case emptySet =>
    intro around xs hempty
    rw [quotedIn, if_pos hempty]
    decide
  case set =>
    intro around xs hempty
    rw [quotedIn, if_neg hempty]
    exact plain_between (by decide) (by decide) (List.forall_mem_map.2 fun s _ => s.plain_quoted)
  case again =>
    intro around label v hagain
    rw [quotedIn, if_pos hagain, cutShort]
    split <;> decide
  case knot =>
    intro around label v hnew hv
    rw [quotedIn, if_neg hnew]
    exact hv
  case unwritten =>
    intro around
    rw [quotedIn]
    decide
  case noItem =>
    intro around
    simp [quotedItems]
  case item =>
    intro around x xs hx hxs
    rw [quotedItems]
    exact List.forall_mem_cons.2 ⟨hx, hxs⟩
  case noEntry =>
    intro around
    simp [quotedEntries]
  case entry =>
    intro around k v es hv hes
    rw [quotedEntries]
    refine List.forall_mem_cons.2 ⟨?_, hes⟩
    simp [k.plain_quoted, hv]

/-- If the value is a text, it has no escape character. -/
def Unescaped (v : Value) : Prop := ∀ s, v = .text s → Plain s.toList

theorem plain_display {v : Value} (h : v.Unescaped) : Plain v.display.toList := by
  cases v with
  | scalar s =>
    cases s with
    | text s => exact h s rfl
    | moment m => exact m.plain_text
    | null => exact Scalar.plain_quoted .null
    | bool b => exact Scalar.plain_quoted (.bool b)
    | number n => exact Scalar.plain_quoted (.number n)
    | bytes data => exact Scalar.plain_quoted (.bytes data)
  | list xs => exact plain_quotedIn [] (.list xs)
  | map es => exact plain_quotedIn [] (.map es)
  | tuple xs => exact plain_quotedIn [] (.tuple xs)
  | set xs => exact plain_quotedIn [] (.set xs)
  | knot label v => exact plain_quotedIn [] (.knot label v)
  | unwritten => exact plain_quotedIn [] .unwritten

end Value

end BannedApi
