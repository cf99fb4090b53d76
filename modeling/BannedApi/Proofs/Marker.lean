import BannedApi.Proofs.Text.Segment
import BannedApi.Settings

/-!
Which annotations a configured marker is recognized in.

An annotation is stripped before it is looked up: of the blanks around it, of the signs in front
and of its arguments. A configured marker is taken as it stands. So a marker is recognized in the
spellings in which it survives the stripping (`Spelling.Suits`), and a marker that is the only one
is recognized in no other (`isMarker_write`). The settings take any text that is not empty for a
marker, also one that survives in no spelling (`isMarker_signedMarker`).
-/
namespace BannedApi.Markers

open Text

/-! ### Spellings -/

/-- The ways to write an annotation: by its name alone, behind a sign, and with arguments. -/
inductive Spelling where
  | bare
  | signed
  | called (arguments : List Char)

namespace Spelling

/-- The annotation of a name. -/
def write (name : List Char) : Spelling → String
  | .bare => String.ofList name
  | .signed => String.ofList ('@' :: name)
  | .called arguments => String.ofList (name ++ '(' :: arguments ++ [')'])

/-- A name without the blanks that stand at an end of its annotation. -/
def exposed (name : List Char) : Spelling → List Char
  | .bare => trim name
  | .signed => name.rdropWhile isBlank
  | .called _ => name.dropWhile isBlank

/-- A blank of the name stands at an end of the annotation. -/
def showsBlank (name : List Char) : Spelling → Bool
  | .bare => name.head?.any isBlank || name.getLast?.any isBlank
  | .signed => name.getLast?.any isBlank
  | .called _ => name.head?.any isBlank

/-- The name survives in this spelling: nothing in it looks like arguments, it has no sign of its
own, and no blank at an end of the annotation. -/
def Suits (name : List Char) (spelling : Spelling) : Prop :=
  '(' ∉ name ∧ name.head? ≠ some '@' ∧ spelling.showsBlank name = false

instance (name : List Char) (spelling : Spelling) : Decidable (spelling.Suits name) :=
  inferInstanceAs (Decidable (_ ∧ _))

variable (name : List Char) (spelling : Spelling)

theorem exposed_infix : spelling.exposed name <:+: name := by
  cases spelling with
  | bare => exact (List.rdropWhile_prefix _ _).isInfix.trans (List.dropWhile_suffix _).isInfix
  | signed => exact (List.rdropWhile_prefix _ _).isInfix
  | called arguments => exact (List.dropWhile_suffix _).isInfix

theorem exposed_eq_iff : spelling.exposed name = name ↔ spelling.showsBlank name = false := by
  cases spelling with
  | bare =>
    rw [exposed, trim_eq, showsBlank, Bool.or_eq_false_iff]
    constructor
    · intro h
      have hlength := congrArg List.length h
      have hlast := (List.rdropWhile_prefix isBlank (name.dropWhile isBlank)).length_le
      have hhead := List.dropWhile_suffix (l := name) isBlank
      -- neither end can have lost anything
      have hle := hhead.length_le
      have hsame : name.dropWhile isBlank = name := hhead.eq_of_length (by omega)
      rw [hsame] at h
      exact ⟨dropWhile_eq_self_iff.1 hsame, rdropWhile_eq_self_iff.1 h⟩
    · rintro ⟨hhead, hlast⟩
      rw [dropWhile_eq_self_iff.2 hhead, rdropWhile_eq_self_iff.2 hlast]
  | signed => exact rdropWhile_eq_self_iff
  | called arguments => exact dropWhile_eq_self_iff

variable {name}

/-- The name that is read from an annotation of a name. -/
theorem annotationName_write (h : '(' ∉ name) :
    annotationName (spelling.write name) = (spelling.exposed name).dropWhile (· == '@') := by
  have hleft : '(' ∉ (spelling.exposed name).dropWhile (· == '@') := fun hmem =>
    h ((spelling.exposed_infix name).subset ((List.dropWhile_suffix _).subset hmem))
  cases spelling with
  | bare =>
    rw [write, annotationName, String.toList_ofList]
    exact before_of_not_mem hleft
  | signed =>
    have hsign : isBlank '@' = false := by decide
    rw [write, annotationName, String.toList_ofList, trim_eq,
      List.dropWhile_cons_of_neg (by simp [hsign]), rdropWhile_cons hsign,
      List.dropWhile_cons_of_pos (by decide)]
    exact before_of_not_mem hleft
  | called arguments =>
    have hopen : isBlank '(' = false := by decide
    have hclose : ¬ isBlank ')' = true := by decide
    rw [write, annotationName, String.toList_ofList, trim_eq, List.append_assoc, List.cons_append,
      dropWhile_append_stop hopen, ← List.cons_append, ← List.append_assoc,
      List.rdropWhile_concat_neg _ _ _ hclose, List.append_assoc, List.cons_append,
      dropWhile_append_stop (by decide)]
    exact before_append_stop hleft _

/-- A name is read back from its annotation just in the spellings that suit it. -/
theorem annotationName_write_eq_iff :
    annotationName (spelling.write name) = name ↔ spelling.Suits name := by
  by_cases hopen : '(' ∈ name
  · constructor
    · intro h
      rw [← h] at hopen
      exact absurd hopen (not_mem_before _)
    · intro h
      exact absurd hopen h.1
  have hsign : name.dropWhile (· == '@') = name ↔ name.head? ≠ some '@' := by
    rw [dropWhile_eq_self_iff]
    cases name <;> simp
  rw [spelling.annotationName_write hopen, Suits, ← exposed_eq_iff, ← hsign]
  constructor
  · intro h
    -- the second stripping cannot give back what the first one took
    have hlength := congrArg List.length h
    have hfirst := (spelling.exposed_infix name).length_le
    have hsecond := (List.dropWhile_suffix (l := spelling.exposed name) (· == '@')).length_le
    have hsame := (spelling.exposed_infix name).eq_of_length (by omega)
    rw [hsame] at h
    exact ⟨hopen, h, hsame⟩
  · rintro ⟨-, hhead, hsame⟩
    rw [hsame, hhead]

/-- A dot is never stripped off. -/
theorem dot_mem_annotationName_write (h : '(' ∉ name) :
    '.' ∈ annotationName (spelling.write name) ↔ '.' ∈ name := by
  rw [spelling.annotationName_write h, mem_dropWhile_iff (by decide)]
  cases spelling with
  | bare => rw [exposed, trim_eq, mem_rdropWhile_iff (by decide), mem_dropWhile_iff (by decide)]
  | signed => rw [exposed, mem_rdropWhile_iff (by decide)]
  | called arguments => rw [exposed, mem_dropWhile_iff (by decide)]

end Spelling

/-! ### Looking up -/

theorem isMarker_of_dot {m : Markers} {note : String} (h : '.' ∈ annotationName note) :
    m.isMarker note = true ↔ String.ofList (annotationName note) ∈ m.names := by
  have hcontains : (annotationName note).contains '.' = true := by simpa using h
  rw [isMarker, if_pos hcontains, List.any_eq_true]
  constructor
  · rintro ⟨name, hmem, hname⟩
    rw [← beq_iff_eq.1 hname, String.ofList_toList]
    exact hmem
  · intro hmem
    exact ⟨_, hmem, by simp⟩

theorem isMarker_of_no_dot {m : Markers} {note : String} (h : '.' ∉ annotationName note) :
    m.isMarker note = true ↔ ∃ name ∈ m.names, simpleName name = annotationName note := by
  have hcontains : ¬ (annotationName note).contains '.' = true := by simpa using h
  rw [isMarker, if_neg hcontains, List.any_eq_true]
  simp

theorem simpleName_of_no_dot {name : String} (h : '.' ∉ name.toList) :
    simpleName name = name.toList := afterLast_of_not_mem h

theorem dot_not_mem_simpleName (name : String) : '.' ∉ simpleName name := not_mem_afterLast _

theorem isMarker_of_name {names : List String} {name note : String} (hmem : name ∈ names)
    (h : annotationName note = name.toList) : isMarker ⟨names⟩ note = true := by
  by_cases hdot : '.' ∈ annotationName note
  · rw [isMarker_of_dot hdot, h, String.ofList_toList]
    exact hmem
  · refine (isMarker_of_no_dot hdot).2 ⟨name, hmem, ?_⟩
    rw [h] at hdot ⊢
    exact simpleName_of_no_dot hdot

theorem isMarker_of_simpleName {names : List String} {name note : String} (hmem : name ∈ names)
    (h : annotationName note = simpleName name) : isMarker ⟨names⟩ note = true := by
  have hdot : '.' ∉ annotationName note := h ▸ dot_not_mem_simpleName name
  exact (isMarker_of_no_dot hdot).2 ⟨name, hmem, h.symm⟩

theorem name_of_isMarker_alone {name note : String} (h : isMarker ⟨[name]⟩ note = true) :
    annotationName note = name.toList ∨ annotationName note = simpleName name := by
  by_cases hdot : '.' ∈ annotationName note
  · rw [isMarker_of_dot hdot, List.mem_singleton] at h
    left
    rw [← h, String.toList_ofList]
  · obtain ⟨other, hother, hname⟩ := (isMarker_of_no_dot hdot).1 h
    obtain rfl := List.mem_singleton.1 hother
    exact .inr hname.symm

/-- A configured marker is recognized by its name and by its simple name, in every spelling that
suits the name; a qualified name is recognized only if it is configured itself. Nothing more
holds: a marker that is the only one is recognized in no other spelling of its simple name, nor of
its name unless something in it looks like arguments. -/
theorem isMarker_write (names : List String) (m : String) (hm : m ∈ names) (spelling : Spelling) :
    (spelling.Suits m.toList → isMarker ⟨names⟩ (spelling.write m.toList) = true)
      ∧ (spelling.Suits (simpleName m) → isMarker ⟨names⟩ (spelling.write (simpleName m)) = true)
      ∧ (∀ note, '.' ∈ annotationName note →
        (isMarker ⟨names⟩ note = true ↔ String.ofList (annotationName note) ∈ names))
      ∧ ('(' ∉ m.toList → isMarker ⟨[m]⟩ (spelling.write m.toList) = true →
        spelling.Suits m.toList)
      ∧ (isMarker ⟨[m]⟩ (spelling.write (simpleName m)) = true →
        spelling.Suits (simpleName m)) := by
  refine ⟨?_, ?_, ?_, ?_, ?_⟩
  · intro hsuits
    exact isMarker_of_name hm (spelling.annotationName_write_eq_iff.2 hsuits)
  · intro hsuits
    exact isMarker_of_simpleName hm (spelling.annotationName_write_eq_iff.2 hsuits)
  · intro note hdot
    exact isMarker_of_dot hdot
  · intro hopen hmarker
    have hdot := spelling.dot_mem_annotationName_write hopen
    rcases name_of_isMarker_alone hmarker with hname | hsimple
    · exact spelling.annotationName_write_eq_iff.1 hname
    · -- what is read has no dot, so the marker has none and is its own simple name
      rw [hsimple] at hdot
      rw [simpleName_of_no_dot fun h => dot_not_mem_simpleName m (hdot.2 h)] at hsimple
      exact spelling.annotationName_write_eq_iff.1 hsimple
  · intro hmarker
    rcases name_of_isMarker_alone hmarker with hname | hsimple
    · have hopen : '(' ∉ simpleName m := fun h =>
        not_mem_before _ (hname ▸ (afterLast_suffix m.toList).subset h)
      have hdot := spelling.dot_mem_annotationName_write hopen
      rw [hname] at hdot
      rw [← simpleName_of_no_dot fun h => dot_not_mem_simpleName m (hdot.1 h)] at hname
      exact spelling.annotationName_write_eq_iff.1 hname
    · exact spelling.annotationName_write_eq_iff.1 hsimple

/-- Two markers, one of them qualified. -/
def sampleMarkers : List String := ["Quiet", "com.example.Allow"]

/-- Arguments may have parentheses and dots of their own. -/
theorem isMarker_write_called :
    (Spelling.called "by = (a.b)".toList).Suits "com.example.Allow".toList
      ∧ isMarker ⟨sampleMarkers⟩ "com.example.Allow(by = (a.b))" = true
      ∧ isMarker ⟨sampleMarkers⟩ "Allow(by = (a.b))" = true
      ∧ isMarker ⟨sampleMarkers⟩ "org.example.Allow" = false := by
  have h := isMarker_write sampleMarkers "com.example.Allow" (by simp [sampleMarkers])
    (.called "by = (a.b)".toList)
  have hsimple : simpleName "com.example.Allow" = "Allow".toList := by decide
  rw [hsimple] at h
  refine ⟨by decide, h.1 (by decide), h.2.1 (by decide), ?_⟩
  rw [Bool.eq_false_iff, ne_eq, h.2.2.1 "org.example.Allow" (by decide)]
  decide

/-- The settings take a marker with its sign, and then no annotation is it: the sign is stripped off
what is looked up. -/
theorem isMarker_signedMarker :
    Settings.markersOf (.list [.text "@Allow"]) = .ok ["@Allow"]
      ∧ isMarker ⟨["@Allow"]⟩ "@Allow" = false ∧ isMarker ⟨["@Allow"]⟩ "@@Allow" = false
      ∧ isMarker ⟨["@Allow"]⟩ "@Allow()" = false := by
  refine ⟨rfl, ?_, ?_, ?_⟩ <;> decide

end BannedApi.Markers
