import BannedApi.Proofs.Report.Tables

/-!
The cells of a row of a Markdown table.

A row is cut at its bars, but not at those that are escaped: a bar behind an odd number of
backslashes belongs to its cell. The report puts a backslash before each bar of a message and leaves
the backslashes of the message as they are. A bar that stood behind an odd number of them then
stands behind an even number, and cuts the row. Without such a bar the row has its four cells, and
the message is read back from the last of them (`diagnosticRow_cells`).
-/
namespace BannedApi.Report

/-! ### Cutting a row -/

/-- The number of backslashes right behind a character, with `n` of them before it. -/
def backslashes (n : Nat) (c : Char) : Nat := if c = '\\' then n + 1 else 0

/-- The pieces of a line with `n` backslashes before it, cut at the bars that are not escaped. -/
def piecesFrom (n : Nat) : List Char → List (List Char)
  | [] => [[]]
  | c :: cs =>
    if c = '|' ∧ n % 2 = 0 then [] :: piecesFrom 0 cs
    else (piecesFrom (backslashes n c) cs).modifyHead (c :: ·)

/-- The pieces of a row; the first stands before its first bar, the last behind its last. -/
def pieces (row : String) : List (List Char) := piecesFrom 0 row.toList

/-- How many bars stand behind an even number of backslashes (`parity` 0) or an odd number (`parity`
1), with `n` backslashes before the line. -/
def barsBehind (parity n : Nat) : List Char → Nat
  | [] => 0
  | c :: cs =>
    (if c = '|' ∧ n % 2 = parity then 1 else 0) + barsBehind parity (backslashes n c) cs

theorem barsBehind_append (parity n : Nat) (xs ys : List Char) :
    barsBehind parity n (xs ++ ys)
      = barsBehind parity n xs + barsBehind parity (xs.foldl backslashes n) ys := by
  induction xs generalizing n with
  | nil => simp [barsBehind]
  | cons c xs ih => simp [barsBehind, ih, Nat.add_assoc]

theorem barsBehind_of_not_mem {parity n : Nat} {cs : List Char} (h : '|' ∉ cs) :
    barsBehind parity n cs = 0 := by
  induction cs generalizing n with
  | nil => rfl
  | cons c cs ih =>
    rw [List.mem_cons, not_or] at h
    simp [barsBehind, ih h.2, Ne.symm h.1]

theorem length_piecesFrom (n : Nat) (cs : List Char) :
    (piecesFrom n cs).length = barsBehind 0 n cs + 1 := by
  induction cs generalizing n with
  | nil => rfl
  | cons c cs ih =>
    rw [piecesFrom, barsBehind]
    split
    · next hcut =>
      have hzero : backslashes n c = 0 := by simp [backslashes, hcut.1]
      rw [List.length_cons, ih, hzero]
      omega
    · rw [List.length_modifyHead, ih]
      omega

/-- What has no bar of its own to cut at is the piece before the next bar. -/
theorem piecesFrom_append_bar {n : Nat} {xs : List Char} (ys : List Char)
    (hopen : barsBehind 0 n xs = 0) (heven : xs.foldl backslashes n % 2 = 0) :
    piecesFrom n (xs ++ '|' :: ys) = xs :: piecesFrom 0 ys := by
  induction xs generalizing n with
  | nil =>
    have hn : n % 2 = 0 := heven
    simp [piecesFrom, hn]
  | cons c xs ih =>
    rw [barsBehind, Nat.add_eq_zero_iff] at hopen
    obtain ⟨hbar, hrest⟩ := hopen
    have huncut : ¬(c = '|' ∧ n % 2 = 0) := by
      intro hcut
      rw [if_pos hcut] at hbar
      cases hbar
    rw [List.cons_append, piecesFrom, if_neg huncut, ih hrest heven]
    rfl

/-! ### Cells -/

/-- A cell with the blanks around it. -/
def padded (cell : List Char) : List Char := ' ' :: (cell ++ [' '])

-- The blank behind a cell keeps the backslashes at the end of its text away from the next bar.
theorem foldl_backslashes_padded (n : Nat) (cell : List Char) :
    (padded cell).foldl backslashes n = 0 := by
  simp [padded, backslashes]

theorem barsBehind_padded (parity n : Nat) (cell : List Char) :
    barsBehind parity n (padded cell) = barsBehind parity 0 cell := by
  simp [padded, barsBehind, barsBehind_append, backslashes]

theorem barsBehind_cell (n : Nat) (cell rest : List Char) :
    barsBehind 0 n (padded cell ++ '|' :: rest)
      = barsBehind 0 0 cell + (1 + barsBehind 0 0 rest) := by
  rw [barsBehind_append, barsBehind_padded, foldl_backslashes_padded, barsBehind]
  simp [backslashes]

theorem piecesFrom_cell {cell : List Char} (n : Nat) (rest : List Char)
    (h : barsBehind 0 0 cell = 0) :
    piecesFrom n (padded cell ++ '|' :: rest) = padded cell :: piecesFrom 0 rest := by
  refine piecesFrom_append_bar rest ?_ ?_
  · rw [barsBehind_padded, h]
  · rw [foldl_backslashes_padded]

/-- The row of four cells. -/
def rowChars (line column rule message : List Char) : List Char :=
  '|' :: (padded line ++ '|' :: (padded column ++ '|' :: (padded rule ++ '|' ::
    (padded message ++ ['|']))))

section Row

variable {line column rule : List Char} (message : List Char) (hline : '|' ∉ line)
  (hcolumn : '|' ∉ column) (hrule : '|' ∉ rule)

include hline hcolumn hrule

/-- A row is cut at its own five bars and at the open ones of the message. -/
theorem length_piecesFrom_rowChars :
    (piecesFrom 0 (rowChars line column rule message)).length = 6 + barsBehind 0 0 message := by
  rw [length_piecesFrom, rowChars, barsBehind]
  simp only [barsBehind_cell, barsBehind_of_not_mem hline, barsBehind_of_not_mem hcolumn,
    barsBehind_of_not_mem hrule]
  simp [barsBehind]
  omega

theorem piecesFrom_rowChars_iff :
    piecesFrom 0 (rowChars line column rule message)
        = [[], padded line, padded column, padded rule, padded message, []]
      ↔ barsBehind 0 0 message = 0 := by
  constructor
  · intro hpieces
    have hlength := length_piecesFrom_rowChars message hline hcolumn hrule
    simp only [hpieces, List.length_cons, List.length_nil] at hlength
    omega
  · intro hmessage
    rw [rowChars, piecesFrom, if_pos (by decide),
      piecesFrom_cell 0 _ (barsBehind_of_not_mem hline),
      piecesFrom_cell 0 _ (barsBehind_of_not_mem hcolumn),
      piecesFrom_cell 0 _ (barsBehind_of_not_mem hrule), piecesFrom_cell 0 _ hmessage]
    rfl

end Row

/-! ### Escaping -/

/-- How a character stands in a cell. -/
def escapedChar (c : Char) : List Char :=
  if c = '|' then ['\\', '|'] else if c = '\n' then [' '] else [c]

/-- The text of a cell without the backslashes before its bars. -/
def unescape : List Char → List Char
  | '\\' :: '|' :: cs => '|' :: unescape cs
  | c :: cs => c :: unescape cs
  | [] => []

/-- A character of a message on one line. -/
def onOneLine (c : Char) : Char := if c = '\n' then ' ' else c

theorem toList_tableText (s : String) : (tableText s).toList = s.toList.flatMap escapedChar := by
  simp only [tableText, Text.replace, String.toList_ofList, List.flatMap_assoc]
  congr 1
  funext c
  by_cases hbar : c = '|'
  · subst hbar
    rfl
  · by_cases hline : c = '\n'
    · subst hline
      rfl
    · simp [escapedChar, hbar, hline]

theorem head_escaped (cs : List Char) : (cs.flatMap escapedChar).head? ≠ some '|' := by
  cases cs with
  | nil => simp
  | cons c cs =>
    rw [List.flatMap_cons, escapedChar]
    split
    · simp
    · split
      · simp
      · next hbar _ => simpa using hbar

/-- A bar of the message cuts its cell where it stood behind an odd number of backslashes. -/
theorem barsBehind_escaped (n : Nat) (cs : List Char) :
    barsBehind 0 n (cs.flatMap escapedChar) = barsBehind 1 n cs := by
  induction cs generalizing n with
  | nil => rfl
  | cons c cs ih =>
    by_cases hbar : c = '|'
    · subst hbar
      have hparity : (n + 1) % 2 = 0 ↔ n % 2 = 1 := by omega
      simp [escapedChar, barsBehind, backslashes, ih, hparity]
    · by_cases hline : c = '\n'
      · subst hline
        simp [escapedChar, barsBehind, backslashes, ih]
      · simp [escapedChar, barsBehind, hbar, hline, ih]

theorem unescape_cons {c : Char} {cs : List Char} (h : cs.head? ≠ some '|') :
    unescape (c :: cs) = c :: unescape cs := by
  rw [unescape]
  rintro rest rfl rfl
  exact h rfl

/-- A message is read back from its cell. -/
theorem unescape_escaped (cs : List Char) :
    unescape (cs.flatMap escapedChar) = cs.map onOneLine := by
  induction cs with
  | nil => rfl
  | cons c cs ih =>
    rw [List.flatMap_cons, List.map_cons, ← ih]
    by_cases hbar : c = '|'
    · subst hbar
      rfl
    · have hsingle : escapedChar c = [onOneLine c] := by
        by_cases hline : c = '\n' <;> simp [escapedChar, onOneLine, hbar, hline]
      rw [hsingle, List.singleton_append, unescape_cons (head_escaped cs)]

theorem mem_of_mem_escaped {c : Char} {cs : List Char} (h : c ∈ cs.flatMap escapedChar) :
    c ∈ ['\\', '|', ' '] ∨ c ≠ '\n' ∧ c ∈ cs := by
  obtain ⟨d, hd, hc⟩ := List.mem_flatMap.1 h
  unfold escapedChar at hc
  split at hc
  · rw [List.mem_cons, List.mem_singleton] at hc
    rcases hc with rfl | rfl <;> exact .inl (by decide)
  · split at hc
    · rw [List.mem_singleton.1 hc]
      exact .inl (by decide)
    · next hline =>
      rw [List.mem_singleton.1 hc]
      exact .inr ⟨hline, hd⟩

/-- A cell stands on one line. -/
theorem not_mem_escaped {cs : List Char} (h : '\r' ∉ cs) :
    '\n' ∉ cs.flatMap escapedChar ∧ '\r' ∉ cs.flatMap escapedChar := by
  constructor
  · intro hmem
    rcases mem_of_mem_escaped hmem with hmark | ⟨hline, -⟩
    · exact absurd hmark (by decide)
    · exact hline rfl
  · intro hmem
    rcases mem_of_mem_escaped hmem with hmark | ⟨-, hcs⟩
    · exact absurd hmark (by decide)
    · exact h hcs

/-! ### The row of a diagnostic -/

/-- A position that is a whole number or not known. -/
def positionValue : Option Int → Value
  | none => .null
  | some n => .int n

/-- The text of a position in its cell. -/
def positionCell : Option Int → String
  | none => ""
  | some n => toString n

theorem eq_of_mem_toString {n : Int} {c : Char} (h : c ∈ (toString n).toList) :
    c = '-' ∨ c.isDigit = true := by
  have hdigits {k : Nat} (hc : c ∈ (toString k).toList) : c.isDigit = true := by
    rw [Nat.toString_eq_repr, Nat.toList_repr] at hc
    exact Nat.isDigit_of_mem_toDigits (by decide) (by decide) hc
  cases n with
  | ofNat k => exact .inr (hdigits h)
  | negSucc k =>
    have hsign : c ∈ ("-" ++ toString (k + 1)).toList := h
    rw [String.toList_append] at hsign
    rcases List.mem_append.1 hsign with hminus | hc
    · exact .inl (by simpa using hminus)
    · exact .inr (hdigits hc)

theorem not_mem_positionCell {c : Char} (p : Option Int) (hsign : c ≠ '-')
    (hdigit : c.isDigit = false) : c ∉ (positionCell p).toList := by
  cases p with
  | none => simp [positionCell]
  | some n =>
    intro hmem
    rcases eq_of_mem_toString hmem with heq | heq
    · exact hsign heq
    · rw [hdigit] at heq
      cases heq

theorem eq_positionCell {p : Option Int} {text : String}
    (h : positionText (positionValue p) = .ok text) : text = positionCell p := by
  have hshort := isShort_of_positionText h
  cases p with
  | none => exact (Except.ok.inj h).symm
  | some n =>
    have hnull : ¬(Value.int n).isNull = true := Bool.false_ne_true
    have hshown : positionText (.int n) = .ok (toString n) :=
      (if_neg hnull).trans (Match.shown_of_isShort hshort)
    exact Except.ok.inj (h.symm.trans hshown)

/-- The rule as its cell shows it. -/
def ruleCell (name : String) : List Char := '`' :: (name.toList ++ ['`'])

theorem not_mem_ruleCell (rule : Rule) :
    '|' ∉ ruleCell rule.name ∧ '\n' ∉ ruleCell rule.name ∧ '\r' ∉ ruleCell rule.name := by
  cases rule <;> decide +kernel

theorem not_mem_rowChars {c : Char} {line column rule message : List Char} (hmark : c ∉ ['|', ' '])
    (hline : c ∉ line) (hcolumn : c ∉ column) (hrule : c ∉ rule) (hmessage : c ∉ message) :
    c ∉ rowChars line column rule message := by
  rw [List.mem_pair, not_or] at hmark
  simp [rowChars, padded, hmark, hline, hcolumn, hrule, hmessage]

/-- A row is that of the two positions, the rule and the escaped message. -/
theorem toList_diagnosticRow {d : Diagnostic} {line column : Option Int} {name row : String}
    (hline : d.location.line = positionValue line)
    (hcolumn : d.location.column = positionValue column) (hrule : d.rule = some name)
    (hrow : diagnosticRow d = .ok row) :
    row.toList = rowChars (positionCell line).toList (positionCell column).toList (ruleCell name)
      (d.message.toList.flatMap escapedChar) := by
  obtain ⟨lineText, hlineText, hrow⟩ := Outcome.bind_eq_ok.1 hrow
  obtain ⟨columnText, hcolumnText, hrow⟩ := Outcome.bind_eq_ok.1 hrow
  rw [hline] at hlineText
  rw [hcolumn] at hcolumnText
  rw [hrule] at hrow
  rw [← Except.ok.inj hrow, ← eq_positionCell hlineText,
    ← eq_positionCell hcolumnText, ← toList_tableText]
  simp [rowChars, padded, ruleCell, toString]

/-- The bars of a message behind an odd number of backslashes. -/
def strayBars (message : String) : Nat := barsBehind 1 0 message.toList

/-- Unless a position has too many digits, a diagnostic has a row, which is one line and from whose
last cell the message can be read back. Beside its own bars the row is cut at each stray bar of the
message, so its pieces are the four cells, with nothing before the first bar and behind the last,
just if there is no stray bar. -/
theorem diagnosticRow_cells (d : Diagnostic) (line column : Option Int) (rule : Rule)
    (hline : d.location.line = positionValue line)
    (hcolumn : d.location.column = positionValue column) (hrule : d.rule = some rule.name)
    (hmessage : '\r' ∉ d.message.toList) :
    ((d.location.line.isShort = false ∨ d.location.column.isShort = false)
        ∧ diagnosticRow d = .error .tooManyDigits)
      ∨ ∃ row cell, diagnosticRow d = .ok row
        ∧ row.toList = rowChars (positionCell line).toList (positionCell column).toList
          (ruleCell rule.name) cell
        ∧ '\n' ∉ row.toList ∧ '\r' ∉ row.toList
        ∧ unescape cell = d.message.toList.map onOneLine
        ∧ (pieces row).length = 6 + strayBars d.message
        ∧ (pieces row = [[], padded (positionCell line).toList, padded (positionCell column).toList,
              padded (ruleCell rule.name), padded cell, []]
            ↔ strayBars d.message = 0) := by
  cases hrow : diagnosticRow d with
  | error fault =>
    obtain ⟨rfl, hlong⟩ := diagnosticRow_eq_error_iff.1 hrow
    exact .inl ⟨hlong, rfl⟩
  | ok row =>
    have hchars := toList_diagnosticRow hline hcolumn hrule hrow
    obtain ⟨hruleBar, hruleLine, hruleReturn⟩ := not_mem_ruleCell rule
    obtain ⟨hcellLine, hcellReturn⟩ := not_mem_escaped hmessage
    have hlineBar := not_mem_positionCell (c := '|') line (by decide) (by decide)
    have hcolumnBar := not_mem_positionCell (c := '|') column (by decide) (by decide)
    have hstray := barsBehind_escaped 0 d.message.toList
    have habsent {c : Char} (hmark : c ∉ ['|', ' ']) (hsign : c ≠ '-') (hdigit : c.isDigit = false)
        (hrule : c ∉ ruleCell rule.name) (hcell : c ∉ d.message.toList.flatMap escapedChar) :
        c ∉ row.toList := by
      rw [hchars]
      exact not_mem_rowChars hmark (not_mem_positionCell line hsign hdigit)
        (not_mem_positionCell column hsign hdigit) hrule hcell
    refine .inr ⟨row, d.message.toList.flatMap escapedChar, rfl, hchars,
      habsent (by decide) (by decide) (by decide) hruleLine hcellLine,
      habsent (by decide) (by decide) (by decide) hruleReturn hcellReturn,
      unescape_escaped _, ?_, ?_⟩
    · rw [pieces, hchars, length_piecesFrom_rowChars _ hlineBar hcolumnBar hruleBar, hstray,
        strayBars]
    · rw [pieces, hchars, piecesFrom_rowChars_iff _ hlineBar hcolumnBar hruleBar, hstray,
        strayBars]

/-- A message with two bars, one of them behind two backslashes, and on two lines. -/
def evenBars : Diagnostic where
  location := ⟨.text "A.java", .int 3, .null⟩
  message := "x|y\\\\|z\nw"
  rule := some Rule.importClass.name

theorem diagnosticRow_cells_evenBars :
    evenBars.location.line = positionValue (some 3) ∧ evenBars.location.column = positionValue none
      ∧ evenBars.rule = some Rule.importClass.name ∧ '\r' ∉ evenBars.message.toList
      ∧ strayBars evenBars.message = 0
      ∧ ∃ row cell, diagnosticRow evenBars = .ok row ∧ unescape cell = "x|y\\\\|z w".toList
        ∧ pieces row
          = [[], " 3 ".toList, "  ".toList, " `import-class` ".toList, padded cell, []] := by
  have hreturn : '\r' ∉ evenBars.message.toList := by decide +kernel
  have hstray : strayBars evenBars.message = 0 := by decide +kernel
  refine ⟨rfl, rfl, rfl, hreturn, hstray, ?_⟩
  rcases diagnosticRow_cells evenBars (some 3) none .importClass rfl rfl rfl hreturn with
    ⟨hlong, -⟩ | ⟨row, cell, hrow, -, -, -, hcell, -, hpieces⟩
  · exact absurd hlong (by decide +kernel)
  · refine ⟨row, cell, hrow, ?_, ?_⟩
    · rw [hcell]
      decide +kernel
    · rw [hpieces.2 hstray]
      rfl

/-- A message with a bar behind one backslash. -/
def oddBar : Diagnostic where
  location := ⟨.text "A.java", .int 3, .int 1⟩
  message := "a\\|b"
  rule := some Rule.importClass.name

/-- The bar of the message cuts the row, and there are five cells. -/
theorem pieces_oddBar : ∃ row, diagnosticRow oddBar = .ok row
    ∧ pieces row = [[], " 3 ".toList, " 1 ".toList, " `import-class` ".toList, " a\\\\".toList,
      "b ".toList, []] := by
  cases hrow : diagnosticRow oddBar with
  | error fault => exact absurd (diagnosticRow_eq_error_iff.1 hrow).2 (by decide +kernel)
  | ok row =>
    have hline : oddBar.location.line = positionValue (some 3) := rfl
    have hcolumn : oddBar.location.column = positionValue (some 1) := rfl
    refine ⟨row, rfl, ?_⟩
    rw [pieces, toList_diagnosticRow hline hcolumn rfl hrow]
    decide +kernel

end BannedApi.Report
