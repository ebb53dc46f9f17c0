import KeyProvisioning.Toml.Quoted
import KeyProvisioning.Toml.Writer

/-!
# Reading quoted strings back

Every string is read back from the form in which it is written. Between double quotes the reader
is followed over the characters that one character of the string is written as; between single
quotes every character stands for itself. What the forms of several lines rest on is the count of
quotes in a row: fewer than three stay in the string, and the three that close it may follow two
of its own.
-/

namespace KeyProvisioning.Toml

open Writer

/-! ## Characters -/

theorem needsEscape_iff (c : Char) :
    needsEscape c = true ↔ c.toNat < 32 ∧ c.toNat ≠ 9 ∧ c.toNat ≠ 10 ∨ c.toNat = 127 := by
  simp only [needsEscape, Bool.or_eq_true, Bool.and_eq_true, decide_eq_true_eq, bne_iff_ne, ne_eq,
    beq_iff_eq, Char.lt_def, UInt32.lt_iff_toNat_lt, ← Char.toNat_inj, and_assoc]
  exact Iff.rfl

theorem isPlain_iff (c : Char) :
    isPlain c = true ↔ c.toNat = 9 ∨ (32 ≤ c.toNat ∧ c.toNat ≤ 126) ∨ 128 ≤ c.toNat := by
  simp only [isPlain, Bool.or_eq_true, Bool.and_eq_true, decide_eq_true_eq, beq_iff_eq,
    Char.le_def, UInt32.le_iff_toNat_le, ← Char.toNat_inj, or_assoc]
  exact Iff.rfl

theorem isPlain_of_not_needsEscape {c : Char} (h : needsEscape c = false) (hline : c ≠ '\n') :
    isPlain c = true := by
  have hne : c.toNat ≠ 10 := fun he => hline (Char.toNat_inj.mp he)
  rw [← Bool.not_eq_true, needsEscape_iff] at h
  rw [isPlain_iff]
  omega

/-! ## Between double quotes -/

/-- The reader passes over characters none of which is a quote to it, from one state to another,
and finishes the characters `out`. -/
inductive Absorbs (multiline : Bool) : BasicState → List Char → List Char → BasicState → Prop
  | nil {state : BasicState} : Absorbs multiline state [] [] state
  | cons {state state' last : BasicState} {c : Char} {cs out outs : List Char}
      (hquote : (c == '"' && state.seesQuote) = false)
      (hstep : state.step multiline c = some (out, state'))
      (rest : Absorbs multiline state' cs outs last) :
      Absorbs multiline state (c :: cs) (out ++ outs) last

theorem prepend_prepend (cs ds : List Char) (read? : Option (List Char × List Char)) :
    prepend cs (prepend ds read?) = prepend (cs ++ ds) read? := by
  cases read? with
  | none => rfl
  | some read => simp [prepend]

theorem Absorbs.readBasic {state last : BasicState} {cs out : List Char}
    (h : Absorbs false state cs out last) (rest : List Char) :
    readBasic state (cs ++ rest) = prepend out (readBasic last rest) := by
  induction h with
  | @nil state => cases hread : Toml.readBasic state rest <;> simp [prepend, hread]
  | @cons _ _ _ _ _ _ _ hquote hstep _ ih =>
    rw [List.cons_append, Toml.readBasic, hquote, hstep]
    simp only [Bool.false_eq_true, if_false]
    rw [ih, prepend_prepend]

/-- In a string of several lines the first character that is no quote decides that the quotes
before it belong to the string. -/
theorem Absorbs.readBasicLines {state last : BasicState} {cs out : List Char}
    (h : Absorbs true state cs out last) (hne : cs ≠ []) {run : Nat} (hrun : run < 3)
    (rest : List Char) :
    readBasicLines run state (cs ++ rest) =
      prepend (List.replicate run '"' ++ out) (readBasicLines 0 last rest) := by
  induction h generalizing run with
  | nil => exact absurd rfl hne
  | @cons _ state' last _ cs out outs hquote hstep hrest ih =>
    rw [List.cons_append, Toml.readBasicLines, hquote, hstep]
    simp only [Bool.false_eq_true, if_false, if_neg (Nat.not_le.mpr hrun)]
    cases hrest with
    | nil => simp
    | cons hquote' hstep' hrest' =>
      rw [ih (List.cons_ne_nil _ _) (by omega), prepend_prepend]
      simp

theorem Absorbs.one {multiline : Bool} {state last : BasicState} {c : Char} {out : List Char}
    (hquote : (c == '"' && state.seesQuote) = false)
    (hstep : state.step multiline c = some (out, last)) :
    Absorbs multiline state [c] out last := by
  simpa using Absorbs.cons hquote hstep .nil

/-- A character that finishes nothing. -/
theorem Absorbs.silent {multiline : Bool} {state state' last : BasicState} {c : Char}
    {cs out : List Char} (hquote : (c == '"' && state.seesQuote) = false)
    (hstep : state.step multiline c = some ([], state'))
    (rest : Absorbs multiline state' cs out last) :
    Absorbs multiline state (c :: cs) out last := by
  simpa using Absorbs.cons hquote hstep rest

/-- A character that stands for itself between double quotes. -/
theorem absorbs_plain {multiline : Bool} {c : Char} (hquote : c ≠ '"') (hslash : c ≠ '\\')
    (hc : isPlain c = true ∨ multiline = true ∧ c = '\n') :
    Absorbs multiline .text [c] [c] .text := by
  apply Absorbs.one
  · simp [hquote]
  · simp only [BasicState.step, BasicState.step.plainStep, beq_eq_false_iff_ne.mpr hslash,
      Bool.false_eq_true, if_false]
    exact if_pos (by simpa using hc)

theorem char?_toNat (c : Char) : char? c.toNat = some c := by
  have hvalid : c.toNat.isValidChar := c.valid
  rw [char?, if_pos hvalid, Char.ofNat_toNat]

/-- A digit of a numbered escape before its last. -/
theorem Absorbs.digit {multiline : Bool} {more value d : Nat} {cs out : List Char}
    {last : BasicState} (hd : d < 16)
    (rest : Absorbs multiline (.number more (value * 16 + d)) cs out last) :
    Absorbs multiline (.number (more + 1) value) (Hex.upperDigit d :: cs) out last := by
  apply Absorbs.silent _ _ rest
  · simp [BasicState.seesQuote]
  · simp [BasicState.step, Hex.value?_upperDigit d hd]

/-- The last digit of a numbered escape. -/
theorem absorbs_lastDigit {multiline : Bool} {value d : Nat} {c : Char} (hd : d < 16)
    (hc : value * 16 + d = c.toNat) :
    Absorbs multiline (.number 0 value) [Hex.upperDigit d] [c] .text := by
  apply Absorbs.one
  · simp [BasicState.seesQuote]
  · simp [BasicState.step, Hex.value?_upperDigit d hd, hc, char?_toNat]

/-- The four digits of a numbered escape. -/
theorem absorbs_number {multiline : Bool} {c : Char} (hc : c.toNat < 0x10000) :
    Absorbs multiline (.number 3 0) (Hex.fixed Hex.upperDigit 4 c.toNat) [c] .text := by
  have hmod : ∀ n, n % 16 < 16 := fun n => Nat.mod_lt n (by decide)
  simp only [Hex.fixed, List.nil_append, List.cons_append]
  apply Absorbs.digit (hmod _)
  apply Absorbs.digit (hmod _)
  apply Absorbs.digit (hmod _)
  apply absorbs_lastDigit (hmod _)
  omega

/-- A backslash with the rest of an escape. -/
theorem Absorbs.backslash {multiline : Bool} {cs out : List Char} {last : BasicState}
    (rest : Absorbs multiline .escaped cs out last) :
    Absorbs multiline .text ('\\' :: cs) out last := by
  apply Absorbs.silent _ _ rest
  · simp
  · simp [BasicState.step, BasicState.step.plainStep]

/-- An escape of one character that names another. -/
theorem absorbs_named {multiline : Bool} {c d : Char} (h : escape? c = some (.named d)) :
    Absorbs multiline .text ['\\', c] [d] .text := by
  apply Absorbs.backslash
  apply Absorbs.one
  · simp [BasicState.seesQuote]
  · simp [BasicState.step, h]

/-- An escape is read as the character it is written for. -/
theorem absorbs_escape {multiline : Bool} {c : Char} (hc : c.toNat < 0x10000) :
    Absorbs multiline .text (escape c) [c] .text := by
  unfold escape
  iterate 7
    split
    · rename_i h
      subst h
      exact absorbs_named rfl
  apply Absorbs.backslash
  apply Absorbs.silent _ _ (absorbs_number hc)
  · simp [BasicState.seesQuote]
  · simp [BasicState.step, escape?]

theorem absorbs_raw {multiline : Bool} {run : Nat} {c : Char} (hquote : c ≠ '"')
    (h : isRaw multiline run c = true) : Absorbs multiline .text [c] [c] .text := by
  rw [isRaw, if_neg hquote] at h
  split at h
  · rename_i hline
    subst hline
    exact absorbs_plain hquote (by decide) (.inr ⟨h, rfl⟩)
  · rename_i hline
    simp only [Bool.not_eq_true', Bool.or_eq_false_iff, beq_eq_false_iff_ne] at h
    exact absorbs_plain hquote h.2 (.inl (isPlain_of_not_needsEscape h.1.1 hline))

/-- Only characters from the start of the first plane are escaped. -/
theorem toNat_lt_of_not_isRaw {multiline : Bool} {run : Nat} {c : Char}
    (h : isRaw multiline run c = false) : c.toNat < 0x10000 := by
  unfold isRaw at h
  split at h
  · rename_i hquote
    subst hquote
    decide
  split at h
  · rename_i hline
    subst hline
    decide
  · simp only [Bool.not_eq_false', Bool.or_eq_true, beq_iff_eq, needsEscape_iff] at h
    obtain (hescape | rfl) | rfl := h
    · omega
    · decide
    · decide

theorem head?_escape (c : Char) : (escape c).head? = some '\\' := by
  unfold escape
  repeat' split
  all_goals rfl

/-- A string of one line is read up to its closing quote. -/
theorem readBasic_basicContent (cs rest : List Char) (run : Nat) :
    readBasic .text (basicContent false run cs ++ '"' :: rest) = some (cs, rest) := by
  induction cs generalizing run with
  | nil => simp [basicContent, readBasic, BasicState.seesQuote]
  | cons c cs ih =>
    rw [basicContent]
    split
    · rename_i hraw
      have hquote : c ≠ '"' := by
        rintro rfl
        simp [isRaw] at hraw
      rw [List.cons_append, ← List.singleton_append, (absorbs_raw hquote hraw).readBasic, ih]
      rfl
    · rename_i hraw
      have hlow := toNat_lt_of_not_isRaw (Bool.eq_false_iff.mpr hraw)
      rw [List.append_assoc, (absorbs_escape hlow).readBasic, ih]
      rfl

/-- Three quotes close a string; up to two before them belong to it. -/
theorem readBasicLines_close {run : Nat} (hrun : run ≤ 2) {rest : List Char}
    (hrest : rest.head? ≠ some '"') :
    readBasicLines run .text ('"' :: '"' :: '"' :: rest) =
      some (List.replicate run '"', rest) := by
  have hclose :
      ∀ n, 3 ≤ n → readBasicLines n .text rest = some (List.replicate (n - 3) '"', rest) := by
    intro n hn
    cases rest with
    | nil => simp [readBasicLines, hn]
    | cons c cs =>
      have hc : c ≠ '"' := by simpa using hrest
      simp [readBasicLines, hc, hn]
  match run, hrun with
  | 0, _ => simp [readBasicLines, BasicState.seesQuote, maxQuoteRun, hclose]
  | 1, _ => simp [readBasicLines, BasicState.seesQuote, maxQuoteRun, hclose]
  | 2, _ => simp [readBasicLines, BasicState.seesQuote, maxQuoteRun]

/-- A string of several lines is read up to its closing quotes, with the quotes before it. -/
theorem readBasicLines_basicContent {rest : List Char} (hrest : rest.head? ≠ some '"')
    (cs : List Char) {run : Nat} (hrun : run ≤ 2) :
    readBasicLines run .text (basicContent true run cs ++ '"' :: '"' :: '"' :: rest) =
      some (List.replicate run '"' ++ cs, rest) := by
  -- the reader counts the same quotes as the writer did, and neither gets to three before the end
  induction cs generalizing run with
  | nil => simpa [basicContent] using readBasicLines_close hrun hrest
  | cons c cs ih =>
    rw [basicContent]
    split
    · rename_i hraw
      rw [List.cons_append]
      by_cases hquote : c = '"'
      · subst hquote
        have hless : run < maxQuotesInLines := by
          rw [isRaw, if_pos rfl, Bool.true_and] at hraw
          exact of_decide_eq_true hraw
        have hmax : maxQuotesInLines = 2 := rfl
        rw [if_pos rfl, readBasicLines, if_pos (by rfl),
          if_neg (by simp only [maxQuoteRun]; omega), ih (by omega)]
        simp [List.replicate_succ', List.append_assoc]
      · rw [if_neg hquote, ← List.singleton_append,
          (absorbs_raw hquote hraw).readBasicLines (by simp) (by omega), ih (by omega)]
        simp [prepend]
    · rename_i hraw
      have hlow := toNat_lt_of_not_isRaw (Bool.eq_false_iff.mpr hraw)
      have hne : escape c ≠ [] := fun he => by simpa [he] using head?_escape c
      rw [List.append_assoc, (absorbs_escape hlow).readBasicLines hne (by omega), ih (by omega)]
      simp [prepend]

/-! ## Between single quotes -/

theorem le_longestRunFrom (quote : Char) (run : Nat) (cs : List Char) :
    run ≤ longestRunFrom quote run cs := by
  induction cs generalizing run with
  | nil => exact Nat.le_refl run
  | cons c cs ih =>
    rw [longestRunFrom]
    split
    · exact Nat.le_trans (Nat.le_succ run) (ih (run + 1))
    · exact Nat.le_max_left _ _

theorem longestRunFrom_pos_of_mem {quote : Char} {cs : List Char} (h : quote ∈ cs) (run : Nat) :
    0 < longestRunFrom quote run cs := by
  induction cs generalizing run with
  | nil => simp at h
  | cons c cs ih =>
    rw [longestRunFrom]
    split
    · exact Nat.lt_of_lt_of_le (Nat.succ_pos run) (le_longestRunFrom quote (run + 1) cs)
    · rename_i hne
      have hmem : quote ∈ cs := (List.mem_cons.mp h).resolve_left fun he => hne he.symm
      exact Nat.lt_of_lt_of_le (ih hmem 0) (Nat.le_max_right _ _)

theorem not_mem_of_longestRun_eq_zero {quote : Char} {cs : List Char}
    (h : longestRun quote cs = 0) :
    quote ∉ cs := by
  intro hmem
  have hpos := longestRunFrom_pos_of_mem hmem 0
  rw [longestRun] at h
  omega

theorem readLiteral_append {cs : List Char} (hplain : ∀ c ∈ cs, isPlain c = true)
    (hquote : '\'' ∉ cs) (rest : List Char) :
    readLiteral (cs ++ '\'' :: rest) = some (cs, rest) := by
  induction cs with
  | nil => simp [readLiteral]
  | cons c cs ih =>
    simp only [List.mem_cons, not_or] at hquote
    have hc : c ≠ '\'' := fun he => hquote.1 he.symm
    have hread := ih (fun d hd => hplain d (List.mem_cons_of_mem c hd)) hquote.2
    simp [readLiteral, hc, hplain c List.mem_cons_self, hread, prepend]

/-- Three quotes close a string; up to two before them belong to it. -/
theorem readLiteralLines_close {run : Nat} (hrun : run ≤ 2) {rest : List Char}
    (hrest : rest.head? ≠ some '\'') :
    readLiteralLines run ('\'' :: '\'' :: '\'' :: rest) =
      some (List.replicate run '\'', rest) := by
  have hclose :
      ∀ n, 3 ≤ n → readLiteralLines n rest = some (List.replicate (n - 3) '\'', rest) := by
    intro n hn
    cases rest with
    | nil => simp [readLiteralLines, hn]
    | cons c cs =>
      have hc : c ≠ '\'' := by simpa using hrest
      simp [readLiteralLines, hc, hn]
  match run, hrun with
  | 0, _ => simp [readLiteralLines, maxQuoteRun, hclose]
  | 1, _ => simp [readLiteralLines, maxQuoteRun, hclose]
  | 2, _ => simp [readLiteralLines, maxQuoteRun]

/-- A string of several lines is read up to its closing quotes, with the quotes before it. -/
theorem readLiteralLines_append {rest : List Char} (hrest : rest.head? ≠ some '\'')
    {cs : List Char} (hplain : ∀ c ∈ cs, isPlain c = true ∨ c = '\n') {run : Nat}
    (hrun : longestRunFrom '\'' run cs ≤ 2) :
    readLiteralLines run (cs ++ '\'' :: '\'' :: '\'' :: rest) =
      some (List.replicate run '\'' ++ cs, rest) := by
  have hle := Nat.le_trans (le_longestRunFrom '\'' run cs) hrun
  induction cs generalizing run with
  | nil => simpa using readLiteralLines_close hle hrest
  | cons c cs ih =>
    have hplain' : ∀ d ∈ cs, isPlain d = true ∨ d = '\n' := fun d hd =>
      hplain d (List.mem_cons_of_mem c hd)
    rw [longestRunFrom] at hrun
    rw [List.cons_append, readLiteralLines]
    by_cases hc : c = '\''
    · subst hc
      rw [if_pos rfl] at hrun
      have hnext := Nat.le_trans (le_longestRunFrom '\'' (run + 1) cs) hrun
      rw [if_pos (by rfl), if_neg (by simp only [maxQuoteRun]; omega), ih hplain' hrun hnext]
      simp [List.replicate_succ', List.append_assoc]
    · rw [if_neg hc] at hrun
      have hrun' := Nat.le_trans (Nat.le_max_right run _) hrun
      rw [if_neg (by simpa using hc), if_neg (by omega),
        if_pos (by simpa using hplain c List.mem_cons_self), ih hplain' hrun' (by omega)]
      simp [prepend]

/-! ## The form of a string -/

theorem any_needsEscape_eq_false {cs : List Char} (h : (!cs.any needsEscape) = true) :
    ∀ c ∈ cs, needsEscape c = false := by
  simpa using h

/-- Single quotes on one line hold only strings without single quotes that need neither escapes nor
lines. -/
theorem of_styleOf_literal {cs : List Char} (h : styleOf cs = .literal false) :
    (∀ c ∈ cs, needsEscape c = false) ∧ '\'' ∉ cs ∧ '\n' ∉ cs := by
  simp only [styleOf] at h
  split at h
  · cases h
  split at h
  · rename_i hform
    simp only [Bool.and_eq_true, beq_iff_eq] at hform
    have hline : '\n' ∉ cs := by simpa using hform.2
    exact ⟨any_needsEscape_eq_false hform.1.1, not_mem_of_longestRun_eq_zero hform.1.2, hline⟩
  split at h
  · cases h
  split at h <;> cases h

/-- Single quotes on several lines hold only strings that need no escapes, with at most two
single quotes in a row. -/
theorem of_styleOf_literalLines {cs : List Char} (h : styleOf cs = .literal true) :
    (∀ c ∈ cs, needsEscape c = false) ∧ longestRun '\'' cs ≤ 2 := by
  simp only [styleOf] at h
  split at h
  · cases h
  split at h
  · cases h
  split at h
  · cases h
  split at h
  · rename_i hform
    simp only [Bool.and_eq_true, decide_eq_true_eq] at hform
    exact ⟨any_needsEscape_eq_false hform.1, hform.2⟩
  · cases h

/-! ## Any quotes -/

theorem readQuoted_basic {cs : List Char} (h : ∀ rest, cs ≠ '"' :: '"' :: rest) :
    readQuoted ('"' :: cs) = readBasic .text cs := by
  unfold readQuoted
  split
  · rename_i heq
    exact absurd (List.cons.inj heq).2 (h _)
  · rename_i heq
    simp at heq
  · rfl

theorem readQuoted_literal {cs : List Char} (h : ∀ rest, cs ≠ '\'' :: '\'' :: rest) :
    readQuoted ('\'' :: cs) = readLiteral cs := by
  unfold readQuoted
  split
  · rename_i heq
    simp at heq
  · rename_i heq
    exact absurd (List.cons.inj heq).2 (h _)
  · rfl

/-- What is written for a string begins as the string does, or with a backslash. -/
theorem head?_basicContent (multiline : Bool) (run : Nat) (c : Char) (cs : List Char) :
    isRaw multiline run c = true ∧ (basicContent multiline run (c :: cs)).head? = some c ∨
      (basicContent multiline run (c :: cs)).head? = some '\\' := by
  rw [basicContent]
  split
  · rename_i hraw
    exact .inl ⟨hraw, rfl⟩
  · right
    rw [List.head?_append, head?_escape]
    rfl

theorem dropFirstLineEnd_openingLineEnd {cs written : List Char}
    (h : written.head? = some '\n' → '\n' ∈ cs) :
    dropFirstLineEnd (openingLineEnd cs ++ written) = written := by
  unfold openingLineEnd
  split
  · rfl
  · rename_i hline
    cases written with
    | nil => rfl
    | cons c written =>
      have hc : c ≠ '\n' := by
        rintro rfl
        exact hline (by simpa using h rfl)
      simp [dropFirstLineEnd, hc]

theorem readQuoted_writeAs_basic (cs rest : List Char) :
    readQuoted (writeAs (.basic false) cs ++ '\n' :: rest) = some (cs, '\n' :: rest) := by
  have hwritten : writeAs (.basic false) cs ++ '\n' :: rest =
      '"' :: (basicContent false 0 cs ++ '"' :: '\n' :: rest) := by
    simp [writeAs]
  rw [hwritten, readQuoted_basic, readBasic_basicContent]
  intro tail heq
  cases cs with
  | nil => simp [basicContent] at heq
  | cons c cs =>
    have hhead := congrArg List.head? heq
    rw [List.head?_append] at hhead
    obtain ⟨hraw, hc⟩ | hc := head?_basicContent false 0 c cs
    · rw [hc] at hhead
      obtain rfl : c = '"' := by simpa using hhead
      simp [isRaw] at hraw
    · rw [hc] at hhead
      simp at hhead

theorem readQuoted_writeAs_basicLines (cs rest : List Char) :
    readQuoted (writeAs (.basic true) cs ++ '\n' :: rest) = some (cs, '\n' :: rest) := by
  have hwritten : writeAs (.basic true) cs ++ '\n' :: rest =
      '"' :: '"' :: '"' :: (openingLineEnd cs ++
        (basicContent true 0 cs ++ '"' :: '"' :: '"' :: '\n' :: rest)) := by
    simp [writeAs]
  rw [hwritten, readQuoted, dropFirstLineEnd_openingLineEnd,
    readBasicLines_basicContent (by simp) cs (Nat.zero_le 2)]
  · rfl
  intro hhead
  cases cs with
  | nil => simp [basicContent] at hhead
  | cons c cs =>
    obtain ⟨-, hc⟩ | hc := head?_basicContent true 0 c cs
    · rw [List.head?_append, hc] at hhead
      obtain rfl : c = '\n' := by simpa using hhead
      exact List.mem_cons_self
    · rw [List.head?_append, hc] at hhead
      simp at hhead

theorem readQuoted_writeAs_literal {cs : List Char} (hform : styleOf cs = .literal false)
    (rest : List Char) :
    readQuoted (writeAs (.literal false) cs ++ '\n' :: rest) = some (cs, '\n' :: rest) := by
  obtain ⟨hescape, hquote, hline⟩ := of_styleOf_literal hform
  have hplain : ∀ c ∈ cs, isPlain c = true := fun c hc =>
    isPlain_of_not_needsEscape (hescape c hc) fun he => hline (he ▸ hc)
  have hwritten : writeAs (.literal false) cs ++ '\n' :: rest =
      '\'' :: (cs ++ '\'' :: '\n' :: rest) := by
    simp [writeAs]
  rw [hwritten, readQuoted_literal, readLiteral_append hplain hquote]
  intro tail heq
  cases cs with
  | nil => simp at heq
  | cons c cs => simp_all

theorem readQuoted_writeAs_literalLines {cs : List Char} (hform : styleOf cs = .literal true)
    (rest : List Char) :
    readQuoted (writeAs (.literal true) cs ++ '\n' :: rest) = some (cs, '\n' :: rest) := by
  obtain ⟨hescape, hquotes⟩ := of_styleOf_literalLines hform
  have hplain : ∀ c ∈ cs, isPlain c = true ∨ c = '\n' := fun c hc =>
    (Decidable.em (c = '\n')).symm.imp_left (isPlain_of_not_needsEscape (hescape c hc))
  have hwritten : writeAs (.literal true) cs ++ '\n' :: rest =
      '\'' :: '\'' :: '\'' :: (openingLineEnd cs ++
        (cs ++ '\'' :: '\'' :: '\'' :: '\n' :: rest)) := by
    simp [writeAs]
  rw [hwritten, readQuoted, dropFirstLineEnd_openingLineEnd,
    readLiteralLines_append (by simp) hplain hquotes]
  · rfl
  intro hhead
  cases cs with
  | nil => simp at hhead
  | cons c cs => simp_all

/-- Every string is read back from the form in which it is written. -/
theorem readQuoted_writeAs (cs rest : List Char) :
    readQuoted (writeAs (styleOf cs) cs ++ '\n' :: rest) = some (cs, '\n' :: rest) := by
  cases hform : styleOf cs with
  | basic multiline =>
    cases multiline with
    | false => exact readQuoted_writeAs_basic cs rest
    | true => exact readQuoted_writeAs_basicLines cs rest
  | literal multiline =>
    cases multiline with
    | false => exact readQuoted_writeAs_literal hform rest
    | true => exact readQuoted_writeAs_literalLines hform rest

/-! ## Carriage returns -/

theorem carriageReturn_not_mem_escape (c : Char) : '\r' ∉ escape c := by
  have hdigit : ∀ n, '\r' ≠ Hex.upperDigit (n % 16) := by
    intro n
    have hall : ∀ d < 16, '\r' ≠ Hex.upperDigit d := by decide
    exact hall _ (Nat.mod_lt _ (by decide))
  unfold escape
  iterate 7
    split
    · decide
  simp [Hex.fixed, hdigit]

theorem carriageReturn_not_mem_basicContent (multiline : Bool) (run : Nat) (cs : List Char) :
    '\r' ∉ basicContent multiline run cs := by
  induction cs generalizing run with
  | nil => simp [basicContent]
  | cons c cs ih =>
    rw [basicContent]
    split
    · rename_i hraw
      have hc : '\r' ≠ c := by
        rintro rfl
        have hescape : needsEscape '\r' = true := by decide
        simp [isRaw, hescape] at hraw
      simp [hc, ih]
    · simp [carriageReturn_not_mem_escape, ih]

/-- A carriage return is only ever written as an escape. -/
theorem carriageReturn_not_mem_writeAs (cs : List Char) : '\r' ∉ writeAs (styleOf cs) cs := by
  have hopening : '\r' ∉ openingLineEnd cs := by
    unfold openingLineEnd
    split <;> decide
  have hliteral : (∀ c ∈ cs, needsEscape c = false) → '\r' ∉ cs := fun hescape hmem =>
    absurd (hescape '\r' hmem) (by decide)
  cases hform : styleOf cs with
  | basic multiline =>
    cases multiline <;> simp [writeAs, carriageReturn_not_mem_basicContent, hopening]
  | literal multiline =>
    cases multiline with
    | false => simp [writeAs, hliteral (of_styleOf_literal hform).1]
    | true => simp [writeAs, hopening, hliteral (of_styleOf_literalLines hform).1]

end KeyProvisioning.Toml
