import KeyProvisioning.Proofs.Text.Characters
import KeyProvisioning.Proofs.Toml.Words
import KeyProvisioning.Toml.Document

/-!
# Values with more behind them

A value is read the same whatever stands behind it, as long as that does not go on with the
value: a word goes on with a character of a word, a string of several lines with a quote, and a
date with a time of day after one blank.
-/

namespace KeyProvisioning.Toml

/-- What may stand behind any value. -/
structure Separates (tail : List Char) : Prop where
  word : ∀ c ∈ tail.head?, isWordChar c = false
  quote : ∀ c ∈ tail.head?, c ≠ '"' ∧ c ≠ '\''
  time : ∀ cs, tail = ' ' :: cs → isZonedTime (cs.takeWhile isWordChar) = false

/-- A scanner that reads the same with `tail` behind. -/
def Keeps {α : Type} (tail : List Char) (scan : Scanner α) : Prop :=
  ∀ {cs value rest}, scan cs = some (value, rest) → scan (cs ++ tail) = some (value, rest ++ tail)

section Continuation

variable {tail : List Char}

/-! ## Strings -/

theorem exists_of_prepend {front out rest : List Char} {read? : Option (List Char × List Char)}
    (h : prepend front read? = some (out, rest)) :
    ∃ back, read? = some (back, rest) ∧ out = front ++ back := by
  cases read? with
  | none => cases h
  | some read =>
    obtain ⟨back, rest'⟩ := read
    obtain ⟨rfl, rfl⟩ := Prod.mk.inj (Option.some.inj h)
    exact ⟨back, rfl, rfl⟩

theorem keeps_readBasic (state : BasicState) : Keeps tail (readBasic state) := by
  intro cs out rest h
  induction cs generalizing state out with
  | nil => cases h
  | cons c cs ih =>
    rw [readBasic] at h
    rw [List.cons_append, readBasic]
    split at h
    · rename_i hquote
      obtain ⟨rfl, rfl⟩ := Prod.mk.inj (Option.some.inj h)
      rw [if_pos hquote]
    · rename_i hquote
      rw [if_neg hquote]
      cases hstep : state.step false c with
      | none => simp [hstep] at h
      | some next =>
        rw [hstep] at h
        obtain ⟨back, hback, rfl⟩ := exists_of_prepend h
        simp only [ih next.2 hback]
        rfl

theorem keeps_readLiteral : Keeps tail readLiteral := by
  intro cs out rest h
  induction cs generalizing out with
  | nil => cases h
  | cons c cs ih =>
    rw [readLiteral] at h
    rw [List.cons_append, readLiteral]
    split at h
    · rename_i hquote
      obtain ⟨rfl, rfl⟩ := Prod.mk.inj (Option.some.inj h)
      rw [if_pos hquote]
    · rename_i hquote
      rw [if_neg hquote]
      split at h
      · rename_i hplain
        obtain ⟨back, hback, rfl⟩ := exists_of_prepend h
        rw [if_pos hplain, ih hback]
        rfl
      · cases h

/-- A string of several lines that ends with the text still ends there, since no quote follows. -/
theorem keeps_readBasicLines (htail : ∀ c ∈ tail.head?, c ≠ '"') (run : Nat) (state : BasicState) :
    Keeps tail (readBasicLines run state) := by
  intro cs out rest h
  induction cs generalizing run state out with
  | nil =>
    rw [readBasicLines] at h
    split at h
    · rename_i hrun
      obtain ⟨rfl, rfl⟩ := Prod.mk.inj (Option.some.inj h)
      cases tail with
      | nil => simp [readBasicLines, hrun]
      | cons c cs => simp [readBasicLines, hrun, htail c rfl]
    · cases h
  | cons c cs ih =>
    rw [readBasicLines] at h
    rw [List.cons_append, readBasicLines]
    split at h
    · rename_i hquote
      rw [if_pos hquote]
      split at h
      · rename_i hrun
        obtain ⟨rfl, rfl⟩ := Prod.mk.inj (Option.some.inj h)
        rw [if_pos hrun]
      · rename_i hrun
        rw [if_neg hrun, ih _ _ h]
    · rename_i hquote
      rw [if_neg hquote]
      split at h
      · rename_i hrun
        obtain ⟨rfl, rfl⟩ := Prod.mk.inj (Option.some.inj h)
        rw [if_pos hrun]
        rfl
      · rename_i hrun
        rw [if_neg hrun]
        cases hstep : state.step true c with
        | none => simp [hstep] at h
        | some next =>
          rw [hstep] at h
          obtain ⟨back, hback, rfl⟩ := exists_of_prepend h
          simp only [ih _ next.2 hback]
          rfl

theorem keeps_readLiteralLines (htail : ∀ c ∈ tail.head?, c ≠ '\'') (run : Nat) :
    Keeps tail (readLiteralLines run) := by
  intro cs out rest h
  induction cs generalizing run out with
  | nil =>
    rw [readLiteralLines] at h
    split at h
    · rename_i hrun
      obtain ⟨rfl, rfl⟩ := Prod.mk.inj (Option.some.inj h)
      cases tail with
      | nil => simp [readLiteralLines, hrun]
      | cons c cs => simp [readLiteralLines, hrun, htail c rfl]
    · cases h
  | cons c cs ih =>
    rw [readLiteralLines] at h
    rw [List.cons_append, readLiteralLines]
    split at h
    · rename_i hquote
      rw [if_pos hquote]
      split at h
      · rename_i hrun
        obtain ⟨rfl, rfl⟩ := Prod.mk.inj (Option.some.inj h)
        rw [if_pos hrun]
      · rename_i hrun
        rw [if_neg hrun, ih _ h]
    · rename_i hquote
      rw [if_neg hquote]
      split at h
      · rename_i hrun
        obtain ⟨rfl, rfl⟩ := Prod.mk.inj (Option.some.inj h)
        rw [if_pos hrun]
        rfl
      · rename_i hrun
        rw [if_neg hrun]
        split at h
        · rename_i hplain
          obtain ⟨back, hback, rfl⟩ := exists_of_prepend h
          rw [if_pos hplain, ih _ hback]
          rfl
        · cases h

theorem keeps_readQuotedLine : Keeps tail readQuotedLine := by
  intro cs out rest h
  match cs with
  | [] => cases h
  | c :: cs =>
    by_cases hdouble : c = '"'
    · subst hdouble
      exact keeps_readBasic .text h
    · by_cases hsingle : c = '\''
      · subst hsingle
        exact keeps_readLiteral h
      · simp [readQuotedLine, hdouble, hsingle] at h

/-- Quotes that do not open a string of several lines. -/
theorem readQuoted_eq_readQuotedLine {cs : List Char}
    (hdouble : ∀ ds, cs ≠ '"' :: '"' :: '"' :: ds)
    (hsingle : ∀ ds, cs ≠ '\'' :: '\'' :: '\'' :: ds) : readQuoted cs = readQuotedLine cs := by
  rw [readQuoted]
  · exact hdouble
  · exact hsingle

theorem dropFirstLineEnd_append {cs : List Char} (hne : cs ≠ []) (tail : List Char) :
    dropFirstLineEnd (cs ++ tail) = dropFirstLineEnd cs ++ tail := by
  obtain ⟨c, cs, rfl⟩ := List.exists_cons_of_ne_nil hne
  by_cases hc : c = '\n'
  · subst hc
    rfl
  · simp [dropFirstLineEnd, hc]

/-- Two quotes are three only if a third one follows. -/
theorem append_ne_quotes {quote : Char} (hquote : quote = '"' ∨ quote = '\'')
    (htail : ∀ c ∈ tail.head?, c ≠ quote) {cs out rest : List Char}
    (hread : readQuotedLine cs = some (out, rest)) (h : ∀ ds, cs ≠ quote :: quote :: quote :: ds)
    (ds : List Char) : cs ++ tail ≠ quote :: quote :: quote :: ds := by
  intro heq
  match cs with
  | [] => cases hread
  | [c] =>
    obtain rfl : c = quote := (List.cons.inj heq).1
    obtain rfl | rfl := hquote <;> cases hread
  | [c, d] =>
    simp only [List.cons_append, List.nil_append, List.cons.injEq] at heq
    exact htail quote (by simp [heq.2.2]) rfl
  | c :: d :: e :: cs =>
    simp only [List.cons_append, List.cons.injEq] at heq
    obtain ⟨rfl, rfl, rfl, -⟩ := heq
    exact h cs rfl

theorem keeps_readQuoted (htail : ∀ c ∈ tail.head?, c ≠ '"' ∧ c ≠ '\'') :
    Keeps tail readQuoted := by
  intro cs out rest h
  by_cases hdouble : ∃ ds, cs = '"' :: '"' :: '"' :: ds
  · obtain ⟨ds, rfl⟩ := hdouble
    have hne : ds ≠ [] := by
      rintro rfl
      cases h
    have hlines := keeps_readBasicLines (fun c hc => (htail c hc).1) 0 .text h
    rwa [← dropFirstLineEnd_append hne] at hlines
  by_cases hsingle : ∃ ds, cs = '\'' :: '\'' :: '\'' :: ds
  · obtain ⟨ds, rfl⟩ := hsingle
    have hne : ds ≠ [] := by
      rintro rfl
      cases h
    have hlines := keeps_readLiteralLines (fun c hc => (htail c hc).2) 0 h
    rwa [← dropFirstLineEnd_append hne] at hlines
  simp only [not_exists] at hdouble hsingle
  rw [readQuoted_eq_readQuotedLine hdouble hsingle] at h
  rw [readQuoted_eq_readQuotedLine
    (append_ne_quotes (.inl rfl) (fun c hc => (htail c hc).1) h hdouble)
    (append_ne_quotes (.inr rfl) (fun c hc => (htail c hc).2) h hsingle)]
  exact keeps_readQuotedLine h

/-! ## Words -/

/-- A date that is joined with the time of day behind it. -/
theorem readWord_of_joined {cs after : List Char} (hdate : isDate (cs.takeWhile isWordChar) = true)
    (hafter : cs.dropWhile isWordChar = ' ' :: after)
    (htime : isZonedTime (after.takeWhile isWordChar) = true) :
    readWord cs = some (.moment (cs.takeWhile isWordChar ++ ' ' :: after.takeWhile isWordChar),
      after.dropWhile isWordChar) := by
  simp only [readWord, hdate, hafter, if_pos htime]

/-- Any other word stands alone. -/
theorem readWord_of_not_joined {cs : List Char}
    (h : isDate (cs.takeWhile isWordChar) = true →
      ∀ after, cs.dropWhile isWordChar = ' ' :: after →
      isZonedTime (after.takeWhile isWordChar) = false) :
    readWord cs =
      (ofWord? (cs.takeWhile isWordChar)).map fun value => (value, cs.dropWhile isWordChar) := by
  simp only [readWord]
  split
  · rename_i after hdate hafter
    rw [if_neg (by simp [h hdate after hafter]), ofWord?_of_isDate hdate, hafter]
    rfl
  · rfl

theorem keeps_readWord (htail : Separates tail) : Keeps tail readWord := by
  intro cs value rest h
  have hword := takeWhile_append_of_head? cs htail.word
  have hrest := dropWhile_append_of_head? cs htail.word
  by_cases hjoined : isDate (cs.takeWhile isWordChar) = true ∧
      ∃ after, cs.dropWhile isWordChar = ' ' :: after ∧
        isZonedTime (after.takeWhile isWordChar) = true
  · obtain ⟨hdate, after, hafter, htime⟩ := hjoined
    have htake := takeWhile_append_of_head? after htail.word
    have hdrop := dropWhile_append_of_head? after htail.word
    rw [readWord_of_joined hdate hafter htime] at h
    obtain ⟨rfl, rfl⟩ := Prod.mk.inj (Option.some.inj h)
    rw [hafter, List.cons_append] at hrest
    rw [readWord_of_joined (by rwa [hword]) hrest (by rwa [htake]), hword, htake, hdrop]
  · have hbehind : isDate (cs.takeWhile isWordChar) = true → ∀ after,
        cs.dropWhile isWordChar = ' ' :: after →
          isZonedTime (after.takeWhile isWordChar) = false := by
      intro hdate after hafter
      rw [Bool.eq_false_iff]
      exact fun htime => hjoined ⟨hdate, after, hafter, htime⟩
    rw [readWord_of_not_joined hbehind] at h
    rw [readWord_of_not_joined, hword, hrest]
    · obtain ⟨value', hvalue, heq⟩ := Option.map_eq_some_iff.mp h
      obtain ⟨rfl, rfl⟩ := Prod.mk.inj heq
      rw [hvalue]
      rfl
    · intro hdate after hafter
      rw [hword] at hdate
      rw [hrest] at hafter
      cases hcs : cs.dropWhile isWordChar with
      | nil => exact htail.time after (by simpa [hcs] using hafter)
      | cons c behind =>
        rw [hcs, List.cons_append, List.cons.injEq] at hafter
        obtain ⟨rfl, rfl⟩ := hafter
        rw [takeWhile_append_of_head? _ htail.word]
        exact hbehind hdate behind hcs

/-! ## Keys -/

/-- The characters of a key are characters of words. -/
theorem isWordChar_of_isBareChar {c : Char} (h : isBareChar c = true) : isWordChar c = true := by
  simp only [isBareChar, Bool.or_eq_true] at h
  obtain (((h | h) | h) | h) | h := h <;> simp [isWordChar, h]

theorem dropBlanks_append_of_eq_cons {c : Char} {cs rest : List Char} (tail : List Char)
    (h : dropBlanks cs = c :: rest) : dropBlanks (cs ++ tail) = c :: (rest ++ tail) :=
  dropWhile_append_of_eq_cons tail h

theorem keeps_readName (htail : ∀ c ∈ tail.head?, isBareChar c = false) : Keeps tail readName := by
  intro cs name rest h
  cases cs with
  | nil => cases h
  | cons c cs =>
    rw [readName] at h
    rw [List.cons_append, readName]
    split at h
    · rename_i hquote
      obtain ⟨read, hread, heq⟩ := Option.map_eq_some_iff.mp h
      obtain ⟨rfl, rfl⟩ := Prod.mk.inj heq
      rw [if_pos hquote, ← List.cons_append, keeps_readQuotedLine hread]
      rfl
    · rename_i hquote
      rw [if_neg hquote]
      split at h
      · rename_i hbare
        obtain ⟨rfl, rfl⟩ := Prod.mk.inj (Option.some.inj h)
        rw [if_pos hbare, ← List.cons_append, takeWhile_append_of_head? _ htail,
          dropWhile_append_of_head? _ htail]
      · cases h

/-- Something is left behind a key that is followed by its sign, so that what comes later does not
matter. -/
theorem readNames_append (htail : ∀ c ∈ tail.head?, isBareChar c = false) {fuel fuel' : Nat}
    (hfuel : fuel ≤ fuel') {cs rest : List Char} {names : List String} {c : Char}
    (h : readNames fuel cs = some (names, c :: rest)) :
    readNames fuel' (cs ++ tail) = some (names, c :: (rest ++ tail)) := by
  induction fuel generalizing fuel' cs names with
  | zero => cases h
  | succ fuel ih =>
    obtain ⟨fuel', rfl⟩ := Nat.exists_eq_succ_of_ne_zero (Nat.ne_zero_of_lt hfuel)
    rw [readNames] at h
    cases hname : readName (dropBlanks cs) with
    | none => simp [hname] at h
    | some read =>
      obtain ⟨name, behind⟩ := read
      obtain ⟨d, ds, hds⟩ : ∃ d ds, dropBlanks cs = d :: ds := by
        apply List.exists_cons_of_ne_nil
        intro hnil
        rw [hnil] at hname
        cases hname
      have hkept := keeps_readName htail hname
      rw [hds, List.cons_append] at hkept
      rw [readNames, dropBlanks_append_of_eq_cons tail hds, hkept]
      simp only [hname] at h ⊢
      obtain ⟨e, es, hes⟩ : ∃ e es, dropBlanks behind = e :: es := by
        apply List.exists_cons_of_ne_nil
        intro hnil
        simp [hnil] at h
      rw [hes] at h
      rw [dropBlanks_append_of_eq_cons tail hes]
      split at h
      · rename_i heq
        obtain ⟨rfl, rfl⟩ := List.cons.inj heq
        obtain ⟨⟨names', rest'⟩, hmore, heq⟩ := Option.map_eq_some_iff.mp h
        obtain ⟨rfl, rfl⟩ := Prod.mk.inj heq
        simp only [ih (Nat.le_of_succ_le_succ hfuel) hmore]
        rfl
      · rename_i hdot
        obtain ⟨rfl, heq⟩ := Prod.mk.inj (Option.some.inj h)
        obtain ⟨rfl, rfl⟩ := List.cons.inj heq
        split
        · rename_i heq
          exact absurd (List.cons.inj heq).1 fun he => hdot es (by rw [he])
        · rfl

theorem readKey_append (htail : ∀ c ∈ tail.head?, isBareChar c = false) {cs rest : List Char}
    {key : Key} {c : Char} (h : readKey cs = some (key, c :: rest)) :
    readKey (cs ++ tail) = some (key, c :: (rest ++ tail)) := by
  have hfuel : cs.length + 1 ≤ (cs ++ tail).length + 1 := by simp
  unfold readKey at h ⊢
  cases hnames : readNames (cs.length + 1) cs with
  | none => simp [hnames] at h
  | some read =>
    obtain ⟨names, behind⟩ := read
    simp only [hnames] at h
    cases hname : names.getLast? with
    | none => simp [hname] at h
    | some name =>
      simp only [hname] at h
      split at h
      · rename_i hlimit
        obtain ⟨rfl, rfl⟩ := Prod.mk.inj (Option.some.inj h)
        simp only [readNames_append htail hfuel hnames, hname, if_pos hlimit]
      · cases h

/-! ## Values -/

theorem dropTrivia_append {inComment : Bool} {cs rest : List Char} {c : Char}
    (h : dropTrivia inComment cs = some (c :: rest)) :
    dropTrivia inComment (cs ++ tail) = some (c :: (rest ++ tail)) := by
  induction cs generalizing inComment with
  | nil => cases inComment <;> cases h
  | cons d cs ih =>
    cases inComment <;> rw [dropTrivia] at h <;> rw [List.cons_append, dropTrivia]
    · split at h
      · rename_i hblank
        rw [if_pos hblank, ih h]
      · rename_i hblank
        rw [if_neg hblank]
        split at h
        · rename_i hcomment
          rw [if_pos hcomment, ih h]
        · rename_i hcomment
          obtain ⟨rfl, rfl⟩ := List.cons.inj (Option.some.inj h)
          rw [if_neg hcomment]
    · split at h
      · rename_i hline
        rw [if_pos hline, ih h]
      · rename_i hline
        rw [if_neg hline]
        split at h
        · rename_i hplain
          rw [if_pos hplain, ih h]
        · cases h

section Nested

variable {value : Scanner Node}

/-- The elements of an array are none, or a value followed by a comma and further elements or by
the closing bracket. -/
theorem readElements_succ_eq_some_iff {fuel : Nat} {cs rest : List Char} {nodes : List Node} :
    readElements value (fuel + 1) cs = some (nodes, rest) ↔
      dropTrivia false cs = some (']' :: rest) ∧ nodes = [] ∨
        ∃ cs' node behind, dropTrivia false cs = some cs' ∧ (∀ ds, cs' ≠ ']' :: ds) ∧
          value cs' = some (node, behind) ∧
            ((∃ behind' nodes', dropTrivia false behind = some (',' :: behind') ∧
                readElements value fuel behind' = some (nodes', rest) ∧ nodes = node :: nodes') ∨
              dropTrivia false behind = some (']' :: rest) ∧ nodes = [node]) := by
  rw [readElements]
  constructor
  · intro h
    split at h
    · cases h
    · rename_i hclose
      obtain ⟨rfl, rfl⟩ := Prod.mk.inj (Option.some.inj h)
      exact .inl ⟨hclose, rfl⟩
    · rename_i cs' hopen hcs
      split at h
      · cases h
      · rename_i node behind hnode
        refine .inr ⟨cs', node, behind, hcs, hopen, hnode, ?_⟩
        split at h
        · rename_i behind' hcomma
          obtain ⟨⟨nodes', rest'⟩, hmore, heq⟩ := Option.map_eq_some_iff.mp h
          obtain ⟨rfl, rfl⟩ := Prod.mk.inj heq
          exact .inl ⟨behind', nodes', hcomma, hmore, rfl⟩
        · rename_i hclose
          obtain ⟨rfl, rfl⟩ := Prod.mk.inj (Option.some.inj h)
          exact .inr ⟨hclose, rfl⟩
        · cases h
  · rintro (⟨hclose, rfl⟩ | ⟨cs', node, behind, hcs, hopen, hnode, hmore⟩)
    · simp only [hclose]
    · rw [hcs]
      split
      · rename_i heq
        cases heq
      · rename_i heq
        exact absurd (Option.some.inj heq) (hopen _)
      · rename_i heq
        obtain rfl := Option.some.inj heq
        rw [hnode]
        obtain ⟨behind', nodes', hcomma, hmore, rfl⟩ | ⟨hclose, rfl⟩ := hmore
        · simp only [hcomma, hmore]
          rfl
        · simp only [hclose]

variable (hvalue : Keeps tail value) (hnil : value [] = none)
include hvalue hnil

theorem readElements_append {fuel fuel' : Nat} (hfuel : fuel ≤ fuel') {cs rest : List Char}
    {nodes : List Node} (h : readElements value fuel cs = some (nodes, rest)) :
    readElements value fuel' (cs ++ tail) = some (nodes, rest ++ tail) := by
  induction fuel generalizing fuel' cs nodes with
  | zero => cases h
  | succ fuel ih =>
    obtain ⟨fuel', rfl⟩ := Nat.exists_eq_succ_of_ne_zero (Nat.ne_zero_of_lt hfuel)
    rw [readElements_succ_eq_some_iff] at h ⊢
    obtain ⟨hclose, rfl⟩ | ⟨cs', node, behind, hcs, hopen, hnode, hmore⟩ := h
    · exact .inl ⟨dropTrivia_append hclose, rfl⟩
    · obtain ⟨c, cs', rfl⟩ : ∃ c ds, cs' = c :: ds := by
        apply List.exists_cons_of_ne_nil
        rintro rfl
        rw [hnil] at hnode
        cases hnode
      refine .inr ⟨_, node, _, dropTrivia_append hcs, ?_, hvalue hnode, ?_⟩
      · intro ds heq
        exact hopen cs' (by rw [(List.cons.inj heq).1])
      · obtain ⟨behind', nodes', hcomma, hmore, rfl⟩ | ⟨hclose, rfl⟩ := hmore
        · exact .inl ⟨_, nodes', dropTrivia_append hcomma,
            ih (Nat.le_of_succ_le_succ hfuel) hmore, rfl⟩
        · exact .inr ⟨dropTrivia_append hclose, rfl⟩

theorem readAssignment_append (htail : ∀ c ∈ tail.head?, isBareChar c = false)
    {cs rest : List Char} {assignment : Assignment} {c : Char}
    (h : readAssignment value cs = some (assignment, c :: rest)) :
    readAssignment value (cs ++ tail) = some (assignment, c :: (rest ++ tail)) := by
  unfold readAssignment at h ⊢
  split at h
  · rename_i key behind hkey
    rw [readKey_append htail hkey]
    split at h
    · cases h
    · rename_i node rest' hnode
      obtain ⟨rfl, hrest⟩ := Prod.mk.inj (Option.some.inj h)
      obtain ⟨d, ds, hds⟩ : ∃ d ds, dropBlanks behind = d :: ds := by
        apply List.exists_cons_of_ne_nil
        intro hempty
        rw [hempty, hnil] at hnode
        cases hnode
      have hkept := hvalue hnode
      rw [hds, List.cons_append] at hkept
      simp only [dropBlanks_append_of_eq_cons tail hds, hkept,
        dropBlanks_append_of_eq_cons tail hrest]
  · cases h

theorem readAssignments_append (htail : ∀ c ∈ tail.head?, isBareChar c = false) {fuel fuel' : Nat}
    (hfuel : fuel ≤ fuel') {cs rest : List Char} {assignments : List Assignment}
    (h : readAssignments value fuel cs = some (assignments, rest)) :
    readAssignments value fuel' (cs ++ tail) = some (assignments, rest ++ tail) := by
  induction fuel generalizing fuel' cs assignments with
  | zero => cases h
  | succ fuel ih =>
    obtain ⟨fuel', rfl⟩ := Nat.exists_eq_succ_of_ne_zero (Nat.ne_zero_of_lt hfuel)
    rw [readAssignments] at h ⊢
    split at h
    · rename_i assignment behind hassignment
      obtain ⟨⟨assignments', rest'⟩, hmore, heq⟩ := Option.map_eq_some_iff.mp h
      obtain ⟨rfl, rfl⟩ := Prod.mk.inj heq
      rw [readAssignment_append hvalue hnil htail hassignment]
      simp only [ih (Nat.le_of_succ_le_succ hfuel) hmore]
      rfl
    · rename_i assignment behind hassignment
      obtain ⟨rfl, rfl⟩ := Prod.mk.inj (Option.some.inj h)
      rw [readAssignment_append hvalue hnil htail hassignment]
      rfl
    · cases h

end Nested

theorem Separates.bare (htail : Separates tail) : ∀ c ∈ tail.head?, isBareChar c = false := by
  intro c hc
  rw [Bool.eq_false_iff]
  intro hbare
  have hword := htail.word c hc
  rw [isWordChar_of_isBareChar hbare] at hword
  cases hword

theorem keeps_readValueWith (htail : Separates tail) {nested : Option (Scanner Node)}
    (hnested : ∀ value ∈ nested, Keeps tail value ∧ value [] = none) :
    Keeps tail (readValueWith nested) := by
  intro cs node rest h
  unfold readValueWith at h
  split at h
  · cases h
  · rename_i cs
    split at h
    · cases h
    · rename_i value
      obtain ⟨hvalue, hnil⟩ := hnested value rfl
      obtain ⟨⟨nodes, rest'⟩, hnodes, heq⟩ := Option.map_eq_some_iff.mp h
      obtain ⟨rfl, rfl⟩ := Prod.mk.inj heq
      have hfuel : cs.length + 1 ≤ (cs ++ tail).length + 1 := by simp
      rw [List.cons_append, readValueWith]
      simp only [readElements_append hvalue hnil hfuel hnodes]
      rfl
  · rename_i cs
    split at h
    · cases h
    · rename_i value
      obtain ⟨hvalue, hnil⟩ := hnested value rfl
      rw [List.cons_append, readValueWith]
      split at h
      · rename_i hclose
        obtain ⟨rfl, rfl⟩ := Prod.mk.inj (Option.some.inj h)
        simp only [dropBlanks_append_of_eq_cons tail hclose]
      · rename_i hopen
        split at h
        · cases h
        · rename_i assignments rest' hassignments
          obtain ⟨entries, hentries, heq⟩ := Option.map_eq_some_iff.mp h
          obtain ⟨rfl, rfl⟩ := Prod.mk.inj heq
          obtain ⟨c, ds, hds⟩ : ∃ c ds, dropBlanks cs = c :: ds := by
            apply List.exists_cons_of_ne_nil
            intro hempty
            rw [hempty] at hassignments
            cases hassignments
          rw [hds] at hassignments hopen
          have hfuel : (c :: ds).length + 1 ≤ (c :: ds ++ tail).length + 1 := by simp
          have hkept := readAssignments_append hvalue hnil htail.bare hfuel hassignments
          rw [List.cons_append] at hkept
          simp only [dropBlanks_append_of_eq_cons tail hds]
          split
          · rename_i heq
            exact absurd (List.cons.inj heq).1 fun hc => hopen ds (by rw [hc])
          · simp only [hkept, hentries]
            rfl
  · rename_i c cs hbracket hbrace
    rw [List.cons_append, readValueWith]
    · split at h
      · rename_i hquote
        obtain ⟨⟨text, rest'⟩, htext, heq⟩ := Option.map_eq_some_iff.mp h
        obtain ⟨rfl, rfl⟩ := Prod.mk.inj heq
        rw [if_pos hquote, ← List.cons_append, keeps_readQuoted htail.quote htext]
        rfl
      · rename_i hquote
        obtain ⟨⟨value, rest'⟩, hword, heq⟩ := Option.map_eq_some_iff.mp h
        obtain ⟨rfl, rfl⟩ := Prod.mk.inj heq
        rw [if_neg hquote, ← List.cons_append, keeps_readWord htail hword]
        rfl
    · exact hbracket
    · exact hbrace

theorem readValue_nil (depth : Nat) : readValue depth [] = none := by
  cases depth <;> rfl

/-- A value is read the same whatever separates it from what follows. -/
theorem keeps_readValue (htail : Separates tail) (depth : Nat) : Keeps tail (readValue depth) := by
  induction depth with
  | zero =>
    apply keeps_readValueWith htail
    rintro _ ⟨⟩
  | succ depth ih =>
    apply keeps_readValueWith htail
    rintro _ ⟨⟩
    exact ⟨ih, readValue_nil depth⟩

end Continuation

end KeyProvisioning.Toml
