import Mathlib.Data.List.Infix
import InstrumentLink.Toml.Lexical
import InstrumentLink.Toml.Writer

/-!
A string that is written in any of the four kinds of quotes is read back. Between double quotes each character is
written so that a reader takes it for that character; between single quotes it stands for itself. Three quotes in a row
would end a string too early, and are never written within one.
-/

namespace InstrumentLink.Toml

@[simp] theorem Read.cons_some (c : Char) (text rest : List Char) :
    Read.cons c (some (text, rest)) = some (c :: text, rest) := rfl

section Written

variable {c : Char}

/-- A character that need not be written by its number may stand for itself, but the line feed. -/
theorem isPlain_of_not_needsCode (uncoded : needsCode c = false) (inLine : c ≠ '\n') : isPlain c = true := by
  simp only [needsCode, Bool.or_eq_false_iff, Bool.and_eq_false_iff, decide_eq_false_iff_not] at uncoded
  simp only [isPlain, Bool.or_eq_true, Bool.and_eq_true, decide_eq_true_eq]
  obtain ⟨low, high⟩ := uncoded
  by_cases tab : c = '\t'
  · exact .inl tab
  · refine .inr ⟨?_, high⟩
    rcases low with (low | low) | low
    · omega
    · exact absurd tab low
    · exact absurd inLine low

/-- Four digits are enough for a character that is written by its number, and stand for it. -/
theorem charOfHex?_fourDigits (coded : needsCode c = true) : ∃ first second third fourth,
    fourDigits c.toNat = [first, second, third, fourth] ∧ charOfHex? [first, second, third, fourth] = some c := by
  have all : ∀ n < 128, (fourDigits n).length = 4 ∧ charOfHex? (fourDigits n) = some (Char.ofNat n) := by decide +kernel
  have small : c.toNat < 128 := by
    simp only [needsCode, Bool.or_eq_true, Bool.and_eq_true, decide_eq_true_eq] at coded
    omega
  have shown := all c.toNat small
  rw [Char.ofNat_toNat] at shown
  match digits : fourDigits c.toNat, shown with
  | [first, second, third, fourth], ⟨_, hex⟩ => exact ⟨first, second, third, fourth, rfl, hex⟩

structure Unescapes (multiline : Bool) (read? : List Char → Read (List Char)) : Prop where
  escape : ∀ {c meant : Char} (rest : List Char), escaped? c = some meant →
    read? ('\\' :: c :: rest) = Read.cons meant (read? rest)
  code : ∀ (a b c d : Char) (rest : List Char),
    read? ('\\' :: 'u' :: a :: b :: c :: d :: rest) = (charOfHex? [a, b, c, d]).bind (Read.cons · (read? rest))
  plain : ∀ {c : Char} (rest : List Char), isPlain c = true ∨ multiline = true ∧ c = '\n' → c ≠ '"' → c ≠ '\\' →
    read? (c :: rest) = Read.cons c (read? rest)

theorem Unescapes.written {multiline : Bool} {read? : List Char → Read (List Char)} (reads : Unescapes multiline read?)
    (noQuote : c ≠ '"') (rest : List Char) : read? (written multiline c ++ rest) = Read.cons c (read? rest) := by
  unfold Toml.written
  split
  · exact reads.escape rest rfl
  · exact reads.escape rest rfl
  · exact reads.escape rest rfl
  · exact reads.escape rest rfl
  · exact reads.escape rest rfl
  · split
    next isMultiline => exact reads.plain rest (.inr ⟨isMultiline, rfl⟩) (by decide) (by decide)
    next => exact reads.escape rest rfl
  next noSlash _ _ _ _ inLine =>
    split
    next coded =>
      obtain ⟨first, second, third, fourth, digits, hex⟩ := charOfHex?_fourDigits coded
      rw [digits]
      refine (reads.code first second third fourth rest).trans ?_
      rw [hex]
      rfl
    next uncoded =>
      refine reads.plain rest (.inl ?_) noQuote noSlash
      exact isPlain_of_not_needsCode (Bool.eq_false_iff.mpr uncoded) inLine

/-- What is written for a character begins with a backslash, or with the character itself. -/
theorem written_eq_cons (multiline : Bool) (c : Char) :
    ∃ first more, written multiline c = first :: more ∧ (first = '\\' ∨ first = c ∧ c ≠ '\r') := by
  unfold Toml.written
  split
  · exact ⟨_, _, rfl, .inl rfl⟩
  · exact ⟨_, _, rfl, .inl rfl⟩
  · exact ⟨_, _, rfl, .inl rfl⟩
  · exact ⟨_, _, rfl, .inl rfl⟩
  · exact ⟨_, _, rfl, .inl rfl⟩
  · split
    · exact ⟨_, _, rfl, .inr ⟨rfl, by decide⟩⟩
    · exact ⟨_, _, rfl, .inl rfl⟩
  next noReturn _ =>
    split
    · exact ⟨_, _, rfl, .inl rfl⟩
    · exact ⟨_, _, rfl, .inr ⟨rfl, noReturn⟩⟩

theorem head?_written {multiline : Bool} (noQuote : c ≠ '"') (rest : List Char) :
    (written multiline c ++ rest).head? ≠ some '"' := by
  obtain ⟨first, more, shown, isFirst⟩ := written_eq_cons multiline c
  rw [shown]
  rcases isFirst with rfl | ⟨rfl, -⟩
  · simp
  · simpa using noQuote

end Written

theorem unescapes_basic : Unescapes false basic? where
  escape {c meant} rest known := by
    have apart : c ≠ 'u' ∧ c ≠ 'U' := by
      refine ⟨?_, ?_⟩ <;> (rintro rfl; cases known)
    rw [basic?, known, Option.bind_some]
    all_goals simp [apart]
  code a b c d rest := by rw [basic?]
  plain {c} rest plain noQuote noSlash := by
    have isPlain : isPlain c = true := plain.resolve_right fun ⟨no, _⟩ => nomatch no
    rw [basic?, if_pos isPlain]
    all_goals simp [noQuote, noSlash]

theorem unescapes_multiline : Unescapes true (multiline? false) where
  escape {c meant} rest known := by
    have apart : c ≠ 'u' ∧ c ≠ 'U' := by
      refine ⟨?_, ?_⟩ <;> (rintro rfl; cases known)
    rw [multiline?, known]
    all_goals simp [apart]
  code a b c d rest := by rw [multiline?]
  plain {c} rest plain noQuote noSlash := by
    have noReturn : c ≠ '\r' := by
      rintro rfl
      rcases plain with isPlain | ⟨_, isNewline⟩
      · exact absurd isPlain (by decide)
      · exact absurd isNewline (by decide)
    have taken : (isPlain c || c = '\n') = true := by simpa using plain
    rw [multiline?, if_neg (by simp), if_pos taken]
    all_goals simp [noQuote, noSlash, noReturn]

section Texts

variable {c : Char} {text rest : List Char}

theorem writtenFrom_cons {multiline : Bool} {allowed run : Nat} (noQuote : c ≠ '"') (text : List Char) :
    writtenFrom multiline allowed run (c :: text) = written multiline c ++ writtenFrom multiline allowed 0 text := by
  rw [writtenFrom]
  exact noQuote

theorem writtenFrom_quote (multiline : Bool) (allowed run : Nat) (text : List Char) :
    writtenFrom multiline allowed run ('"' :: text) =
      if run < allowed then '"' :: writtenFrom multiline allowed (run + 1) text
      else '\\' :: '"' :: writtenFrom multiline allowed 0 text := by
  rw [writtenFrom]

theorem basic?_writtenFrom (text rest : List Char) (run : Nat) :
    basic? (writtenFrom false 0 run text ++ '"' :: rest) = some (text, rest) := by
  induction text generalizing run with
  | nil =>
    rw [writtenFrom, List.nil_append, basic?]
  | cons c text ih =>
    by_cases quote : c = '"'
    · subst quote
      rw [writtenFrom_quote, if_neg (Nat.not_lt_zero run), List.cons_append, List.cons_append,
        unescapes_basic.escape _ rfl, ih, Read.cons_some]
    · rw [writtenFrom_cons quote, List.append_assoc, unescapes_basic.written quote, ih, Read.cons_some]

/-- What stands behind a quote in a text that ends with three: no two quotes, or the end, or one more quote and the
end. -/
def Behind (quote : Char) (rest tail : List Char) : Prop :=
  (∀ more, tail ≠ quote :: quote :: more) ∨ tail = quote :: quote :: quote :: rest ∨
    tail = quote :: quote :: quote :: quote :: rest

theorem Behind.of_head? {quote : Char} {tail : List Char} (apart : tail.head? ≠ some quote) :
    Behind quote rest tail := by
  refine .inl fun more same => apart ?_
  rw [same]
  rfl

structure EndsAtThree (quote : Char) (read? : List Char → Read (List Char)) : Prop where
  close : ∀ {rest : List Char}, rest.head? ≠ some quote → read? (quote :: quote :: quote :: rest) = some ([], rest)
  closeOne : ∀ {rest : List Char}, rest.head? ≠ some quote →
    read? (quote :: quote :: quote :: quote :: rest) = some ([quote], rest)
  closeTwo : ∀ {rest : List Char}, rest.head? ≠ some quote →
    read? (quote :: quote :: quote :: quote :: quote :: rest) = some ([quote, quote], rest)
  single : ∀ {tail : List Char}, (∀ more, tail ≠ quote :: quote :: more) →
    read? (quote :: tail) = Read.cons quote (read? tail)

theorem EndsAtThree.quote {quote : Char} {read? : List Char → Read (List Char)} (ends : EndsAtThree quote read?)
    {tail : List Char} (behind : Behind quote rest tail) (apart : rest.head? ≠ some quote) :
    read? (quote :: tail) = Read.cons quote (read? tail) := by
  rcases behind with few | isEnd | isEnd
  · exact ends.single few
  · rw [isEnd, ends.close apart, ends.closeOne apart, Read.cons_some]
  · rw [isEnd, ends.closeOne apart, ends.closeTwo apart, Read.cons_some]

theorem endsAtThree_multiline : EndsAtThree '"' (multiline? false) where
  close apart := by
    rw [multiline?]
    all_goals
      rintro _ rfl
      exact apart rfl
  closeOne apart := by
    rw [multiline?]
    rintro _ rfl
    exact apart rfl
  closeTwo apart := by
    rw [multiline?, if_neg apart]
  single few := by
    rw [multiline?, if_neg (by simp), if_pos (by decide)]
    all_goals simp [few]

theorem behind_writtenFrom (text rest : List Char) {run : Nat} (later : 1 ≤ run) :
    Behind '"' rest (writtenFrom true 2 run text ++ '"' :: '"' :: '"' :: rest) := by
  cases text with
  | nil => exact .inr (.inl rfl)
  | cons c text =>
    by_cases quote : c = '"'
    · subst quote
      rw [writtenFrom_quote]
      split
      next small =>
        -- This one still stands for itself, so the next has a backslash.
        obtain rfl : run = 1 := by omega
        cases text with
        | nil => exact .inr (.inr rfl)
        | cons d text =>
          refine .inl fun more same => ?_
          by_cases second : d = '"'
          · subst second
            rw [writtenFrom_quote, if_neg (by decide)] at same
            simp at same
          · rw [writtenFrom_cons second, List.cons_append, List.append_assoc] at same
            exact head?_written second _ (congrArg List.head? (List.cons.inj same).2)
      next => exact .of_head? (by simp)
    · rw [writtenFrom_cons quote, List.append_assoc]
      exact .of_head? (head?_written quote _)

theorem multiline?_writtenFrom (text : List Char) (apart : rest.head? ≠ some '"') (run : Nat) :
    multiline? false (writtenFrom true 2 run text ++ '"' :: '"' :: '"' :: rest) = some (text, rest) := by
  -- For any run of quotes before the text, as the run decides how its first quote is written.
  induction text generalizing run with
  | nil =>
    rw [writtenFrom, List.nil_append]
    exact endsAtThree_multiline.close apart
  | cons c text ih =>
    by_cases quote : c = '"'
    · subst quote
      rw [writtenFrom_quote]
      split
      · rw [List.cons_append, endsAtThree_multiline.quote (behind_writtenFrom text rest (Nat.succ_pos run)) apart, ih,
          Read.cons_some]
      · rw [List.cons_append, List.cons_append, unescapes_multiline.escape _ rfl, ih, Read.cons_some]
    · rw [writtenFrom_cons quote, List.append_assoc, unescapes_multiline.written quote, ih, Read.cons_some]

/-! Between single quotes every character stands for itself. -/

theorem literal?_text (plain : ∀ c ∈ text, isPlain c = true ∧ c ≠ '\x27') (rest : List Char) :
    literal? (text ++ '\x27' :: rest) = some (text, rest) := by
  induction text with
  | nil => rw [List.nil_append, literal?]
  | cons c text ih =>
    obtain ⟨⟨isPlain, noQuote⟩, others⟩ := List.forall_mem_cons.mp plain
    rw [List.cons_append, literal?, if_pos isPlain, ih others, Read.cons_some]
    exact noQuote

theorem endsAtThree_multilineLiteral : EndsAtThree '\x27' multilineLiteral? where
  close apart := by
    rw [multilineLiteral?]
    all_goals
      rintro _ rfl
      exact apart rfl
  closeOne apart := by
    rw [multilineLiteral?]
    rintro _ rfl
    exact apart rfl
  closeTwo apart := by
    rw [multilineLiteral?, if_neg apart]
  single few := by
    rw [multilineLiteral?, if_pos (by decide)]
    all_goals simp [few]

theorem behind_text (few : ¬List.replicate 3 '\x27' <:+: '\x27' :: text) (rest : List Char) :
    Behind '\x27' rest (text ++ '\x27' :: '\x27' :: '\x27' :: rest) := by
  cases text with
  | nil => exact .inr (.inl rfl)
  | cons c text =>
    by_cases quote : c = '\x27'
    · subst quote
      cases text with
      | nil => exact .inr (.inr rfl)
      | cons d text =>
        refine .inl fun more same => few ?_
        obtain rfl : d = '\x27' := (List.cons.inj (List.cons.inj same).2).1
        exact (List.prefix_append _ text).isInfix
    · exact .of_head? (by simpa using quote)

theorem multilineLiteral?_text (plain : ∀ c ∈ text, isPlain c = true ∨ c = '\n')
    (few : ¬List.replicate 3 '\x27' <:+: text) (apart : rest.head? ≠ some '\x27') :
    multilineLiteral? (text ++ '\x27' :: '\x27' :: '\x27' :: rest) = some (text, rest) := by
  induction text with
  | nil => exact endsAtThree_multilineLiteral.close apart
  | cons c text ih =>
    obtain ⟨taken, others⟩ := List.forall_mem_cons.mp plain
    have read := ih others fun inner => few (inner.trans (List.suffix_cons c text).isInfix)
    rw [List.cons_append]
    by_cases quote : c = '\x27'
    · subst quote
      rw [endsAtThree_multilineLiteral.quote (behind_text few rest) apart, read, Read.cons_some]
    · have noReturn : c ≠ '\r' := by
        rintro rfl
        exact absurd taken (by decide)
      rw [multilineLiteral?, if_pos (by simpa using taken), read, Read.cons_some]
      all_goals simp [quote, noReturn]

end Texts

/-! Which quotes a text gets says what stands in it. -/

section Runs

variable {quote : Char}

def runStep (quote : Char) (runs : Nat × Nat) (c : Char) : Nat × Nat :=
  let run := if c = quote then runs.2 + 1 else 0
  (max runs.1 run, run)

theorem longestRun_eq (quote : Char) (text : List Char) :
    longestRun quote text = (text.foldl (runStep quote) (0, 0)).1 := rfl

theorem le_foldl_runStep (quote : Char) (runs : Nat × Nat) (text : List Char) :
    runs.1 ≤ (text.foldl (runStep quote) runs).1 := by
  induction text generalizing runs with
  | nil => exact Nat.le_refl _
  | cons c text ih => exact Nat.le_trans (Nat.le_max_left ..) (ih (runStep quote runs c))

theorem foldl_runStep_ordered {runs : Nat × Nat} (ordered : runs.2 ≤ runs.1) (text : List Char) :
    (text.foldl (runStep quote) runs).2 ≤ (text.foldl (runStep quote) runs).1 := by
  induction text generalizing runs with
  | nil => exact ordered
  | cons c text ih => exact ih (Nat.le_max_right ..)

theorem foldl_runStep_replicate {runs : Nat × Nat} (ordered : runs.2 ≤ runs.1) (count : Nat) :
    runs.2 + count ≤ ((List.replicate count quote).foldl (runStep quote) runs).1 := by
  induction count generalizing runs with
  | zero => exact ordered
  | succ count ih =>
    have longer : (runStep quote runs quote).2 = runs.2 + 1 := if_pos rfl
    have further := @ih (runStep quote runs quote) (Nat.le_max_right ..)
    rw [longer] at further
    rw [List.replicate_succ, List.foldl_cons]
    omega

theorem le_longestRun {text : List Char} {count : Nat} (inside : List.replicate count quote <:+: text) :
    count ≤ longestRun quote text := by
  obtain ⟨front, back, rfl⟩ := inside
  have ordered : (front.foldl (runStep quote) (0, 0)).2 ≤ (front.foldl (runStep quote) (0, 0)).1 :=
    foldl_runStep_ordered (Nat.le_refl _) front
  have run := @foldl_runStep_replicate quote _ ordered count
  have kept := le_foldl_runStep quote
    ((List.replicate count quote).foldl (runStep quote) (front.foldl (runStep quote) (0, 0))) back
  rw [longestRun_eq, List.foldl_append, List.foldl_append]
  omega

end Runs

/-- What the quotes of a text promise: between single ones there is nothing that would need a backslash. -/
def Quotes.Suit (text : List Char) : Quotes → Prop
  | literal => ∀ c ∈ text, isPlain c = true ∧ c ≠ '\x27'
  | multilineLiteral => (∀ c ∈ text, isPlain c = true ∨ c = '\n') ∧ ¬List.replicate 3 '\x27' <:+: text
  | basic | multilineBasic => True

theorem Quotes.suit_forText (text : List Char) : (Quotes.forText text).Suit text := by
  have plain : text.any needsCode = false → ∀ c ∈ text, c ≠ '\n' → isPlain c = true := fun uncoded c member inLine =>
    isPlain_of_not_needsCode (by simpa using List.any_eq_false.mp uncoded c member) inLine
  unfold Quotes.forText
  dsimp only
  split
  · trivial
  · split
    next shown =>
      simp only [Bool.and_eq_true, Bool.not_eq_true', decide_eq_true_eq] at shown
      obtain ⟨⟨uncoded, noQuotes⟩, noNewlines⟩ := shown
      intro c member
      refine ⟨plain uncoded c member ?_, ?_⟩
      · rintro rfl
        simp [member] at noNewlines
      · rintro rfl
        have atLeast := @le_longestRun '\x27' text 1 ((List.singleton_infix_iff _ _).mpr member)
        omega
    next =>
      split
      · trivial
      · split
        next shown =>
          simp only [Bool.and_eq_true, Bool.not_eq_true', decide_eq_true_eq] at shown
          obtain ⟨uncoded, few⟩ := shown
          refine ⟨fun c member => ?_, fun inside => ?_⟩
          · by_cases newline : c = '\n'
            · exact .inr newline
            · exact .inl (plain uncoded c member newline)
          · have atLeast := le_longestRun inside
            omega
        next => split <;> trivial

section Quoted

variable {text rest : List Char}

/-- The line feed behind three quotes is dropped, and there is one to drop if the text behind it may have one. -/
theorem dropNewline_opening {body : List Char} (fed : (body ++ rest).head? = some '\n' → '\n' ∈ text)
    (noReturn : (body ++ rest).head? ≠ some '\r') :
    dropNewline ((if text.contains '\n' then ['\n'] else []) ++ (body ++ rest)) = body ++ rest := by
  split
  · rfl
  next absent =>
    have noNewline : newline? (body ++ rest) = none := by
      unfold newline?
      split
      next shown =>
        rw [shown] at fed
        exact absurd (fed rfl) (by simpa using absent)
      next shown =>
        rw [shown] at noReturn
        exact absurd rfl noReturn
      next => rfl
    rw [List.nil_append, dropNewline, noNewline]
    rfl

/-- What is written over several lines begins with a line feed only if the text does, and with no carriage return. -/
theorem head?_writtenFrom (run : Nat) (text rest : List Char) :
    ((writtenFrom true 2 run text ++ '"' :: rest).head? = some '\n' → '\n' ∈ text) ∧
      (writtenFrom true 2 run text ++ '"' :: rest).head? ≠ some '\r' := by
  cases text with
  | nil => simp [writtenFrom]
  | cons c text =>
    by_cases quote : c = '"'
    · subst quote
      rw [writtenFrom_quote]
      split <;> simp
    · obtain ⟨first, more, shown, isFirst⟩ := written_eq_cons true c
      rw [writtenFrom_cons quote, List.append_assoc, shown]
      rcases isFirst with rfl | ⟨rfl, noReturn⟩
      · simp
      · refine ⟨fun isFeed => ?_, fun isReturn => noReturn (Option.some.inj isReturn)⟩
        exact List.mem_cons.mpr (.inl (Option.some.inj isFeed).symm)

theorem basic_opening (text : List Char) (noDouble : rest.head? ≠ some '"') (more : List Char) :
    writtenFrom false 0 0 text ++ '"' :: rest ≠ '"' :: '"' :: more := by
  cases text with
  | nil =>
    rintro same
    refine noDouble ?_
    rw [(List.cons.inj same).2]
    rfl
  | cons c text =>
    intro same
    by_cases quote : c = '"'
    · subst quote
      rw [writtenFrom_quote, if_neg (Nat.not_lt_zero 0)] at same
      simp at same
    · rw [writtenFrom_cons quote, List.append_assoc] at same
      exact head?_written quote _ (congrArg List.head? same)

theorem literal_opening (noQuotes : '\x27' ∉ text) (noSingle : rest.head? ≠ some '\x27') (more : List Char) :
    text ++ '\x27' :: rest ≠ '\x27' :: '\x27' :: more := by
  cases text with
  | nil =>
    rintro same
    refine noSingle ?_
    rw [(List.cons.inj same).2]
    rfl
  | cons c text =>
    intro same
    exact noQuotes (List.mem_cons.mpr (.inl (List.cons.inj same).1.symm))

/-- A string that is written in any kind of quotes is read as the string, up to where the quotes end. -/
theorem string?_stringChars (text : List Char) (noDouble : rest.head? ≠ some '"')
    (noSingle : rest.head? ≠ some '\x27') :
    string? (stringChars text ++ rest) = some (String.ofList text, rest) := by
  have suit := Quotes.suit_forText text
  unfold stringChars
  -- One case for each kind of quotes that the writer may choose.
  split
  next =>
    rw [List.cons_append, List.append_assoc, List.singleton_append, string?, basic?_writtenFrom]
    · rfl
    · exact basic_opening text noDouble
  next chosen =>
    rw [chosen] at suit
    rw [List.cons_append, List.append_assoc, List.singleton_append, string?, literal?_text suit]
    · rfl
    · exact literal_opening (fun member => (suit _ member).2 rfl) noSingle
  next =>
    obtain ⟨fed, noReturn⟩ := head?_writtenFrom 0 text ('"' :: '"' :: rest)
    have body : multiline? false (dropNewline ((if text.contains '\n' then ['\n'] else []) ++
        (writtenFrom true 2 0 text ++ '"' :: '"' :: '"' :: rest))) = some (text, rest) := by
      rw [dropNewline_opening fed noReturn, multiline?_writtenFrom text noDouble]
    simp only [opening, List.append_assoc]
    exact congrArg (Option.map (Prod.map String.ofList id)) body
  next chosen =>
    rw [chosen] at suit
    obtain ⟨plain, few⟩ := suit
    have body : multilineLiteral? (dropNewline ((if text.contains '\n' then ['\n'] else []) ++
        (text ++ '\x27' :: '\x27' :: '\x27' :: rest))) = some (text, rest) := by
      rw [dropNewline_opening, multilineLiteral?_text plain few noSingle]
      · intro first
        cases text with
        | nil => simp at first
        | cons c text => exact List.mem_cons.mpr (.inl (Option.some.inj first).symm)
      · cases text with
        | nil => simp
        | cons c text =>
          rintro first
          obtain rfl : c = '\r' := Option.some.inj first
          exact absurd (plain _ (List.mem_cons_self ..)) (by decide)
    simp only [opening, List.append_assoc]
    exact congrArg (Option.map (Prod.map String.ofList id)) body

end Quoted

end InstrumentLink.Toml
