import InstrumentLink.Proofs.Toml.Numbers
import InstrumentLink.Proofs.Toml.Strings
import InstrumentLink.Toml.Reader

/-!
Documents that are written line by line: empty lines, headers of one part, and lines with a key and a number or a
string. Each line is read with any text behind it, and does to the document what it stands for.
-/

namespace InstrumentLink.Toml

inductive Datum where
  | number (n : Nat)
  | string (text : String)

namespace Datum

def chars : Datum → List Char
  | number n => Nat.toDigits 10 n
  | string text => stringChars text.toList

def value : Datum → Value
  | number n => .integer n
  | string text => .string text

def InRange : Datum → Prop
  | number n => n < 0x8000000000000000
  | string _ => True

end Datum

def isBareKey (key : String) : Bool := !key.toList.isEmpty && key.toList.all isBare

section Values

variable {c : Char} {text : List Char}

theorem skipBlanks_blank (blank : isBlank c = true) (rest : List Char) : skipBlanks (c :: rest) = skipBlanks rest :=
  List.dropWhile_cons_of_pos blank

theorem skipBlanks_of_not_isBlank (shown : isBlank c = false) (rest : List Char) : skipBlanks (c :: rest) = c :: rest :=
  List.dropWhile_cons_of_neg (by simp [shown])

theorem value?_of_quote (quote : c = '"' ∨ c = '\x27') (depth : Nat) (rest : List Char) :
    value? depth (c :: rest) = (string? (c :: rest)).map (Prod.map .string id) := by
  rcases quote with rfl | rfl
  · rw [value?]
  · rw [value?]

theorem value?_of_isDigit (digit : c.isDigit = true) (depth : Nat) (rest : List Char) :
    value? depth (c :: rest) = scalar? (c :: rest) := by
  have apart : ∀ d : Char, d.isDigit = false → c ≠ d := by
    rintro _ other rfl
    rw [digit] at other
    cases other
  rw [value?]
  · exact fun _ shown => apart '[' (by decide) (List.cons.inj shown).1
  · exact fun _ shown => apart '\x7b' (by decide) (List.cons.inj shown).1
  · exact fun _ shown => apart '"' (by decide) (List.cons.inj shown).1
  · exact fun _ shown => apart '\x27' (by decide) (List.cons.inj shown).1

theorem stringChars_eq_cons (text : List Char) :
    ∃ quote more, stringChars text = quote :: more ∧ (quote = '"' ∨ quote = '\x27') := by
  unfold stringChars
  split
  · exact ⟨_, _, rfl, .inl rfl⟩
  · exact ⟨_, _, rfl, .inr rfl⟩
  · exact ⟨_, _, rfl, .inl rfl⟩
  · exact ⟨_, _, rfl, .inr rfl⟩

theorem decimal_eq_cons (n : Nat) : ∃ c more, Nat.toDigits 10 n = c :: more ∧ c.isDigit = true := by
  obtain ⟨c, more, shown⟩ := List.exists_cons_of_ne_nil (@Nat.toDigits_ne_nil n 10)
  have member : c ∈ Nat.toDigits 10 n := by
    rw [shown]
    exact List.mem_cons_self ..
  exact ⟨c, more, shown, isDigit_of_mem_decimal member⟩

theorem Datum.chars_eq_cons (datum : Datum) : ∃ c more, datum.chars = c :: more ∧ isBlank c = false := by
  cases datum with
  | number n =>
    obtain ⟨c, more, shown, digit⟩ := decimal_eq_cons n
    refine ⟨c, more, shown, Bool.eq_false_iff.mpr fun blank => ?_⟩
    simp only [isBlank, Bool.or_eq_true, decide_eq_true_eq] at blank
    rcases blank with rfl | rfl
    · cases digit
    · cases digit
  | string text =>
    obtain ⟨quote, more, shown, isQuote⟩ := stringChars_eq_cons text.toList
    refine ⟨quote, more, shown, ?_⟩
    rcases isQuote with rfl | rfl
    · decide
    · decide

theorem Datum.value?_chars {datum : Datum} (inRange : datum.InRange) (depth : Nat) (rest : List Char) :
    value? depth (datum.chars ++ '\n' :: rest) = some (datum.value, '\n' :: rest) := by
  cases datum with
  | number n =>
    have read := scalar?_decimal inRange rest
    obtain ⟨c, more, shown, digit⟩ := decimal_eq_cons n
    rw [Datum.chars, shown, List.cons_append, value?_of_isDigit digit, ← List.cons_append, ← shown, read]
    rfl
  | string text =>
    have read : string? (stringChars text.toList ++ '\n' :: rest) = some (String.ofList text.toList, '\n' :: rest) :=
      string?_stringChars text.toList (by simp) (by simp)
    obtain ⟨quote, more, shown, isQuote⟩ := stringChars_eq_cons text.toList
    rw [Datum.chars, shown, List.cons_append, value?_of_quote isQuote, ← List.cons_append, ← shown, read,
      String.ofList_toList]
    rfl

end Values

section Keys

variable {key : String}

theorem isBareKey_eq_cons (bare : isBareKey key = true) : ∃ c more, key.toList = c :: more ∧ isBare c = true := by
  obtain ⟨filled, all⟩ := Bool.and_eq_true_iff.mp bare
  cases shown : key.toList with
  | nil => simp [shown] at filled
  | cons c more => exact ⟨c, more, rfl, List.all_eq_true.mp all c (by rw [shown]; exact List.mem_cons_self ..)⟩

theorem ne_of_isBare {c d : Char} (bare : isBare c = true) (other : isBare d = false) : c ≠ d := by
  rintro rfl
  rw [bare] at other
  cases other

theorem not_isBlank_of_isBare {c : Char} (bare : isBare c = true) : isBlank c = false := by
  simp [isBlank, ne_of_isBare bare (d := ' ') (by decide), ne_of_isBare bare (d := '\t') (by decide)]

theorem keyPart?_bare (bare : isBareKey key = true) {d : Char} (stop : isBare d = false) (rest : List Char) :
    keyPart? (key.toList ++ d :: rest) = some (key, d :: rest) := by
  obtain ⟨c, more, shown, first⟩ := isBareKey_eq_cons bare
  have all : ∀ c ∈ key.toList, isBare c = true := List.all_eq_true.mp (Bool.and_eq_true_iff.mp bare).2
  have ends : ∀ c, (d :: rest).head? = some c → isBare c = false := by
    intro c isFirst
    cases isFirst
    exact stop
  obtain ⟨name, behind⟩ := cut_append all ends
  have filled : key.toList.isEmpty = false := by rw [shown]; rfl
  unfold keyPart?
  split
  next begun =>
    rw [shown] at begun
    exact absurd (List.cons.inj begun).1 (ne_of_isBare first (by decide))
  next begun =>
    rw [shown] at begun
    exact absurd (List.cons.inj begun).1 (ne_of_isBare first (by decide))
  next => simp only [name, behind, filled, Bool.false_eq_true, if_false, String.ofList_toList]

theorem key?_bare (bare : isBareKey key = true) {d : Char} (stop : isBare d = false) {rest behind : List Char}
    (skipped : skipBlanks (d :: rest) = behind) (noPoint : behind.head? ≠ some '.') :
    key? (key.toList ++ d :: rest) = some ([key], behind) := by
  obtain ⟨c, more, shown, first⟩ := isBareKey_eq_cons bare
  have start : skipBlanks (key.toList ++ d :: rest) = key.toList ++ d :: rest := by
    rw [shown, List.cons_append, skipBlanks_of_not_isBlank (not_isBlank_of_isBare first)]
  unfold key? depthLimit keyParts?
  rw [start, keyPart?_bare bare stop]
  simp only [Option.bind_eq_bind, Option.bind_some, skipped]
  split
  · exact absurd rfl noPoint
  · rfl

end Keys

inductive Line where
  | blank
  | header (name : String)
  | field (key : String) (datum : Datum)

namespace Line

def chars : Line → List Char
  | blank => ['\n']
  | header name => '[' :: (name.toList ++ [']', '\n'])
  | field key datum => key.toList ++ [' ', '=', ' '] ++ datum.chars ++ ['\n']

def apply (document : Document) : Line → Option Document
  | blank => some document
  | header name => document.openTable [name]
  | field key datum => document.assign [key] datum.value

def WellFormed : Line → Prop
  | blank => True
  | header name => isBareKey name = true
  | field key datum => isBareKey key = true ∧ datum.InRange

end Line

theorem lineEnd?_newline (rest : List Char) : lineEnd? ('\n' :: rest) = some rest := rfl

theorem line?_header {name : String} (bare : isBareKey name = true) (document : Document) (rest : List Char) :
    line? document ('[' :: (name.toList ++ ']' :: '\n' :: rest)) = (document.openTable [name]).map (·, rest) := by
  have read : key? (name.toList ++ ']' :: '\n' :: rest) = some ([name], ']' :: '\n' :: rest) :=
    key?_bare bare (by decide) rfl (by simp)
  obtain ⟨c, more, shown, first⟩ := isBareKey_eq_cons bare
  have single : ∀ inner, name.toList ++ ']' :: '\n' :: rest ≠ '[' :: inner := by
    intro inner same
    rw [shown] at same
    exact ne_of_isBare first (by decide) (List.cons.inj same).1
  have whole : header? "]".toList (name.toList ++ ']' :: '\n' :: rest) = some ([name], rest) := by
    unfold header?
    rw [read]
    rfl
  rw [line?]
  · simp only [whole, Option.bind_eq_bind, Option.bind_some]
    cases document.openTable [name] <;> rfl
  · exact single

theorem assignment?_field {key : String} (bare : isBareKey key = true) {datum : Datum} (inRange : datum.InRange)
    (depth : Nat) (rest : List Char) :
    assignment? (value? depth) (key.toList ++ ' ' :: '=' :: ' ' :: (datum.chars ++ '\n' :: rest)) =
      some (([key], datum.value), '\n' :: rest) := by
  have read : key? (key.toList ++ ' ' :: '=' :: ' ' :: (datum.chars ++ '\n' :: rest)) =
      some ([key], '=' :: ' ' :: (datum.chars ++ '\n' :: rest)) :=
    key?_bare bare (by decide) rfl (by simp)
  have start : skipBlanks (' ' :: (datum.chars ++ '\n' :: rest)) = datum.chars ++ '\n' :: rest := by
    obtain ⟨c, more, shown, visible⟩ := datum.chars_eq_cons
    rw [skipBlanks_blank rfl, shown, List.cons_append, skipBlanks_of_not_isBlank visible]
  unfold assignment?
  rw [read]
  simp only [Option.bind_eq_bind, Option.bind_some, skipBlanks_of_not_isBlank (c := '=') rfl, start,
    Datum.value?_chars inRange]
  rfl

theorem line?_field {key : String} (bare : isBareKey key = true) {datum : Datum} (inRange : datum.InRange)
    (document : Document) (rest : List Char) :
    line? document (key.toList ++ ' ' :: '=' :: ' ' :: (datum.chars ++ '\n' :: rest)) =
      (document.assign [key] datum.value).map (·, rest) := by
  have read := assignment?_field bare inRange depthLimit rest
  obtain ⟨c, more, shown, first⟩ := isBareKey_eq_cons bare
  have apart : ∀ {d : Char}, isBare d = false → ∀ inner,
      key.toList ++ ' ' :: '=' :: ' ' :: (datum.chars ++ '\n' :: rest) ≠ d :: inner := by
    intro d other inner same
    rw [shown] at same
    exact ne_of_isBare first other (List.cons.inj same).1
  rw [line?]
  · simp only [read, Option.bind_eq_bind, Option.bind_some, lineEnd?_newline]
    cases document.assign [key] datum.value <;> rfl
  · exact apart (by decide)
  · exact fun inner => apart (by decide) _
  · exact apart (by decide)

theorem lines?_visible {c : Char} (noBlank : isBlank c = false) (noFeed : c ≠ '\n') (noReturn : c ≠ '\r') (count : Nat)
    (document : Document) (rest : List Char) :
    lines? (count + 1) document (c :: rest) =
      (line? document (c :: rest)).bind fun (document, rest) => lines? count document rest := by
  have noNewline : newline? (c :: rest) = none := by
    unfold newline?
    split
    next shown => exact absurd (List.cons.inj shown).1 noFeed
    next shown => exact absurd (List.cons.inj shown).1 noReturn
    next => rfl
  rw [lines?, skipBlanks_of_not_isBlank noBlank]
  simp only [noNewline]
  rfl

theorem lines?_chars {line : Line} (wellFormed : line.WellFormed) (count : Nat) (document : Document)
    (rest : List Char) :
    lines? (count + 1) document (line.chars ++ rest) = (line.apply document).bind (lines? count · rest) := by
  cases line with
  | blank => rfl
  | header name =>
    have read := line?_header wellFormed document rest
    simp only [Line.chars, List.cons_append, List.append_assoc, List.nil_append]
    rw [lines?_visible (by decide) (by decide) (by decide), read, Line.apply, Option.bind_map]
    rfl
  | field key datum =>
    obtain ⟨bare, inRange⟩ := wellFormed
    have read := line?_field bare inRange document rest
    obtain ⟨c, more, shown, first⟩ := isBareKey_eq_cons bare
    have apart : ∀ {d : Char}, isBare d = false → c ≠ d := ne_of_isBare first
    simp only [Line.chars, List.append_assoc, List.cons_append, List.nil_append]
    rw [shown, List.cons_append, lines?_visible (not_isBlank_of_isBare first) (apart (by decide)) (apart (by decide)),
      ← List.cons_append, ← shown, read, Line.apply, Option.bind_map]
    rfl

theorem lines?_flatMap {lines : List Line} (wellFormed : ∀ line ∈ lines, line.WellFormed) (count : Nat)
    (document : Document) :
    lines? (count + lines.length + 1) document (lines.flatMap Line.chars) = lines.foldlM Line.apply document := by
  induction lines generalizing document with
  | nil => rfl
  | cons line lines ih =>
    obtain ⟨first, others⟩ := List.forall_mem_cons.mp wellFormed
    rw [List.flatMap_cons, List.length_cons, ← Nat.add_assoc, lines?_chars first, List.foldlM_cons]
    exact congrArg _ (funext fun document => ih others document)

theorem Line.chars_ne_nil (line : Line) : line.chars ≠ [] := by
  cases line <;> simp [Line.chars]

theorem length_le_flatMap (lines : List Line) : lines.length ≤ (lines.flatMap Line.chars).length := by
  induction lines with
  | nil => exact Nat.le_refl _
  | cons line lines ih =>
    have filled := List.length_pos_iff.mpr line.chars_ne_nil
    rw [List.flatMap_cons, List.length_append, List.length_cons]
    omega

theorem dropMark_flatMap {lines : List Line} (wellFormed : ∀ line ∈ lines, line.WellFormed) :
    dropMark (lines.flatMap Line.chars) = lines.flatMap Line.chars := by
  unfold dropMark
  split
  next rest shown =>
    cases lines with
    | nil => cases shown
    | cons line lines =>
      have first := wellFormed line (List.mem_cons_self ..)
      rw [List.flatMap_cons] at shown
      cases line with
      | blank => cases shown
      | header name => cases shown
      | field key datum =>
        obtain ⟨c, more, begun, bare⟩ := isBareKey_eq_cons first.1
        simp only [Line.chars, begun, List.append_assoc, List.cons_append] at shown
        exact absurd (List.cons.inj shown).1 (ne_of_isBare bare (by decide))
  next => rfl

theorem read?_lines {lines : List Line} (wellFormed : ∀ line ∈ lines, line.WellFormed) :
    read? (String.ofList (lines.flatMap Line.chars)) = (lines.foldlM Line.apply .empty).bind Document.finish := by
  obtain ⟨count, enough⟩ := Nat.exists_eq_add_of_le' (length_le_flatMap lines)
  have read := lines?_flatMap wellFormed count .empty
  rw [← enough] at read
  rw [read?, String.toList_ofList, dropMark_flatMap wellFormed, read]

end InstrumentLink.Toml
