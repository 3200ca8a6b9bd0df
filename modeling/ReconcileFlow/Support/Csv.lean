import Mathlib.Data.List.Basic
import Mathlib.Data.List.Flatten

/-!
# Support — Csv

Comma-separated texts, as the writer and the reader of Python's `csv` module have them in the dialect
`excel`.  The writer quotes a field only where it must.  The reader takes the lines of a file, as a
file without newline translation gives them (`linesOf`), one after the other, and goes through their
characters and the end of each line with the state `Reader`; a record may take several lines.

The reader reads back what the writer has written, whatever is in the fields (`read_document`), as
long as no field is longer than the reader's limit.  On lines of a file a field that is too long is
all that it ever refuses (`fieldTooLong_of_read`).
-/

namespace Support.Csv

/-! ### Lines of a file -/

/-- The lines of a text, each with its end: a line feed, a carriage return or both. -/
def linesOf : List Char → List (List Char)
  | [] => []
  | '\r' :: '\n' :: rest => ['\r', '\n'] :: linesOf rest
  | '\r' :: rest => ['\r'] :: linesOf rest
  | '\n' :: rest => ['\n'] :: linesOf rest
  | c :: rest =>
    match linesOf rest with
    | [] => [[c]]
    | line :: lines => (c :: line) :: lines

/-! ### The reader -/

inductive Mode
  | startRecord | startField | inField | inQuotedField | quoteInQuotedField | eatCrnl
deriving DecidableEq, Repr

/-- The reader within a record: the fields that it has, and the one that it is reading. -/
structure Reader where
  mode : Mode := .startRecord
  fields : List (List Char) := []
  field : List Char := []
deriving DecidableEq, Repr

/-- `csv.Error`. -/
inductive Error
  | fieldTooLong
  /-- A character follows the end of a line. -/
  | newlineInField
deriving DecidableEq, Repr

namespace Reader

/-- `parse_save_field`. -/
def saveField (r : Reader) (mode : Mode) : Reader := ⟨mode, r.fields ++ [r.field], []⟩

/-- `parse_add_char`. -/
def addChar (limit : Nat) (r : Reader) (mode : Mode) (c : Char) : Except Error Reader :=
  if limit ≤ r.field.length then .error .fieldTooLong
  else .ok { r with mode, field := r.field ++ [c] }

/-- A character where a field may start. -/
def startField (limit : Nat) (r : Reader) (c : Char) : Except Error Reader :=
  if c = '\n' ∨ c = '\r' then .ok (r.saveField .eatCrnl)
  else if c = '"' then .ok { r with mode := .inQuotedField }
  else if c = ',' then .ok (r.saveField .startField)
  else r.addChar limit .inField c

/-- `parse_process_char`, of a character of a line. -/
def process (limit : Nat) (r : Reader) (c : Char) : Except Error Reader :=
  match r.mode with
  | .startRecord =>
    if c = '\n' ∨ c = '\r' then .ok { r with mode := .eatCrnl } else r.startField limit c
  | .startField => r.startField limit c
  | .inField =>
    if c = '\n' ∨ c = '\r' then .ok (r.saveField .eatCrnl)
    else if c = ',' then .ok (r.saveField .startField)
    else r.addChar limit .inField c
  | .inQuotedField =>
    if c = '"' then .ok { r with mode := .quoteInQuotedField }
    else r.addChar limit .inQuotedField c
  | .quoteInQuotedField =>
    -- two quotes are one that belongs to the field
    if c = '"' then r.addChar limit .inQuotedField c
    else if c = ',' then .ok (r.saveField .startField)
    else if c = '\n' ∨ c = '\r' then .ok (r.saveField .eatCrnl)
    else r.addChar limit .inField c
  | .eatCrnl => if c = '\n' ∨ c = '\r' then .ok r else .error .newlineInField

/-- `parse_process_char`, of the end of a line. -/
def endLine (r : Reader) : Reader :=
  match r.mode with
  | .startRecord | .inQuotedField => r
  | .startField | .inField | .quoteInQuotedField => r.saveField .startRecord
  | .eatCrnl => { r with mode := .startRecord }

end Reader

/-- `Reader_iternext`, until the lines are used up. -/
def records (limit : Nat) : Reader → List (List Char) → Except Error (List (List (List Char)))
  | r, [] =>
    -- the last field may lack its closing quote
    if r.field ≠ [] ∨ r.mode = .inQuotedField then .ok [(r.saveField .startRecord).fields]
    else .ok []
  | r, line :: lines => do
    let r ← line.foldlM (Reader.process limit) r
    let r := r.endLine
    if r.mode = .startRecord then
      let rest ← records limit {} lines
      return r.fields :: rest
    else records limit r lines

/-- `list(csv.reader(handle))`, of a file with the text. -/
def read (limit : Nat) (text : List Char) : Except Error (List (List (List Char))) :=
  records limit {} (linesOf text)

/-! ### The writer -/

/-- The field has to be quoted. -/
def needsQuotes (text : List Char) : Bool := text.any fun c => c ∈ [',', '"', '\r', '\n']

/-- The characters of a quoted field. -/
def escaped (text : List Char) : List Char :=
  text.flatMap fun c => if c = '"' then ['"', '"'] else [c]

def field (text : List Char) : List Char :=
  if needsQuotes text then '"' :: escaped text ++ ['"'] else text

/-- `writerow`. -/
def line (row : List (List Char)) : List Char :=
  -- a row of one empty field would be an empty line
  (if row = [[]] then ['"', '"'] else [','].intercalate (row.map field)) ++ ['\r', '\n']

/-- What `writerows` writes. -/
def document (rows : List (List (List Char))) : List Char := rows.flatMap line

/-! ### Reading what has been written -/

section RoundTrip

variable {limit : Nat} {r : Reader} {c : Char} {text rest : List Char}

/-- The lines of a text that starts within a line. -/
def within (text : List Char) : List (List Char) := if text = [] then [[]] else linesOf text

/-- What the reader goes on to read within a line. -/
def readOn (limit : Nat) (r : Reader) (text : List Char) :
    Except Error (List (List (List Char))) :=
  records limit r (within text)

theorem linesOf_ne_nil (h : text ≠ []) : linesOf text ≠ [] := by
  fun_cases linesOf text <;> simp_all

theorem within_cons (hn : c ≠ '\n') (hr : c ≠ '\r') :
    ∃ line lines, within text = line :: lines ∧ within (c :: text) = (c :: line) :: lines := by
  by_cases h : text = []
  · subst h
    exact ⟨[], [], by simp [within], by simp [within, linesOf]⟩
  · obtain ⟨line, lines, hl⟩ := List.exists_cons_of_ne_nil (linesOf_ne_nil h)
    refine ⟨line, lines, by simp [within, h, hl], ?_⟩
    simp [within, linesOf, hr, hl]

theorem records_cons (line : List Char) (lines : List (List Char)) :
    records limit r ((c :: line) :: lines) =
      r.process limit c >>= fun r => records limit r (line :: lines) := by
  simp [records]

theorem readOn_cons (hn : c ≠ '\n') (hr : c ≠ '\r') :
    readOn limit r (c :: text) = r.process limit c >>= fun r => readOn limit r text := by
  obtain ⟨line, lines, hw, hc⟩ : ∃ line lines, within text = line :: lines ∧
      within (c :: text) = (c :: line) :: lines := within_cons hn hr
  simp only [readOn, hw, hc, records_cons]

/-- In quotes the end of a line is a character as any other. -/
theorem readOn_newline (hm : r.mode = .inQuotedField) (hc : c = '\n' ∨ c = '\r')
    (ht : text ≠ []) :
    readOn limit r (c :: text) = r.process limit c >>= fun r => readOn limit r text := by
  have stays : ∀ r', r.process limit c = .ok r' → r'.mode = .inQuotedField := by
    intro r' h
    have hq : c ≠ '"' := by rintro rfl; simp at hc
    simp only [Reader.process, hm, hq, if_false, Reader.addChar] at h
    split at h
    · simp at h
    · cases h
      rfl
  have ends : ∀ lines, records limit r ([c] :: lines) =
      r.process limit c >>= fun r => records limit r lines := by
    intro lines
    rw [records_cons]
    rcases h : r.process limit c with e | r'
    · rfl
    · have h' := stays r' h
      simp [bind, Except.bind, records, pure, Except.pure, Reader.endLine, h']
  obtain ⟨d, text, rfl⟩ := List.exists_cons_of_ne_nil ht
  rcases hc with rfl | rfl
  · simp [readOn, within, linesOf, ends]
  · by_cases hd : d = '\n'
    · subst hd
      simp [readOn, within, linesOf, records_cons]
    · have h : linesOf ('\r' :: d :: text) = ['\r'] :: linesOf (d :: text) := by
        simp [linesOf, hd]
      simp [readOn, within, h, ends]

theorem readOn_inQuotedField (hm : r.mode = .inQuotedField) (ht : text ≠ []) :
    readOn limit r (c :: text) = r.process limit c >>= fun r => readOn limit r text := by
  by_cases hc : c = '\n' ∨ c = '\r'
  · exact readOn_newline hm hc ht
  · rw [not_or] at hc
    exact readOn_cons hc.1 hc.2

theorem addChar_ok {now mode : Mode} {fields : List (List Char)} {done : List Char}
    (h : done.length < limit) :
    Reader.addChar limit ⟨now, fields, done⟩ mode c = .ok ⟨mode, fields, done ++ [c]⟩ := by
  simp [Reader.addChar, Nat.not_le.mpr h]

theorem needsQuotes_cons :
    needsQuotes (c :: text) = false ↔
      (c ≠ ',' ∧ c ≠ '"' ∧ c ≠ '\r' ∧ c ≠ '\n') ∧ needsQuotes text = false := by
  simp [needsQuotes]

/-- The reader takes the characters of a quoted field, up to its closing quote. -/
theorem readOn_escaped (fields : List (List Char)) (rest : List Char) :
    ∀ (text done : List Char), done.length + text.length ≤ limit →
      readOn limit ⟨.inQuotedField, fields, done⟩ (escaped text ++ '"' :: rest) =
        readOn limit ⟨.quoteInQuotedField, fields, done ++ text⟩ rest
  | [], done, _ => by
    rw [escaped, List.flatMap_nil, List.nil_append, readOn_cons (by decide) (by decide)]
    simp [Reader.process, bind, Except.bind]
  | c :: text, done, h => by
    have ih := readOn_escaped fields rest text (done ++ [c]) (by simp at h ⊢; omega)
    have hl : done.length < limit := by simp at h; omega
    rw [List.append_assoc, List.singleton_append] at ih
    by_cases hc : c = '"'
    · subst hc
      have he : escaped ('"' :: text) ++ '"' :: rest =
          '"' :: '"' :: (escaped text ++ '"' :: rest) := by simp [escaped]
      rw [he, readOn_cons (by decide) (by decide)]
      simp only [Reader.process, if_true, bind, Except.bind]
      rw [readOn_cons (by decide) (by decide), ← ih]
      simp [Reader.process, addChar_ok hl, bind, Except.bind]
    · have he : escaped (c :: text) ++ '"' :: rest = c :: (escaped text ++ '"' :: rest) := by
        simp [escaped, hc]
      rw [he, readOn_inQuotedField rfl (by simp), ← ih]
      simp [Reader.process, hc, addChar_ok hl, bind, Except.bind]

/-- The reader takes the characters of a field without quotes. -/
theorem readOn_plain (fields : List (List Char)) (rest : List Char) :
    ∀ (text done : List Char), done.length + text.length ≤ limit → needsQuotes text = false →
      readOn limit ⟨.inField, fields, done⟩ (text ++ rest) =
        readOn limit ⟨.inField, fields, done ++ text⟩ rest
  | [], done, _, _ => by simp
  | c :: text, done, h, hq => by
    obtain ⟨⟨h₁, _, h₃, h₄⟩, hq⟩ := needsQuotes_cons.mp hq
    have ih := readOn_plain fields rest text (done ++ [c]) (by simp at h ⊢; omega) hq
    have hl : done.length < limit := by simp at h; omega
    rw [List.append_assoc, List.singleton_append] at ih
    rw [List.cons_append, readOn_cons h₄ h₃, ← ih]
    simp [Reader.process, h₁, h₃, h₄, addChar_ok hl, bind, Except.bind]

/-- What follows a field: the next one, or the end of the line. -/
theorem readOn_comma {mode : Mode} (fields : List (List Char)) (done : List Char)
    (hm : mode = .inField ∨ mode = .quoteInQuotedField ∨ mode = .startField) :
    readOn limit ⟨mode, fields, done⟩ (',' :: rest) =
      readOn limit ⟨.startField, fields ++ [done], []⟩ rest := by
  rw [readOn_cons (by decide) (by decide)]
  rcases hm with rfl | rfl | rfl <;>
    simp [Reader.process, Reader.startField, Reader.saveField, bind, Except.bind]

theorem readOn_end {mode : Mode} (fields : List (List Char)) (done : List Char)
    (hm : mode = .inField ∨ mode = .quoteInQuotedField ∨ mode = .startField) :
    readOn limit ⟨mode, fields, done⟩ ('\r' :: '\n' :: rest) = do
      return (fields ++ [done]) :: (← records limit {} (linesOf rest)) := by
  simp only [readOn, within, linesOf, reduceCtorEq, if_false]
  rcases hm with rfl | rfl | rfl <;>
    simp [records, Reader.process, Reader.startField, Reader.saveField, Reader.endLine, bind,
      Except.bind, pure, Except.pure]

theorem readOn_quoted (fields : List (List Char)) (h : text.length ≤ limit) :
    readOn limit ⟨.startField, fields, []⟩ ('"' :: escaped text ++ '"' :: rest) =
      readOn limit ⟨.quoteInQuotedField, fields, text⟩ rest := by
  rw [List.cons_append, readOn_cons (by decide) (by decide)]
  simpa [Reader.process, Reader.startField, bind, Except.bind] using
    readOn_escaped fields rest text [] (by simpa using h)

/-- The reader takes a field, and may be in either of three modes then. -/
theorem readOn_field (fields : List (List Char)) (rest : List Char) (h : text.length ≤ limit) :
    ∃ mode, (mode = .inField ∨ mode = .quoteInQuotedField ∨ mode = .startField) ∧
      readOn limit ⟨.startField, fields, []⟩ (field text ++ rest) =
        readOn limit ⟨mode, fields, text⟩ rest := by
  unfold field
  split
  · refine ⟨.quoteInQuotedField, by simp, ?_⟩
    simpa using readOn_quoted fields h
  · next hq =>
    rcases text with _ | ⟨c, text⟩
    · exact ⟨.startField, by simp, rfl⟩
    refine ⟨.inField, by simp, ?_⟩
    have hq : needsQuotes (c :: text) = false := by simpa using hq
    obtain ⟨⟨h₁, h₂, h₃, h₄⟩, hq'⟩ := needsQuotes_cons.mp hq
    have hl : 0 < limit := by simp at h; omega
    have hp := readOn_plain fields rest text [c] (by simpa [Nat.add_comm] using h) hq'
    rw [List.cons_append, readOn_cons h₄ h₃]
    simpa [Reader.process, Reader.startField, h₁, h₂, h₃, h₄, Reader.addChar, Nat.not_le.mpr hl,
      bind, Except.bind] using hp

theorem readOn_fields :
    ∀ (text : List Char) (texts fields : List (List Char)),
      (∀ t ∈ text :: texts, t.length ≤ limit) →
        readOn limit ⟨.startField, fields, []⟩
            ([','].intercalate ((text :: texts).map field) ++ '\r' :: '\n' :: rest) = do
          return (fields ++ text :: texts) :: (← records limit {} (linesOf rest))
  | text, [], fields, h => by
    obtain ⟨mode, hm, he⟩ := readOn_field fields ('\r' :: '\n' :: rest) (h text (by simp))
    rw [show [','].intercalate (([text] : List (List Char)).map field) = field text by
      simp [List.intercalate], he, readOn_end fields text hm]
  | text, next :: texts, fields, h => by
    have hs : [','].intercalate ((text :: next :: texts).map field) ++ '\r' :: '\n' :: rest =
        field text ++
          ',' :: ([','].intercalate ((next :: texts).map field) ++ '\r' :: '\n' :: rest) := by
      simp [List.intercalate]
    obtain ⟨mode, hm, he⟩ := readOn_field fields
      (',' :: ([','].intercalate ((next :: texts).map field) ++ '\r' :: '\n' :: rest))
      (h text (by simp))
    rw [hs, he, readOn_comma fields text hm,
      readOn_fields next texts (fields ++ [text]) fun t ht => h t (List.mem_cons_of_mem _ ht)]
    simp

theorem readOn_startRecord (hn : c ≠ '\n') (hr : c ≠ '\r') :
    readOn limit {} (c :: text) = readOn limit ⟨.startField, [], []⟩ (c :: text) := by
  rw [readOn_cons hn hr, readOn_cons hn hr]
  simp [Reader.process, Reader.startField, Reader.saveField, Reader.addChar, hn, hr]

theorem field_head (h : text ≠ []) :
    ∃ c rest, field text = c :: rest ∧ c ≠ '\n' ∧ c ≠ '\r' := by
  obtain ⟨c, text, rfl⟩ := List.exists_cons_of_ne_nil h
  unfold field
  split
  · exact ⟨'"', _, rfl, by decide, by decide⟩
  · next hq =>
    have hc := (needsQuotes_cons.mp (by simpa using hq)).1
    exact ⟨c, text, rfl, hc.2.2.2, hc.2.2.1⟩

theorem line_head {row : List (List Char)} (h : row ≠ []) :
    ∃ c text, line row = c :: text ∧ c ≠ '\n' ∧ c ≠ '\r' := by
  by_cases he : row = [[]]
  · exact ⟨'"', ['"', '\r', '\n'], by simp [line, he], by decide, by decide⟩
  obtain ⟨text, texts, rfl⟩ := List.exists_cons_of_ne_nil h
  by_cases ht : text = []
  · obtain ⟨next, texts, rfl⟩ := List.exists_cons_of_ne_nil (l := texts) (by
      rintro rfl
      exact he (by rw [ht]))
    exact ⟨',', _, by simp [line, ht, field, needsQuotes, List.intercalate]; rfl, by decide,
      by decide⟩
  · obtain ⟨c, rest, hf, hn, hr⟩ := field_head ht
    rcases texts with _ | ⟨next, texts⟩
    · exact ⟨c, _, by simp [line, ht, hf, List.intercalate]; rfl, hn, hr⟩
    · exact ⟨c, _, by simp [line, hf, List.intercalate]; rfl, hn, hr⟩

/-- The reader takes a row. -/
theorem readOn_line {row : List (List Char)} (h : ∀ text ∈ row, text.length ≤ limit) :
    readOn limit {} (line row ++ rest) = do
      return row :: (← records limit {} (linesOf rest)) := by
  by_cases hr : row = []
  · subst hr
    simp [line, readOn, within, linesOf, List.intercalate, records, Reader.process, Reader.endLine,
      bind, Except.bind, pure, Except.pure]
  obtain ⟨c, text, hl, hcn, hcr⟩ := line_head hr
  rw [hl, List.cons_append, readOn_startRecord hcn hcr, ← List.cons_append, ← hl]
  by_cases he : row = [[]]
  · have hq : readOn limit ⟨.startField, [], []⟩
        ('"' :: escaped [] ++ '"' :: '\r' :: '\n' :: rest) = _ :=
      readOn_quoted [] (by simp)
    subst he
    simp only [line, if_true]
    exact hq.trans (readOn_end [] [] (by simp))
  · obtain ⟨text, texts, rfl⟩ := List.exists_cons_of_ne_nil hr
    have hf : readOn limit ⟨.startField, [], []⟩
        ([','].intercalate ((text :: texts).map field) ++ '\r' :: '\n' :: rest) = _ :=
      readOn_fields text texts [] h
    simpa [line, he] using hf

end RoundTrip

/-- **What the writer has written is read back.** -/
theorem read_document {limit : Nat} :
    ∀ {rows : List (List (List Char))}, (∀ row ∈ rows, ∀ text ∈ row, text.length ≤ limit) →
      read limit (document rows) = .ok rows
  | [], _ => by simp [read, document, linesOf, records]
  | row :: rows, h => by
    have ih := read_document fun r hr => h r (List.mem_cons_of_mem _ hr)
    have hl : readOn limit {} (line row ++ document rows) = _ := readOn_line (h row (by simp))
    have hw : within (line row ++ document rows) = linesOf (line row ++ document rows) := by
      simp [within, line]
    rw [readOn, hw] at hl
    rw [read, show document (row :: rows) = line row ++ document rows from rfl, hl]
    rw [read] at ih
    simp [ih, bind, Except.bind, pure, Except.pure]

/-! ### What the reader refuses -/

/-- The end of a line is at its end. -/
def IsLine (line : List Char) : Prop :=
  line.Pairwise fun a b => a = '\n' ∨ a = '\r' → b = '\n' ∨ b = '\r'

theorem IsLine.cons {c : Char} {line : List Char} (hn : c ≠ '\n') (hr : c ≠ '\r')
    (h : IsLine line) : IsLine (c :: line) := by
  refine List.pairwise_cons.mpr ⟨?_, h⟩
  intro b _ hc
  exact absurd hc (by simp [hn, hr])

theorem isLine_of_mem_linesOf (text : List Char) : ∀ line ∈ linesOf text, IsLine line := by
  fun_induction linesOf text with
  | case1 => simp
  | case2 rest ih => simpa [IsLine] using ih
  | case3 rest _ ih => simpa [IsLine] using ih
  | case4 rest ih => simpa [IsLine] using ih
  | case5 c rest _ hr hn he ih =>
    have hc : IsLine [c] := by simp [IsLine]
    simpa using hc
  | case6 c rest _ hr hn line lines he ih =>
    rw [he] at ih
    intro l hl
    rcases List.mem_cons.mp hl with rfl | hl
    · exact (ih line (by simp)).cons (by simpa using hn) (by simpa using hr)
    · exact ih l (by simp [hl])

namespace Reader

/-- What the reader has before it, on a line: after the end of the line, nothing but it. -/
def Before (r : Reader) (line : List Char) : Prop :=
  r.mode = .eatCrnl → ∀ c ∈ line, c = '\n' ∨ c = '\r'

variable {limit : Nat} {r r' : Reader} {c : Char} {line : List Char} {e : Error}

theorem addChar_error {mode : Mode} (h : r.addChar limit mode c = .error e) :
    e = .fieldTooLong := by
  unfold addChar at h
  split at h <;> simp_all

theorem addChar_mode {mode : Mode} (h : r.addChar limit mode c = .ok r') : r'.mode = mode := by
  unfold addChar at h
  split at h
  · simp at h
  · cases h
    rfl

theorem startField_error (h : r.startField limit c = .error e) : e = .fieldTooLong := by
  unfold startField at h
  repeat' split at h
  all_goals first | simp at h | exact addChar_error h

theorem process_error (hb : r.mode = .eatCrnl → c = '\n' ∨ c = '\r')
    (h : r.process limit c = .error e) : e = .fieldTooLong := by
  unfold process at h
  split at h
  · split at h
    · simp at h
    · exact startField_error h
  · exact startField_error h
  all_goals
    repeat' split at h
    all_goals try first | simp at h | exact addChar_error h
  next hm hc => exact absurd (hb hm) hc

/-- Only the end of a line leads to its rest. -/
theorem process_eatCrnl (h : r.process limit c = .ok r') (hm : r'.mode = .eatCrnl) :
    c = '\n' ∨ c = '\r' := by
  by_contra hc
  unfold process startField at h
  simp only [hc, if_false] at h
  repeat' split at h
  all_goals first
    | simp at h; done
    | rw [addChar_mode h] at hm; simp at hm
    | cases h; simp [saveField] at hm

theorem foldlM_process_error :
    ∀ {line : List Char} {r : Reader}, IsLine line → r.Before line →
      line.foldlM (process limit) r = .error e → e = .fieldTooLong
  | [], _, _, _, h => by simp [pure, Except.pure] at h
  | c :: line, r, hl, hb, h => by
    rw [List.foldlM_cons] at h
    rcases hp : r.process limit c with e' | r'
    · simp only [hp, bind, Except.bind, Except.error.injEq] at h
      exact h ▸ process_error (fun hm => hb hm c (by simp)) hp
    · simp only [hp, bind, Except.bind] at h
      have hl := List.pairwise_cons.mp hl
      exact foldlM_process_error hl.2
        (fun hm d hd => hl.1 d hd (process_eatCrnl hp hm)) h

theorem endLine_mode : r.endLine.mode ≠ .eatCrnl := by
  unfold endLine
  split <;> simp_all [saveField]

end Reader

theorem records_error {limit : Nat} {e : Error} :
    ∀ {lines : List (List Char)} {r : Reader}, r.mode ≠ .eatCrnl →
      (∀ line ∈ lines, IsLine line) → records limit r lines = .error e → e = .fieldTooLong
  | [], r, _, _, h => by
    rw [records] at h
    split at h <;> simp at h
  | line :: lines, r, hm, hl, h => by
    have hlines : ∀ l ∈ lines, IsLine l := fun l h' => hl l (List.mem_cons_of_mem _ h')
    rw [records] at h
    rcases hf : line.foldlM (Reader.process limit) r with e' | r'
    · simp only [hf, bind, Except.bind, Except.error.injEq] at h
      exact h ▸ Reader.foldlM_process_error (hl line (by simp)) (fun h' => absurd h' hm) hf
    · simp only [hf, bind, Except.bind] at h
      split at h
      · rcases hr : records limit {} lines with e' | rest
        · simp only [hr, Except.error.injEq] at h
          exact h ▸ records_error (by simp) hlines hr
        · simp [hr, pure, Except.pure] at h
      · exact records_error Reader.endLine_mode hlines h

/-- A field that is too long is all that the reader refuses of a file. -/
theorem fieldTooLong_of_read {limit : Nat} {text : List Char} {e : Error}
    (h : read limit text = .error e) : e = .fieldTooLong :=
  records_error (by simp) (isLine_of_mem_linesOf text) h

end Support.Csv
