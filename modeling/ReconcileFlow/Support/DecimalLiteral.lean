import Mathlib.Data.List.TakeDrop
import ReconcileFlow.Support.DecimalText

/-!
# Support — DecimalLiteral

Plain decimal literals: a sign, digits with a point among them and nothing else, but for commas that
set off complete groups of three digits in front of the point (`Literal`).  `isLiteral_iff` says
which texts they are: `regular` ones whose numeral, without its commas, is one of the parser of
decimal numbers (`plainNumber`), and the literal denotes the number that the parser reads.
-/

namespace Support

namespace DecimalText

/-! ### Numerals without an exponent -/

/-- The point and the digits after it, if there is one. -/
def pointed : Option (List Char) → List Char
  | none => []
  | some fraction => '.' :: fraction

/-- The number that the digits in front of and after the point denote. -/
def ofDigits (negative : Bool) (whole fraction : List Char) : Decimal :=
  ⟨negative, Nat.ofDigitChars 10 (whole ++ fraction) 0, -fraction.length⟩

/-- A front part is dropped up to a character that stops. -/
theorem dropWhile_front {p : Char → Bool} {front back : List Char} (h : ∀ c ∈ front, p c = true)
    (hback : ∀ c, back.head? = some c → p c = false) : (front ++ back).dropWhile p = back := by
  rw [List.dropWhile_append_of_pos h]
  cases back with
  | nil => rfl
  | cons c back => rw [List.dropWhile_cons, hback c rfl, if_neg Bool.false_ne_true]

theorem span_of_forall {p : Char → Bool} {front back : List Char} (h : ∀ c ∈ front, p c = true)
    (hback : ∀ c, back.head? = some c → p c = false) : (front ++ back).span p = (front, back) := by
  have htake : back.takeWhile p = [] := by
    cases back with
    | nil => rfl
    | cons c back => rw [List.takeWhile_cons, hback c rfl, if_neg Bool.false_ne_true]
  rw [List.span_eq_takeWhile_dropWhile, List.takeWhile_append_of_pos h, dropWhile_front h hback,
    htake, List.append_nil]

theorem eq_point_of_head? {fraction : Option (List Char)} {c : Char}
    (h : (pointed fraction).head? = some c) : c = '.' := by
  cases fraction with
  | none => cases h
  | some fraction => exact (Option.some.inj h).symm

theorem fractionOf_pointed {fraction : Option (List Char)}
    (h : ∀ c ∈ fraction.getD [], c.isDigit = true) :
    fractionOf (pointed fraction) = (fraction.getD [], []) := by
  cases fraction with
  | none => rfl
  | some fraction =>
    have hspan : (fraction ++ []).span Char.isDigit = (fraction, []) := span_of_forall h nofun
    rw [List.append_nil] at hspan
    exact hspan

/-- Digits with a point among them are a numeral. -/
theorem numeral_pointed (negative : Bool) {whole : List Char} {fraction : Option (List Char)}
    (hdigits : ∀ c ∈ whole ++ fraction.getD [], c.isDigit = true)
    (hne : whole ++ fraction.getD [] ≠ []) :
    numeral negative (whole ++ pointed fraction) =
      some (ofDigits negative whole (fraction.getD [])) := by
  have hspan : (whole ++ pointed fraction).span Char.isDigit = (whole, pointed fraction) := by
    refine span_of_forall (fun c hc => hdigits c (List.mem_append_left _ hc)) fun c hc => ?_
    rw [eq_point_of_head? hc]
    rfl
  have hfraction := fractionOf_pointed fun c hc => hdigits c (List.mem_append_right whole hc)
  simp only [numeral, hspan, hfraction, if_neg hne, exponentOf, Option.map_some, ofDigits, zero_sub]

theorem exists_of_fractionOf (text : List Char) :
    ∃ fraction, text = pointed fraction ++ (fractionOf text).2 ∧
      (fractionOf text).1 = fraction.getD [] ∧ ∀ c ∈ fraction.getD [], c.isDigit = true := by
  unfold fractionOf
  split
  · next rest =>
    rw [List.span_eq_takeWhile_dropWhile]
    refine ⟨some (rest.takeWhile Char.isDigit), ?_, rfl, List.all_eq_true.mp List.all_takeWhile⟩
    exact congrArg _ List.takeWhile_append_dropWhile.symm
  · exact ⟨none, rfl, rfl, nofun⟩

theorem exponentOf_eq_some {text : List Char} {e : Int} (hletter : ∀ c ∈ text, c ≠ 'e' ∧ c ≠ 'E')
    (h : exponentOf text = some e) : text = [] ∧ e = 0 := by
  cases text with
  | nil => exact ⟨rfl, (Option.some.inj h).symm⟩
  | cons c rest =>
    obtain ⟨hlower, hupper⟩ := hletter c List.mem_cons_self
    simp [exponentOf, hlower, hupper] at h

/-- A numeral without an exponent is digits with a point among them. -/
theorem exists_of_numeral {negative : Bool} {text : List Char} {d : Decimal}
    (hletter : ∀ c ∈ text, c ≠ 'e' ∧ c ≠ 'E') (h : numeral negative text = some d) :
    ∃ whole fraction, text = whole ++ pointed fraction ∧
      (∀ c ∈ whole ++ fraction.getD [], c.isDigit = true) ∧ whole ++ fraction.getD [] ≠ [] ∧
      d = ofDigits negative whole (fraction.getD []) := by
  have htext := List.takeWhile_append_dropWhile (p := Char.isDigit) (l := text)
  have hwhole : ∀ c ∈ text.takeWhile Char.isDigit, c.isDigit = true :=
    List.all_eq_true.mp List.all_takeWhile
  simp only [numeral, List.span_eq_takeWhile_dropWhile] at h
  generalize text.takeWhile Char.isDigit = whole at *
  generalize text.dropWhile Char.isDigit = rest at *
  obtain ⟨fraction, hrest, hfraction, hdigits⟩ := exists_of_fractionOf rest
  rw [hfraction] at h
  split at h
  · cases h
  · next hne =>
    obtain ⟨e, hexponent, hd⟩ := Option.map_eq_some_iff.mp h
    -- what is left after the fraction would have to begin with a letter
    have hleft : ∀ c ∈ (fractionOf rest).2, c ≠ 'e' ∧ c ≠ 'E' := fun c hc => by
      refine hletter c ?_
      rw [← htext, hrest]
      exact List.mem_append_right _ (List.mem_append_right _ hc)
    obtain ⟨hnil, rfl⟩ := exponentOf_eq_some hleft hexponent
    rw [hnil, List.append_nil] at hrest
    refine ⟨whole, fraction, ?_, fun c hc => ?_, hne, ?_⟩
    · rw [← htext, hrest]
    · exact (List.mem_append.mp hc).elim (hwhole c) (hdigits c)
    · rw [← hd, zero_sub, ofDigits]

/-! ### Texts of plain characters -/

/-- A character of a plain literal. -/
def isPlain (c : Char) : Bool := c.isDigit || ['+', '-', '.', ','].contains c

theorem toNat_of_isPlain {c : Char} (h : isPlain c = true) : c.toNat ≤ 57 := by
  rcases Bool.or_eq_true_iff.mp h with hdigit | hmark
  · exact (digit_bounds hdigit).2
  · have hmem : c = '+' ∨ c = '-' ∨ c = '.' ∨ c = ',' := by simpa using hmark
    rcases hmem with rfl | rfl | rfl | rfl <;> decide

theorem ne_of_isPlain {c letter : Char} (h : isPlain c = true) (hletter : 57 < letter.toNat) :
    c ≠ letter := by
  rintro rfl
  exact absurd (toNat_of_isPlain h) (Nat.not_le.mpr hletter)

theorem ascii_of_isPlain (other : Char → Option (Fin 10)) {c : Char} (h : isPlain c = true) :
    ascii other c = c := by
  have hlow : c.toNat < 128 := Nat.lt_of_le_of_lt (toNat_of_isPlain h) (by decide)
  cases hdigit : c.isDigit with
  | true =>
    obtain ⟨hmin, hmax⟩ := digit_bounds hdigit
    have hvalue : digitValue other c = some (c.toNat - 48) := by rw [digitValue, if_pos hdigit]
    simp only [ascii, hvalue]
    refine Char.toNat_inj.mp ?_
    rw [Nat.toNat_digitChar_of_lt_ten (by omega)]
    omega
  | false =>
    have hvalue : digitValue other c = none := by
      rw [digitValue, hdigit, if_neg Bool.false_ne_true, if_pos hlow]
    simp only [ascii, hvalue]

theorem toLower_of_isPlain {c : Char} (h : isPlain c = true) : c.toLower = c := by
  have hmax := toNat_of_isPlain h
  refine dif_neg fun hupper => absurd (UInt32.le_iff_toNat_le.mp hupper.1) ?_
  exact Nat.not_le.mpr (Nat.lt_of_le_of_lt hmax (by decide))

/-- Texts of plain characters are no words. -/
theorem special_of_isPlain (negative : Bool) {text : List Char}
    (h : ∀ c ∈ text, isPlain c = true) : special negative text = none := by
  have hword : text.map Char.toLower = text :=
    (List.map_congr_left fun c hc => toLower_of_isPlain (h c hc)).trans (List.map_id' text)
  have hstart {word : List Char} (hletter : ∃ c ∈ word, 57 < c.toNat) : ¬ word <+: text := by
    obtain ⟨c, hc, hlarge⟩ := hletter
    exact fun hword => ne_of_isPlain (h c (hword.subset hc)) hlarge rfl
  have heq {word : List Char} (hletter : ∃ c ∈ word, 57 < c.toNat) : text ≠ word := by
    rintro rfl
    exact hstart hletter (List.prefix_refl _)
  simp only [special, hword]
  rw [if_neg (not_or.mpr ⟨heq ⟨'i', by simp, by decide⟩, heq ⟨'i', by simp, by decide⟩⟩),
    if_neg fun hnan => hstart ⟨'n', by simp, by decide⟩ hnan.1,
    if_neg fun hsnan => hstart ⟨'s', by simp, by decide⟩ hsnan.1]

theorem signOf_subset (text : List Char) : (signOf text).2 ⊆ text := by
  unfold signOf
  split
  · exact List.subset_cons_self _ _
  · exact List.subset_cons_self _ _
  · exact List.Subset.refl _

/-- Of plain characters, the parser reads numerals alone. -/
theorem parse_of_isPlain (other : Char → Option (Fin 10)) {text : List Char}
    (h : ∀ c ∈ text, isPlain c = true) :
    parse other text =
      ((numeral (signOf text).1 (signOf text).2).filter inRange).map .finite := by
  have hfilter : text.filter (· != '_') = text :=
    List.filter_eq_self.mpr fun c hc => by simpa using ne_of_isPlain (h c hc) (by decide)
  have hmap : text.map (ascii other) = text :=
    (List.map_congr_left fun c hc => ascii_of_isPlain other (h c hc)).trans (List.map_id' text)
  simp only [parse, hfilter, hmap,
    special_of_isPlain _ fun c hc => h c (signOf_subset text hc)]

/-! ### Literals -/

/-- Groups of digits with commas between them: one group of any length, or groups of three after a
first one of at most three. -/
def grouped : List (List Char) → Bool
  | [] => false
  | [_] => true
  | first :: rest =>
    decide (1 ≤ first.length) && decide (first.length ≤ 3) &&
      rest.all fun group => decide (group.length = 3)

/-- A sign, if there is one. -/
def markOf : Option Bool → List Char
  | none => []
  | some true => ['-']
  | some false => ['+']

/-- A plain decimal literal: its sign, the groups of digits in front of the point, and the digits
after it. -/
structure Literal where
  sign : Option Bool
  groups : List (List Char)
  fraction : Option (List Char)
  isDigit : ∀ c ∈ groups.flatten ++ fraction.getD [], c.isDigit = true
  ne_nil : groups.flatten ++ fraction.getD [] ≠ []
  isGrouped : grouped groups = true

namespace Literal

def text (l : Literal) : List Char :=
  markOf l.sign ++ ([','].intercalate l.groups ++ pointed l.fraction)

/-- The number that the literal denotes. -/
def number (l : Literal) : Decimal :=
  ofDigits (l.sign.getD false) l.groups.flatten (l.fraction.getD [])

end Literal

/-- The text is a plain literal for the number. -/
def IsLiteral (text : List Char) (value : ℚ) : Prop :=
  ∃ l : Literal, l.text = text ∧ l.number.toRat = value

/-- The text without its commas. -/
def withoutCommas (text : List Char) : List Char := text.filter (· ≠ ',')

/-- The number of a text without its commas, if it is a numeral. -/
def plainNumber (text : List Char) : Option Decimal :=
  numeral (signOf (withoutCommas text)).1 (signOf (withoutCommas text)).2

/-- The text has plain characters alone, and commas only where they set off groups of three digits in
front of the point. -/
def regular (text : List Char) : Bool :=
  let body := (signOf text).2
  text.all isPlain && (body.dropWhile (· ≠ '.')).all (· ≠ ',') &&
    grouped ((body.takeWhile (· ≠ '.')).splitOn ',')

example : regular "-1,234,567.89".toList = true ∧ regular "1,50".toList = false ∧
    regular "1e3".toList = false ∧ regular "0.1,5".toList = false := by decide +kernel

/-! ### Commas -/

theorem flatten_modifyHead {c : Char} {groups : List (List Char)} (h : groups ≠ []) :
    (groups.modifyHead (c :: ·)).flatten = c :: groups.flatten := by
  cases groups with
  | nil => exact absurd rfl h
  | cons first rest => rfl

/-- The groups of a text, side by side, are the text without its commas. -/
theorem flatten_splitOn (text : List Char) : (text.splitOn ',').flatten = withoutCommas text := by
  induction text with
  | nil => rfl
  | cons c text ih =>
    rw [List.splitOn_cons_eq_if_modifyHead, withoutCommas, List.filter_cons]
    by_cases hc : c = ','
    · subst hc
      rw [if_pos (beq_self_eq_true _), if_neg (by simp)]
      exact ih
    · rw [if_neg (by simpa using hc), if_pos (by simpa using hc),
        flatten_modifyHead (List.splitOn_ne_nil _ _), ih, withoutCommas]

theorem mem_of_mem_withoutCommas {text : List Char} {c : Char} (h : c ∈ withoutCommas text) :
    c ∈ text :=
  List.mem_of_mem_filter h

theorem withoutCommas_append (front back : List Char) :
    withoutCommas (front ++ back) = withoutCommas front ++ withoutCommas back :=
  List.filter_append _ _

theorem withoutCommas_eq_self {text : List Char} (h : ',' ∉ text) : withoutCommas text = text := by
  refine List.filter_eq_self.mpr fun c hc => ?_
  rw [decide_eq_true_iff]
  rintro rfl
  exact h hc

theorem ne_nil_of_grouped {groups : List (List Char)} (h : grouped groups = true) : groups ≠ [] := by
  rintro rfl
  cases h

namespace Literal

variable (l : Literal)

theorem isDigit_of_mem_groups {c : Char} (h : c ∈ l.groups.flatten) : c.isDigit = true :=
  l.isDigit c (List.mem_append_left _ h)

theorem splitOn_groups : ([','].intercalate l.groups).splitOn ',' = l.groups := by
  refine List.splitOn_intercalate ',' (fun group hgroup hcomma => ?_) (ne_nil_of_grouped l.isGrouped)
  have hdigit := l.isDigit_of_mem_groups (List.mem_flatten_of_mem hgroup hcomma)
  cases hdigit

theorem withoutCommas_groups : withoutCommas ([','].intercalate l.groups) = l.groups.flatten := by
  rw [← flatten_splitOn, splitOn_groups]

/-- A character in front of the point is a digit or a comma. -/
theorem of_mem_groups {c : Char} (h : c ∈ [','].intercalate l.groups) :
    c.isDigit = true ∨ c = ',' := by
  by_cases hc : c = ','
  · exact .inr hc
  · refine .inl (l.isDigit_of_mem_groups ?_)
    rw [← withoutCommas_groups]
    exact List.mem_filter.mpr ⟨h, decide_eq_true hc⟩

/-- A character from the point on is a digit or the point. -/
theorem of_mem_pointed {c : Char} (h : c ∈ pointed l.fraction) : c.isDigit = true ∨ c = '.' := by
  cases hfraction : l.fraction with
  | none =>
    rw [hfraction] at h
    exact absurd h List.not_mem_nil
  | some fraction =>
    rw [hfraction] at h
    rcases List.mem_cons.mp h with hc | hc
    · exact .inr hc
    · refine .inl (l.isDigit c (List.mem_append_right _ ?_))
      rw [hfraction]
      exact hc

end Literal

/-! ### Signs -/

/-- The character is a sign. -/
def IsSign (c : Char) : Prop := c = '-' ∨ c = '+'

theorem signOf_of_head {text : List Char} (h : ∀ c, text.head? = some c → ¬ IsSign c) :
    signOf text = (false, text) := by
  unfold signOf
  split
  · exact absurd (.inl rfl) (h _ rfl)
  · exact absurd (.inr rfl) (h _ rfl)
  · rfl

theorem signOf_markOf {sign : Option Bool} {body : List Char}
    (h : sign = none → ∀ c, body.head? = some c → ¬ IsSign c) :
    signOf (markOf sign ++ body) = (sign.getD false, body) := by
  match sign with
  | none => exact signOf_of_head (h rfl)
  | some true => rfl
  | some false => rfl

/-- A text is its sign, if it has one, and the rest. -/
theorem exists_sign (text : List Char) :
    ∃ sign, text = markOf sign ++ (signOf text).2 ∧ (signOf text).1 = sign.getD false ∧
      (sign = none → ∀ c, text.head? = some c → ¬ IsSign c) := by
  unfold signOf
  split
  · exact ⟨some true, rfl, rfl, nofun⟩
  · exact ⟨some false, rfl, rfl, nofun⟩
  · next hminus hplus =>
    refine ⟨none, rfl, rfl, fun _ c hc hsign => ?_⟩
    obtain ⟨rest, rfl⟩ : ∃ rest, text = c :: rest := List.head?_eq_some_iff.mp hc
    rcases hsign with rfl | rfl
    · exact hminus rest rfl
    · exact hplus rest rfl

theorem comma_not_mem_markOf (sign : Option Bool) : ',' ∉ markOf sign := by
  match sign with
  | none => exact List.not_mem_nil
  | some true => decide
  | some false => decide

/-! ### The texts of literals -/

namespace Literal

variable (l : Literal)

theorem not_isSign_of_isDigit {c : Char} (h : c.isDigit = true) : ¬ IsSign c := by
  rintro (rfl | rfl) <;> cases h

theorem not_isSign_head {front : List Char}
    (hfront : ∀ c ∈ front, c.isDigit = true ∨ c = ',') (c : Char)
    (h : (front ++ pointed l.fraction).head? = some c) : ¬ IsSign c := by
  have hmem : c ∈ front ++ pointed l.fraction := List.mem_of_head? h
  rcases List.mem_append.mp hmem with hc | hc
  · rcases hfront c hc with hdigit | rfl
    · exact not_isSign_of_isDigit hdigit
    · rintro (h | h) <;> cases h
  · rcases l.of_mem_pointed hc with hdigit | rfl
    · exact not_isSign_of_isDigit hdigit
    · rintro (h | h) <;> cases h

theorem signOf_text :
    signOf l.text = (l.sign.getD false, [','].intercalate l.groups ++ pointed l.fraction) :=
  signOf_markOf fun _ => l.not_isSign_head fun _ => l.of_mem_groups

theorem isPlain_of_mem_text {c : Char} (h : c ∈ l.text) : isPlain c = true := by
  have hdigit {c : Char} (h : c.isDigit = true) : isPlain c = true := Bool.or_eq_true_iff.mpr (.inl h)
  rcases List.mem_append.mp h with hc | hc
  · match hsign : l.sign with
    | none =>
      rw [hsign] at hc
      exact absurd hc List.not_mem_nil
    | some true =>
      rw [hsign] at hc
      obtain rfl := List.mem_singleton.mp hc
      rfl
    | some false =>
      rw [hsign] at hc
      obtain rfl := List.mem_singleton.mp hc
      rfl
  · rcases List.mem_append.mp hc with hc | hc
    · rcases l.of_mem_groups hc with h | rfl
      · exact hdigit h
      · rfl
    · rcases l.of_mem_pointed hc with h | rfl
      · exact hdigit h
      · rfl

/-- The text of a literal is regular. -/
theorem regular_text : regular l.text = true := by
  have hspan : ([','].intercalate l.groups ++ pointed l.fraction).span (· ≠ '.') =
      ([','].intercalate l.groups, pointed l.fraction) := by
    refine span_of_forall (fun c hc => ?_) fun c hc => ?_
    · rw [decide_eq_true_iff]
      rintro rfl
      rcases l.of_mem_groups hc with h | h <;> cases h
    · rw [eq_point_of_head? hc]
      rfl
  rw [List.span_eq_takeWhile_dropWhile] at hspan
  obtain ⟨htake, hdrop⟩ := Prod.mk.inj hspan
  simp only [regular, signOf_text, Bool.and_eq_true]
  refine ⟨⟨List.all_eq_true.mpr fun c => l.isPlain_of_mem_text, ?_⟩, ?_⟩
  · rw [hdrop]
    refine List.all_eq_true.mpr fun c hc => decide_eq_true ?_
    rintro rfl
    rcases l.of_mem_pointed hc with h | h <;> cases h
  · rw [htake, splitOn_groups]
    exact l.isGrouped

/-- The number of the text of a literal is that of the literal. -/
theorem plainNumber_text : plainNumber l.text = some l.number := by
  have hpoint : ',' ∉ pointed l.fraction := fun h => by
    rcases l.of_mem_pointed h with h | h <;> cases h
  have htext : withoutCommas l.text =
      markOf l.sign ++ (l.groups.flatten ++ pointed l.fraction) := by
    rw [text, withoutCommas_append, withoutCommas_append, withoutCommas_groups,
      withoutCommas_eq_self (comma_not_mem_markOf _), withoutCommas_eq_self hpoint]
  have hsign : signOf (markOf l.sign ++ (l.groups.flatten ++ pointed l.fraction)) =
      (l.sign.getD false, l.groups.flatten ++ pointed l.fraction) :=
    signOf_markOf fun _ => l.not_isSign_head fun _ h => .inl (l.isDigit_of_mem_groups h)
  rw [plainNumber, htext, hsign]
  exact numeral_pointed _ l.isDigit l.ne_nil

end Literal

/-- Regular texts do not begin with a comma. -/
theorem head?_withoutCommas {whole rest : List Char}
    (hgrouped : grouped (whole.splitOn ',') = true) :
    (withoutCommas whole ++ rest).head? = (whole ++ rest).head? := by
  cases whole with
  | nil => rfl
  | cons c whole =>
    have hc : c ≠ ',' := by
      rintro rfl
      rw [List.splitOn_cons_eq_if_modifyHead, if_pos (beq_self_eq_true _)] at hgrouped
      cases hsplit : whole.splitOn ',' with
      | nil => exact List.splitOn_ne_nil _ _ hsplit
      | cons first others =>
        rw [hsplit] at hgrouped
        cases hgrouped
    rw [withoutCommas, List.filter_cons_of_pos (by simpa using hc)]
    rfl

/-- A regular text is a sign, a part in front of the point and one from the point on, and commas in
the first part do not touch the sign. -/
theorem exists_parts {text : List Char} (h : regular text = true) :
    ∃ sign whole rest, text = markOf sign ++ (whole ++ rest) ∧
      signOf (withoutCommas text) = (sign.getD false, withoutCommas whole ++ rest) ∧
      (∀ c ∈ whole, c ≠ '.') ∧ (∀ c, rest.head? = some c → c = '.') ∧
      grouped (whole.splitOn ',') = true := by
  obtain ⟨sign, htext, -, hhead⟩ := exists_sign text
  simp only [regular, Bool.and_eq_true] at h
  obtain ⟨⟨-, hpoint⟩, hgrouped⟩ := h
  have hbody := List.takeWhile_append_dropWhile (p := (· ≠ '.')) (l := (signOf text).2)
  have hrest := List.head?_dropWhile_not (· ≠ '.') (signOf text).2
  have hwhole : ∀ c ∈ (signOf text).2.takeWhile (· ≠ '.'), decide (c ≠ '.') = true :=
    List.all_eq_true.mp List.all_takeWhile
  generalize (signOf text).2.takeWhile (· ≠ '.') = whole at *
  generalize (signOf text).2.dropWhile (· ≠ '.') = rest at *
  rw [← hbody] at htext
  have hcomma : ',' ∉ rest := fun h => of_decide_eq_true (List.all_eq_true.mp hpoint _ h) rfl
  refine ⟨sign, whole, rest, htext, ?_, fun c hc => of_decide_eq_true (hwhole c hc), ?_, hgrouped⟩
  · have hwithout : withoutCommas text = markOf sign ++ (withoutCommas whole ++ rest) := by
      rw [htext, withoutCommas_append, withoutCommas_append,
        withoutCommas_eq_self (comma_not_mem_markOf _), withoutCommas_eq_self hcomma]
    rw [hwithout]
    refine signOf_markOf fun hsign c hc => hhead hsign c ?_
    rw [head?_withoutCommas hgrouped] at hc
    rw [htext, hsign]
    exact hc
  · intro c hc
    rw [hc] at hrest
    exact of_decide_eq_false hrest |> Classical.not_not.mp

/-- Texts are cut at the point in one way. -/
theorem append_cut {front front' back back' : List Char} (hfront : ∀ c ∈ front, c ≠ '.')
    (hfront' : ∀ c ∈ front', c ≠ '.') (hback : ∀ c, back.head? = some c → c = '.')
    (hback' : ∀ c, back'.head? = some c → c = '.') (h : front ++ back = front' ++ back') :
    front = front' ∧ back = back' := by
  have hspan {front back : List Char} (hfront : ∀ c ∈ front, c ≠ '.')
      (hback : ∀ c, back.head? = some c → c = '.') :
      (front ++ back).span (· ≠ '.') = (front, back) :=
    span_of_forall (fun c hc => decide_eq_true (hfront c hc)) fun c hc => by
      rw [hback c hc]
      rfl
  have heq := hspan hfront hback
  rw [h, hspan hfront' hback'] at heq
  exact ⟨(Prod.mk.inj heq).1.symm, (Prod.mk.inj heq).2.symm⟩

/-- A regular text with a number is a literal for it. -/
theorem exists_literal {text : List Char} {d : Decimal} (hregular : regular text = true)
    (hnumber : plainNumber text = some d) : ∃ l : Literal, l.text = text ∧ l.number = d := by
  obtain ⟨sign, whole, rest, htext, hsignOf, hwhole, hrest, hgrouped⟩ := exists_parts hregular
  simp only [regular, Bool.and_eq_true] at hregular
  rw [plainNumber, hsignOf] at hnumber
  have hletter : ∀ c ∈ withoutCommas whole ++ rest, c ≠ 'e' ∧ c ≠ 'E' := fun c hc => by
    have hmem : c ∈ (signOf (withoutCommas text)).2 := by rwa [hsignOf]
    have hplain := List.all_eq_true.mp hregular.1.1 c
      (mem_of_mem_withoutCommas (signOf_subset _ hmem))
    exact ⟨ne_of_isPlain hplain (by decide), ne_of_isPlain hplain (by decide)⟩
  obtain ⟨digits, fraction, hparts, hdigits, hne, rfl⟩ := exists_of_numeral hletter hnumber
  have hfront : ∀ c ∈ withoutCommas whole, c ≠ '.' := fun c hc =>
    hwhole c (mem_of_mem_withoutCommas hc)
  have hfront' : ∀ c ∈ digits, c ≠ '.' := by
    rintro c hc rfl
    cases hdigits _ (List.mem_append_left _ hc)
  obtain ⟨rfl, rfl⟩ := append_cut hfront hfront' hrest (fun c => eq_point_of_head?) hparts
  rw [← flatten_splitOn] at hdigits hne
  refine ⟨⟨sign, whole.splitOn ',', fraction, hdigits, hne, hgrouped⟩, ?_, ?_⟩
  · rw [Literal.text, List.intercalate_splitOn, htext]
  · rw [Literal.number, ← flatten_splitOn]

/-- **The plain literals**: the regular texts whose numeral without commas is one for the number. -/
theorem isLiteral_iff {text : List Char} {value : ℚ} :
    IsLiteral text value ↔
      regular text = true ∧ ∃ d, plainNumber text = some d ∧ d.toRat = value := by
  constructor
  · rintro ⟨l, rfl, hvalue⟩
    exact ⟨l.regular_text, l.number, l.plainNumber_text, hvalue⟩
  · rintro ⟨hregular, d, hnumber, hvalue⟩
    obtain ⟨l, htext, rfl⟩ := exists_literal hregular hnumber
    exact ⟨l, htext, hvalue⟩

/-- A literal without commas is read as its number. -/
theorem parse_text (other : Char → Option (Fin 10)) {l : Literal} (hcomma : ',' ∉ l.text)
    (hrange : inRange l.number = true) : parse other l.text = some (.finite l.number) := by
  have hnumber := l.plainNumber_text
  rw [plainNumber, withoutCommas_eq_self hcomma] at hnumber
  rw [parse_of_isPlain other fun c => l.isPlain_of_mem_text, hnumber, Option.filter_some_pos hrange]
  rfl

end DecimalText

end Support
