import Groupwise.Proofs.Decimal.Numeral
import Groupwise.Proofs.Parser
import Groupwise.Proofs.Query.Printer
import Groupwise.Query.Token
import Mathlib.Data.Bool.AllAny

/-!
# Tokens that are read back

A token that is written is read again if what follows does not belong to it, and at the start of
another token it is not read.
-/
namespace Groupwise.Query.Grammar

open Groupwise.Parser

variable {α : Type} {cs rest : List Char} {signs : List Char}

/-! ## Characters -/

/-- Of the first 128 characters, the letters, the digits and the underscore stand in names. -/
theorem names_ascii : ∀ n < 128,
    isNameStart (Char.ofNat n) = ((Char.ofNat n).isAlpha || Char.ofNat n = '_') ∧
      isNameChar (Char.ofNat n) = ((Char.ofNat n).isAlphanum || Char.ofNat n = '_') := by
  decide +kernel

theorem isNameStart_eq {c : Char} (h : c.toNat < 128) : isNameStart c = (c.isAlpha || c = '_') := by
  have code := (names_ascii c.toNat h).1
  rwa [Char.ofNat_toNat] at code

theorem isNameChar_eq {c : Char} (h : c.toNat < 128) :
    isNameChar c = (c.isAlphanum || c = '_') := by
  have code := (names_ascii c.toNat h).2
  rwa [Char.ofNat_toNat] at code

theorem isNameStart_of_isLower {c : Char} (h : c.isLower) : isNameStart c := by
  have ascii : c.toNat < 128 := by
    exact Nat.lt_of_le_of_lt (UInt32.le_iff_toNat_le.mp (isLower_iff.mp h).2) (by decide)
  have letter : c.isAlpha := (Bool.or_eq_true ..).mpr (.inr h)
  rw [isNameStart_eq ascii, letter, Bool.true_or]

theorem isNameChar_of_isNameStart {c : Char} (h : isNameStart c) : isNameChar c := by
  simp only [isNameStart, isNameChar, Bool.or_eq_true] at h ⊢
  exact h.imp_left .inl

theorem isSpace_of_isLower {c : Char} (h : c.isLower) : Scanner.isSpace c = false := by
  rw [Bool.eq_false_iff]
  intro space
  simp only [Scanner.isSpace, Bool.or_eq_true, decide_eq_true_eq] at space
  obtain ((rfl | rfl) | rfl) | rfl := space
  all_goals exact absurd h (by decide)

/-- What holds of each digit holds of what is a digit. -/
theorem of_isDigit {p : Char → Prop} [DecidablePred p] {c : Char} (h : c.isDigit)
    (each : ['0', '1', '2', '3', '4', '5', '6', '7', '8', '9'].all (p ·)) : p c := by
  have code : ∀ n < 58, 48 ≤ n →
      Char.ofNat n ∈ ['0', '1', '2', '3', '4', '5', '6', '7', '8', '9'] := by decide
  simp only [isDigit_iff, UInt32.le_iff_toNat_le] at h
  have member := code c.toNat (Nat.lt_succ_of_le h.2) h.1
  rw [Char.ofNat_toNat] at member
  exact List.all_iff_forall_prop.mp each c member

/-! ## Behind a token -/

/-- The next character that is no blank. -/
def upcoming (rest : List Char) : Option Char := (rest.dropWhile Scanner.isSpace).head?

/-- A token ends here, and what comes behind blanks begins with none of some signs in either letter
case. -/
structure Ends (signs rest : List Char) : Prop where
  token : ∀ c ∈ rest.head?, c ∈ [' ', ',', ')']
  clear : ∀ c ∈ upcoming rest, c.toLower ∉ signs

namespace Ends

theorem nil : Ends signs [] where
  token := by simp
  clear := by simp [upcoming]

theorem blank {c : Char} (visible : Scanner.isSpace c = false) (clear : c.toLower ∉ signs) :
    Ends signs (' ' :: c :: rest) where
  token := by simp
  clear := by simpa [upcoming, visible, show Scanner.isSpace ' ' = true from rfl] using clear

theorem closing (clear : ')' ∉ signs) : Ends signs (')' :: rest) where
  token := by simp
  clear := by simpa [upcoming, show Scanner.isSpace ')' = false from rfl] using clear

theorem comma (clear : ',' ∉ signs) : Ends signs (',' :: rest) where
  token := by simp
  clear := by simpa [upcoming, show Scanner.isSpace ',' = false from rfl] using clear

theorem mono {fewer : List Char} (h : Ends signs rest) (sub : fewer ⊆ signs) :
    Ends fewer rest where
  token := h.token
  clear := fun c hc there => h.clear c hc (sub there)

/-- No token goes on with a blank, a comma or a closing parenthesis. -/
theorem head {inside : Char → Bool} (h : Ends signs rest)
    (outside : [' ', ',', ')'].all (inside · = false)) :
    ∀ c ∈ rest.head?, inside c = false :=
  fun c hc => List.all_iff_forall_prop.mp outside c (h.token c hc)

end Ends

/-! ## Words and symbols -/

theorem keyword_append {word : String} {c : Char} {more : List Char}
    (spelt : word.toList = c :: more) (visible : Scanner.isSpace c = false)
    (ends : ∀ c ∈ rest.head?, isNameChar c = false) :
    keyword word (word.toList ++ rest) = .ok ((), rest) := by
  have start : spaces (word.toList ++ rest) = .ok ((), word.toList ++ rest) := by
    apply spaces_of_head
    simp [spelt, visible]
  have read : textIgnoringCase word (word.toList ++ rest) = .ok ((), rest) := by
    rw [textIgnoringCase, wordIgnoringCase_append]
  have ends : wordEnd rest = .ok ((), rest) := absent_of_fails (fails_satisfy ends)
  rw [keyword, bind_ok start, bind_ok read, ends]

theorem isNameChar_blank : isNameChar ' ' = false := by simp [isNameChar_eq]

theorem keyword_blank {word : String} {c : Char} {more : List Char}
    (spelt : word.toList = c :: more) (visible : Scanner.isSpace c = false) :
    keyword word (word.toList ++ ' ' :: rest) = .ok ((), ' ' :: rest) :=
  keyword_append spelt visible (by simpa using isNameChar_blank)

theorem fails_textIgnoringCase {word : String} {c d : Char} {more : List Char}
    (spelt : word.toList = d :: more) (differ : c.toLower ≠ d.toLower) :
    Fails (textIgnoringCase word) (c :: cs) :=
  ⟨c :: cs, by simp [textIgnoringCase, spelt, Scanner.wordIgnoringCase, differ]⟩

theorem fails_keyword {word : String} {c d : Char} {more : List Char}
    (visible : Scanner.isSpace c = false) (spelt : word.toList = d :: more)
    (differ : c.toLower ≠ d.toLower) : Fails (keyword word) (c :: cs) := by
  have start : spaces (c :: cs) = .ok ((), c :: cs) := spaces_of_head (by simpa using visible)
  exact .after start (fails_textIgnoringCase spelt differ).bind

theorem fails_symbol {t : String} {c d : Char} {more : List Char}
    (visible : Scanner.isSpace c = false) (spelt : t.toList = d :: more) (differ : c ≠ d) :
    Fails (symbol t) (c :: cs) := by
  have start : spaces (c :: cs) = .ok ((), c :: cs) := spaces_of_head (by simpa using visible)
  exact .after start ⟨c :: cs, by simp [text, spelt, Scanner.word, differ]⟩

/-- A keyword is not read where the next character cannot begin it. -/
theorem Ends.fails_keyword {word : String} {d : Char} {more : List Char} (h : Ends signs rest)
    (spelt : word.toList = d :: more) (lower : d.toLower ∈ signs) :
    Fails (keyword word) rest := by
  have start : spaces rest = .ok ((), rest.dropWhile Scanner.isSpace) := rfl
  refine .after start (Fails.bind ?_)
  have clear := h.clear
  unfold upcoming at clear
  cases left : rest.dropWhile Scanner.isSpace with
  | nil => exact ⟨[], by simp [textIgnoringCase, spelt, Scanner.wordIgnoringCase]⟩
  | cons c cs =>
    apply fails_textIgnoringCase spelt
    intro same
    rw [left] at clear
    exact clear c rfl (same ▸ lower)

/-- A character behind blanks is not read where the next one is of none of its class. -/
theorem Ends.fails_satisfy {inside : Char → Bool} (h : Ends signs rest)
    (among : ∀ c, inside c → c.toLower ∈ signs) :
    Fails (do spaces; satisfy inside) rest := by
  have start : spaces rest = .ok ((), rest.dropWhile Scanner.isSpace) := rfl
  refine .after start (Parser.fails_satisfy ?_)
  intro c hc
  rw [Bool.eq_false_iff]
  intro there
  exact h.clear c hc (among c there)

theorem Ends.fails_operator {meaning : Char → Option α} (h : Ends signs rest)
    (among : ∀ c, meaning c ≠ none → c.toLower ∈ signs) : Fails (operator meaning) rest := by
  have start : spaces rest = .ok ((), rest.dropWhile Scanner.isSpace) := rfl
  refine .after start ?_
  have clear := h.clear
  unfold upcoming at clear
  cases left : rest.dropWhile Scanner.isSpace with
  | nil => exact Fails.mapOption ⟨[], rfl⟩
  | cons c cs =>
    rw [left] at clear
    have none : meaning c = none := by
      by_contra some
      exact clear c rfl (among c some)
    exact ⟨c :: cs, by simp [mapOption, satisfy, none]⟩

theorem operator_blank {meaning : Char → Option α} {c : Char} {op : α}
    (visible : Scanner.isSpace c = false) (h : meaning c = some op) :
    operator meaning (' ' :: c :: cs) = .ok (op, cs) := by
  have start : spaces (' ' :: c :: cs) = .ok ((), c :: cs) := by
    simp [spaces, visible, show Scanner.isSpace ' ' = true from rfl]
  have read : satisfy (fun _ => true) (c :: cs) = .ok (c, cs) := by simp [satisfy]
  rw [operator, bind_ok start, mapOption_ok read h]

/-! ## Calls -/

theorem call_append {name : String} (spelt : ∀ c ∈ name.toList, c.isLower) :
    call name (name.toList ++ '(' :: rest) = .ok ((), rest) := by
  have start : spaces (name.toList ++ '(' :: rest) = .ok ((), name.toList ++ '(' :: rest) := by
    apply spaces_of_head
    cases letters : name.toList with
    | nil => simp [Scanner.isSpace]
    | cons c more =>
      simpa using isSpace_of_isLower (spelt c (by simp [letters]))
  have read : textIgnoringCase name (name.toList ++ '(' :: rest) = .ok ((), '(' :: rest) := by
    rw [textIgnoringCase, wordIgnoringCase_append]
  rw [call, bind_ok start, bind_ok read]
  rfl

theorem callOf_append {name : String} {p : Parser α} {a : α}
    (spelt : ∀ c ∈ name.toList, c.isLower) (h : p cs = .ok (a, ')' :: rest)) :
    callOf name p (name.toList ++ '(' :: cs) = .ok (a, rest) := by
  rw [callOf, bind_ok (call_append spelt), bind_ok h]
  rfl

theorem fails_call {function : String} {c d : Char} {more : List Char}
    (visible : Scanner.isSpace c = false) (spelt : function.toList = d :: more)
    (differ : c.toLower ≠ d.toLower) : Fails (call function) (c :: cs) := by
  have start : spaces (c :: cs) = .ok ((), c :: cs) := spaces_of_head (by simpa using visible)
  exact .after start (fails_textIgnoringCase spelt differ).bind

/-- Functions are told apart by their whole names. -/
theorem fails_call_of_ne {name letters : List Char} {function : String}
    (called : function.toList = name) (spelt : ∀ c ∈ name, c.isLower)
    (given : ∀ c ∈ letters, c.isLower) (differ : name ≠ letters) :
    Fails (call function) (letters ++ '(' :: rest) := by
  have start : spaces (letters ++ '(' :: rest) = .ok ((), letters ++ '(' :: rest) := by
    apply spaces_of_head
    cases letters with
    | nil => simp [Scanner.isSpace]
    | cons c more => simpa using isSpace_of_isLower (given c (List.mem_cons_self ..))
  refine .after start ?_
  cases read : Scanner.wordIgnoringCase name (letters ++ '(' :: rest) with
  | none =>
    exact Fails.bind ⟨letters ++ '(' :: rest, by simp [textIgnoringCase, called, read]⟩
  | some r =>
    obtain ⟨more, rfl⟩ := prefix_of_wordIgnoringCase spelt given rfl read
    have read' : textIgnoringCase function (name ++ more ++ '(' :: rest) =
        .ok ((), more ++ '(' :: rest) := by
      rw [textIgnoringCase, called, List.append_assoc, wordIgnoringCase_append]
    refine .after read' ?_
    cases more with
    | nil => exact absurd (List.append_nil name).symm differ
    | cons c more =>
      have lower := given c (by simp)
      have next : spaces (c :: more ++ '(' :: rest) = .ok ((), c :: more ++ '(' :: rest) :=
        spaces_of_head (by simpa using isSpace_of_isLower lower)
      refine .after next (Fails.bind (fails_satisfy ?_))
      simp only [List.cons_append, List.head?_cons, Option.mem_some_iff, forall_eq',
        decide_eq_false_iff_not]
      rintro rfl
      exact absurd lower (by decide)

theorem fails_call_writeCall {name function : String} {arguments : List (List Char)}
    (given : ∀ c ∈ name.toList, c.isLower) (spelt : ∀ c ∈ function.toList, c.isLower)
    (differ : function ≠ name) : Fails (call function) (writeCall name arguments ++ rest) := by
  rw [writeCall, parenthesize, List.append_assoc, List.cons_append]
  exact fails_call_of_ne rfl spelt given fun same => differ (String.toList_inj.mp same)

theorem callOf_writeCall {name : String} {p : Parser α} {a : α} {arguments : List (List Char)}
    (spelt : ∀ c ∈ name.toList, c.isLower)
    (h : p (commas arguments ++ ')' :: rest) = .ok (a, ')' :: rest)) :
    callOf name p (writeCall name arguments ++ rest) = .ok (a, rest) := by
  rw [writeCall, parenthesize, List.append_assoc, List.cons_append, List.append_assoc]
  exact callOf_append spelt h

/-! ## Names -/

theorem name_writeName {n : String} (h : IsName n) :
    name (writeName n ++ rest) = .ok (n, rest) := by
  obtain ⟨nonempty, bare⟩ := h
  have start : spaces (writeName n ++ rest) = .ok ((), '`' :: (n.toList ++ '`' :: rest)) := by
    rw [writeName, List.cons_append, List.append_assoc]
    exact spaces_of_head (by simp [Scanner.isSpace])
  have read : run1 (· != '`') (n.toList ++ '`' :: rest) = .ok (n.toList, '`' :: rest) := by
    apply run1_append nonempty
    · intro c hc
      simpa using ne_of_mem_of_not_mem hc bare
    · simp
  have quoted : quotedName ('`' :: (n.toList ++ '`' :: rest)) = .ok (n, rest) := by
    rw [quotedName, bind_ok (char_cons '`'), bind_ok read, bind_ok (char_cons '`')]
    exact congrArg (fun text => Except.ok (text, rest)) (String.ofList_toList ..)
  rw [name, bind_ok start, orElse_ok quoted]

/-- A name begins with a back-quote or a letter. -/
theorem fails_name {c : Char} (visible : Scanner.isSpace c = false) (quote : c ≠ '`')
    (start : isNameStart c = false) : Fails name (c :: cs) := by
  have blank : spaces (c :: cs) = .ok ((), c :: cs) := spaces_of_head (by simpa using visible)
  refine .after blank (Fails.orElse (Fails.bind (fails_char ?_)) (Fails.mapOption (Fails.bind ?_)))
  · simpa using quote
  · exact fails_satisfy (by simpa using start)

/-- A reserved word is no name. -/
theorem fails_name_of_isReserved {word : String} (start : spaces cs = .ok ((), cs))
    (quoted : Fails quotedName cs) (read : bareWord cs = .ok (word, rest))
    (reserved : isReserved word) : Fails name cs :=
  .after start (quoted.orElse (fails_mapOption read (by simp [reserved])))

theorem scopedName_writeField {f : ScopedName} (h : IsField f) (ends : ∀ c ∈ rest.head?, c ≠ '.') :
    scopedName (writeField f ++ rest) = .ok (f, rest) := by
  obtain ⟨scope, named⟩ := h
  rcases f with ⟨none | dataset, n⟩
  · rw [writeField, scopedName, bind_ok (name_writeName named),
      bind_ok (optional_of_fails (Fails.bind (fails_char ends)))]
    rfl
  · have point : (do char '.'; name) ('.' :: (writeName n ++ rest)) = .ok (n, rest) :=
      (bind_ok (char_cons '.')).trans (name_writeName named)
    rw [writeField, List.append_assoc, List.cons_append, scopedName,
      bind_ok (name_writeName (scope dataset rfl)), bind_ok (optional_ok point)]
    rfl

/-! ## Numbers -/

theorem isDigit_writeNat (n : Nat) : ∀ c ∈ writeNat n, c.isDigit :=
  fun _ hc => Nat.isDigit_of_mem_toDigits (by decide) (by decide) hc

theorem writeInt_eq (n : Int) : writeInt n =
    if 0 ≤ n then writeNat n.toNat else '-' :: writeNat (-n).toNat := by
  rw [writeInt, Int.toString_eq_repr, Int.repr_eq_if]
  split
  · exact Nat.toList_repr
  · simp [writeNat]

theorem digits_writeNat (n : Nat) (h : Ends signs rest) :
    digits (writeNat n ++ rest) = .ok (writeNat n, rest) :=
  run1_append Nat.toDigits_ne_nil (isDigit_writeNat n) (h.head (by decide))

theorem digitsValue_writeNat (n : Nat) : Decimal.digitsValue (writeNat n) = n :=
  Nat.ofDigitChars_ten_toDigits

theorem writeNat_eq_cons (n : Nat) : ∃ c more, writeNat n = c :: more ∧ c.isDigit := by
  cases h : writeNat n with
  | nil => exact absurd h Nat.toDigits_ne_nil
  | cons c more => exact ⟨c, more, rfl, isDigit_writeNat n c (by simp [h])⟩

theorem isSpace_of_isDigit {c : Char} (h : c.isDigit) : Scanner.isSpace c = false :=
  of_isDigit (p := (Scanner.isSpace · = false)) h (by decide)

theorem spaces_writeNat (n : Nat) : spaces (writeNat n ++ rest) = .ok ((), writeNat n ++ rest) := by
  obtain ⟨c, more, written, digit⟩ := writeNat_eq_cons n
  rw [written]
  exact spaces_of_head (by simpa using isSpace_of_isDigit digit)

theorem natBelow_writeNat {n bound : Nat} (small : n < bound) (h : Ends signs rest) :
    natBelow bound (writeNat n ++ rest) = .ok (n, rest) := by
  rw [natBelow, bind_ok (spaces_writeNat n), mapOption_ok (digits_writeNat n h)]
  simp [digitsValue_writeNat, small]

theorem fit_toInt (v : Int64) : Arithmetic.fit v.toInt = some v := by
  rw [Arithmetic.fit, if_pos ⟨Int64.minValue_le_toInt v, Int64.toInt_le v⟩, Int64.ofInt_toInt]

theorem plainInteger_writeNat {n : Nat} {v : Int64} (value : v.toInt = n) (h : Ends signs rest) :
    plainInteger (writeNat n ++ rest) = .ok (v, rest) := by
  have fits : Arithmetic.fit (Decimal.digitsValue (writeNat n)) = some v := by
    rw [digitsValue_writeNat, ← value, fit_toInt]
  have ends : wordEnd rest = .ok ((), rest) :=
    absent_of_fails (fails_satisfy (h.head (by simp [isNameChar_eq])))
  rw [plainInteger, bind_ok (spaces_writeNat n), bind_ok (mapOption_ok (digits_writeNat n h) fits),
    bind_ok ends]
  rfl

theorem integer_writeInt (v : Int64) (h : Ends signs rest) :
    integer (writeInt v.toInt ++ rest) = .ok (v, rest) := by
  have value := fit_toInt v
  rw [writeInt_eq]
  split
  · rename_i nonneg
    have bare : sign (writeNat v.toInt.toNat ++ rest) =
        .ok (false, writeNat v.toInt.toNat ++ rest) := by
      have none : Fails (char '-') (writeNat v.toInt.toNat ++ rest) := by
        obtain ⟨c, more, written, digit⟩ := writeNat_eq_cons v.toInt.toNat
        apply fails_char
        simp only [written, List.cons_append, List.head?_cons, Option.mem_some_iff, forall_eq']
        rintro rfl
        exact absurd digit (by decide)
      rw [sign, bind_ok (optional_of_fails none)]
      rfl
    have read : signed (writeNat v.toInt.toNat ++ rest) =
        .ok ((false, writeNat v.toInt.toNat), rest) := by
      rw [signed, bind_ok bare, bind_ok (digits_writeNat _ h)]
      rfl
    rw [integer, bind_ok (spaces_writeNat _)]
    apply mapOption_ok read
    simpa only [digitsValue_writeNat, Int.toNat_of_nonneg nonneg, Bool.false_eq_true, if_false]
      using value
  · rename_i negative
    have minus : sign ('-' :: (writeNat (-v.toInt).toNat ++ rest)) =
        .ok (true, writeNat (-v.toInt).toNat ++ rest) := by
      rw [sign, bind_ok (optional_ok (char_cons '-'))]
      rfl
    have read : signed ('-' :: (writeNat (-v.toInt).toNat ++ rest)) =
        .ok ((true, writeNat (-v.toInt).toNat), rest) := by
      rw [signed, bind_ok minus, bind_ok (digits_writeNat _ h)]
      rfl
    have start : spaces ('-' :: (writeNat (-v.toInt).toNat ++ rest)) =
        .ok ((), '-' :: (writeNat (-v.toInt).toNat ++ rest)) :=
      spaces_of_head (by simp [Scanner.isSpace])
    rw [List.cons_append, integer, bind_ok start]
    apply mapOption_ok read
    rw [← show -((-v.toInt).toNat : Int) = v.toInt by omega] at value
    simpa only [digitsValue_writeNat, if_true] using value

/-! ## Texts -/

theorem quotedRest_escape (text out : List Char) :
    quotedRest '"' (text.flatMap escape ++ '"' :: rest) out =
      some (String.ofList (out.reverse ++ text), rest) := by
  induction text generalizing out with
  | nil =>
    rw [List.flatMap_nil, List.nil_append, quotedRest.eq_def]
    simp only [if_true, List.append_nil]
  | cons c text ih =>
    have more : out.reverse ++ c :: text = (c :: out).reverse ++ text := by simp
    rw [List.flatMap_cons, List.append_assoc, more, ← ih, escape]
    split
    · rename_i special
      have kept : c ≠ 'n' ∧ c ≠ 't' := by
        rcases special with rfl | rfl
        · decide
        · decide
      rw [List.cons_append, List.cons_append, List.nil_append, quotedRest.eq_def]
      simp only [kept.1, kept.2, if_false, if_true, show '\\' ≠ '"' by decide]
    · rename_i plain
      rw [not_or] at plain
      rw [List.cons_append, List.nil_append, quotedRest.eq_def]
      simp only [plain.1, plain.2, if_false]

theorem quotedText_writeText (text : String) :
    quotedText (writeText text ++ rest) = .ok (text, rest) := by
  have start : spaces (writeText text ++ rest) =
      .ok ((), '"' :: (text.toList.flatMap escape ++ '"' :: rest)) := by
    rw [writeText, List.cons_append, List.append_assoc]
    exact spaces_of_head (by simp [Scanner.isSpace])
  have read : quotedBy '"' ('"' :: (text.toList.flatMap escape ++ '"' :: rest)) =
      .ok (text, rest) := by
    simp [quotedBy, quotedRest_escape]
  rw [quotedText, bind_ok start, orElse_ok read]

/-! ## Terms -/

theorem fails_quotedText {c : Char} (visible : Scanner.isSpace c = false) (double : c ≠ '"')
    (single : c ≠ '\'') : Fails quotedText (c :: cs) := by
  have start : spaces (c :: cs) = .ok ((), c :: cs) := spaces_of_head (by simpa using visible)
  refine .after start (Fails.orElse ⟨c :: cs, ?_⟩ ⟨c :: cs, ?_⟩)
  · simp [quotedBy, double]
  · simp [quotedBy, single]

/-- An integer that was read is spelt as it was. -/
theorem spell_parse (text : String) (h : (Term.parse text).isInt) :
    (Term.parse text).spell = text := by
  unfold Term.parse at h ⊢
  split
  · split
    · rename_i same
      exact eq_of_beq same
    · rfl
  · simp_all [Term.isInt]

/-- The characters of numerals. -/
def isNumeric (c : Char) : Bool := c = '-' || c.isDigit

theorem of_isNumeric {p : Char → Prop} [DecidablePred p] {c : Char} (h : isNumeric c)
    (each : ['-', '0', '1', '2', '3', '4', '5', '6', '7', '8', '9'].all (p ·)) : p c := by
  rw [List.all_cons, Bool.and_eq_true, decide_eq_true_eq] at each
  simp only [isNumeric, Bool.or_eq_true, decide_eq_true_eq] at h
  rcases h with rfl | digit
  · exact each.1
  · exact of_isDigit digit each.2

theorem numeric_of_isNumeral {text : String} (h : IsNumeral text) :
    text.toList ≠ [] ∧ ∀ c ∈ text.toList, isNumeric c := by
  obtain ⟨digits, nonempty, all, spelt⟩ := h
  have numeric : ∀ c ∈ digits, isNumeric c := by
    intro c hc
    simp [isNumeric, List.all_eq_true.mp all c hc]
  rcases spelt with spelt | spelt
  · exact spelt ▸ ⟨nonempty, numeric⟩
  · exact spelt ▸ ⟨by simp, List.forall_mem_cons.mpr ⟨by decide, numeric⟩⟩

theorem not_isReserved {text : String} {c : Char} {more : List Char}
    (spelt : text.toList = c :: more) (h : isNumeric c) : isReserved text = false := by
  rw [Bool.eq_false_iff]
  intro reserved
  obtain ⟨word, there, same⟩ := List.any_eq_true.mp reserved
  have letters : ∀ word ∈ reservedWords, (word.toList.map Char.toLower).head?.any Char.isLower := by
    decide
  have lower := letters word there
  rw [eq_of_beq same, spelt, List.map_cons, List.head?_cons, Option.any_some] at lower
  have other : c.isAlpha = false := of_isNumeric (p := (·.isAlpha = false)) h (by decide)
  exact toLower_ne other lower rfl

theorem bareTerm_append {text : String} (h : IsNumeral text) (ends : Ends signs rest) :
    bareTerm (text.toList ++ rest) = .ok (.parse text, rest) := by
  obtain ⟨nonempty, numeric⟩ := numeric_of_isNumeral h
  have read : run1 isTermChar (text.toList ++ rest) = .ok (text.toList, rest) := by
    apply run1_append nonempty
    · intro c hc
      exact of_isNumeric (p := (isTermChar ·)) (numeric c hc) (by simp [isTermChar, isNameChar_eq])
    · exact ends.head (by simp [isTermChar, isNameChar_eq])
  have free : isReserved text = false := by
    cases spelt : text.toList with
    | nil => exact absurd spelt nonempty
    | cons c more => exact not_isReserved spelt (numeric c (by simp [spelt]))
  have word : ((String.ofList ·) <$> run1 isTermChar).filter (!isReserved ·) (text.toList ++ rest) =
      .ok (text, rest) := by
    apply mapOption_ok (map_ok read)
    simp [free]
  rw [bareTerm, bind_ok word]
  rfl

theorem term_writeText (text : String) :
    term (writeText text ++ rest) = .ok (.string text, rest) := by
  have start : spaces (writeText text ++ rest) = .ok ((), writeText text ++ rest) :=
    spaces_of_head (by simp [writeText, Scanner.isSpace])
  rw [term, bind_ok start, orElse_ok (map_ok (quotedText_writeText text))]

theorem term_writeTerm {t : Term} (h : IsTerm t) (ends : Ends signs rest) :
    term (writeTerm t ++ rest) = .ok (t, rest) := by
  obtain ⟨s, rfl⟩ | ⟨numeral, legible, rfl⟩ := h
  · exact term_writeText s
  · cases value : Term.parse numeral with
    | string s => exact term_writeText s
    | int v spelling =>
      have written : writeTerm (.parse numeral) = numeral.toList := by
        have spelt := spell_parse numeral (by rw [value]; rfl)
        rw [value] at spelt ⊢
        exact congrArg String.toList spelt
      obtain ⟨nonempty, numeric⟩ := numeric_of_isNumeral legible
      rw [← value, written]
      cases spelt : numeral.toList with
      | nil => exact absurd spelt nonempty
      | cons c more =>
        have visible : Scanner.isSpace c = false ∧ c ≠ '"' ∧ c ≠ '\'' := by
          apply of_isNumeric (numeric c (by simp [spelt]))
          decide
        have start : spaces (c :: more ++ rest) = .ok ((), c :: more ++ rest) :=
          spaces_of_head (by simpa using visible.1)
        have bare : Fails (Term.string <$> quotedText) (c :: more ++ rest) :=
          (fails_quotedText visible.1 visible.2.1 visible.2.2).map
        rw [term, bind_ok start, orElse_of_fails bare, ← spelt]
        exact bareTerm_append legible ends

/-- Terms begin with a quote or a letter, digit, point or sign. -/
theorem fails_term {c : Char} (visible : Scanner.isSpace c = false) (double : c ≠ '"')
    (single : c ≠ '\'') (inside : isTermChar c = false) : Fails term (c :: cs) := by
  have start : spaces (c :: cs) = .ok ((), c :: cs) := spaces_of_head (by simpa using visible)
  refine .after start (Fails.orElse (fails_quotedText visible double single).map ?_)
  exact (Fails.mapOption (Fails.map (fails_run1 (by simpa using inside)))).bind

end Groupwise.Query.Grammar
