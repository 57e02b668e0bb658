import Groupwise.Lucene.Reader
import Groupwise.Proofs.Query.Reading
import Groupwise.Proofs.Scanner

/-!
# Index queries that are read back

Index queries as text: every value stands between double quotes, and every operand between
parentheses. Such a text is read as the query that it was written from, whatever its fields are
called: a word like "not" or "or" at the start of an operand is a field if a colon follows.
-/
namespace Groupwise.Lucene

open Scanner
open Groupwise.Query.Grammar (behind_separated intercalate_cons length_le_intercalate)

/-! ## Writing -/

namespace Query

def quote (text : String) : List Char := '"' :: (text.toList ++ ['"'])

def parenthesize (text : List Char) : List Char := '(' :: (text ++ [')'])

/-- A word between blanks. -/
def spaced (word : List Char) : List Char := ' ' :: (word ++ [' '])

mutual

def write : Query → List Char
  | .term field value => field.toList ++ ':' :: quote value
  | .range field lower upper inclusive =>
    field.toList ++ ':' :: '[' :: (quote lower ++ spaced ['T', 'O'] ++ quote upper ++
      [if inclusive then ']' else '\x7d'])
  | .and queries => (spaced ['A', 'N', 'D']).intercalate (writeOperands queries)
  | .or queries => (spaced ['O', 'R']).intercalate (writeOperands queries)
  | .not query => 'N' :: 'O' :: 'T' :: ' ' :: parenthesize query.write

def writeOperands : List Query → List (List Char)
  | [] => []
  | q :: rest => parenthesize q.write :: writeOperands rest

end

def print (q : Query) : String := String.ofList q.write

/-- The names that fields may have. -/
structure IsFieldName (name : String) : Prop where
  nonempty : name.toList ≠ []
  chars : ∀ c ∈ name.toList,
    Text.letters.contains c ∨ Text.numerals.contains c ∨ c = '_' ∨ c = '.'

instance (name : String) : Decidable (IsFieldName name) :=
  decidable_of_iff (name.toList ≠ [] ∧ name.toList.all isFieldChar)
    ⟨fun h => ⟨h.1, by simpa [isFieldChar, or_assoc] using h.2⟩,
      fun h => ⟨h.nonempty, by simpa [isFieldChar, or_assoc] using h.chars⟩⟩

/-- Text that can stand between quotes, which cannot be escaped. -/
def IsQuotable (text : String) : Prop := '"' ∉ text.toList

instance (text : String) : Decidable (IsQuotable text) := inferInstanceAs (Decidable (_ ∉ _))

mutual

/-- The queries that can be written: conjunctions and disjunctions have several operands. -/
def Legible : Query → Prop
  | .term field value => IsFieldName field ∧ IsQuotable value
  | .range field lower upper _ => IsFieldName field ∧ IsQuotable lower ∧ IsQuotable upper
  | .and queries => 2 ≤ queries.length ∧ LegibleAll queries
  | .or queries => 2 ≤ queries.length ∧ LegibleAll queries
  | .not query => query.Legible

def LegibleAll : List Query → Prop
  | [] => True
  | q :: rest => q.Legible ∧ LegibleAll rest

end

theorem writeOperands_eq_map (qs : List Query) :
    writeOperands qs = qs.map fun q => parenthesize q.write := by
  induction qs with
  | nil => rfl
  | cons q rest ih => rw [writeOperands, ih, List.map_cons]

theorem legibleAll_iff (qs : List Query) : LegibleAll qs ↔ ∀ q ∈ qs, q.Legible := by
  induction qs with
  | nil => simp [LegibleAll]
  | cons q rest ih => rw [LegibleAll, ih, List.forall_mem_cons]

theorem IsFieldName.within {name : String} (h : IsFieldName name) :
    ∀ c ∈ name.toList, isFieldChar c := by
  intro c hc
  simpa [isFieldChar, or_assoc] using h.chars c hc

theorem IsFieldName.head {name : String} (h : IsFieldName name) :
    ∃ c more, name.toList = c :: more ∧ isFieldChar c := by
  obtain ⟨c, more, spelt⟩ := List.exists_cons_of_ne_nil h.nonempty
  exact ⟨c, more, spelt, h.within c (by rw [spelt]; exact List.mem_cons_self ..)⟩

end Query

/-! ## Characters -/

variable {cs rest : List Char} {unary : Scanner Query} {q : Query} {fuel : Nat}

/-- What the tables say of blanks, of the characters of names and of the signs of the notation. -/
theorem characters_apart :
    (Text.blanks.ranges.toList.all fun r =>
        (List.range' r.1 (r.2 + 1 - r.1)).all fun n => !isFieldChar (Char.ofNat n)) ∧
      [' ', '\t', '\r', '\n'].all Text.blanks.contains ∧
      ['(', '"', ']', '\x7d', ')'].all (!Text.blanks.contains ·) ∧
      [':', '(', '-'].all (!isFieldChar ·) ∧ isFieldChar 'N' := by
  decide +kernel

/-- No blank stands in the name of a field. -/
theorem not_blank_of_isFieldChar {c : Char} (h : isFieldChar c) :
    Text.blanks.contains c = false := by
  rw [Bool.eq_false_iff]
  intro blank
  have each := Text.CodePointSet.of_contains (p := fun c => !isFieldChar c) blank
    characters_apart.1
  simp [h] at each

theorem not_isSpace_of_not_blank {c : Char} (h : Text.blanks.contains c = false) :
    isSpace c = false := by
  have blank : [' ', '\t', '\r', '\n'].all Text.blanks.contains := characters_apart.2.1
  rw [Bool.eq_false_iff]
  intro space
  have member : c ∈ [' ', '\t', '\r', '\n'] := by simpa [isSpace, or_assoc] using space
  simp [List.all_eq_true.mp blank c member] at h

theorem not_isSpace_of_isFieldChar {c : Char} (h : isFieldChar c) : isSpace c = false :=
  not_isSpace_of_not_blank (not_blank_of_isFieldChar h)

theorem not_isFieldChar_of_sign {c : Char} (sign : c ∈ [':', '(', '-']) :
    isFieldChar c = false := by
  have foreign : [':', '(', '-'].all (!isFieldChar ·) := characters_apart.2.2.2.1
  simpa using List.all_eq_true.mp foreign c sign

/-- An operand ends here: no blank goes on with another one. -/
def Closed (rest : List Char) : Prop := ∀ c ∈ rest.head?, isSpace c = false

theorem closed_cons {c : Char} (visible : isSpace c = false) : Closed (c :: rest) := by
  simpa [Closed] using visible

theorem skipSpaces_of_closed (h : Closed cs) : skipSpaces cs = cs := by
  have read : run isSpace ([] ++ cs) = ([], cs) := run_append (List.forall_mem_nil _) h
  exact congrArg Prod.snd read

theorem spaces1_of_closed (h : Closed cs) : spaces1 cs = none := by
  rw [spaces1, run1_eq_none h]
  rfl

theorem spaces1_blank (h : Closed cs) : spaces1 (' ' :: cs) = some ((), cs) := by
  have read : run1 isSpace ([' '] ++ cs) = some ([' '], cs) :=
    run1_append (List.cons_ne_nil _ _) (List.forall_mem_singleton.mpr rfl) h
  rw [spaces1, ← List.singleton_append, read]
  rfl

theorem spacedWord_of_closed {w : Scanner Unit} (h : Closed cs) : spacedWord w cs = none := by
  rw [spacedWord, spaces1_of_closed h]
  rfl

/-- A scanner of words that start with a letter finds them between blanks. -/
theorem spacedWord_spaced {w : Scanner Unit} {c : Char} {word : List Char}
    (visible : isSpace c = false) (h : w (c :: word ++ ' ' :: cs) = some ((), ' ' :: cs))
    (closed : Closed cs) : spacedWord w (Query.spaced (c :: word) ++ cs) = some ((), cs) := by
  have first : spaces1 (' ' :: (c :: word ++ ' ' :: cs)) = some ((), c :: word ++ ' ' :: cs) :=
    spaces1_blank (closed_cons visible)
  rw [Query.spaced, List.cons_append, List.append_assoc, List.singleton_append]
  simp only [spacedWord, first, h, spaces1_blank closed, Option.bind_eq_bind, Option.bind_some]

/-! ## Where texts begin and end -/

theorem head_write (legible : q.Legible) :
    ∃ c more, q.write = c :: more ∧ (isFieldChar c ∨ c = '(') := by
  have named {field : String} (name : Query.IsFieldName field) (cs : List Char) :
      ∃ c more, field.toList ++ cs = c :: more ∧ (isFieldChar c ∨ c = '(') := by
    obtain ⟨c, more, spelt, letter⟩ := name.head
    exact ⟨c, more ++ cs, by rw [spelt, List.cons_append], .inl letter⟩
  cases q with
  | term field value => exact named legible.1 _
  | range field lower upper inclusive => exact named legible.1 _
  | and queries | or queries =>
    obtain ⟨first, others, rfl⟩ :=
      List.exists_cons_of_length_pos (Nat.lt_of_lt_of_le Nat.two_pos legible.1)
    rw [Query.write, Query.writeOperands, intercalate_cons]
    exact ⟨'(', _, rfl, .inr rfl⟩
  | not query => exact ⟨'N', _, rfl, .inl characters_apart.2.2.2.2⟩

theorem suffix_intercalate (separator last : List Char) (texts : List (List Char)) :
    last <:+ separator.intercalate (texts ++ [last]) := by
  cases texts with
  | nil => simp
  | cons first more =>
    rw [List.cons_append, intercalate_cons, List.flatMap_append, List.flatMap_singleton]
    exact ⟨first ++ (more.flatMap (separator ++ ·) ++ separator), by simp⟩

theorem getLast_write (legible : q.Legible) :
    ∃ text c, q.write = text ++ [c] ∧ c ∈ ['"', ']', '\x7d', ')'] := by
  cases q with
  | term field value =>
    exact ⟨field.toList ++ ':' :: '"' :: value.toList, '"', by simp [Query.write, Query.quote],
      by simp⟩
  | range field lower upper inclusive =>
    refine ⟨field.toList ++ ':' :: '[' :: (Query.quote lower ++ Query.spaced ['T', 'O'] ++
      Query.quote upper), _, by simp [Query.write]; rfl, ?_⟩
    cases inclusive <;> simp
  | and queries | or queries =>
    obtain rfl | ⟨before, last, rfl⟩ := queries.eq_nil_or_concat'
    · exact absurd legible.1 (by simp)
    · rw [Query.write, Query.writeOperands_eq_map, List.map_append, List.map_singleton]
      obtain ⟨text, same⟩ := suffix_intercalate _ (Query.parenthesize last.write) _
      exact ⟨text ++ '(' :: last.write, ')', by rw [← same]; simp [Query.parenthesize], by simp⟩
  | not query =>
    exact ⟨'N' :: 'O' :: 'T' :: ' ' :: '(' :: query.write, ')',
      by simp [Query.write, Query.parenthesize], by simp⟩

theorem not_blank_of_head {c : Char} (h : isFieldChar c ∨ c = '(') :
    Text.blanks.contains c = false := by
  rcases h with letter | rfl
  · exact not_blank_of_isFieldChar letter
  · simpa using List.all_eq_true.mp characters_apart.2.2.1 '(' (List.mem_cons_self ..)

theorem trim_write (legible : q.Legible) : Text.trim q.write = q.write := by
  refine Text.trim_eq_self ?_ ?_
  · obtain ⟨c, more, same, head⟩ := head_write legible
    simp only [same, List.head?_cons, Option.mem_def, Option.some.injEq, forall_eq']
    exact not_blank_of_head head
  · obtain ⟨text, c, same, last⟩ := getLast_write legible
    simp only [same, List.getLast?_append_cons, List.getLast?_singleton, Option.mem_def,
      Option.some.injEq, forall_eq']
    simpa using List.all_eq_true.mp characters_apart.2.2.1 c (List.mem_cons_of_mem _ last)

theorem closed_write (legible : q.Legible) : Closed (q.write ++ rest) := by
  obtain ⟨c, more, same, head⟩ := head_write legible
  rw [same]
  exact closed_cons (not_isSpace_of_not_blank (not_blank_of_head head))

/-! ## Clauses -/

theorem readQuoted_quote {value : String} (quotable : Query.IsQuotable value) :
    readQuoted (Query.quote value ++ rest) = some (value, rest) := by
  have within : ∀ c ∈ value.toList, (c != '"') = true := fun c hc => by
    simpa using fun (same : c = '"') => quotable (same ▸ hc)
  have read : run (· != '"') (value.toList ++ '"' :: rest) = (value.toList, '"' :: rest) :=
    run_append within (by simp)
  rw [Query.quote, List.cons_append, List.append_assoc, List.singleton_append, readQuoted, read]
  simp

theorem readBound_quote {value : String} (quotable : Query.IsQuotable value) :
    readBound (Query.quote value ++ rest) = some (value, rest) :=
  orElse_some (readQuoted_quote quotable)

theorem readRange_write {lower upper : String} (inclusive : Bool)
    (hl : Query.IsQuotable lower) (hu : Query.IsQuotable upper) :
    readRange ('[' :: (Query.quote lower ++ Query.spaced ['T', 'O'] ++ Query.quote upper ++
      [if inclusive then ']' else '\x7d']) ++ rest) = some ((lower, upper, inclusive), rest) := by
  have quoted (value : String) (cs : List Char) : Closed (Query.quote value ++ cs) :=
    closed_cons (by decide)
  have between (cs : List Char) (h : Closed cs) :
      spacedWord (word ['T', 'O']) (Query.spaced ['T', 'O'] ++ cs) = some ((), cs) :=
    spacedWord_spaced (by decide) rfl h
  have opened (cs : List Char) : char '[' ('[' :: cs) = some ((), cs) := rfl
  simp only [readRange, List.cons_append, List.append_assoc, List.nil_append, opened,
    Option.bind_eq_bind, Option.bind_some, skipSpaces_of_closed (quoted lower _),
    readBound_quote hl, between _ (quoted upper _), readBound_quote hu]
  cases inclusive <;> rw [skipSpaces_of_closed (closed_cons (by decide))] <;> rfl

theorem run1_field {field : String} (name : Query.IsFieldName field) :
    run1 isFieldChar (field.toList ++ ':' :: rest) = some (field.toList, ':' :: rest) :=
  run1_append name.nonempty name.within (by simpa using not_isFieldChar_of_sign (by simp))

theorem readClause_term {field value : String} (name : Query.IsFieldName field)
    (quotable : Query.IsQuotable value) :
    readClause ((Query.term field value).write ++ rest) = some (.term field value, rest) := by
  have colon (cs : List Char) : char ':' (':' :: cs) = some ((), cs) := rfl
  have noRange : readRange (Query.quote value ++ rest) = none := rfl
  rw [Query.write, List.append_assoc, List.cons_append]
  simp only [readClause, run1_field name, colon, Option.bind_eq_bind, Option.bind_some, noRange,
    orElse_some (readQuoted_quote quotable), Option.map_some, String.ofList_toList]

theorem readClause_range {field lower upper : String} {inclusive : Bool}
    (name : Query.IsFieldName field) (hl : Query.IsQuotable lower) (hu : Query.IsQuotable upper) :
    readClause ((Query.range field lower upper inclusive).write ++ rest) =
      some (.range field lower upper inclusive, rest) := by
  have colon (cs : List Char) : char ':' (':' :: cs) = some ((), cs) := rfl
  rw [Query.write, List.append_assoc, List.cons_append]
  simp only [readClause, run1_field name, colon, Option.bind_eq_bind, Option.bind_some,
    readRange_write inclusive hl hu, String.ofList_toList]

/-- What begins with the name of a field and a colon is neither negated nor a group, whatever word
the name begins with. -/
theorem readUnary_field {field : String} (name : Query.IsFieldName field) :
    readUnary (fuel + 1) (field.toList ++ ':' :: rest) =
      readClause (field.toList ++ ':' :: rest) := by
  have negation : readNot (readUnary fuel) (field.toList ++ ':' :: rest) = none := by
    rw [readNot]
    cases known : wordIgnoringCase ['N', 'O', 'T'] (field.toList ++ ':' :: rest) with
    | none => rfl
    | some r =>
      -- The word ends within the name, or it is the name: a blank comes behind it in neither case.
      obtain ⟨left, suffix, same⟩ := suffix_of_wordIgnoringCase (by simp) known
      have closed : Closed r.2 := by
        rw [same]
        cases left with
        | nil => exact closed_cons (by decide)
        | cons c left =>
          have inside := suffix.subset (List.mem_cons_self ..)
          exact closed_cons (not_isSpace_of_isFieldChar (name.within c inside))
      simp [spaces1_of_closed closed]
  obtain ⟨c, more, spelt, letter⟩ := name.head
  have ne (sign : Char) (foreign : sign ∈ [':', '(', '-']) : c ≠ sign := by
    rintro rfl
    exact absurd ((not_isFieldChar_of_sign foreign).symm.trans letter) Bool.false_ne_true
  have minus : readMinus (readUnary fuel) (field.toList ++ ':' :: rest) = none := by
    simp [readMinus, spelt, char, ne '-' (by simp)]
  have group : readGroup (readUnary fuel) (field.toList ++ ':' :: rest) = none := by
    simp [readGroup, spelt, char, ne '(' (by simp)]
  rw [readUnary, orElse_none negation, orElse_none minus, orElse_none group]

/-! ## Operands -/

theorem joins_of_closed (closed : Closed rest) :
    orElse (spacedWord (wordIgnoringCase ['O', 'R'])) spaces1 rest = none := by
  rw [orElse_none (spacedWord_of_closed closed), spaces1_of_closed closed]

theorem readAnd_alone (h : unary cs = some (q, rest))
    (stop : spacedWord (wordIgnoringCase ['A', 'N', 'D']) rest = none) :
    readAnd unary cs = some (q, rest) := by
  simp [readAnd, h, many_of_none, stop, join]

theorem readOr_alone (h : readAnd unary cs = some (q, rest)) (closed : Closed rest) :
    readOr unary cs = some (q, rest) := by
  simp [readOr, h, many_of_none, joins_of_closed closed, join]

theorem readUnary_group (visible : Closed (q.write ++ ')' :: rest))
    (h : readOr (readUnary fuel) (q.write ++ ')' :: rest) = some (q, ')' :: rest)) :
    readUnary (fuel + 1) (Query.parenthesize q.write ++ rest) = some (q, rest) := by
  have negation : readNot (readUnary fuel) ('(' :: (q.write ++ ')' :: rest)) = none := rfl
  have minus : readMinus (readUnary fuel) ('(' :: (q.write ++ ')' :: rest)) = none := rfl
  have group : readGroup (readUnary fuel) ('(' :: (q.write ++ ')' :: rest)) = some (q, rest) := by
    have behind : skipSpaces (')' :: rest) = ')' :: rest :=
      skipSpaces_of_closed (closed_cons (by decide))
    simp [readGroup, char, skipSpaces_of_closed visible, h, behind]
  rw [Query.parenthesize, List.cons_append, List.append_assoc, List.singleton_append, readUnary,
    orElse_none negation, orElse_none minus, orElse_some group]

theorem closed_parenthesize (text rest : List Char) :
    Closed (Query.parenthesize text ++ rest) :=
  closed_cons (by decide)

theorem readUnary_not (h : readUnary fuel (Query.parenthesize q.write ++ rest) = some (q, rest)) :
    readUnary (fuel + 1) (q.not.write ++ rest) = some (.not q, rest) := by
  have blank := spaces1_blank (closed_parenthesize q.write rest)
  have negation : readNot (readUnary fuel) (q.not.write ++ rest) = some (.not q, rest) := by
    simp [readNot, Query.write, wordIgnoringCase, blank, h]
  rw [readUnary, orElse_some negation]

/-- Operands behind a word between blanks are read one after the other. -/
theorem many_operands {joins : Scanner Unit} {operand : Scanner Query} {word : List Char}
    {qs : List Query} (go : ∀ q cs, joins (Query.spaced word ++ (Query.parenthesize q ++ cs)) =
      some ((), Query.parenthesize q ++ cs))
    (reads : ∀ q ∈ qs, ∀ more, (more = rest ∨ ∃ cs, more = Query.spaced word ++ cs) →
      operand (Query.parenthesize q.write ++ more) = some (q, more))
    (stop : joins rest = none) {text : List Char}
    (same : text = (Query.writeOperands qs).flatMap (Query.spaced word ++ ·) ++ rest) :
    many (fun cs => (joins cs).bind fun r => operand r.2) text.length text = (qs, rest) := by
  rw [Query.writeOperands_eq_map, List.flatMap_map] at same
  subst same
  have step : ∀ q ∈ qs, ∀ more, (more = rest ∨ ∃ b ∈ qs, ∃ cs, more =
      Query.spaced word ++ Query.parenthesize b.write ++ cs) →
      ((joins (Query.spaced word ++ Query.parenthesize q.write ++ more)).bind
        fun r => operand r.2) = some (q, more) := by
    intro q hq more behind
    have read := reads q hq more (behind.imp_right fun ⟨b, _, cs, same⟩ =>
      ⟨Query.parenthesize b.write ++ cs, by rw [same, List.append_assoc]⟩)
    rw [List.append_assoc, go, Option.bind_some, read]
  exact many_flatMap (fun q _ => List.cons_ne_nil _ _) step (by rw [stop]; rfl) (Nat.le_refl _)

section Joined

variable {first : Query} {others : List Query}
  (reads : ∀ q ∈ first :: others, ∀ more,
    unary (Query.parenthesize q.write ++ more) = some (q, more))
include reads

theorem readAnd_write (several : others ≠ []) (closed : Closed rest) :
    readAnd unary ((Query.and (first :: others)).write ++ rest) =
      some (.and (first :: others), rest) := by
  obtain ⟨here, later⟩ := List.forall_mem_cons.mp reads
  have go (text cs : List Char) : spacedWord (wordIgnoringCase ['A', 'N', 'D'])
      (Query.spaced ['A', 'N', 'D'] ++ (Query.parenthesize text ++ cs)) =
        some ((), Query.parenthesize text ++ cs) :=
    spacedWord_spaced (by decide) rfl (closed_parenthesize text cs)
  have tail := many_operands go (fun q hq more _ => later q hq more) (spacedWord_of_closed closed)
    rfl
  rw [Query.write, Query.writeOperands, intercalate_cons, List.append_assoc]
  simp only [readAnd, here, Option.bind_eq_bind, Option.bind_some, tail]
  simp [join, several]

theorem readOr_write (several : others ≠ []) (closed : Closed rest) :
    readOr unary ((Query.or (first :: others)).write ++ rest) =
      some (.or (first :: others), rest) := by
  have go (text cs : List Char) : orElse (spacedWord (wordIgnoringCase ['O', 'R'])) spaces1
      (Query.spaced ['O', 'R'] ++ (Query.parenthesize text ++ cs)) =
        some ((), Query.parenthesize text ++ cs) :=
    orElse_some (spacedWord_spaced (by decide) rfl (closed_parenthesize text cs))
  -- Neither what follows the operands nor an "or" goes on with an "and".
  have stop (more : List Char) (behind : more = rest ∨ ∃ cs, more = Query.spaced ['O', 'R'] ++ cs) :
      spacedWord (wordIgnoringCase ['A', 'N', 'D']) more = none := by
    obtain rfl | ⟨cs, rfl⟩ := behind
    · exact spacedWord_of_closed closed
    · rfl
  have operands (q : Query) (hq : q ∈ first :: others) (more : List Char) behind :=
    readAnd_alone (reads q hq more) (stop more behind)
  obtain ⟨here, later⟩ := List.forall_mem_cons.mp operands
  have tail := many_operands go later (joins_of_closed closed) rfl
  rw [Query.write, Query.writeOperands, intercalate_cons, List.append_assoc]
  simp only [readOr, here _ (behind_separated ..), Option.bind_eq_bind, Option.bind_some, tail]
  simp [join, several]

end Joined

/-! ## Queries -/

/-- Each operand is shorter than the text that it is part of, as it stands between parentheses. -/
theorem length_operand (separator : List Char) {qs : List Query} (mem : q ∈ qs) :
    q.write.length + 2 ≤ (separator.intercalate (Query.writeOperands qs)).length := by
  rw [Query.writeOperands_eq_map]
  have part := length_le_intercalate separator
    (List.mem_map_of_mem (f := fun q => Query.parenthesize q.write) mem)
  rwa [Query.parenthesize, List.length_cons, List.length_append, List.length_singleton] at part

/-- What is read with some fuel: each query that is short enough, alone and as an operand. -/
structure Reads (fuel : Nat) : Prop where
  query : ∀ q : Query, q.Legible → q.write.length < fuel → ∀ rest, Closed rest →
    readOr (readUnary fuel) (q.write ++ rest) = some (q, rest)
  operand : ∀ q : Query, q.Legible → q.write.length + 1 < fuel → ∀ rest,
    readUnary fuel (Query.parenthesize q.write ++ rest) = some (q, rest)

theorem Reads.succ (ih : Reads fuel) : Reads (fuel + 1) := by
  have operand (q : Query) (legible : q.Legible) (short : q.write.length + 1 < fuel + 1)
      (rest : List Char) :
      readUnary (fuel + 1) (Query.parenthesize q.write ++ rest) = some (q, rest) :=
    readUnary_group (closed_write legible) <|
      ih.query q legible (by omega) _ (closed_cons (by decide))
  refine ⟨fun q legible short rest closed => ?_, operand⟩
  have alone (h : readUnary (fuel + 1) (q.write ++ rest) = some (q, rest)) :
      readOr (readUnary (fuel + 1)) (q.write ++ rest) = some (q, rest) :=
    readOr_alone (readAnd_alone h (spacedWord_of_closed closed)) closed
  have operands {separator : List Char} {qs : List Query} (legible : Query.LegibleAll qs)
      (short : (separator.intercalate (Query.writeOperands qs)).length < fuel + 1) (q : Query)
      (hq : q ∈ qs) (more : List Char) :
      readUnary (fuel + 1) (Query.parenthesize q.write ++ more) = some (q, more) := by
    have part := length_operand separator hq
    exact operand q ((Query.legibleAll_iff qs).mp legible q hq) (by omega) more
  cases q with
  | term field value =>
    refine alone (Eq.trans ?_ (readClause_term legible.1 legible.2))
    rw [Query.write, List.append_assoc]
    exact readUnary_field legible.1
  | range field lower upper inclusive =>
    obtain ⟨name, hl, hu⟩ := legible
    refine alone (Eq.trans ?_ (readClause_range name hl hu))
    rw [Query.write, List.append_assoc]
    exact readUnary_field name
  | and queries =>
    obtain ⟨several, each⟩ := legible
    have each := operands each short
    match queries with
    | first :: second :: others =>
      exact readOr_alone (readAnd_write each (List.cons_ne_nil _ _) closed) closed
  | or queries =>
    obtain ⟨several, each⟩ := legible
    have each := operands each short
    match queries with
    | first :: second :: others => exact readOr_write each (List.cons_ne_nil _ _) closed
  | not query =>
    have longer : query.not.write.length = query.write.length + 6 := by
      simp [Query.write, Query.parenthesize]
    exact alone (readUnary_not (ih.operand query legible (by omega) rest))

theorem reads (fuel : Nat) : Reads fuel := by
  induction fuel with
  | zero => exact ⟨fun _ _ short => absurd short (Nat.not_lt_zero _),
      fun _ _ short => absurd short (Nat.not_lt_zero _)⟩
  | succ fuel ih => exact ih.succ

namespace Query

/-- A query is read back from its text. -/
theorem reads_back (q : Query) (legible : q.Legible) : parse q.print = .ok q := by
  have ends : Closed [] := by simp [Closed]
  have read := (reads (q.write.length + 1)).query q legible (Nat.lt_succ_self _) [] ends
  rw [List.append_nil] at read
  rw [parse, print, String.toList_ofList, trim_write legible]
  simp only [read]
  rfl

/-- Fields may be called like the words of the notation. -/
theorem reads_back_keywords :
    parse "(NOT:\"or\") OR ((ORDER:[\"a\" TO \"b (\"\x7d) AND (NOT (and:\"\")))" =
      .ok (.or [.term "NOT" "or",
        .and [.range "ORDER" "a" "b (" false, .not (.term "and" "")]]) := by
  refine reads_back (.or [.term "NOT" "or",
    .and [.range "ORDER" "a" "b (" false, .not (.term "and" "")]]) ?_
  exact ⟨by decide, ⟨by decide +kernel, by decide⟩,
    ⟨by decide, ⟨by decide +kernel, by decide, by decide⟩, ⟨by decide +kernel, by decide⟩,
      trivial⟩, trivial⟩

end Query

end Groupwise.Lucene
