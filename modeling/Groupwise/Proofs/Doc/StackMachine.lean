import Groupwise.Proofs.Decimal.Numeral
import Groupwise.Proofs.Doc.Meaning
import Mathlib.Data.List.Forall2

/-!
# The stack machine of an engine

A machine runs a program token by token. A numeral is pushed, an operator takes its operands from
the stack and pushes its result, and every other token is a question whose answer is pushed. A
program that leaves on every stack exactly one more value computes that value.
-/
namespace Groupwise.Doc

/-! ## Operators -/

/-- The operators of two operands. -/
inductive Operator where
  | add
  | extreme (kind : Metric.Extreme)
  | arithmetic (op : Arithmetic)
  | compare (op : Comparison)

namespace Operator

def symbol : Operator → String
  | .add => "+"
  | .extreme .min => "min()"
  | .extreme .max => "max()"
  | .arithmetic op => op.symbol
  | .compare op => op.symbol

def apply (engine : Engine) : Operator → Int64 → Int64 → Int64
  | .add, a, b => a + b
  | .extreme kind, a, b => kind.pick a b
  | .arithmetic op, a, b => engine.calculate op a b
  | .compare op, a, b => bit (op.holds a b)

def every : List Operator :=
  [.add, .extreme .min, .extreme .max, .arithmetic .subtract, .arithmetic .multiply,
    .arithmetic .divide, .arithmetic .modulus, .compare .eq, .compare .ne, .compare .lt,
    .compare .lte, .compare .gt, .compare .gte]

def ofText? (text : List Char) : Option Operator := every.find? (·.symbol.toList == text)

end Operator

/-- The operators of one operand. -/
inductive UnaryOperator where
  | abs
  | log (scale : Int)
  | exponentiate (scale : Int)
  | bucket (text : String)

namespace UnaryOperator

def symbol : UnaryOperator → String
  | .abs => "abs()"
  | .log scale => "log " ++ toString scale
  | .exponentiate scale => "exp " ++ toString scale
  | .bucket text => "random_metric " ++ text

def apply (engine : Engine) : UnaryOperator → Int64 → Int64
  | .abs, a => magnitude a
  | .log scale, a => engine.log scale a
  | .exponentiate scale, a => engine.exponentiate scale a
  | .bucket text, a => engine.bucket text a

def ofText? (text : List Char) : Option UnaryOperator :=
  if text == "abs()".toList then some .abs
  else if let some scale := "log ".toList.isPrefixOf? text then
    (Decimal.readInt? scale).map .log
  else if let some scale := "exp ".toList.isPrefixOf? text then
    (Decimal.readInt? scale).map .exponentiate
  else ("random_metric ".toList.isPrefixOf? text).map fun rest => .bucket (.ofList rest)

end UnaryOperator

/-! ## Tokens -/

/-- What a token of a program stands for. -/
inductive Token where
  | value (v : Int64)
  | unary (op : UnaryOperator)
  | binary (op : Operator)
  | question

def Token.ofText (text : String) : Token :=
  if text.toList == "count()".toList then .value 1
  else match Decimal.readInt64? text with
    | some v => .value v
    | none => match Operator.ofText? text.toList with
      | some op => .binary op
      | none => match UnaryOperator.ofText? text.toList with
        | some op => .unary op
        | none => .question

namespace Token

theorem ofText_toString (v : Int64) : ofText (toString v.toInt) = .value v := by
  have read := Decimal.readInt64?_toString v
  have differs : ((toString v.toInt).toList == "count()".toList) = false := by
    refine beq_eq_false_iff_ne.mpr fun he => ?_
    rw [Decimal.readInt64?, he] at read
    cases (show none = some v from read)
  simp only [ofText, differs, read, Bool.false_eq_true, if_false]

theorem ofText_symbol (op : Operator) : ofText op.symbol = .binary op := by
  rcases op with _ | kind | op | op
  · rfl
  · cases kind <;> rfl
  · cases op <;> rfl
  · cases op <;> rfl

theorem ofText_unarySymbol (op : UnaryOperator) : ofText op.symbol = .unary op := by
  cases op with
  | abs => rfl
  | log scale =>
    have read := Decimal.readInt?_toString scale
    rw [ofText, Decimal.readInt64?, UnaryOperator.symbol, String.toList_append]
    change (match Option.map UnaryOperator.log (Decimal.readInt? (toString scale).toList) with
      | some op => Token.unary op
      | none => Token.question) = _
    rw [read]
    rfl
  | exponentiate scale =>
    have read := Decimal.readInt?_toString scale
    rw [ofText, Decimal.readInt64?, UnaryOperator.symbol, String.toList_append]
    change (match Option.map UnaryOperator.exponentiate
        (Decimal.readInt? (toString scale).toList) with
      | some op => Token.unary op
      | none => Token.question) = _
    rw [read]
    rfl
  | bucket text =>
    rw [ofText, Decimal.readInt64?, UnaryOperator.symbol, String.toList_append]
    change Token.unary (.bucket (String.ofList text.toList)) = _
    rw [String.ofList_toList]

/-- The words with which questions begin. -/
def questionWords : List String :=
  ["docId()", "regex ", "regexmatch ", "hasint ", "hasstr ", "hasintfield ", "hasstrfield ",
    "fieldequal ", "floatscale ", "len ", "inttermcount ", "strtermcount ", "lucene ", "random "]

theorem ofText_questionWord {word : String} (h : word ∈ questionWords) (rest : String) :
    ofText (word ++ rest) = .question := by
  rw [ofText, Decimal.readInt64?, String.toList_append]
  simp only [questionWords, List.mem_cons, List.not_mem_nil, or_false] at h
  rcases h with rfl | rfl | rfl | rfl | rfl | rfl | rfl | rfl | rfl | rfl | rfl | rfl | rfl | rfl
    <;> rfl

end Token

/-! ## Questions -/

def Test.text : Test → String
  | .hasInt name term => "hasint " ++ (name ++ (":" ++ toString term.toInt))
  | .hasString name term => "hasstr " ++ (name ++ (":" ++ term))
  | .hasIntField name => "hasintfield " ++ name
  | .hasStringField name => "hasstrfield " ++ name
  | .regex name pattern => "regex " ++ (name ++ (":" ++ pattern))
  | .fieldEqual left right => "fieldequal " ++ (left ++ ("=" ++ right))

/-- The text of a question for an integer. The value of a field goes by the name of the field. -/
def Measure.text : Measure → String
  | .field name => name
  | .docId => "docId()"
  | .extract name pattern group =>
    "regexmatch " ++ (name ++ (" " ++ (toString group ++ (" " ++ pattern))))
  | .floatScale name factor summand =>
    "floatscale " ++ (name ++ ("*" ++ (Decimal.Layout.plain.write factor ++
      ("+" ++ Decimal.Layout.plain.write summand))))
  | .stringLength name => "len " ++ name
  | .intTermCount name => "inttermcount " ++ name
  | .stringTermCount name => "strtermcount " ++ name
  | .bucket name isIntField bounds salt =>
    "random " ++ (fieldKind isIntField ++ (" [" ++ (bounds ++ ("] " ++ (name ++
      (" \"" ++ (salt ++ "\"")))))))

def Query.text (q : Query) : String := "lucene " ++ Base64.encodeText q.toJson.compact

theorem Token.ofText_test (t : Test) : Token.ofText t.text = .question := by
  cases t <;> exact Token.ofText_questionWord (by decide) _

theorem Token.ofText_query (q : Query) : Token.ofText q.text = .question :=
  Token.ofText_questionWord (by decide) _

theorem Token.ofText_measure {m : Measure} (named : ∀ name, m ≠ .field name) :
    Token.ofText m.text = .question := by
  cases m with
  | field name => exact absurd rfl (named name)
  | docId => rfl
  | _ => exact Token.ofText_questionWord (by decide) _

/-! ## Runs -/

/-- An engine with the answers to questions. -/
structure Machine where
  engine : Engine
  answer : String → Int64

namespace Machine

variable {machine : Machine}

/-- The stack after a token, the top of it first. Nothing is left where operands are missing. -/
def step (machine : Machine) (stack : List Int64) (token : String) : Option (List Int64) :=
  match Token.ofText token, stack with
  | .value v, stack => some (v :: stack)
  | .unary op, a :: stack => some (op.apply machine.engine a :: stack)
  | .binary op, b :: a :: stack => some (op.apply machine.engine a b :: stack)
  | .question, stack => some (machine.answer token :: stack)
  | _, _ => none

/-- The stack after a program. -/
def run (machine : Machine) (program : List String) (stack : List Int64) : Option (List Int64) :=
  program.foldlM machine.step stack

/-- A program leaves one more value on every stack. -/
def Computes (machine : Machine) (program : List String) (v : Int64) : Prop :=
  ∀ stack, machine.run program stack = some (v :: stack)

theorem run_append (p q : List String) (stack : List Int64) :
    machine.run (p ++ q) stack = (machine.run p stack).bind (machine.run q) :=
  List.foldlM_append

theorem run_single (token : String) (stack : List Int64) :
    machine.run [token] stack = machine.step stack token := by
  rw [run, List.foldlM_cons]
  cases machine.step stack token <;> rfl

theorem computes_value {token : String} {v : Int64} (h : Token.ofText token = .value v) :
    machine.Computes [token] v := by
  intro stack
  rw [run_single]
  simp only [step, h]

theorem computes_constant (v : Int64) : machine.Computes [toString v.toInt] v :=
  computes_value (Token.ofText_toString v)

theorem computes_answer {token : String} {v : Int64} (h : Token.ofText token = .question)
    (answer : machine.answer token = v) : machine.Computes [token] v := by
  intro stack
  rw [run_single]
  simp only [step, h, answer]

variable {p q : List String} {a b : Int64}

theorem Computes.unary (h : machine.Computes p a) (op : UnaryOperator) :
    machine.Computes (p ++ [op.symbol]) (op.apply machine.engine a) := by
  intro stack
  rw [run_append, h, Option.bind_some, run_single]
  simp only [step, Token.ofText_unarySymbol]

theorem Computes.binary (hp : machine.Computes p a) (hq : machine.Computes q b) (op : Operator) :
    machine.Computes (p ++ q ++ [op.symbol]) (op.apply machine.engine a b) := by
  intro stack
  rw [run_append, run_append, hp, Option.bind_some, hq, Option.bind_some, run_single]
  simp only [step, Token.ofText_symbol]

/-- Programs with the values that they compute, one after another. -/
def ComputesAll (machine : Machine) : List (List String) → List Int64 → Prop :=
  List.Forall₂ machine.Computes

theorem Computes.chain {ps : List (List String)} {vs : List Int64} (h : machine.Computes p a)
    (hs : machine.ComputesAll ps vs) (op : Operator) :
    machine.Computes (Doc.chain op.symbol (p :: ps)) (vs.foldl (op.apply machine.engine) a) := by
  induction hs generalizing p a with
  | nil =>
    rw [Doc.chain, List.flatMap_nil, List.append_nil]
    exact h
  | cons hq _ ih =>
    have first := ih (h.binary hq op)
    rw [Doc.chain, List.append_assoc, List.append_assoc] at first
    rw [Doc.chain, List.flatMap_cons, List.append_assoc]
    exact first

theorem Computes.choice {truth yes no : List String} {c : Bool}
    (ht : machine.Computes truth (bit c)) (hy : machine.Computes yes a)
    (hn : machine.Computes no b) :
    machine.Computes (Doc.choice truth yes no) (if c then a else b) := by
  have one : machine.Computes ["1"] 1 := computes_value rfl
  have taken := ht.binary hy (.arithmetic .multiply)
  have other := (one.binary ht (.arithmetic .subtract)).binary hn (.arithmetic .multiply)
  have both := taken.binary other .add
  have value : bit c * a + (1 - bit c) * b = if c then a else b := by
    cases c
    · simp [bit]
    · simp [bit]
  rw [← value]
  exact both

end Machine

end Groupwise.Doc
