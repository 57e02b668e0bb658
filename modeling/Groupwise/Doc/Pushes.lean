import Groupwise.Base64
import Groupwise.Decimal.Layout
import Groupwise.Doc.Truth

/-!
# Programs of metrics

The engine computes a metric with a stack. The program of a metric in a dataset lists what is
pushed and combined, operands before operators.
-/
namespace Groupwise.Doc

def floatOfNat (n : Nat) : Float := Decimal.Binary.nearest false n 1

def fractionText (numerator denominator : Nat) : String :=
  Decimal.Layout.plain.write (floatOfNat numerator / floatOfNat denominator)

/-- The bounds between `n` buckets of equal size. -/
def bucketBounds (n : Nat) : String :=
  ",".intercalate ((List.range' 1 (n - 1)).map fun i => fractionText i n)

def fieldKind (isIntField : Bool) : String := if isIntField then "int" else "str"

/-- Programs combined by one operator, `p₀ p₁ op p₂ op …`. -/
def chain (operator : String) : List (List String) → List String
  | [] => []
  | first :: rest => first ++ rest.flatMap (· ++ [operator])

/-- The program of a choice, from those of its truth metric and of both its branches. -/
def choice (truth yes no : List String) : List String :=
  truth ++ yes ++ ["*"] ++ (["1"] ++ truth ++ ["-"] ++ no ++ ["*"]) ++ ["+"]

mutual

def Metric.pushes (dataset : String) (m : Metric) : CompileM (List String) :=
  match m with
  | .field f => do pure [← f.nameIn dataset]
  | .constant v => .ok [toString v.toInt]
  | .count => .ok ["count()"]
  | .docId => .ok ["docId()"]
  | .log m scale => do pure ((← m.pushes dataset) ++ ["log " ++ toString scale])
  | .exponentiate m scale => do pure ((← m.pushes dataset) ++ ["exp " ++ toString scale])
  | .negate m => do pure (["0"] ++ (← m.pushes dataset) ++ ["-"])
  | .abs m => do pure ((← m.pushes dataset) ++ ["abs()"])
  | .signum m => do
    let p ← m.pushes dataset
    pure (choice (p ++ ["0", ">"]) ["1"] (choice (p ++ ["0", "<"]) ["-1"] ["0"]))
  | .add ms => do pure (chain "+" (← Metric.pushesOfAll dataset ms))
  | .least ms => do pure (chain "min()" (← Metric.pushesOfAll dataset ms))
  | .greatest ms => do pure (chain "max()" (← Metric.pushesOfAll dataset ms))
  | .arithmetic op l r => do
    let p ← l.pushes dataset
    let q ← r.pushes dataset
    pure (p ++ q ++ [op.symbol])
  | .compare op l r => do
    let p ← l.pushes dataset
    let q ← r.pushes dataset
    pure (p ++ q ++ [op.symbol])
  | .ifThenElse c yes no =>
    match _h : c.truth dataset with
    | .error e => .error e
    | .ok truth => do
      let t ← truth.pushes dataset
      let y ← yes.pushes dataset
      let n ← no.pushes dataset
      pure (choice t y n)
  | .regex f pattern => do pure ["regex " ++ (← f.nameIn dataset) ++ ":" ++ pattern]
  | .extract f pattern group => do
    pure ["regexmatch " ++ (← f.nameIn dataset) ++ " " ++ toString group ++ " " ++ pattern]
  | .hasInt f term => do pure ["hasint " ++ (← f.nameIn dataset) ++ ":" ++ toString term.toInt]
  | .hasString f term => do pure ["hasstr " ++ (← f.nameIn dataset) ++ ":" ++ term]
  | .hasIntField f => do pure ["hasintfield " ++ (← f.nameIn dataset)]
  | .hasStringField f => do pure ["hasstrfield " ++ (← f.nameIn dataset)]
  | .fieldEqual l r => do
    let p ← l.nameIn dataset
    let q ← r.nameIn dataset
    pure ["fieldequal " ++ p ++ "=" ++ q]
  | .floatScale f a b => do
    pure ["floatscale " ++ (← f.nameIn dataset) ++ "*" ++ Decimal.Layout.plain.write a ++ "+" ++
      Decimal.Layout.plain.write b]
  | .stringLength f => do pure ["len " ++ (← f.nameIn dataset)]
  | .intTermCount f => do pure ["inttermcount " ++ (← f.nameIn dataset)]
  | .stringTermCount f => do pure ["strtermcount " ++ (← f.nameIn dataset)]
  | .lucene _ queries =>
    match Dictionary.find? dataset queries with
    | none => .error (.unknownDataset dataset)
    | some query => .ok ["lucene " ++ Base64.encodeText query.toJson.compact]
  | .qualified d m =>
    if d == dataset then m.pushes dataset
    else .error (.invalid
      ("Qualified DocMetric getting pushes for a different dataset! [" ++ d ++ "] != [" ++
        dataset ++ "]"))
  | .perDataset ms => Metric.pushesOfEntry dataset ms
  | .sample f isInt n d salt => do
    pure ["random " ++ fieldKind isInt ++ " [" ++ fractionText n d ++ "] " ++
      (← f.nameIn dataset) ++ " \"" ++ salt ++ "\""]
  | .sampleMetric m n d salt => do
    pure ((← m.pushes dataset) ++
      ["random_metric [" ++ fractionText n d ++ "] \"" ++ salt ++ "\""])
  | .random f isInt n salt => do
    pure ["random " ++ fieldKind isInt ++ " [" ++ bucketBounds n ++ "] " ++
      (← f.nameIn dataset) ++ " \"" ++ salt ++ "\""]
  | .randomMetric m n salt => do
    pure ((← m.pushes dataset) ++ ["random_metric [" ++ bucketBounds n ++ "] \"" ++ salt ++ "\""])
termination_by (m.depth, 0)
decreasing_by
  all_goals
    try have bound := Filter.depth_truth_le _ _ _ _h
    simp only [Metric.depth, Prod.lex_def]
    omega

def Metric.pushesOfAll (dataset : String) (ms : List Metric) : CompileM (List (List String)) :=
  match ms with
  | [] => .ok []
  | m :: rest => do
    let p ← m.pushes dataset
    let ps ← Metric.pushesOfAll dataset rest
    pure (p :: ps)
termination_by (Metric.depthOfAll ms, ms.length + 1)
decreasing_by
  all_goals
    simp only [Metric.depthOfAll, Prod.lex_def, List.length_cons]
    omega

/-- The program of the metric given for the dataset. -/
def Metric.pushesOfEntry (dataset : String) (ms : List (String × Metric)) :
    CompileM (List String) :=
  match ms with
  | [] => .error (.unknownDataset dataset)
  | (d, m) :: rest =>
    if d == dataset then m.pushes dataset else Metric.pushesOfEntry dataset rest
termination_by (Metric.depthOfEntries ms, ms.length + 1)
decreasing_by
  all_goals
    simp only [Metric.depthOfEntries, Prod.lex_def, List.length_cons]
    omega

end

def Filter.pushes (dataset : String) (f : Filter) : CompileM (List String) := do
  (← f.truth dataset).pushes dataset

end Groupwise.Doc
