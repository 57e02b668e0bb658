import Groupwise.CacheKey

/-!
# Usage of the command line

A program takes settings, which have names and perhaps letters, and an operand, or else a command
with settings and an operand of its own. What is known of them serves to read the arguments and to
print the help.
-/
namespace Groupwise.CommandLine

/-- Something that may be set by name. -/
structure Setting where
  name : String
  letter : Option Char := none
  /-- What stands for the value in the help; a setting without one is a switch. -/
  value : Option String := none
  help : String := ""
  default : Option String := none
  choices : List String := []
  mayBeEmpty : Bool := false
  deriving Repr, DecidableEq, Inhabited

namespace Setting

def accepts (s : Setting) (value : String) : Bool :=
  (s.mayBeEmpty || !value.isEmpty) && (s.choices.isEmpty || s.choices.contains value)

def title (s : Setting) : String :=
  "--" ++ s.name ++ (s.value.map fun v => " <" ++ v ++ ">").getD ""

def letterColumn (s : Setting) : String :=
  match s.letter with
  | some c => "-" ++ String.singleton c ++ ", "
  | none => "    "

def remarks (s : Setting) : String :=
  " ".intercalate ((s.default.map fun v => "[default: " ++ v ++ "]").toList ++
    (if s.choices.isEmpty then []
      else ["[possible values: " ++ ", ".intercalate s.choices ++ "]"]))

def text (s : Setting) : String :=
  if s.help.isEmpty || s.remarks.isEmpty then s.help ++ s.remarks else s.help ++ " " ++ s.remarks

end Setting

structure Operand where
  name : String
  help : String
  isRequired : Bool := true
  mayBeEmpty : Bool := true
  deriving Repr, DecidableEq, Inhabited

def Operand.accepts (o : Operand) (value : String) : Bool := o.mayBeEmpty || !value.isEmpty

def Operand.title (o : Operand) : String :=
  if o.isRequired then "<" ++ o.name ++ ">" else "[" ++ o.name ++ "]"

structure Usage where
  name : String
  about : String
  settings : List Setting
  operand : Option Operand := none
  deriving Repr, DecidableEq, Inhabited

structure Given where
  settings : List (String × String) := []
  operand : Option String := none
  deriving Repr, DecidableEq, Inhabited

def Given.find? (g : Given) (name : String) : Option String :=
  (g.settings.find? (·.1 == name)).map (·.2)

inductive Stop where
  | misuse
  | help
  | version
  deriving Repr, DecidableEq, Inhabited

namespace Usage

/-- Note a value. No setting may be given twice. -/
def set (s : Setting) (value : String) (g : Given) : Except Stop Given :=
  if (g.find? s.name).isSome || !s.accepts value then .error .misuse
  else .ok { g with settings := g.settings ++ [(s.name, value)] }

/-- Note the operand. There is one at most. -/
def setOperand (u : Usage) (value : String) (g : Given) : Except Stop Given :=
  if u.operand.any (·.accepts value) && g.operand.isNone then .ok { g with operand := some value }
  else .error .misuse

inductive Item where
  | operand
  /-- The arguments behind this one are all operands. -/
  | endOfSettings
  /-- Settings, the last of which may lack its value. -/
  | settings (complete : List (Setting × String)) (open_ : Option Setting)
  | stop (reason : Stop)

def named (u : Usage) (isProgram : Bool) (name : String) (value : Option String) : Item :=
  match u.settings.find? (·.name == name), value with
  | some s, none => if s.value.isSome then .settings [] (some s) else .settings [(s, "true")] none
  | some s, some value => if s.value.isSome then .settings [(s, value)] none else .stop .misuse
  | none, none =>
    .stop (if name == "help" then .help else if isProgram && name == "version" then .version
      else .misuse)
  | none, some _ => .stop .misuse

/-- Settings by their letters. The first one that takes a value takes the rest. -/
def lettered (u : Usage) (isProgram : Bool) (seen : List (Setting × String)) : List Char → Item
  | [] => .settings seen none
  | c :: rest =>
    match u.settings.find? (·.letter == some c) with
    | some s =>
      if s.value.isNone then lettered u isProgram (seen ++ [(s, "true")]) rest
      else match rest with
        | [] => .settings seen (some s)
        | '=' :: value => .settings (seen ++ [(s, String.ofList value)]) none
        | value => .settings (seen ++ [(s, String.ofList value)]) none
    | none => .stop (if c = 'h' then .help else if isProgram && c = 'V' then .version else .misuse)

def item (u : Usage) (isProgram : Bool) (argument : String) : Item :=
  match argument.toList with
  | ['-', '-'] => .endOfSettings
  | '-' :: '-' :: rest =>
    let name := String.ofList (rest.takeWhile (· ≠ '='))
    match rest.dropWhile (· ≠ '=') with
    | _ :: value => u.named isProgram name (some (String.ofList value))
    | [] => u.named isProgram name none
  | '-' :: c :: rest => u.lettered isProgram [] (c :: rest)
  | _ => .operand

def isValue (argument : String) : Bool :=
  match argument.toList with
  | '-' :: _ :: _ => false
  | _ => true

/-- Read the arguments of a command, or those of a program in front of its command, which is given
back with the arguments behind it. -/
def scan (u : Usage) (isProgram hasCommands : Bool) (g : Given) :
    List String → Except Stop (Given × Option (String × List String))
  | [] => .ok (g, none)
  | argument :: rest =>
    match u.item isProgram argument with
    | .stop reason => .error reason
    | .endOfSettings => do
      if hasCommands && !rest.isEmpty then .error .misuse
      .ok (← rest.foldlM (fun g value => u.setOperand value g) g, none)
    | .operand =>
      if hasCommands then .ok (g, some (argument, rest))
      else do (u.scan isProgram hasCommands (← u.setOperand argument g) rest)
    | .settings complete none => do
      let g ← complete.foldlM (fun g (s, value) => set s value g) g
      u.scan isProgram hasCommands g rest
    | .settings complete (some s) => do
      let g ← complete.foldlM (fun g (s, value) => set s value g) g
      match rest with
      | [] => .error .misuse
      | value :: rest =>
        if isValue value then do u.scan isProgram hasCommands (← set s value g) rest
        else .error .misuse

def complete (u : Usage) (g : Given) : Except Stop Given :=
  if u.operand.any (·.isRequired) && g.operand.isNone then .error .misuse else .ok g

/-! ## Help -/

def pad (width : Nat) (text : String) : String :=
  text ++ String.ofList (List.replicate (width - text.length) ' ')

/-- How wide a line of help is meant to be. -/
def lineWidth : Nat := 100

/-- The settings with those that every program has. -/
def shownSettings (u : Usage) (isProgram : Bool) : List Setting :=
  u.settings ++ [{ name := "help", letter := some 'h', help := "Print help" }] ++
    if isProgram then [{ name := "version", letter := some 'V', help := "Print version" }] else []

/-- The part about the settings. When some text is too long to stand beside its setting, all texts
stand below. -/
def settingLines (settings : List Setting) : List String :=
  let width := settings.foldl (fun n s => max n (s.title.length + 4)) 0
  let isTight := settings.any fun s =>
    let length := s.help.length + s.remarks.length
    width + 12 ≤ lineWidth && 5 * (width + 12) > 2 * lineWidth && length > lineWidth - (width + 12)
  settings.map fun s =>
    if isTight then "  " ++ s.letterColumn ++ s.title ++ "\n          " ++ s.text
    else "  " ++ pad (width + 2) (s.letterColumn ++ s.title) ++ s.text

def commandLines (commands : List Usage) : List String :=
  if commands.isEmpty then []
  else
    let all := commands.map (fun c => (c.name, c.about)) ++
      [("help", "Print this message or the help of the given subcommand(s)")]
    let width := all.foldl (fun n c => max n c.1.length) 0
    ["Commands:"] ++ all.map (fun c => "  " ++ pad (width + 2) c.1 ++ c.2) ++ [""]

def helpText (program : Option String) (commands : List Usage) (u : Usage) : String :=
  let name := (program.map (· ++ " ")).getD "" ++ u.name
  let call := "Usage: " ++ name ++ " [OPTIONS]" ++ (if commands.isEmpty then "" else " <COMMAND>") ++
    (u.operand.map fun o => " " ++ o.title).getD ""
  let operand := match u.operand with
    | some o => ["Arguments:", "  " ++ o.title ++ "  " ++ o.help, ""]
    | none => []
  "\n".intercalate ([u.about, "", call, ""] ++ commandLines commands ++ operand ++ ["Options:"] ++
    settingLines (u.shownSettings program.isNone)) ++ "\n"

end Usage

end Groupwise.CommandLine
