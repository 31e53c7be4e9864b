import Reckoner.Prompt.Dedent
import Reckoner.Prompt.Render
import Reckoner.Text.Blank

namespace Reckoner

open Reckoner.Text Reckoner.Prompt

/-- A template that declares the names it uses. -/
structure Prompt where
  id : String
  names : List String
  text : String
  deriving DecidableEq, Repr

namespace Prompt

/-- Why a prompt cannot be made. -/
inductive MakeFault where
  | template (fault : TemplateFault)
  | names (id : String) (declared used : List String)
  deriving DecidableEq, Repr

/-- Texts in the order of their code points. -/
def sorted (names : List String) : List String :=
  names.mergeSort (fun a b => decide (a ≤ b))

def MakeFault.message : MakeFault → String
  | .template fault => fault.message
  | .names id declared used =>
    "Prompt '" ++ id ++ "' declares " ++ quotedList (sorted declared) ++ " but uses " ++
      quotedList (sorted used) ++ "."

/-- The text of a template: without its margin and without white space at its ends. -/
def textOf (template : String) : List Char :=
  trimBy isBlank (dedent template.toList)

/-- The names that a template uses, each once. -/
def usedNames (pieces : List Piece) : List String :=
  ((fieldNames pieces).map String.ofList).eraseDups

def sameNames (declared used : List String) : Bool :=
  declared.all (used.contains ·) && used.all (declared.contains ·)

def make (id template : String) (declared : List String) : Except MakeFault Prompt := do
  let text := textOf template
  let pieces ← (parse text).mapError .template
  let used := usedNames pieces
  if sameNames declared used then return ⟨id, declared, String.ofList text⟩
  else throw (.names id declared used)

/-- Why a prompt has no rendering. -/
inductive Refusal where
  | missing (id : String) (names : List String)
  | fault (fault : RenderFault)
  deriving DecidableEq, Repr

def Refusal.message : Refusal → String
  | .missing id names =>
    "Prompt '" ++ id ++ "' is missing variables: " ++ ", ".intercalate names ++ "."
  | .fault f => f.message

def missing (p : Prompt) (values : List (String × String)) : List String :=
  p.names.filter fun name => (values.lookup name).isNone

/-- Fills the declared names with their values; other values have no influence. -/
def render (p : Prompt) (values : List (String × String)) : Except Refusal String := do
  let absent := p.missing values
  if !absent.isEmpty then throw (.missing p.id absent)
  let declared := values.filter fun v => p.names.contains v.1
  let text ← (renderText declared nesting p.text.toList).mapError .fault
  return String.ofList text

/-- The rendering of a prompt that has one. -/
def fill (p : Prompt) (values : List (String × String)) : String :=
  match p.render values with
  | .ok s => s
  | .error _ => ""

def extraction : Prompt where
  id := "pipeline.extract.v1"
  names := ["question"]
  text := "Extract the mathematical expression from this question. Return ONLY the math expression with numbers and operators, nothing else.

Question: \"\x7bquestion\x7d\"

Examples:
- \"how much is 42987429742+43434343?\" → \"42987429742+43434343\"
- \"what is 25% of 480?\" → \"480*0.25\"
- \"calculate 100 minus 37\" → \"100-37\"

Expression:"

def formatting : Prompt where
  id := "pipeline.format.v1"
  names := ["question", "expression", "result"]
  text := "Format this math solution into a friendly response.

Question: \"\x7bquestion\x7d\"
Expression: \x7bexpression\x7d
Result: \x7bresult\x7d

Provide a natural, conversational response that includes the answer. Be concise."

end Prompt

end Reckoner
