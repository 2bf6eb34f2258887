import TypedLambda.Explorer.Command
import TypedLambda.Gallery
import TypedLambda.Input.Dialogue
import TypedLambda.Output.Outcome

/-!
The explorer answers commands about the exhibits. What it says depends on the input alone, and
no input ends the session but the last one.
-/

namespace TypedLambda.Explorer

def greeting : String := "Hi, this is a HOAS term explorer. :h to show help\n\n"

def helpText : String := "\n".intercalate [
  "name                -- same as :render name",
  ":list               -- list the example terms",
  ":render     name    -- pretty-print the term",
  ":eval       name    -- evaluate the term",
  ":help               -- show this message"]

def unknownTerm (arg : String) : String := "Unknown term `" ++ arg ++ "`, try :list"

/-- Says something about the exhibit of that name. -/
def about (arg : String) (say : Exhibit → String) : Speech :=
  match Exhibit.find? arg with
  | some x => .outLine (say x)
  | none => .errLine (unknownTerm arg)

def Command.answer : Command → Speech
  | list => .outLine ("\n".intercalate (Exhibit.all.map Exhibit.name))
  | render arg => about arg Exhibit.text
  | value arg => about arg fun x => x.valueText?.getD (x.name ++ " denotes a function")
  | help => .outLine helpText
  | unknown word => .errLine ("Unknown command " ++ word) ++ .outLine helpText

/-- A blank input is met with silence. -/
def respond (input : String) : Speech :=
  match Command.ofInput? input with
  | some c => c.answer
  | none => .silence

/-- Says its part and goes on, whatever the input. -/
def handler : Handler Speech Empty where
  handle input := modify (· ++ respond input)
  save _ := return

/-- The whole session on one stream of input. -/
def session (bytes : List UInt8) : Outcome :=
  match (handler.converse bytes).perform ⟨greeting, ""⟩ with
  | (.ok bye, said) => { said ++ .outLine bye with code := 0 }
  | (.error (.input e), said) => { said ++ .errLine ("Error: " ++ e.message) with code := 1 }

end TypedLambda.Explorer
