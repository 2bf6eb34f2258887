import TypedLambda.Text.Blank

/-!
The commands of the explorer. A colon starts a command; its word goes up to the next blank, and
what follows is its argument. An input without a colon is the argument of the command whose word
is empty.
-/

namespace TypedLambda.Explorer

inductive Command where
  | list
  | render (arg : String)
  | value (arg : String)
  | help
  | unknown (word : String)
  deriving DecidableEq, Repr

namespace Command

/-- The word of an input, and its argument as it stands. -/
def split : List Char → List Char × List Char
  | ':' :: cs => (Text.cutAtBlank? (Text.trimLeft cs)).getD (Text.trim cs, [])
  | cs => ([], cs)

/-- Only the word decides which command is meant. The blanks around the argument are no part of
it. -/
def ofWord (word arg : List Char) : Command :=
  let arg := String.ofList (Text.trim arg)
  match String.ofList word with
  | "l" | "ls" | "list" => list
  | "" | "r" | "render" => render arg
  | "e" | "eval" | "evaluate" => value arg
  | "h" | "he" | "hel" | "help" => help
  | word => unknown word

/-- An input of nothing but blanks is no command. -/
def ofInput? (input : String) : Option Command :=
  if input.toList.all Text.isBlank then none
  else
    let p := split input.toList
    some (ofWord p.1 p.2)

end Command

end TypedLambda.Explorer
