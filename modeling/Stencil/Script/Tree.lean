/-! Commands as a shell reads them. -/
namespace Stencil
namespace Script

/-- The side of a value that a pattern is taken off. -/
inductive Side where
  | front
  | back
  deriving DecidableEq, Repr, Inhabited

inductive Direction where
  | write
  /-- Like `write`, whatever is there -/
  | overwrite
  | append
  | read
  | both
  deriving DecidableEq, Repr, Inhabited

mutual

/-- A piece of a word. What is quoted is neither cut at blanks nor a pattern. -/
inductive Part where
  | text (cs : List Char) (quoted : Bool)
  | parameter (name : String) (use : Use) (quoted : Bool)
  /-- What a command prints -/
  | output (body : Command) (quoted : Bool)
  /-- What a calculation comes to -/
  | sum (word : List Part) (quoted : Bool)

/-- What is done with the value of a parameter. With `filled` an empty value counts as none. -/
inductive Use where
  | plain
  | length
  | otherwise (filled : Bool) (word : List Part)
  | assigned (filled : Bool) (word : List Part)
  | required (filled : Bool) (word : List Part)
  | instead (filled : Bool) (word : List Part)
  | trimmed (side : Side) (longest : Bool) (word : List Part)
  /-- No use that is known -/
  | bad

inductive Redirection where
  | file (stream : Nat) (direction : Direction) (target : List Part)
  /-- To wherever another stream goes -/
  | same (stream : Nat) (target : List Part)
  /-- From a document in the text of the commands, by its number -/
  | document (stream : Nat) (number : Nat)

inductive Command where
  | nothing
  | simple (line : Nat) (assignments : List (String × List Part)) (words : List (List Part))
      (redirections : List Redirection)
  | pipe (first second : Command)
  | not (c : Command)
  | andThen (first second : Command)
  | orElse (first second : Command)
  | both (first second : Command)
  | cond (test yes no : Command)
  | loop (until_ : Bool) (test body : Command)
  | each (line : Nat) (name : String) (words : List (List Part)) (body : Command)
  | choose (line : Nat) (subject : List Part) (choices : List (List (List Part) × Command))
  | group (line : Nat) (body : Command) (redirections : List Redirection)
  /-- In a shell of its own -/
  | apart (line : Nat) (body : Command) (redirections : List Redirection)
  | behind (c : Command)
  | define (name : String) (body : Command)

end

abbrev Word := List Part

instance : Inhabited Part := ⟨.text [] false⟩

instance : Inhabited Use := ⟨.plain⟩

instance : Inhabited Command := ⟨.nothing⟩

instance : Inhabited Redirection := ⟨.document 0 0⟩

end Script
end Stencil
