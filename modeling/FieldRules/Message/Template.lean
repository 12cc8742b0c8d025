namespace FieldRules.Template

inductive Piece where
  | plain (c : Char)
  | placeholder (name : List Char)
deriving DecidableEq

def startsName (c : Char) : Bool := c.isAlpha || c = '_'

/-- Whether a character goes on with a placeholder of digits or of a name. -/
def continues (digits : Bool) (c : Char) : Bool :=
  if digits then c.isDigit else startsName c || c.isDigit

/-- Where a reader of templates stands: in plain text, after a colon, or in a placeholder. -/
inductive Place where
  | text
  | colon
  | name (digits : Bool) (sofar : List Char)

/-- The pieces of a template from a place on. A character that ends a placeholder, or that shows a
colon to be none, is read like one in plain text. -/
def piecesFrom : Place → List Char → List Piece
  | .text, [] => []
  | .colon, [] => [.plain ':']
  | .name _ sofar, [] => [.placeholder sofar]
  | .text, c :: cs =>
    if c = ':' then piecesFrom .colon cs else .plain c :: piecesFrom .text cs
  | .colon, c :: cs =>
    if c.isDigit then piecesFrom (.name true [c]) cs
    else if startsName c then piecesFrom (.name false [c]) cs
    else if c = ':' then .plain ':' :: piecesFrom .colon cs
    else .plain ':' :: .plain c :: piecesFrom .text cs
  | .name digits sofar, c :: cs =>
    if continues digits c then piecesFrom (.name digits (sofar ++ [c])) cs
    else if c = ':' then .placeholder sofar :: piecesFrom .colon cs
    else .placeholder sofar :: .plain c :: piecesFrom .text cs

def pieces (template : List Char) : List Piece := piecesFrom .text template

def Piece.written : Piece → List Char
  | plain c => [c]
  | placeholder name => ':' :: name

/-- The pieces with their placeholders filled. -/
def fill {m : Type → Type} [Monad m] (resolve : String → m (Option String)) :
    List Piece → m (List Char)
  | [] => pure []
  | .plain c :: rest => do
    let filled ← fill resolve rest
    pure (c :: filled)
  | .placeholder name :: rest => do
    let answer ← resolve (String.ofList name)
    let filled ← fill resolve rest
    match answer with
    | some text => pure (text.toList ++ filled)
    | none => pure (':' :: name ++ filled)

/-- A template with its placeholders filled by a resolver, which may keep a state. -/
def substituteM {m : Type → Type} [Monad m] (resolve : String → m (Option String))
    (template : String) : m String := do
  let filled ← fill resolve (pieces template.toList)
  pure (String.ofList filled)

def substitute (resolve : String → Option String) (template : String) : String :=
  Id.run (substituteM (fun name => pure (resolve name)) template)

/-- Fills a template from a table and tells for which placeholders it was asked. -/
def substituteFrom (values : List (String × String)) (template : String) :
    String × List String :=
  let ask (name : String) : StateM (List String) (Option String) := do
    modify fun asked => asked ++ [name]
    pure (values.lookup name)
  (substituteM ask template).run []

end FieldRules.Template
