import ExprLex.Client.Position
import ExprLex.Document

/-!
# Hovers

What a client shows for the token under the cursor.
-/

namespace ExprLex

namespace Client

/-- A description of a token, and the range it covers. -/
structure Hover where
  text : String
  range : Range
  deriving DecidableEq, Repr

/-- The description of a token. -/
def describe (t : Token) : String :=
  let subkind := match t.kind.subkind? with
    | none => ""
    | some name => ": " ++ name
  "(" ++ t.kind.label ++ ") `" ++ t.lexeme.toString ++ "`" ++ subkind ++ " at offset " ++ toString t.position

/-- The hover at a position of a client: nothing on lines without an expression and where no token is. -/
def hoverAt (a : Analysis) (line character : Int) : Except PositionError (Option Hover) :=
  match a.tokensOn? line with
  | none => .ok none
  | some _ => do
    let offset ← if a.lines.isEmpty then pure character else do
      let asked ← Position.make line character
      pure ((← asked.ofClient a.lines).character : Int)
    match a.tokenAt? line offset with
    | none => return none
    | some token => return some ⟨describe token, ← Range.onLine a.lines line token.position token.stop⟩

end Client

end ExprLex
