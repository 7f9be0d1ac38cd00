import ExprLex.Token.Classify

/-!
# Token streams

Lexemes become tokens one by one. Blank lexemes give no token and are no context for the sign behind them, but they count
for the positions. The tokens of a list of lexemes can be made all at once (`Rules.tokenize`) or one at a time
(`Stream.pull`), taking no more lexemes than the token asked for needs.
-/

namespace ExprLex

/-- The tokens of the lexemes that follow a token, the first of them at the given position. -/
def Rules.tokensFrom (rules : Rules) : (position : Nat) → (previous : Option Token) → List Text → List Token
  | _, _, [] => []
  | position, previous, lexeme :: rest =>
    if Text.isBlank lexeme then rules.tokensFrom (position + lexeme.length) previous rest
    else
      let token := rules.classify lexeme position previous
      token :: rules.tokensFrom (position + lexeme.length) (some token) rest

/-- The tokens of a list of lexemes. -/
def Rules.tokenize (rules : Rules) (lexemes : List Text) : List Token := rules.tokensFrom 0 none lexemes

/-- A token stream that tokens are pulled from. -/
structure Stream where
  rules : Rules
  /-- the position of the next lexeme -/
  position : Nat
  /-- the last token pulled -/
  previous : Option Token
  /-- the lexemes not taken yet -/
  lexemes : List Text
  /-- how many lexemes have been taken -/
  consumed : Nat

namespace Stream

/-- The stream of a list of lexemes, before anything is pulled. -/
def start (rules : Rules) (lexemes : List Text) : Stream := ⟨rules, 0, none, lexemes, 0⟩

/-- The next token of the lexemes that follow, if there is one, and the stream after it. -/
def pullFrom (rules : Rules) (previous : Option Token) : (position consumed : Nat) → List Text → Option Token × Stream
  | position, consumed, [] => (none, ⟨rules, position, previous, [], consumed⟩)
  | position, consumed, lexeme :: rest =>
    if Text.isBlank lexeme then pullFrom rules previous (position + lexeme.length) (consumed + 1) rest
    else
      let token := rules.classify lexeme position previous
      (some token, ⟨rules, position + lexeme.length, some token, rest, consumed + 1⟩)

/-- The next token, if there is one, and the stream after it. -/
def pull (s : Stream) : Option Token × Stream := pullFrom s.rules s.previous s.position s.consumed s.lexemes

/-- What a number of pulls give, one after another: each token, or nothing at the end, and how many lexemes were taken by
then. -/
def pulls : (count : Nat) → Stream → List (Option Token × Nat)
  | 0, _ => []
  | n + 1, s =>
    let (token, next) := s.pull
    (token, next.consumed) :: pulls n next

end Stream

/-- The tokens of an expression. -/
def lexExpression (expression : Option Text) (delimiter : Delimiter) (rules : Rules) : Except LexError (List Token) := do
  return rules.tokenize (← splitExpression expression delimiter)

/-- The tokens of a list of lexemes, which has to be there. -/
def tokenizeLexemes (lexemes : Option (List Text)) (rules : Rules) : Except LexError (List Token) :=
  match lexemes with
  | none => .error .noLexemes
  | some lexemes => .ok (rules.tokenize lexemes)

end ExprLex
