import SchemaDiagram.Expression.Reading

/-! # Parameters of a lambda

Parameters stand between commas up to a colon. Those behind a slash may be named by a caller, those
behind a star must be, a starred one takes what is left, and a double starred one what is left with
names. Behind a parameter with a default those without one must be named.

* **`Parameters.all`** — the parameters of a lambda, given the reading of a default. -/

namespace SchemaDiagram.Expression.Parameters

open Reading

/-- A comma behind a parameter, or a colon that follows it. -/
def finish : Reading Unit := sign "," <|> ahead (sign ":")

variable (default : Reading Unit)

/-- A parameter without a default. -/
def plain : Reading Unit := do
  let _ ← name
  finish

/-- A parameter with a default. -/
def withDefault : Reading Unit := do
  let _ ← name
  default
  finish

/-- A parameter with or without a default. -/
def any : Reading Unit := do
  let _ ← name
  let _ ← optional default
  finish

/-- Parameters without defaults before a slash. -/
def plainSlash : Reading Unit := do
  let _ ← many1 plain
  sign "/"
  finish

/-- Parameters before a slash, some with defaults. -/
def defaultSlash : Reading Unit := do
  let _ ← many plain
  let _ ← many1 (withDefault default)
  sign "/"
  finish

/-- A mistake at a double starred parameter. -/
def doubleStarMistake : Reading Unit := complaints [
  do
    sign "**"
    let _ ← name
    sign "="
    return some (.badParameters .doubleStarDefault),
  do
    sign "**"
    let _ ← name
    sign ","
    let _ ← name
    return some (.badParameters .afterDoubleStar),
  do
    sign "**"
    let _ ← name
    sign ","
    let _ ← oneOf ["*", "**", "/"]
    return some (.badParameters .afterDoubleStar)]

/-- A double starred parameter. -/
def doubleStar : Reading Unit := whenStrict doubleStarMistake <|> do
  sign "**"
  plain

/-- A mistake at a starred parameter. -/
def starMistake : Reading Unit := complaints [
  do
    sign "*"
    sign ":" <|> do
      sign ","
      sign ":" <|> sign "**"
    return some (.badParameters .bareStar),
  do
    sign "*"
    let _ ← name
    sign "="
    return some (.badParameters .starDefault),
  do
    sign "*"
    plain <|> sign ","
    let _ ← many (any default)
    sign "*"
    plain <|> sign ","
    return some (.badParameters .starTwice)]

/-- A star with the parameters behind it. -/
def star : Reading Unit := whenStrict (starMistake default) <|> (do
  sign "*"
  plain
  let _ ← many (any default)
  let _ ← optional doubleStar) <|> (do
  sign "*"
  sign ","
  let _ ← many1 (any default)
  let _ ← optional doubleStar) <|> doubleStar

/-- A mistake among the parameters. -/
def mistake : Reading Unit := complaints [
  do
    let _ ← many plain
    let _ ← (do defaultSlash default) <|> (do let _ ← many1 (withDefault default))
    plain
    return some (.badParameters .defaultMissing),
  do
    let _ ← many plain
    sign "("
    let _ ← commaList name
    sign ")"
    return some (.badParameters .parenthesized),
  do
    sign "/"
    sign ","
    return some (.badParameters .slashFirst),
  do
    plainSlash <|> defaultSlash default
    let _ ← many (any default)
    sign "/"
    return some (.badParameters .slashTwice),
  do
    let _ ← optional (plainSlash <|> defaultSlash default)
    let _ ← many (any default)
    sign "*"
    sign "," <|> plain
    let _ ← many (any default)
    sign "/"
    return some (.badParameters .slashAfterStar),
  do
    let _ ← many1 (any default)
    sign "/"
    sign "*"
    return some (.badParameters .starAfterSlash)]

/-- The parameters of a lambda. -/
def all : Reading Unit := whenStrict (mistake default) <|> (do
  plainSlash
  let _ ← many plain
  let _ ← many (withDefault default)
  let _ ← optional (star default)) <|> (do
  defaultSlash default
  let _ ← many (withDefault default)
  let _ ← optional (star default)) <|> (do
  let _ ← many1 plain
  let _ ← many (withDefault default)
  let _ ← optional (star default)) <|> (do
  let _ ← many1 (withDefault default)
  let _ ← optional (star default)) <|> star default

end SchemaDiagram.Expression.Parameters
