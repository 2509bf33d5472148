import ScriptLint.Literal.Complaint

/-!
# The grammar of literals

A literal is an expression, of which only values and collections can be evaluated in
the end.  The grammar is a table of phrases: patterns are tried from left to right, and
the first that fits is taken.  Patterns that are strict are only tried after all
others have failed; they look for slips.

A literal can only be read up to a certain depth, so the grammar says how many levels
deeper a pattern is than the one that it stands in.
-/

namespace ScriptLint.Literal

/-- The phrases of the grammar. -/
inductive Phrase where
  | literal
  /-- A value in a text. -/
  | value
  | expressions
  | expression
  | plainExpression
  | yielding
  | starExpressions
  | starExpression
  | starNamedExpressions
  | starNamedExpression
  | assignment
  | namedExpression
  | argument
  | disjunction
  | conjunction
  | inversion
  | comparison
  | bitOr
  | bitXor
  | bitAnd
  | shift
  | sum
  | term
  | factor
  | power
  | awaitPrimary
  | primary
  | suffix
  | atom
  | group
  | tuple
  | set
  | table
  | entries
  | entry
  | pair
  | texts
  | clauses
  | clause
  | setBuilder
  | generator
  | tableBuilder
  | arguments
  | argumentList
  | keywordList
  | starred
  | keywordOrStarred
  | keywordOrSpread
  | targets
  | targetList
  | target
  | starTarget
  | targetAtom
  | targetPrimary
  | function
  | parameters
  | parameterList
  | slashPlain
  | slashDefault
  | starParameters
  | doubleStarParameter
  | plainParameter
  | defaultParameter
  | anyParameter
  | badExpression
  | badLegacyCall
  | badNamedExpression
  | badArguments
  | badKeyword
  | badGroup
  | badGenerator
  | badTableBuilder
  | badEntries
  | badPair
  | badTarget
  | badParameters
  | badStarParameters
  | badDoubleStarParameter
deriving DecidableEq, Hashable, Repr

/-- What a phrase may look like. -/
inductive Pattern where
  | phrase (phrase : Phrase)
  /-- A sign or word that is left out of the result. -/
  | sign (text : String)
  /-- A sign or word that is kept in the result. -/
  | kept (text : String)
  | name
  | number
  | text
  /-- A name that other contexts give a meaning of its own. -/
  | softName
  | newline
  | stop
  | sequence (patterns : List Pattern)
  | choice (patterns : List Pattern)
  | optional (pattern : Pattern)
  /-- Any number of times. -/
  | repeated (pattern : Pattern)
  /-- What has to come next but is not taken. -/
  | ahead (pattern : Pattern)
  /-- What must not come next. -/
  | notAhead (pattern : Pattern)
  | formed (form : Form) (pattern : Pattern)
  /-- One pattern, which makes a form if another one follows at least once. -/
  | chained (form : Form) (first more : Pattern)
  /-- After this nothing else is tried. -/
  | commit
  | complaint (complaint : Complaint)
  /-- Only tried when slips are looked for. -/
  | strict (pattern : Pattern)
  /-- Tried without looking for slips. -/
  | lenient (pattern : Pattern)
  /-- One level deeper. -/
  | deeper (pattern : Pattern)

namespace Pattern

def all (patterns : List Pattern) : Pattern :=
  sequence patterns

/-- A choice that is a level of its own. -/
def either (patterns : List Pattern) : Pattern :=
  deeper (choice patterns)

/-- One pattern after the other, as a level of their own. -/
def joined (patterns : List Pattern) : Pattern :=
  deeper (sequence patterns)

/-- Any number of times, as a level of its own. -/
def many (pattern : Pattern) : Pattern :=
  deeper (repeated pattern)

/-- At least once, as a level of its own. -/
def some1 (pattern : Pattern) : Pattern :=
  deeper (sequence [pattern, repeated pattern])

/-- Several, with commas between them.  All but the first are a level deeper. -/
def listed (pattern : Pattern) : Pattern :=
  deeper (sequence [pattern, many (sequence [sign ",", pattern])])

def signs (texts : List String) : Pattern :=
  either (texts.map sign)

def operation (operand : Phrase) (texts : List String) : Pattern :=
  chained .operation (phrase operand)
    (choice (texts.map fun text => sequence [sign text, phrase operand]))

def slip (patterns : List Pattern) (held : Complaint) : Pattern :=
  sequence (patterns ++ [complaint held])

end Pattern

open Pattern

namespace Phrase

/-- Signs that compare, with the operand after them. -/
def comparisons : Pattern :=
  deeper <| deeper <| either [
    all [sign "==", phrase .bitOr], all [sign "!=", phrase .bitOr],
    all [sign "<=", phrase .bitOr], all [sign "<", phrase .bitOr],
    all [sign ">=", phrase .bitOr], all [sign ">", phrase .bitOr],
    all [kept "not", sign "in", phrase .bitOr], all [kept "in", phrase .bitOr],
    all [sign "is", sign "not", phrase .bitOr], all [sign "is", phrase .bitOr]]

/-- A pattern for an expression that no assignment follows. -/
def unassigned : Pattern :=
  all [phrase .expression, notAhead (sign ":=")]

/-- What an argument without a keyword looks like. -/
def positional : Pattern :=
  either [phrase .starred, all [phrase .argument, notAhead (sign "=")]]

/-- The clauses of a builder after its target. -/
def clauseBody : Pattern :=
  all [phrase .targets, sign "in", commit, phrase .disjunction,
    many (joined [sign "if", phrase .disjunction])]

/-- What follows a target that goes on. -/
def goesOn : Pattern :=
  signs ["(", "[", "."]

/-- A parameter that ends the list or is followed by a comma. -/
def parameterEnd (pattern : Pattern) : Pattern :=
  choice [all [pattern, sign ","], all [pattern, ahead (sign ":")]]

def defaultValue : Pattern :=
  either [
    all [sign "=", phrase .expression],
    strict (deeper (slip [sign "=", ahead (signs [")", ","])] .missingDefault))]

def beforeSlash : Pattern :=
  either [phrase .slashPlain, phrase .slashDefault]

def pattern : Phrase → Pattern
  | literal => all [phrase .expressions, many newline, stop]
  | value => phrase .starExpressions
  | expressions =>
      choice [
        formed .tuple (all [phrase .expression,
          some1 (joined [sign ",", phrase .expression]), optional (sign ",")]),
        formed .tuple (all [phrase .expression, sign ","]),
        phrase .expression]
  | expression =>
      choice [
        strict (phrase .badExpression), strict (phrase .badLegacyCall),
        formed .conditional (all [phrase .disjunction, sign "if", phrase .disjunction,
          sign "else", phrase .expression]),
        phrase .disjunction, phrase .function]
  | plainExpression =>
      lenient (choice [
        formed .conditional (all [phrase .disjunction, sign "if", phrase .disjunction,
          sign "else", phrase .expression]),
        phrase .disjunction, phrase .function])
  | yielding =>
      choice [
        formed .yielded (all [sign "yield", sign "from", phrase .expression]),
        formed .yielded (all [sign "yield", optional (phrase .starExpressions)])]
  | starExpressions =>
      choice [
        formed .tuple (all [phrase .starExpression,
          some1 (joined [sign ",", phrase .starExpression]), optional (sign ",")]),
        formed .tuple (all [phrase .starExpression, sign ","]),
        phrase .starExpression]
  | starExpression =>
      choice [formed .starred (all [sign "*", phrase .bitOr]), phrase .expression]
  | starNamedExpressions =>
      all [listed (phrase .starNamedExpression), optional (sign ",")]
  | starNamedExpression =>
      choice [formed .starred (all [sign "*", phrase .bitOr]), phrase .namedExpression]
  | assignment => formed .named (all [name, sign ":=", commit, phrase .expression])
  | namedExpression =>
      choice [phrase .assignment, strict (phrase .badNamedExpression), unassigned]
  | argument => choice [phrase .assignment, unassigned]
  | disjunction =>
      chained .boolean (phrase .conjunction)
        (deeper (joined [sign "or", phrase .conjunction]))
  | conjunction =>
      chained .boolean (phrase .inversion) (deeper (joined [sign "and", phrase .inversion]))
  | inversion =>
      choice [formed .operation (all [sign "not", phrase .inversion]), phrase .comparison]
  | comparison => chained .comparison (phrase .bitOr) comparisons
  | bitOr => operation .bitXor ["|"]
  | bitXor => operation .bitAnd ["^"]
  | bitAnd => operation .shift ["&"]
  | shift => operation .sum ["<<", ">>"]
  | sum =>
      chained .sum (phrase .term)
        (choice [all [kept "+", phrase .term], all [kept "-", phrase .term]])
  | term => operation .factor ["*", "/", "//", "%", "@"]
  | factor =>
      choice [
        formed .signed (all [kept "+", phrase .factor]),
        formed .signed (all [kept "-", phrase .factor]),
        formed .operation (all [sign "~", phrase .factor]),
        phrase .power]
  | power =>
      choice [
        formed .operation (all [phrase .awaitPrimary, sign "**", phrase .factor]),
        phrase .awaitPrimary]
  | awaitPrimary =>
      choice [formed .awaited (all [sign "await", phrase .primary]), phrase .primary]
  | primary => chained .primary (phrase .atom) (phrase .suffix)
  | suffix =>
      choice [
        formed .member (all [sign ".", name]), formed .call (phrase .generator),
        formed .call (all [sign "(", optional (phrase .arguments), sign ")"])]
  | atom =>
      choice [
        name, kept "True", kept "False", kept "None",
        all [ahead text, phrase .texts], number,
        all [ahead (sign "("), either [phrase .tuple, phrase .group, phrase .generator]],
        all [ahead (sign "\x7b"),
          either [phrase .table, phrase .set, phrase .tableBuilder, phrase .setBuilder]],
        kept "..."]
  | group =>
      choice [
        all [sign "(", either [phrase .yielding, phrase .namedExpression], sign ")"],
        strict (phrase .badGroup)]
  | tuple =>
      formed .tuple (all [sign "(",
        optional (joined [phrase .starNamedExpression, sign ",",
          optional (phrase .starNamedExpressions)]),
        sign ")"])
  | set => formed .set (all [sign "\x7b", phrase .starNamedExpressions, sign "\x7d"])
  | table =>
      choice [
        formed .table (all [sign "\x7b", optional (phrase .entries), sign "\x7d"]),
        all [sign "\x7b", phrase .badEntries, sign "\x7d"]]
  | entries => all [listed (phrase .entry), optional (sign ",")]
  | entry =>
      choice [formed .spread (all [sign "**", phrase .bitOr]), phrase .pair]
  | pair => formed .pair (all [phrase .expression, sign ":", phrase .expression])
  | texts => formed .texts (some1 text)
  | clauses => some1 (phrase .clause)
  | clause =>
      choice [
        all [sign "async", sign "for", clauseBody], all [sign "for", clauseBody],
        strict (phrase .badTarget)]
  | setBuilder =>
      choice [
        formed .setBuilder (all [sign "\x7b", phrase .namedExpression, phrase .clauses,
          sign "\x7d"]),
        strict (phrase .badGenerator)]
  | generator =>
      choice [
        formed .generator (all [sign "(", phrase .argument, phrase .clauses, sign ")"]),
        strict (phrase .badGenerator)]
  | tableBuilder =>
      choice [
        formed .tableBuilder (all [sign "\x7b", phrase .pair, phrase .clauses,
          sign "\x7d"]),
        strict (phrase .badTableBuilder)]
  | arguments =>
      choice [
        all [phrase .argumentList, optional (sign ","), ahead (sign ")")],
        strict (phrase .badArguments)]
  | argumentList =>
      formed .arguments (choice [
        all [listed positional, optional (joined [sign ",", phrase .keywordList])],
        phrase .keywordList])
  | keywordList =>
      choice [
        all [listed (phrase .keywordOrStarred), sign ",",
          listed (phrase .keywordOrSpread)],
        listed (phrase .keywordOrStarred), listed (phrase .keywordOrSpread)]
  | starred => formed .starred (all [sign "*", phrase .expression])
  | keywordOrStarred =>
      choice [
        strict (phrase .badKeyword),
        formed .keyword (all [name, sign "=", phrase .expression]), phrase .starred]
  | keywordOrSpread =>
      choice [
        strict (phrase .badKeyword),
        formed .keyword (all [name, sign "=", phrase .expression]),
        formed .spread (all [sign "**", phrase .expression])]
  | targets =>
      choice [
        all [phrase .starTarget, notAhead (sign ",")],
        all [phrase .starTarget, many (joined [sign ",", phrase .starTarget]),
          optional (sign ",")]]
  | targetList =>
      choice [
        all [phrase .starTarget, some1 (joined [sign ",", phrase .starTarget]),
          optional (sign ",")],
        all [phrase .starTarget, sign ","]]
  | starTarget =>
      choice [
        all [sign "*", joined [notAhead (sign "*"), phrase .starTarget]], phrase .target]
  | target =>
      choice [
        all [phrase .targetPrimary, sign ".", name, notAhead goesOn],
        phrase .targetAtom]
  | targetAtom =>
      choice [
        name, all [sign "(", phrase .target, sign ")"],
        all [sign "(", optional (phrase .targetList), sign ")"]]
  | targetPrimary =>
      all [phrase .atom, ahead goesOn,
        repeated (all [phrase .suffix, ahead goesOn])]
  | function =>
      formed .function (all [sign "lambda", optional (phrase .parameters), sign ":",
        phrase .expression])
  | parameters => choice [strict (phrase .badParameters), phrase .parameterList]
  | parameterList =>
      choice [
        all [phrase .slashPlain, many (phrase .plainParameter),
          many (phrase .defaultParameter), optional (phrase .starParameters)],
        all [phrase .slashDefault, many (phrase .defaultParameter),
          optional (phrase .starParameters)],
        all [some1 (phrase .plainParameter), many (phrase .defaultParameter),
          optional (phrase .starParameters)],
        all [some1 (phrase .defaultParameter), optional (phrase .starParameters)],
        phrase .starParameters]
  | slashPlain =>
      choice [
        all [some1 (phrase .plainParameter), sign "/", sign ","],
        all [some1 (phrase .plainParameter), sign "/", ahead (sign ":")]]
  | slashDefault =>
      choice [
        all [many (phrase .plainParameter), some1 (phrase .defaultParameter),
          sign "/", sign ","],
        all [many (phrase .plainParameter), some1 (phrase .defaultParameter),
          sign "/", ahead (sign ":")]]
  | starParameters =>
      choice [
        strict (phrase .badStarParameters),
        all [sign "*", phrase .plainParameter, many (phrase .anyParameter),
          optional (phrase .doubleStarParameter)],
        all [sign "*", sign ",", some1 (phrase .anyParameter),
          optional (phrase .doubleStarParameter)],
        phrase .doubleStarParameter]
  | doubleStarParameter =>
      choice [
        strict (phrase .badDoubleStarParameter),
        all [sign "**", phrase .plainParameter]]
  | plainParameter => parameterEnd name
  | defaultParameter => parameterEnd (all [name, defaultValue])
  | anyParameter => parameterEnd (all [name, optional defaultValue])
  | badExpression =>
      choice [
        slip [notAhead (either [all [name, text], softName]), phrase .disjunction,
          phrase .plainExpression] .forgottenComma,
        slip [phrase .disjunction, sign "if", phrase .disjunction,
          notAhead (signs ["else", ":"])] .missingElse]
  | badLegacyCall =>
      slip [name, notAhead (sign "("), phrase .starExpressions] .missingParentheses
  | badNamedExpression =>
      choice [
        slip [phrase .expression, sign ":=", phrase .expression] .assignmentExpression,
        slip [name, sign "=", phrase .bitOr, notAhead (signs ["=", ":="])] .singleEquals,
        slip [notAhead (either [phrase .tuple, phrase .generator, sign "True", sign "None",
            sign "False"]),
          phrase .bitOr, sign "=", phrase .bitOr, notAhead (signs ["=", ":="])]
          .assignmentHere]
  | badArguments =>
      choice [
        slip [phrase .argumentList, sign ",", sign "*"] .starAfterKeyword,
        slip [phrase .expression, phrase .clauses, sign ",",
          optional (either [phrase .argumentList,
            all [phrase .expression, phrase .clauses]])] .bareGenerator,
        slip [name, sign "=", phrase .expression, phrase .clauses] .singleEquals,
        slip [phrase .argumentList, phrase .clauses] .bareGeneratorAfter,
        slip [phrase .argumentList, sign ",", phrase .expression, phrase .clauses]
          .bareGenerator,
        slip [phrase .argumentList, sign ",", phrase .argumentList]
          .positionalAfterKeyword]
  | badKeyword =>
      choice [
        slip [either [kept "True", kept "False", kept "None"], sign "="]
          .keywordAssignment,
        slip [name, sign "=", phrase .expression, phrase .clauses] .singleEquals,
        slip [notAhead (joined [name, sign "="]), phrase .expression, sign "="]
          .assignmentInCall]
  | badGroup =>
      choice [
        slip [sign "(", phrase .starred, sign ")"] .starHere,
        slip [sign "(", sign "**", phrase .expression, sign ")"] .doubleStarHere]
  | badGenerator =>
      choice [
        slip [signs ["[", "(", "\x7b"], phrase .starred, phrase .clauses] .starInBuilder,
        slip [signs ["[", "\x7b"], phrase .starNamedExpression, sign ",",
          phrase .starNamedExpressions, phrase .clauses] .bareBuilderTarget,
        slip [signs ["[", "\x7b"], phrase .starNamedExpression, sign ",",
          phrase .clauses] .bareBuilderTarget]
  | badTableBuilder =>
      slip [sign "\x7b", sign "**", phrase .bitOr, phrase .clauses, sign "\x7d"]
        .spreadInBuilder
  | badEntries =>
      choice [
        all [listed (phrase .entry), sign ",", phrase .badPair],
        slip [phrase .expression, sign ":", sign "*", phrase .bitOr] .starredEntry,
        slip [phrase .expression, sign ":", ahead (signs ["\x7d", ","])] .missingEntry]
  | badPair =>
      choice [
        slip [phrase .expression, notAhead (sign ":")] .missingColon,
        slip [phrase .expression, sign ":", sign "*", phrase .bitOr] .starredEntry,
        slip [phrase .expression, sign ":", ahead (signs ["\x7d", ","])] .missingEntry]
  | badTarget =>
      slip [optional (sign "async"), sign "for", phrase .starExpressions] .badTarget
  | badParameters =>
      choice [
        slip [many (phrase .plainParameter),
          either [phrase .slashDefault, some1 (phrase .defaultParameter)],
          phrase .plainParameter] .defaultOrder,
        slip [many (phrase .plainParameter), sign "(", listed name,
          optional (sign ","), sign ")"] .parameterParentheses,
        slip [sign "/", sign ","] .slashFirst,
        slip [beforeSlash, many (phrase .anyParameter), sign "/"] .slashTwice,
        slip [optional beforeSlash, many (phrase .anyParameter), sign "*",
          either [sign ",", phrase .plainParameter], many (phrase .anyParameter),
          sign "/"] .slashAfterStar,
        slip [some1 (phrase .anyParameter), sign "/", sign "*"] .slashBeforeStar]
  | badStarParameters =>
      choice [
        slip [sign "*", either [sign ":", all [sign ",", signs [":", "**"]]]] .bareStar,
        slip [sign "*", name, sign "="] .starDefault,
        slip [sign "*", either [phrase .plainParameter, sign ","],
          many (phrase .anyParameter), sign "*",
          either [phrase .plainParameter, sign ","]] .starTwice]
  | badDoubleStarParameter =>
      choice [
        slip [sign "**", name, sign "="] .doubleStarDefault,
        slip [sign "**", name, sign ",", name] .afterDoubleStar,
        slip [sign "**", name, sign ",", signs ["*", "**", "/"]] .afterDoubleStar]

/-- Whether what was found of a phrase at a place is remembered.  What was found
without looking for slips is then also taken when they are looked for. -/
def isRemembered (phrase : Phrase) : Bool :=
  [expression, starExpression, disjunction, conjunction, inversion, bitOr, bitXor, bitAnd,
    shift, sum, term, factor, awaitPrimary, primary, texts, arguments, starTarget, target,
    targetPrimary, badNamedExpression].contains phrase

/-- The number of levels that a phrase takes.  Where operands of a phrase are joined
from the left, the phrase stands in itself. -/
def levels (phrase : Phrase) : Nat :=
  if phrase = suffix then 0
  else if [bitOr, bitXor, bitAnd, shift, sum, term, primary, targetPrimary].contains phrase then 2
  else 1

end Phrase

end ScriptLint.Literal
